import CrowdSound.Playing.ScreenRuns

/-!
# Row accesses

The rows of a table are counted at a reload and used later. An access is within bounds when the
fetches that have arrived by then still give the row an item. A cell of the bar looks at the
count of its array first and is safe; a swipe on the bar does not.
-/

namespace CrowdSound

namespace PlayingState

private theorem accessoryItem_ok {s : PlayingState} {table : PlayingTable} {indexPath : NSIndexPath}
    (hs : RowsCounted s) (hcounted : s.counted table indexPath = true)
    (h : ∃ item, s.labelItem indexPath table = .ok item) :
    ∃ item, s.accessoryItem indexPath table = .ok item := by
  obtain ⟨item, hlabel⟩ := h
  cases table with
  | queue =>
      by_cases hsongs : s.queue.songsForTableView.length = 0
      · exact ⟨none, by simp [accessoryItem, hsongs]⟩
      · rcases counted_queue hs hcounted with hsection | hsection
        · refine ⟨item, ?_⟩
          simpa [accessoryItem, labelItem, hsongs, hsection] using hlabel
        · refine ⟨item, ?_⟩
          simpa [accessoryItem, labelItem, hsongs, hsection] using hlabel
  | bar =>
      have hrow := counted_bar hs hcounted
      refine ⟨item, ?_⟩
      by_cases hsongs : s.bar.songsForTableView.length = 0
      · simpa [accessoryItem, labelItem, hsongs] using hlabel
      · simpa [accessoryItem, labelItem, hsongs, hrow] using hlabel

end PlayingState

namespace Screen

/-- The accesses that handling the event makes to the arrays of items are within bounds. -/
def InRange (s : Screen) : ScreenEvent → Prop
  | .background _ => True
  | .cellForRow table indexPath _ =>
    (∃ item, s.playing.accessoryItem indexPath table = .ok item) ∧
      ∃ item, s.playing.labelItem indexPath table = .ok item
  | .willTrigger _ => True
  | .didTrigger gesture =>
    ∃ item, s.playing.swipedItem gesture.table gesture.indexPath = .ok item

/-- The data has an item for the row that the event is about, where it needs one. -/
def RowFetched (data : TableData) : ScreenEvent → Prop
  | .background _ => True
  | .cellForRow .queue indexPath _ =>
    indexPath.row < (data.queueSection indexPath.inSection).length
  | .cellForRow .bar _ _ => True
  | .willTrigger _ => True
  | .didTrigger ⟨.queue, indexPath, _⟩ =>
    indexPath.row < (data.queueSection indexPath.inSection).length
  | .didTrigger ⟨.bar, _, _⟩ => data.nowPlaying ≠ []

private theorem swipedItem_inRange (s : Screen) (gesture : SlideGesture) :
    s.InRange (.didTrigger gesture) ↔ RowFetched s.playing.tableData (.didTrigger gesture) := by
  obtain ⟨table, indexPath, action⟩ := gesture
  simp only [InRange, PlayingState.swipedItem_ok]
  cases table with
  | queue => simp [RowFetched, TableData.item?, ← Option.isSome_iff_exists]
  | bar =>
      simp only [RowFetched, TableData.item?]
      cases s.playing.tableData.nowPlaying <;> simp

private theorem cellForRow_inRange {s : Screen} {table : PlayingTable} {indexPath : NSIndexPath}
    (dequeued : UITableViewCell) (hs : s.playing.RowsCounted)
    (hcounted : s.playing.counted table indexPath = true) :
    s.InRange (.cellForRow table indexPath dequeued) ↔
      RowFetched s.playing.tableData (.cellForRow table indexPath dequeued) := by
  have hlabel : s.InRange (.cellForRow table indexPath dequeued) ↔
      ∃ item, s.playing.labelItem indexPath table = .ok item :=
    ⟨And.right, fun h => ⟨PlayingState.accessoryItem_ok hs hcounted h, h⟩⟩
  rw [hlabel]
  simp only [PlayingState.labelItem_ok hs hcounted]
  cases table with
  | queue => simp [RowFetched, TableData.item?]
  | bar => simp [RowFetched]

/-- In every run, an access is within bounds exactly when the fetches that have arrived give the
row an item. -/
theorem rowAccess_inRange_iff (events : List ScreenEvent) (event : ScreenEvent) (s : Screen)
    (hrun : EventRun.run step init events = .ok s)
    (henabled : s.step event ≠ .error .notEnabled) :
    s.InRange event ↔ RowFetched (fetchedData events) event := by
  rw [← run_fetchedData hrun]
  cases event with
  | background event => exact Iff.rfl
  | cellForRow table indexPath dequeued =>
      have hcounted : s.playing.counted table indexPath = true := by
        by_contra hcounted
        exact henabled (by simp [step, hcounted])
      exact cellForRow_inRange dequeued (PlayingState.run_rowsCounted (run_playing hrun)) hcounted
  | willTrigger gesture => exact Iff.rfl
  | didTrigger gesture => exact swipedItem_inRange s gesture

theorem rowAccess_inRange_iff_freshQueue :
    ∃ s, EventRun.run step init [.background .updateQueueData, .background
        (.getSongQueueCompleted 0 (.result [⟨⟨nsstring ['a'], some [nsstring ['b']], none⟩,
          false, true⟩])), .background .mainQueueBlock] = .ok s ∧
      (s.InRange (.cellForRow .queue ⟨0, 0⟩ .fresh) ↔
        RowFetched (fetchedData [.background .updateQueueData, .background
          (.getSongQueueCompleted 0 (.result [⟨⟨nsstring ['a'], some [nsstring ['b']], none⟩,
            false, true⟩])), .background .mainQueueBlock]) (.cellForRow .queue ⟨0, 0⟩ .fresh)) := by
  refine ⟨_, rfl, ?_⟩
  exact rowAccess_inRange_iff _ _ _ rfl nofun

/-- The bar shows one row before any song was fetched. A swipe on it raises. -/
theorem swipe_emptyBar :
    ∃ s, EventRun.run step init [.cellForRow .bar ⟨0, 0⟩ .fresh,
        .willTrigger ⟨.bar, ⟨0, 0⟩, configureUpvoteAction⟩] = .ok s ∧
      ¬ s.InRange (.didTrigger ⟨.bar, ⟨0, 0⟩, configureUpvoteAction⟩) ∧
      s.step (.didTrigger ⟨.bar, ⟨0, 0⟩, configureUpvoteAction⟩) =
        .error (.raised .rangeException) := by
  refine ⟨_, rfl, ?_, rfl⟩
  rintro ⟨item, hitem⟩
  exact nomatch hitem

theorem swipe_raises {s : Screen} {gesture : SlideGesture} (hs : s.GesturesConfigured)
    (hcounted : s.playing.counted gesture.table gesture.indexPath = true)
    (hgesture : gesture ∈ s.gestures) (h : ¬ s.InRange (.didTrigger gesture)) :
    s.step (.didTrigger gesture) = .error (.raised .rangeException) := by
  have haction := hs gesture hgesture
  obtain ⟨table, indexPath, action⟩ := gesture
  have hitem : s.playing.swipedItem table indexPath = .error .rangeException := by
    cases hitem : s.playing.swipedItem table indexPath with
    | ok item => exact absurd ⟨item, hitem⟩ h
    | error exception =>
        congr 1
        cases table with
        | queue =>
            simp only [PlayingState.swipedItem] at hitem
            split at hitem <;> exact objectAtIndex_error hitem
        | bar => exact objectAtIndex_error hitem
  have hvote : ∀ value, PlayingState.voteCallback table value s.playing indexPath =
      .error .rangeException := by
    intro value
    simp [PlayingState.voteCallback, PlayingState.swipedVote, hitem, bind, Except.bind]
  have hplaying : s.playing.step (action.didTriggerBlock.event table indexPath) =
      .error (.raised .rangeException) := by
    rcases PlayingTable.mem_slideActions.mp haction with rfl | rfl | ⟨rfl, rfl⟩
    · exact congrArg (Except.mapError Stuck.raised)
        ((s.playing.upVoteCallback_eq table indexPath).trans (hvote true))
    · exact congrArg (Except.mapError Stuck.raised)
        ((s.playing.downVoteCallback_eq table indexPath).trans (hvote false))
    · have hskip : s.playing.skipCallback = .error .rangeException := by
        have hfirst : objectAtIndex s.playing.bar.songsForTableView 0 =
            .error .rangeException := hitem
        simp [PlayingState.skipCallback, hfirst, bind, Except.bind]
      exact congrArg (Except.mapError Stuck.raised) hskip
  simp [step, hcounted, hgesture, hplaying, bind, Except.bind]

theorem cellForRow_raises {s : Screen} {table : PlayingTable} {indexPath : NSIndexPath}
    {dequeued : UITableViewCell} (hs : s.playing.RowsCounted)
    (hcounted : s.playing.counted table indexPath = true)
    (hdequeued : dequeued = .fresh ∨ dequeued ∈ s.returned table)
    (h : ¬ s.InRange (.cellForRow table indexPath dequeued)) :
    s.step (.cellForRow table indexPath dequeued) = .error (.raised .rangeException) := by
  have hlabel : ∀ item, s.playing.labelItem indexPath table ≠ .ok item := by
    intro item hitem
    exact h ⟨PlayingState.accessoryItem_ok hs hcounted ⟨item, hitem⟩, item, hitem⟩
  have hcell : s.playing.cellForRowAtIndexPath table indexPath dequeued =
      .error .rangeException := by
    cases table with
    | bar =>
        -- the bar's labels need no item
        have hok := (PlayingState.labelItem_ok hs hcounted _).mpr ⟨rfl, nofun⟩
        exact absurd hok (hlabel _)
    | queue =>
        obtain ⟨array, harray, hlabelled⟩ : ∃ array : List NowPlayingSongItem,
            s.playing.labelItem indexPath .queue =
              (objectAtIndex array indexPath.row).map some ∧
            (s.playing.accessoryItem indexPath .queue = .ok none ∨
              s.playing.accessoryItem indexPath .queue =
                (objectAtIndex array indexPath.row).map some) := by
          rcases PlayingState.counted_queue hs hcounted with hsection | hsection
          · refine ⟨s.playing.queue.bufferedSongsArray, ?_, ?_⟩
            · simp [PlayingState.labelItem, hsection]
            · simp only [PlayingState.accessoryItem, hsection, if_true]
              split <;> simp
          · refine ⟨s.playing.queue.songsForTableView, ?_, ?_⟩
            · simp [PlayingState.labelItem, hsection]
            · simp only [PlayingState.accessoryItem, hsection, Nat.one_ne_zero, if_false]
              split <;> simp
        have hobject : objectAtIndex array indexPath.row = .error .rangeException := by
          cases hobject : objectAtIndex array indexPath.row with
          | ok object =>
              rw [hobject] at harray
              exact absurd harray (hlabel _)
          | error exception => rw [objectAtIndex_error hobject]
        rw [hobject] at harray hlabelled
        rcases hlabelled with haccessory | haccessory
        · simp [PlayingState.cellForRowAtIndexPath,
            NowPlayingTableViewController.cellForRowAtIndexPath,
            PlayingState.setAccessoryViewOfCell, haccessory, harray, bind, Except.bind, Except.map,
            pure, Except.pure]
        · simp [PlayingState.cellForRowAtIndexPath,
            NowPlayingTableViewController.cellForRowAtIndexPath,
            PlayingState.setAccessoryViewOfCell, haccessory, bind, Except.bind, Except.map]
  simp [step, hcounted, hdequeued, hcell, bind, Except.bind, Except.mapError]

end Screen

end CrowdSound

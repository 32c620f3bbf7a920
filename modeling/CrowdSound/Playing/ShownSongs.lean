import CrowdSound.Playing.ScreenRuns

/-!
# The songs that rows show

A cell shows the item its row had when the cell was asked for. A swipe takes the item the row has
when the gesture ends. The two are the same song exactly when the fetches that arrived in between
leave the row its song.
-/

namespace CrowdSound

open RequestTable

namespace ScreenEvent

def draws (table : PlayingTable) (indexPath : NSIndexPath) : ScreenEvent → Bool
  | cellForRow table' indexPath' _ => decide (table' = table ∧ indexPath' = indexPath)
  | _ => false

end ScreenEvent

namespace NowPlayingSongItem

/-- The name and artist that a vote on the item carries; without an artist there is no vote. -/
def nameAndArtist? (item : NowPlayingSongItem) : Option (NSString × NSString) :=
  item.song.firstArtist.toOption.map fun artist => (item.song.name, artist)

end NowPlayingSongItem

namespace UITableViewCell

/-- The labels are those of the item, or empty without one. -/
def Shows (cell : UITableViewCell) (item : Option NowPlayingSongItem) : Prop :=
  cell.textLabel = item.map (fun item => item.song.name) ∧
    cell.detailTextLabel = item.bind fun item => item.song.firstArtist.toOption

private theorem Shows.nameAndArtist {cell : UITableViewCell} {item : Option NowPlayingSongItem}
    (h : cell.Shows item) (name artist : NSString) :
    cell.textLabel = some name ∧ cell.detailTextLabel = some artist ↔
      item.bind NowPlayingSongItem.nameAndArtist? = some (name, artist) := by
  rw [h.1, h.2]
  cases item with
  | none => simp
  | some item => simp [NowPlayingSongItem.nameAndArtist?, and_comm]

private theorem setLabels_ok {cell cell' : UITableViewCell} {item : NowPlayingSongItem}
    (h : cell.setLabels item = .ok cell') : cell'.Shows (some item) := by
  obtain ⟨artist, hartist, hcell'⟩ := bind_eq_ok.mp h
  cases hcell'
  refine ⟨rfl, ?_⟩
  cases hartists : item.song.artists with
  | none =>
      rw [hartists] at hartist
      cases hartist
      simp [Song.firstArtist, hartists, Except.toOption]
  | some artists =>
      rw [hartists, Option.mapM_some] at hartist
      obtain ⟨first, hfirst, hsome⟩ := map_eq_ok.mp hartist
      simp [Song.firstArtist, hartists, hfirst, hsome, Except.toOption]

end UITableViewCell

namespace PlayingState

private theorem setAccessoryViewOfCell_labels {s : PlayingState} {table : PlayingTable}
    {cell cell' : UITableViewCell} {indexPath : NSIndexPath}
    (h : s.setAccessoryViewOfCell table cell indexPath = .ok cell') :
    cell'.textLabel = cell.textLabel ∧ cell'.detailTextLabel = cell.detailTextLabel := by
  obtain ⟨item, _, hitem⟩ := bind_eq_ok.mp h
  cases item with
  | none =>
      cases hitem
      exact ⟨rfl, rfl⟩
  | some item =>
      obtain ⟨artist, _, hcell'⟩ := bind_eq_ok.mp hitem
      cases hcell'
      exact ⟨rfl, rfl⟩

/-- A cell shows the item of its row. Without an item the bar leaves the labels as they were. -/
theorem cellForRow_shows {s : PlayingState} {table : PlayingTable} {indexPath : NSIndexPath}
    {dequeued cell : UITableViewCell} (hs : RowsCounted s)
    (hcounted : s.counted table indexPath = true)
    (hblank : table = .bar → s.tableData.nowPlaying = [] → dequeued.Shows none)
    (h : s.cellForRowAtIndexPath table indexPath dequeued = .ok cell) :
    cell.Shows (s.tableData.item? indexPath table) := by
  cases table with
  | queue =>
      obtain ⟨cell₁, _, hlabels⟩ := bind_eq_ok.mp h
      obtain ⟨item, hitem, hcell⟩ := bind_eq_ok.mp hlabels
      rw [((labelItem_ok hs hcounted item).mp hitem).1]
      cases item with
      | none =>
          cases hcell
          exact ⟨rfl, rfl⟩
      | some item => exact UITableViewCell.setLabels_ok hcell
  | bar =>
      obtain ⟨item, hitem, hlabels⟩ := bind_eq_ok.mp h
      have hitem' := ((labelItem_ok hs hcounted item).mp hitem).1
      obtain ⟨cell₁, hshows, hcell⟩ : ∃ cell₁ : UITableViewCell, cell₁.Shows item ∧
          s.setAccessoryViewOfCell .bar cell₁ indexPath = .ok cell := by
        cases item with
        | none =>
            obtain ⟨cell₁, hcell₁, hcell⟩ := bind_eq_ok.mp hlabels
            cases hcell₁
            have hnone : s.tableData.nowPlaying = [] := by
              simpa [TableData.item?] using hitem'
            have hshows : (dequeued.addGestureRecognizer PlayingTable.bar.slideActions).Shows none :=
              hblank rfl hnone
            exact ⟨_, hshows, hcell⟩
        | some item =>
            obtain ⟨cell₁, hcell₁, hcell⟩ := bind_eq_ok.mp hlabels
            exact ⟨cell₁, UITableViewCell.setLabels_ok hcell₁, hcell⟩
      obtain ⟨htext, hdetail⟩ := setAccessoryViewOfCell_labels hcell
      rw [hitem']
      exact ⟨htext.trans hshows.1, hdetail.trans hshows.2⟩

private theorem step_nowPlaying_ne_nil {s s' : PlayingState} {event : PlayingEvent}
    (hs : s.tableData.nowPlaying ≠ []) (h : s.step event = .ok s') :
    s'.tableData.nowPlaying ≠ [] := by
  rw [step_tableData h]
  cases event.fetch? with
  | none => exact hs
  | some fetch =>
      cases fetch with
      | queue call items => exact hs
      | nowPlaying call item => simp [TableData.fetched]

private theorem swipedVote_ok {s : PlayingState} {table : PlayingTable} {value : Bool}
    {indexPath : NSIndexPath} {vote : SongVote}
    (h : s.swipedVote table value indexPath = .ok vote) :
    (s.tableData.item? indexPath table).bind NowPlayingSongItem.nameAndArtist? =
      some (vote.songName, vote.artist) := by
  obtain ⟨item, hitem, hrest⟩ := bind_eq_ok.mp h
  obtain ⟨artist, hartist, hvote⟩ := bind_eq_ok.mp hrest
  cases hvote
  rw [(swipedItem_ok s table indexPath item).mp hitem]
  simp [NowPlayingSongItem.nameAndArtist?, hartist, Except.toOption]

end PlayingState

namespace Screen

/-- The events before the one that drew the row last. -/
def drawnBefore (table : PlayingTable) (indexPath : NSIndexPath) (events : List ScreenEvent) :
    List ScreenEvent :=
  (events.rdropWhile fun event => !event.draws table indexPath).dropLast

private theorem drawnBefore_snoc (table : PlayingTable) (indexPath : NSIndexPath)
    (events : List ScreenEvent) (event : ScreenEvent) :
    drawnBefore table indexPath (events ++ [event]) =
      if event.draws table indexPath then events else drawnBefore table indexPath events := by
  unfold drawnBefore
  rw [List.rdropWhile_concat]
  cases event.draws table indexPath <;> simp

/-- Cells show the items their rows had when they were drawn. Until the bar has an item, its
cells have empty labels. -/
structure CellsShown (events : List ScreenEvent) (s : Screen) : Prop where
  run : EventRun.run step init events = .ok s
  cells : ∀ table indexPath cell, s.cells table indexPath = some cell →
    cell.Shows ((fetchedData (drawnBefore table indexPath events)).item? indexPath table)
  blank : s.playing.tableData.nowPlaying = [] → ∀ cell ∈ s.returned .bar, cell.Shows none

private theorem cellsShown_init : CellsShown [] init where
  run := rfl
  cells := nofun
  blank := by simp [init]

private theorem CellsShown.keep {events : List ScreenEvent} {event : ScreenEvent} {s s' : Screen}
    (hs : CellsShown events s) (h : s.step event = .ok s')
    (hdraws : ∀ table indexPath, event.draws table indexPath = false)
    (hcells : ∀ table indexPath, s'.cells table indexPath = none ∨
      s'.cells table indexPath = s.cells table indexPath)
    (hreturned : s'.returned = s.returned) : CellsShown (events ++ [event]) s' where
  run := (EventRun.run_snoc_ok _ _ _ _).mpr ⟨s, hs.run, h⟩
  cells := by
    intro table indexPath cell hcell
    rw [drawnBefore_snoc, hdraws, if_neg (by simp)]
    rcases hcells table indexPath with hnone | hkept
    · rw [hnone] at hcell
      exact nomatch hcell
    · exact hs.cells table indexPath cell (hkept ▸ hcell)
  blank := by
    intro hempty
    rw [hreturned]
    apply hs.blank
    by_contra hitem
    exact EventRun.run_invariant (P := fun _ => True)
      (fun _ _ _ ht _ hstep => PlayingState.step_nowPlaying_ne_nil ht hstep) hitem
      (fun _ _ => trivial) (step_playing h) hempty

private theorem drawnCell (cells : PlayingTable → NSIndexPath → Option UITableViewCell)
    (table table' : PlayingTable) (indexPath indexPath' : NSIndexPath) (cell : UITableViewCell) :
    Function.update cells table (Function.update (cells table) indexPath (some cell)) table'
        indexPath' =
      if table = table' ∧ indexPath = indexPath' then some cell else cells table' indexPath' := by
  by_cases htable : table = table'
  · subst htable
    by_cases hpath : indexPath = indexPath'
    · simp [hpath]
    · simp [hpath, Function.update_of_ne (Ne.symm hpath)]
  · simp [htable, Function.update_of_ne (Ne.symm htable)]

private theorem step_cellsShown {events : List ScreenEvent} {event : ScreenEvent} {s s' : Screen}
    (hs : CellsShown events s) (h : s.step event = .ok s') : CellsShown (events ++ [event]) s' := by
  cases event with
  | background event =>
      obtain ⟨_, _, hs'⟩ := step_background_ok h
      refine hs.keep h (fun _ _ => rfl) ?_ (by rw [hs'])
      intro table indexPath
      rw [hs']
      by_cases hreload : s.reloaded? event = some table
      · simp [hreload]
      · simp [hreload]
  | willTrigger gesture =>
      obtain ⟨_, _, hs'⟩ := step_willTrigger_ok h
      exact hs.keep h (fun _ _ => rfl) (fun _ _ => by rw [hs']; simp) (by rw [hs'])
  | didTrigger gesture =>
      obtain ⟨_, _, hs'⟩ := step_didTrigger_ok h
      exact hs.keep h (fun _ _ => rfl) (fun _ _ => by rw [hs']; simp) (by rw [hs'])
  | cellForRow table indexPath dequeued =>
      obtain ⟨hcounted, hdequeued, cell, hcell, hs'⟩ := step_cellForRow_ok h
      have hblank : table = .bar → s.playing.tableData.nowPlaying = [] →
          dequeued.Shows none := by
        rintro rfl hempty
        rcases hdequeued with rfl | hreturned
        · exact ⟨rfl, rfl⟩
        · exact hs.blank hempty dequeued hreturned
      have hshows := PlayingState.cellForRow_shows
        (PlayingState.run_rowsCounted (run_playing hs.run)) hcounted hblank hcell
      constructor
      · exact (EventRun.run_snoc_ok _ _ _ _).mpr ⟨s, hs.run, h⟩
      · intro table' indexPath' cell' hcell'
        rw [drawnBefore_snoc]
        rw [hs'] at hcell'
        simp only [drawnCell] at hcell'
        by_cases hrow : table = table' ∧ indexPath = indexPath'
        · have hdraws : (ScreenEvent.cellForRow table indexPath dequeued).draws table' indexPath' =
              true := decide_eq_true hrow
          rw [if_pos hrow] at hcell'
          rw [if_pos hdraws, ← run_fetchedData hs.run, ← hrow.1, ← hrow.2,
            ← Option.some.inj hcell']
          exact hshows
        · have hdraws : (ScreenEvent.cellForRow table indexPath dequeued).draws table' indexPath' =
              false := decide_eq_false hrow
          rw [if_neg hrow] at hcell'
          rw [hdraws, if_neg (by simp)]
          exact hs.cells table' indexPath' cell' hcell'
      · intro hempty
        rw [hs'] at hempty ⊢
        intro cell' hmem
        dsimp only at hmem
        by_cases htable : table = .bar
        · subst htable
          simp only [Function.update_self, List.mem_append, List.mem_singleton] at hmem
          rcases hmem with hmem | rfl
          · exact hs.blank hempty cell' hmem
          · have hnone : s.playing.tableData.item? indexPath .bar = none := by
              simp [TableData.item?, hempty]
            rw [hnone] at hshows
            exact hshows
        · apply hs.blank hempty cell'
          rwa [Function.update_of_ne (Ne.symm htable)] at hmem

theorem run_cellsShown {events : List ScreenEvent} {s : Screen}
    (h : EventRun.run step init events = .ok s) : CellsShown events s :=
  EventRun.run_history (fun _ _ _ _ hs hstep => step_cellsShown hs hstep) cellsShown_init h

/-- What the swipe casts and sends, or records as skipped, is the song that the cell shows. -/
def ActsOnShown (cell : UITableViewCell) (gesture : SlideGesture) (s s' : Screen) : Prop :=
  (∀ vote, s'.playing = s.playing.castVote gesture.table vote →
    cell.textLabel = some vote.songName ∧ cell.detailTextLabel = some vote.artist) ∧
  ∀ songName, s'.playing.voteToSkipCalls = issue s.playing.voteToSkipCalls songName →
    cell.textLabel = some songName

/-- The row has the same song in the data it was drawn from and in the data now. A skip looks
at the name only, and not at all when it is refused. -/
def SongKept (gesture : SlideGesture) (s : Screen) (drawn now : TableData) : Prop :=
  let itemDrawn := drawn.item? gesture.indexPath gesture.table
  let itemNow := now.item? gesture.indexPath gesture.table
  if gesture.action = configureSkipAction then
    itemNow.map (fun item => item.song.name) = some s.playing.bar.skippedSong ∨
      itemNow.map (fun item => item.song.name) = itemDrawn.map fun item => item.song.name
  else itemNow.bind NowPlayingSongItem.nameAndArtist? =
    itemDrawn.bind NowPlayingSongItem.nameAndArtist?

private theorem vote_actsOnShown {s s' : Screen} {gesture : SlideGesture} {cell : UITableViewCell}
    {drawn : TableData} {value : Bool}
    (hcell : cell.Shows (drawn.item? gesture.indexPath gesture.table))
    (haction : gesture.action ≠ configureSkipAction)
    (h : PlayingState.voteCallback gesture.table value s.playing gesture.indexPath =
      .ok s'.playing) :
    ActsOnShown cell gesture s s' ↔ SongKept gesture s drawn s.playing.tableData := by
  obtain ⟨vote, hvote, hs'⟩ := PlayingState.voteCallback_ok h
  have hsong := PlayingState.swipedVote_ok hvote
  simp only [ActsOnShown, SongKept, if_neg haction, hs', hsong]
  constructor
  · intro hacts
    exact ((hcell.nameAndArtist _ _).mp (hacts.1 vote rfl)).symm
  · intro hkept
    constructor
    · intro vote' hcast
      have hcalls := congrArg PlayingState.voteForSongCalls hcast
      have heq : vote' = vote := by
        simpa [PlayingState.castVote, PlayingState.voteOccurredOnSong,
          PlayingState.dispatchReload, issue, eq_comm] using hcalls
      rw [heq]
      exact (hcell.nameAndArtist _ _).mpr hkept.symm
    · intro songName hskips
      exact absurd hskips (ne_issue _ _)

private theorem skip_actsOnShown {s s' : Screen} {gesture : SlideGesture} {cell : UITableViewCell}
    {drawn : TableData} (hcell : cell.Shows (drawn.item? gesture.indexPath gesture.table))
    (haction : gesture.action = configureSkipAction) (htable : gesture.table = .bar)
    (h : s.playing.skipCallback = .ok s'.playing) :
    ActsOnShown cell gesture s s' ↔ SongKept gesture s drawn s.playing.tableData := by
  obtain ⟨item, hitem, hskip⟩ := PlayingState.skipCallback_ok h
  have hnow : s.playing.tableData.item? gesture.indexPath gesture.table = some item := by
    rw [htable]
    exact (objectAtIndex_natCast _ 0 item).mp hitem
  have hcast : ∀ vote, s'.playing ≠ s.playing.castVote gesture.table vote := by
    intro vote hcast
    have hcalls := congrArg PlayingState.voteForSongCalls hcast
    rcases hskip with ⟨_, hs'⟩ | ⟨_, hs'⟩
    · rw [hs'] at hcalls
      exact ne_issue _ _ hcalls
    · rw [hs'] at hcalls
      exact ne_issue _ _ hcalls
  have hacts : ActsOnShown cell gesture s s' ↔
      ∀ songName, s'.playing.voteToSkipCalls = issue s.playing.voteToSkipCalls songName →
        cell.textLabel = some songName :=
    and_iff_right fun vote heq => absurd heq (hcast vote)
  rw [hacts, SongKept, if_pos haction, hnow, hcell.1, Option.map_some]
  rcases hskip with ⟨hskipped, hs'⟩ | ⟨hskipped, hs'⟩
  · rw [hs', hskipped]
    simp [ne_issue]
  · have hname : ∀ songName, s'.playing.voteToSkipCalls =
        issue s.playing.voteToSkipCalls songName ↔ item.song.name = songName := by
      intro songName
      rw [hs']
      simp [issue]
    simp only [hname, forall_eq', Option.some.injEq, Ne.symm hskipped, false_or]
    exact eq_comm

private theorem didTrigger_callback {s s' : Screen} {gesture : SlideGesture}
    (hs : s.GesturesConfigured) (h : s.step (.didTrigger gesture) = .ok s') :
    (gesture.action ≠ configureSkipAction ∧ ∃ value, PlayingState.voteCallback gesture.table value
      s.playing gesture.indexPath = .ok s'.playing) ∨
    (gesture.action = configureSkipAction ∧ gesture.table = .bar ∧
      s.playing.skipCallback = .ok s'.playing) := by
  obtain ⟨⟨_, hgesture⟩, hplaying, _⟩ := step_didTrigger_ok h
  have haction := hs gesture hgesture
  have hup : configureUpvoteAction ≠ configureSkipAction := by decide
  have hdown : configureDownvoteAction ≠ configureSkipAction := by decide
  obtain ⟨table, indexPath, action⟩ := gesture
  rcases PlayingTable.mem_slideActions.mp haction with rfl | rfl | ⟨rfl, rfl⟩
  · have hcallback := (mapError_raised_ok _ _).mp hplaying
    exact Or.inl ⟨hup, true, (s.playing.upVoteCallback_eq table indexPath).symm.trans hcallback⟩
  · have hcallback := (mapError_raised_ok _ _).mp hplaying
    exact Or.inl ⟨hdown, false,
      (s.playing.downVoteCallback_eq table indexPath).symm.trans hcallback⟩
  · exact Or.inr ⟨rfl, rfl, (mapError_raised_ok _ _).mp hplaying⟩

/-- A queue of one song is fetched and shown, and its row is about to be swiped up. -/
def shownRow : List ScreenEvent :=
  [.background .updateQueueData,
    .background (.getSongQueueCompleted 0
      (.result [⟨⟨nsstring ['a'], some [nsstring ['b']], none⟩, false, false⟩])),
    .background .mainQueueBlock, .cellForRow .queue ⟨1, 0⟩ .fresh,
    .willTrigger ⟨.queue, ⟨1, 0⟩, configureUpvoteAction⟩]

/-- Another queue arrives; its reload is still on the main queue. -/
def replacedRow : List ScreenEvent :=
  [.background .updateQueueData,
    .background (.getSongQueueCompleted 1
      (.result [⟨⟨nsstring ['c'], some [nsstring ['d']], none⟩, false, false⟩]))]

/-- In every run, a swipe on a row that shows a cell acts on the song it shows exactly when the
fetches that arrived since the cell was drawn left the row its song. -/
theorem swipe_actsOnShown_iff (events : List ScreenEvent) (gesture : SlideGesture)
    (cell : UITableViewCell) (s s' : Screen) (hrun : EventRun.run step init events = .ok s)
    (hcell : s.cells gesture.table gesture.indexPath = some cell)
    (hstep : s.step (.didTrigger gesture) = .ok s') :
    ActsOnShown cell gesture s s' ↔ SongKept gesture s
      (fetchedData (drawnBefore gesture.table gesture.indexPath events)) (fetchedData events) := by
  have hshows := (run_cellsShown hrun).cells _ _ _ hcell
  rw [← run_fetchedData hrun]
  rcases didTrigger_callback (run_gesturesConfigured hrun) hstep with
    ⟨haction, value, hvote⟩ | ⟨haction, htable, hskip⟩
  · exact vote_actsOnShown hshows haction hvote
  · exact skip_actsOnShown hshows haction htable hskip

theorem swipe_actsOnShown_iff_kept :
    ∃ s s' cell, EventRun.run step init shownRow = .ok s ∧
      s.cells .queue ⟨1, 0⟩ = some cell ∧
      s.step (.didTrigger ⟨.queue, ⟨1, 0⟩, configureUpvoteAction⟩) = .ok s' ∧
      ActsOnShown cell ⟨.queue, ⟨1, 0⟩, configureUpvoteAction⟩ s s' := by
  refine ⟨_, _, _, rfl, rfl, rfl, ?_⟩
  apply (swipe_actsOnShown_iff shownRow _ _ _ _ rfl rfl rfl).mpr
  rw [SongKept, if_neg (by decide)]
  rfl

/-- A refresh arrives while the row is being swiped: the vote is for a song that is not shown. -/
theorem swipe_actsOnReplaced :
    ∃ s s' cell, EventRun.run step init (shownRow ++ replacedRow) = .ok s ∧
      s.cells .queue ⟨1, 0⟩ = some cell ∧
      s.step (.didTrigger ⟨.queue, ⟨1, 0⟩, configureUpvoteAction⟩) = .ok s' ∧
      ¬ ActsOnShown cell ⟨.queue, ⟨1, 0⟩, configureUpvoteAction⟩ s s' := by
  refine ⟨_, _, _, rfl, rfl, rfl, ?_⟩
  intro hacts
  have hlabels := hacts.1 ⟨true, nsstring ['c'], nsstring ['d']⟩ rfl
  exact absurd hlabels.1 (by decide)

end Screen

end CrowdSound

import CrowdSound.Playing.Fetches
import CrowdSound.Playing.Screen
import CrowdSound.Playing.SwipeSteps
import Mathlib.Data.List.DropRight

/-!
# Runs of the screen

What each event of the screen does, and the run of the tables that a run of the screen contains.
Nothing but fetches changes the arrays, so the item of a row is known from the fetches that have
arrived, for the cells as well as for the gestures.
-/

namespace CrowdSound

namespace ScreenEvent

def playingEvents : ScreenEvent → List PlayingEvent
  | background event => [event]
  | cellForRow _ _ _ => []
  | willTrigger gesture =>
    (gesture.action.willTriggerBlock.map fun block =>
      block.event gesture.table gesture.indexPath).toList
  | didTrigger gesture =>
    [gesture.action.didTriggerBlock.event gesture.table gesture.indexPath]

end ScreenEvent

namespace Screen

theorem step_background_ok {s s' : Screen} {event : PlayingEvent}
    (h : s.step (.background event) = .ok s') :
    event.ofGesture = false ∧ s.playing.step event = .ok s'.playing ∧ s' = { s with
      playing := s'.playing
      cells := fun table => if s.reloaded? event = some table then fun _ => none
        else s.cells table } := by
  simp only [step] at h
  split at h
  · exact nomatch h
  next hgesture =>
    obtain ⟨playing, hplaying, hs'⟩ := bind_eq_ok.mp h
    cases hs'
    exact ⟨by simpa using hgesture, hplaying, rfl⟩

theorem step_cellForRow_ok {s s' : Screen} {table : PlayingTable} {indexPath : NSIndexPath}
    {dequeued : UITableViewCell} (h : s.step (.cellForRow table indexPath dequeued) = .ok s') :
    s.playing.counted table indexPath = true ∧
      (dequeued = .fresh ∨ dequeued ∈ s.returned table) ∧
      ∃ cell, s.playing.cellForRowAtIndexPath table indexPath dequeued = .ok cell ∧
        s' = { s with
          cells := Function.update s.cells table
            (Function.update (s.cells table) indexPath (some cell))
          returned := Function.update s.returned table (s.returned table ++ [cell]) } := by
  obtain ⟨henabled, hstep⟩ := enabled_ok.mp h
  obtain ⟨cell, hcell, hs'⟩ := bind_eq_ok.mp hstep
  cases hs'
  exact ⟨henabled.1, henabled.2, cell, (mapError_raised_ok _ _).mp hcell, rfl⟩

theorem step_willTrigger_ok {s s' : Screen} {gesture : SlideGesture}
    (h : s.step (.willTrigger gesture) = .ok s') :
    (s.playing.counted gesture.table gesture.indexPath = true ∧
        gesture.action ∈ gesture.table.slideActions) ∧
      EventRun.run PlayingState.step s.playing (ScreenEvent.willTrigger gesture).playingEvents =
        .ok s'.playing ∧
      s' = { s with playing := s'.playing, gestures := s.gestures ++ [gesture] } := by
  obtain ⟨henabled, hstep⟩ := enabled_ok.mp h
  refine ⟨henabled, ?_⟩
  simp only [ScreenEvent.playingEvents]
  cases hblock : gesture.action.willTriggerBlock with
  | none =>
      rw [hblock] at hstep
      cases hstep
      exact ⟨rfl, rfl⟩
  | some block =>
      rw [hblock] at hstep
      obtain ⟨playing, hplaying, hs'⟩ := bind_eq_ok.mp hstep
      cases hs'
      exact ⟨by simpa using hplaying, rfl⟩

theorem step_didTrigger_ok {s s' : Screen} {gesture : SlideGesture}
    (h : s.step (.didTrigger gesture) = .ok s') :
    (s.playing.counted gesture.table gesture.indexPath = true ∧ gesture ∈ s.gestures) ∧
      s.playing.step (gesture.action.didTriggerBlock.event gesture.table gesture.indexPath) =
        .ok s'.playing ∧
      s' = { s with playing := s'.playing, gestures := s.gestures.erase gesture } := by
  obtain ⟨henabled, hstep⟩ := enabled_ok.mp h
  obtain ⟨playing, hplaying, hs'⟩ := bind_eq_ok.mp hstep
  cases hs'
  exact ⟨henabled, hplaying, rfl⟩

theorem step_playing {s s' : Screen} {event : ScreenEvent} (h : s.step event = .ok s') :
    EventRun.run PlayingState.step s.playing event.playingEvents = .ok s'.playing := by
  cases event with
  | background event =>
      obtain ⟨_, hplaying, _⟩ := step_background_ok h
      simpa [ScreenEvent.playingEvents] using hplaying
  | cellForRow table indexPath dequeued =>
      obtain ⟨_, _, cell, _, hs'⟩ := step_cellForRow_ok h
      rw [hs']
      simp [ScreenEvent.playingEvents]
  | willTrigger gesture => exact (step_willTrigger_ok h).2.1
  | didTrigger gesture =>
      obtain ⟨_, hplaying, _⟩ := step_didTrigger_ok h
      simpa [ScreenEvent.playingEvents] using hplaying

/-- A gesture that is under way runs an action of its table. -/
def GesturesConfigured (s : Screen) : Prop :=
  ∀ gesture ∈ s.gestures, gesture.action ∈ gesture.table.slideActions

theorem step_gesturesConfigured {s s' : Screen} {event : ScreenEvent}
    (hs : s.GesturesConfigured) (h : s.step event = .ok s') : s'.GesturesConfigured := by
  cases event with
  | background event =>
      obtain ⟨_, _, hs'⟩ := step_background_ok h
      rw [hs']
      exact hs
  | cellForRow table indexPath dequeued =>
      obtain ⟨_, _, cell, _, hs'⟩ := step_cellForRow_ok h
      rw [hs']
      exact hs
  | willTrigger gesture =>
      obtain ⟨⟨_, haction⟩, _, hs'⟩ := step_willTrigger_ok h
      rw [hs']
      intro gesture' hmem
      rcases List.mem_append.mp hmem with hmem | hmem
      · exact hs gesture' hmem
      · rw [List.mem_singleton.mp hmem]
        exact haction
  | didTrigger gesture =>
      obtain ⟨_, _, hs'⟩ := step_didTrigger_ok h
      rw [hs']
      intro gesture' hmem
      exact hs gesture' (List.mem_of_mem_erase hmem)

theorem run_gesturesConfigured {events : List ScreenEvent} {s : Screen}
    (h : EventRun.run step init events = .ok s) : s.GesturesConfigured :=
  EventRun.run_invariant (P := fun _ => True)
    (fun _ _ _ hs _ hstep => step_gesturesConfigured hs hstep)
    (by simp [GesturesConfigured, init]) (fun _ _ => trivial) h

def playingEvents (events : List ScreenEvent) : List PlayingEvent :=
  events.flatMap ScreenEvent.playingEvents

theorem run_playing {events : List ScreenEvent} {s : Screen}
    (h : EventRun.run step init events = .ok s) :
    EventRun.run PlayingState.step .init (playingEvents events) = .ok s.playing :=
  EventRun.run_simulate Screen.playing ScreenEvent.playingEvents (fun _ _ _ => step_playing) h

def fetchedData (events : List ScreenEvent) : TableData :=
  .ofFetches (PlayingState.lastArrived (PlayingState.queueFetches (playingEvents events)))
    (PlayingState.lastArrived (PlayingState.nowPlayingFetches (playingEvents events)))

theorem run_fetchedData {events : List ScreenEvent} {s : Screen}
    (h : EventRun.run step init events = .ok s) : s.playing.tableData = fetchedData events :=
  PlayingState.run_tableData (run_playing h)

end Screen

namespace PlayingState

/-- The bar has one row whatever it holds, the queue two sections. -/
structure RowsCounted (s : PlayingState) : Prop where
  bar : s.bar.rowCounts = [1]
  queue : s.queue.rowCounts.length = 2

private theorem rowsCounted_init : RowsCounted init := ⟨rfl, rfl⟩

private theorem step_rowsCounted {s s' : PlayingState} {event : PlayingEvent} (hs : RowsCounted s)
    (h : s.step event = .ok s') : RowsCounted s' := by
  have hview : ∀ t : PlayingState, RowsCounted t →
      s'.swipeView.queueRows = t.swipeView.queueRows →
      s'.swipeView.barRows = t.swipeView.barRows → RowsCounted s' := by
    intro t ht hqueue hbar
    exact ⟨hbar.trans ht.bar, (congrArg List.length hqueue).trans ht.queue⟩
  cases step_swipeStep h with
  | keeps _ _ _ heq => exact hview s hs (by rw [heq]) (by rw [heq])
  | reloads table _ heq =>
      have hreload : RowsCounted (s.reloadData table) := by
        cases table with
        | queue => exact ⟨hs.bar, rfl⟩
        | bar => exact ⟨rfl, hs.queue⟩
      exact hview _ hreload (by rw [heq]) (by rw [heq])
  | flags _ heq => exact hview s hs (by rw [heq]) (by rw [heq])
  | refuses item _ _ _ heq => exact hview s hs (by rw [heq]) (by rw [heq])
  | skips item _ _ _ heq => exact hview s hs (by rw [heq]) (by rw [heq])
  | settles call error songName _ _ heq => exact hview s hs (by rw [heq]) (by rw [heq])

theorem run_rowsCounted {events : List PlayingEvent} {s : PlayingState}
    (h : EventRun.run step init events = .ok s) : RowsCounted s :=
  EventRun.run_invariant (P := fun _ => True) (fun _ _ _ hs _ hstep => step_rowsCounted hs hstep)
    rowsCounted_init (fun _ _ => trivial) h

theorem counted_queue {s : PlayingState} {indexPath : NSIndexPath} (hs : RowsCounted s)
    (h : s.counted .queue indexPath = true) :
    indexPath.inSection = 0 ∨ indexPath.inSection = 1 := by
  by_contra hother
  have hnone : s.queue.rowCounts[indexPath.inSection]? = none := by
    rw [List.getElem?_eq_none_iff, hs.queue]
    omega
  simp [counted, rowCounts, hnone] at h

theorem counted_bar {s : PlayingState} {indexPath : NSIndexPath} (hs : RowsCounted s)
    (h : s.counted .bar indexPath = true) : indexPath = ⟨0, 0⟩ := by
  obtain ⟨inSection, row⟩ := indexPath
  cases inSection with
  | zero =>
      have hrow : row < 1 := by simpa [counted, rowCounts, hs.bar] using h
      simp only [NSIndexPath.mk.injEq, true_and]
      omega
  | succ n => simp [counted, rowCounts, hs.bar] at h

end PlayingState

namespace TableData

def queueSection (data : TableData) (inSection : Nat) : List NowPlayingSongItem :=
  if inSection = 0 then data.bufferedSongs else data.suggestedSongs

def item? (data : TableData) (indexPath : NSIndexPath) :
    PlayingTable → Option NowPlayingSongItem
  | .queue => (data.queueSection indexPath.inSection)[indexPath.row]?
  | .bar => data.nowPlaying[0]?

end TableData

namespace PlayingState

theorem swipedItem_ok (s : PlayingState) (table : PlayingTable) (indexPath : NSIndexPath)
    (item : NowPlayingSongItem) :
    s.swipedItem table indexPath = .ok item ↔
      s.tableData.item? indexPath table = some item := by
  cases table with
  | queue =>
      simp only [swipedItem, TableData.item?, TableData.queueSection, tableData]
      split <;> simp
  | bar => exact objectAtIndex_natCast _ 0 item

theorem labelItem_ok {s : PlayingState} {table : PlayingTable} {indexPath : NSIndexPath}
    (hs : RowsCounted s) (hcounted : s.counted table indexPath = true)
    (item : Option NowPlayingSongItem) :
    s.labelItem indexPath table = .ok item ↔
      s.tableData.item? indexPath table = item ∧ (table = .queue → item ≠ none) := by
  have hmap : ∀ (array : List NowPlayingSongItem) (index : Nat),
      (objectAtIndex array index).map some = .ok item ↔ array[index]? = item ∧ item ≠ none := by
    intro array index
    cases hobject : objectAtIndex array index with
    | error x =>
        have hnone : array[index]? = none := by
          by_contra hsome
          obtain ⟨object, hobject'⟩ := Option.ne_none_iff_exists'.mp hsome
          rw [(objectAtIndex_natCast array index object).mpr hobject'] at hobject
          cases hobject
        simp [Except.map, hnone, eq_comm]
    | ok object =>
        rw [(objectAtIndex_natCast array index object).mp hobject]
        cases item <;> simp [Except.map]
  cases table with
  | queue =>
      rcases counted_queue hs hcounted with hsection | hsection
      · simp [labelItem, TableData.item?, TableData.queueSection, tableData, hsection, hmap]
      · simp [labelItem, TableData.item?, TableData.queueSection, tableData, hsection, hmap]
  | bar =>
      simp only [labelItem, TableData.item?, tableData]
      cases hsongs : s.bar.songsForTableView with
      | nil => simp [eq_comm]
      | cons song songs =>
          have hfirst : (objectAtIndex (song :: songs) 0).map some = .ok item ↔
              (song :: songs)[0]? = item ∧ item ≠ none := hmap (song :: songs) 0
          rw [if_pos (by simp), hfirst, List.getElem?_cons_zero]
          apply and_congr_right
          intro hitem
          rw [← hitem]
          simp

end PlayingState

end CrowdSound

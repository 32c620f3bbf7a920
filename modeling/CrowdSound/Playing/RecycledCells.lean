import CrowdSound.Playing.ScreenRuns

/-!
# Recycled cells

A dequeued cell comes with what it got when it was shown before: its accessory view and its
gesture recognizers. The queue sets the accessory view of a cell only while there are suggested
songs, and both tables add a recognizer each time.
-/

namespace CrowdSound

open CSServiceInterface

def voteImage (voteCacheResult : Int) : Option VoteImage :=
  if voteCacheResult = 0 then some .dislike
  else if voteCacheResult = 1 then some .like
  else none

namespace PlayingState

def withSections (s : PlayingState) (buffered suggested : List CSGetQueueResponse) :
    PlayingState :=
  { s with queue := { s.queue with
    bufferedSongsArray := buffered.map songQueueItem
    songsForTableView := suggested.map songQueueItem } }

def songAt? (buffered suggested : List CSGetQueueResponse) (indexPath : NSIndexPath) :
    Option CSGetQueueResponse :=
  if indexPath.inSection = 0 then buffered[indexPath.row]?
  else if indexPath.inSection = 1 then suggested[indexPath.row]?
  else none

/-- Whichever cells are dequeued for a row, they get the same accessory view, the image for the
vote on the song. -/
def ImageOfSong (s : PlayingState) (indexPath : NSIndexPath) (song : CSGetQueueResponse) : Prop :=
  ∀ dequeued dequeued', ∃ cell cell',
    NowPlayingTableViewController.cellForRowAtIndexPath s indexPath dequeued = .ok cell ∧
    NowPlayingTableViewController.cellForRowAtIndexPath s indexPath dequeued' = .ok cell' ∧
    cell.accessoryView = cell'.accessoryView ∧
    cell.accessoryView = voteImage (s.votesCache.getVoteForSongName song.name song.artist)

private theorem items_withSections (s : PlayingState) {buffered suggested : List CSGetQueueResponse}
    {indexPath : NSIndexPath} {song : CSGetQueueResponse}
    (hsong : songAt? buffered suggested indexPath = some song) :
    (s.withSections buffered suggested).labelItem indexPath .queue =
        .ok (some (songQueueItem song)) ∧
      (s.withSections buffered suggested).accessoryItem indexPath .queue =
        .ok (if suggested = [] then none else some (songQueueItem song)) := by
  have hobject : ∀ (array : List CSGetQueueResponse), array[indexPath.row]? = some song →
      objectAtIndex (array.map songQueueItem) indexPath.row = .ok (songQueueItem song) := by
    intro array hget
    apply (objectAtIndex_natCast _ _ _).mpr
    rw [List.getElem?_map, hget]
    rfl
  have hlength : (suggested.map songQueueItem).length = 0 ↔ suggested = [] := by
    rw [List.length_map, List.length_eq_zero_iff]
  unfold songAt? at hsong
  by_cases hzero : indexPath.inSection = 0
  · rw [if_pos hzero] at hsong
    simp only [labelItem, accessoryItem, withSections, hzero, if_true, hobject _ hsong, hlength]
    refine ⟨rfl, ?_⟩
    split <;> rfl
  · rw [if_neg hzero] at hsong
    by_cases hone : indexPath.inSection = 1
    · rw [if_pos hone] at hsong
      simp only [labelItem, accessoryItem, withSections, hone, Nat.one_ne_zero, if_true, if_false,
        hobject _ hsong, hlength]
      refine ⟨rfl, ?_⟩
      split <;> rfl
    · rw [if_neg hone] at hsong
      cases hsong

private theorem cellForRow_withSections (s : PlayingState)
    {buffered suggested : List CSGetQueueResponse}
    {indexPath : NSIndexPath} {song : CSGetQueueResponse}
    (hsong : songAt? buffered suggested indexPath = some song) (dequeued : UITableViewCell) :
    ∃ cell, NowPlayingTableViewController.cellForRowAtIndexPath (s.withSections buffered suggested)
        indexPath dequeued = .ok cell ∧
      cell.accessoryView = if suggested = [] then dequeued.accessoryView
        else voteImage (s.votesCache.getVoteForSongName song.name song.artist) := by
  obtain ⟨hlabel, haccessory⟩ := s.items_withSections hsong
  unfold NowPlayingTableViewController.cellForRowAtIndexPath setAccessoryViewOfCell
  rw [haccessory, hlabel]
  by_cases hempty : suggested = []
  · rw [if_pos hempty]
    exact ⟨_, rfl, (if_pos hempty).symm⟩
  · rw [if_neg hempty]
    exact ⟨_, rfl, (if_neg hempty).symm⟩

/-- The image on a row depends only on the song and the votes exactly while there are suggested
songs. -/
theorem imageOfSong_iff (s : PlayingState) (buffered suggested : List CSGetQueueResponse)
    (indexPath : NSIndexPath) (song : CSGetQueueResponse)
    (hsong : songAt? buffered suggested indexPath = some song) :
    (s.withSections buffered suggested).ImageOfSong indexPath song ↔ suggested ≠ [] := by
  constructor
  · intro himage hempty
    let liked : UITableViewCell := { UITableViewCell.fresh with accessoryView := some .like }
    obtain ⟨cell, cell', hcell, hcell', hsame, _⟩ := himage liked .fresh
    obtain ⟨kept, hkept, hlike⟩ := s.cellForRow_withSections hsong liked
    obtain ⟨kept', hkept', hnone⟩ := s.cellForRow_withSections hsong .fresh
    have hcellKept := Except.ok.inj (hcell.symm.trans hkept)
    have hcellKept' := Except.ok.inj (hcell'.symm.trans hkept')
    rw [hcellKept, hcellKept', hlike, hnone, if_pos hempty, if_pos hempty] at hsame
    cases hsame
  · intro hne dequeued dequeued'
    obtain ⟨cell, hcell, himage⟩ := s.cellForRow_withSections hsong dequeued
    obtain ⟨cell', hcell', himage'⟩ := s.cellForRow_withSections hsong dequeued'
    rw [if_neg hne] at himage himage'
    exact ⟨cell, cell', hcell, hcell', himage.trans himage'.symm, himage⟩

/-- One buffered song and one suggested song. -/
theorem imageOfSong_iff_suggested :
    (init.withSections [⟨nsstring ['a'], nsstring ['b'], false, true⟩]
        [⟨nsstring ['c'], nsstring ['d'], false, false⟩]).ImageOfSong ⟨0, 0⟩
      ⟨nsstring ['a'], nsstring ['b'], false, true⟩ :=
  (imageOfSong_iff init _ _ ⟨0, 0⟩ _ rfl).mpr (List.cons_ne_nil _ _)

/-- With buffered songs only, a row without a vote keeps the image of the row before. -/
theorem imageOfSong_buffered :
    ¬ (init.withSections [⟨nsstring ['a'], nsstring ['b'], false, true⟩] []).ImageOfSong ⟨0, 0⟩
      ⟨nsstring ['a'], nsstring ['b'], false, true⟩ := by
  intro himage
  obtain ⟨cell, _, hcell, _, _, hnone⟩ :=
    himage { UITableViewCell.fresh with accessoryView := some .like } .fresh
  cases hcell
  exact absurd hnone (by decide)

end PlayingState

namespace PlayingState

private theorem setAccessoryViewOfCell_recognizers {s : PlayingState} {table : PlayingTable}
    {cell cell' : UITableViewCell} {indexPath : NSIndexPath}
    (h : s.setAccessoryViewOfCell table cell indexPath = .ok cell') :
    cell'.slideGestureRecognizers = cell.slideGestureRecognizers := by
  obtain ⟨item, _, hitem⟩ := bind_eq_ok.mp h
  cases item with
  | none =>
      cases hitem
      rfl
  | some item =>
      obtain ⟨artist, _, hcell'⟩ := bind_eq_ok.mp hitem
      cases hcell'
      rfl

private theorem setLabels_recognizers {cell cell' : UITableViewCell} {item : NowPlayingSongItem}
    (h : cell.setLabels item = .ok cell') :
    cell'.slideGestureRecognizers = cell.slideGestureRecognizers := by
  obtain ⟨artist, _, hcell'⟩ := bind_eq_ok.mp h
  cases hcell'
  rfl

private theorem cellForRow_recognizers {s : PlayingState} {table : PlayingTable}
    {indexPath : NSIndexPath} {dequeued cell : UITableViewCell}
    (h : s.cellForRowAtIndexPath table indexPath dequeued = .ok cell) :
    cell.slideGestureRecognizers = dequeued.slideGestureRecognizers ++ [table.slideActions] := by
  cases table with
  | queue =>
      obtain ⟨cell₁, hcell₁, hlabels⟩ := bind_eq_ok.mp h
      obtain ⟨item, _, hcell⟩ := bind_eq_ok.mp hlabels
      have hadded := setAccessoryViewOfCell_recognizers hcell₁
      cases item with
      | none =>
          cases hcell
          exact hadded
      | some item => exact (setLabels_recognizers hcell).trans hadded
  | bar =>
      obtain ⟨item, _, hlabels⟩ := bind_eq_ok.mp h
      cases item with
      | none =>
          obtain ⟨cell₁, hcell₁, hcell⟩ := bind_eq_ok.mp hlabels
          cases hcell₁
          exact setAccessoryViewOfCell_recognizers hcell
      | some item =>
          obtain ⟨cell₁, hcell₁, hcell⟩ := bind_eq_ok.mp hlabels
          exact (setAccessoryViewOfCell_recognizers hcell).trans (setLabels_recognizers hcell₁)

end PlayingState

namespace Screen

def OneRecognizer (s : Screen) : Prop :=
  ∀ table, ∀ cell ∈ s.returned table, cell.slideGestureRecognizers.length = 1

def SomeRecognizer (s : Screen) : Prop :=
  ∀ table, ∀ cell ∈ s.returned table, 1 ≤ cell.slideGestureRecognizers.length

/-- A cell that is handed out was not handed out before. -/
def DequeuesFresh (_ : Screen) (event : ScreenEvent) (_ : Screen) : Prop :=
  ∀ table indexPath dequeued, event = .cellForRow table indexPath dequeued → dequeued = .fresh

private theorem step_returned {s s' : Screen} {event : ScreenEvent} (h : s.step event = .ok s') :
    (∀ table indexPath dequeued, event ≠ .cellForRow table indexPath dequeued) ∧
        s'.returned = s.returned ∨
      ∃ table indexPath dequeued cell, event = .cellForRow table indexPath dequeued ∧
        (dequeued = .fresh ∨ dequeued ∈ s.returned table) ∧
        cell.slideGestureRecognizers.length = dequeued.slideGestureRecognizers.length + 1 ∧
        s'.returned = Function.update s.returned table (s.returned table ++ [cell]) := by
  cases event with
  | background event =>
      obtain ⟨_, _, hs'⟩ := step_background_ok h
      exact Or.inl ⟨by simp, by rw [hs']⟩
  | willTrigger gesture =>
      obtain ⟨_, _, hs'⟩ := step_willTrigger_ok h
      exact Or.inl ⟨by simp, by rw [hs']⟩
  | didTrigger gesture =>
      obtain ⟨_, _, hs'⟩ := step_didTrigger_ok h
      exact Or.inl ⟨by simp, by rw [hs']⟩
  | cellForRow table indexPath dequeued =>
      obtain ⟨_, hdequeued, cell, hcell, hs'⟩ := step_cellForRow_ok h
      have hrecognizers := congrArg List.length (PlayingState.cellForRow_recognizers hcell)
      rw [List.length_append, List.length_singleton] at hrecognizers
      exact Or.inr ⟨table, indexPath, dequeued, cell, rfl, hdequeued, hrecognizers, by rw [hs']⟩

private theorem forall_returned_update {P : UITableViewCell → Prop} (s : Screen)
    (table : PlayingTable) (cell : UITableViewCell) :
    (∀ table', ∀ cell' ∈ Function.update s.returned table (s.returned table ++ [cell]) table',
        P cell') ↔
      (∀ table', ∀ cell' ∈ s.returned table', P cell') ∧ P cell := by
  constructor
  · intro h
    have htable := h table
    rw [Function.update_self] at htable
    refine ⟨?_, htable cell (by simp)⟩
    intro table' cell' hmem
    by_cases hsame : table' = table
    · subst hsame
      exact htable cell' (List.mem_append_left _ hmem)
    · have hother := h table'
      rw [Function.update_of_ne hsame] at hother
      exact hother cell' hmem
  · intro ⟨hall, hcell⟩ table' cell' hmem
    by_cases hsame : table' = table
    · subst hsame
      rw [Function.update_self, List.mem_append, List.mem_singleton] at hmem
      rcases hmem with hold | hnew
      · exact hall table' cell' hold
      · rw [hnew]
        exact hcell
    · rw [Function.update_of_ne hsame] at hmem
      exact hall table' cell' hmem

private theorem step_someRecognizer (s : Screen) (event : ScreenEvent) (s' : Screen)
    (hs : s.SomeRecognizer) (h : s.step event = .ok s') : s'.SomeRecognizer := by
  unfold SomeRecognizer at hs ⊢
  rcases step_returned h with ⟨_, hsame⟩ | ⟨table, _, dequeued, cell, _, _, hadded, hreturned⟩
  · rw [hsame]
    exact hs
  · rw [hreturned, forall_returned_update]
    exact ⟨hs, by omega⟩

private theorem step_oneRecognizer (s : Screen) (event : ScreenEvent) (s' : Screen)
    (hs : s.SomeRecognizer) (hone : s.OneRecognizer) (h : s.step event = .ok s') :
    s'.OneRecognizer ↔ DequeuesFresh s event s' := by
  unfold OneRecognizer at hone ⊢
  rcases step_returned h with
    ⟨hother, hsame⟩ | ⟨table, indexPath, dequeued, cell, hevent, hdequeued, hadded, hreturned⟩
  · rw [hsame]
    exact iff_of_true hone fun table indexPath dequeued hevent =>
      absurd hevent (hother table indexPath dequeued)
  · rw [hreturned, forall_returned_update, and_iff_right hone, hadded]
    constructor
    · intro hlength table' indexPath' dequeued' hevent'
      rw [hevent] at hevent'
      cases hevent'
      rcases hdequeued with hfresh | hreused
      · exact hfresh
      · have hsome := hs table dequeued hreused
        omega
    · intro hfresh
      rw [hfresh table indexPath dequeued hevent]
      rfl

/-- In every run, every cell handed out has exactly one recognizer if and only if no cell is
handed out twice. -/
theorem oneRecognizer_iff (events : List ScreenEvent) :
    EventRun.Throughout step OneRecognizer init events ↔
      EventRun.EveryStep step DequeuesFresh init events := by
  have hsome : init.SomeRecognizer := by
    intro table cell hcell
    cases hcell
  have hone : init.OneRecognizer := by
    intro table cell hcell
    cases hcell
  exact EventRun.throughout_iff_everyStep step_someRecognizer step_oneRecognizer hsome hone events

/-- The cell of the bar, reused at the next reload, has two recognizers. -/
theorem reusedCell_twoRecognizers :
    let shown : UITableViewCell :=
      { UITableViewCell.fresh with slideGestureRecognizers := [PlayingTable.bar.slideActions] }
    ¬ EventRun.Throughout step OneRecognizer init
      [.cellForRow .bar ⟨0, 0⟩ .fresh, .cellForRow .bar ⟨0, 0⟩ shown] := by
  intro shown hone
  have hlast := hone.last rfl
  have htwo := hlast .bar
    { UITableViewCell.fresh with slideGestureRecognizers :=
        [PlayingTable.bar.slideActions, PlayingTable.bar.slideActions] } (by decide)
  exact absurd htwo (by decide)

end Screen

end CrowdSound

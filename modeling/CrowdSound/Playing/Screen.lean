import CrowdSound.Playing.PlayingTables

/-!
# The screen of the playing tables

The cells that the table views ask for and the slide gestures on their rows. A table view counts
its rows when it reloads and asks for cells of the counted rows at any later time; a gesture runs
the will-trigger block of its action, if there is one, and later the did-trigger block. Cells and
gestures read the arrays as they are then.
-/

namespace CrowdSound

inductive SlideBlock where
  | upVoteCallback
  | downVoteCallback
  | skipCallback
  | didChangeStateCallback
  deriving DecidableEq

structure DRCellSlideAction where
  willTriggerBlock : Option SlideBlock
  didTriggerBlock : SlideBlock
  deriving DecidableEq

def configureUpvoteAction : DRCellSlideAction where
  willTriggerBlock := none
  didTriggerBlock := .upVoteCallback

def configureDownvoteAction : DRCellSlideAction where
  willTriggerBlock := some .didChangeStateCallback
  didTriggerBlock := .downVoteCallback

def configureSkipAction : DRCellSlideAction where
  willTriggerBlock := none
  didTriggerBlock := .skipCallback

namespace PlayingTable

def slideActions : PlayingTable → List DRCellSlideAction
  | .queue => [configureUpvoteAction, configureDownvoteAction]
  | .bar => [configureUpvoteAction, configureDownvoteAction, configureSkipAction]

theorem mem_slideActions {table : PlayingTable} {action : DRCellSlideAction} :
    action ∈ table.slideActions ↔ action = configureUpvoteAction ∨
      action = configureDownvoteAction ∨ table = .bar ∧ action = configureSkipAction := by
  cases table <;> simp [slideActions]

end PlayingTable

/-- The event that running a block on a row is. -/
def SlideBlock.event (table : PlayingTable) (indexPath : NSIndexPath) :
    SlideBlock → PlayingEvent
  | upVoteCallback => .upVote table indexPath
  | downVoteCallback => .downVote table indexPath
  | skipCallback => .skip
  | didChangeStateCallback => .didChangeState table

inductive VoteImage where
  | like
  | dislike
  deriving DecidableEq

structure UITableViewCell where
  textLabel : Option NSString
  detailTextLabel : Option NSString
  accessoryView : Option VoteImage
  slideGestureRecognizers : List (List DRCellSlideAction)
  deriving DecidableEq

namespace UITableViewCell

/-- A cell that was not shown before. -/
def fresh : UITableViewCell := ⟨none, none, none, []⟩

def addGestureRecognizer (cell : UITableViewCell) (actions : List DRCellSlideAction) :
    UITableViewCell :=
  { cell with slideGestureRecognizers := cell.slideGestureRecognizers ++ [actions] }

def setAccessoryView (cell : UITableViewCell) (voteCacheResult : Int) : UITableViewCell :=
  { cell with accessoryView :=
      if voteCacheResult = 0 then some .dislike
      else if voteCacheResult = 1 then some .like
      else none }

/-- The labels of an item; a nil array of artists answers nil. -/
def setLabels (cell : UITableViewCell) (item : NowPlayingSongItem) :
    Except NSException UITableViewCell := do
  let artist ← item.song.artists.mapM fun artists => objectAtIndex artists 0
  return { cell with textLabel := some item.song.name, detailTextLabel := artist }

end UITableViewCell

namespace PlayingState

/-- The item whose vote the accessory view shows; without suggested songs there is none. -/
def accessoryItem (s : PlayingState) (indexPath : NSIndexPath) :
    PlayingTable → Except NSException (Option NowPlayingSongItem)
  | .queue =>
    if s.queue.songsForTableView.length = 0 then .ok none
    else if indexPath.inSection = 0 then
      (objectAtIndex s.queue.bufferedSongsArray indexPath.row).map some
    else (objectAtIndex s.queue.songsForTableView indexPath.row).map some
  | .bar =>
    if s.bar.songsForTableView.length = 0 then .ok none
    else (objectAtIndex s.bar.songsForTableView indexPath.row).map some

def setAccessoryViewOfCell (s : PlayingState) (table : PlayingTable) (cell : UITableViewCell)
    (indexPath : NSIndexPath) : Except NSException UITableViewCell := do
  match ← s.accessoryItem indexPath table with
  | none => return cell
  | some item =>
    let artist ← item.song.firstArtist
    return cell.setAccessoryView (s.votesCache.getVoteForSongName item.song.name artist)

/-- The item whose name and artist the labels show. -/
def labelItem (s : PlayingState) (indexPath : NSIndexPath) :
    PlayingTable → Except NSException (Option NowPlayingSongItem)
  | .queue =>
    if indexPath.inSection = 0 then
      (objectAtIndex s.queue.bufferedSongsArray indexPath.row).map some
    else if indexPath.inSection = 1 then
      (objectAtIndex s.queue.songsForTableView indexPath.row).map some
    else .ok none
  | .bar =>
    if s.bar.songsForTableView.length ≠ 0 then
      (objectAtIndex s.bar.songsForTableView 0).map some
    else .ok none

end PlayingState

namespace NowPlayingTableViewController

/-- The labels of a row without an item are cleared. -/
def cellForRowAtIndexPath (s : PlayingState) (indexPath : NSIndexPath)
    (dequeued : UITableViewCell) : Except NSException UITableViewCell := do
  let cell ← s.setAccessoryViewOfCell .queue
    (dequeued.addGestureRecognizer PlayingTable.queue.slideActions) indexPath
  match ← s.labelItem indexPath .queue with
  | some item => cell.setLabels item
  | none => return { cell with textLabel := none, detailTextLabel := none }

end NowPlayingTableViewController

namespace NowPlayingBarTableViewController

/-- The labels of a row without an item stay as they were. -/
def cellForRowAtIndexPath (s : PlayingState) (indexPath : NSIndexPath)
    (dequeued : UITableViewCell) : Except NSException UITableViewCell := do
  let cell := dequeued.addGestureRecognizer PlayingTable.bar.slideActions
  let cell ← match ← s.labelItem indexPath .bar with
    | some item => cell.setLabels item
    | none => pure cell
  s.setAccessoryViewOfCell .bar cell indexPath

end NowPlayingBarTableViewController

namespace PlayingState

def cellForRowAtIndexPath (s : PlayingState) : PlayingTable → NSIndexPath → UITableViewCell →
    Except NSException UITableViewCell
  | .queue => NowPlayingTableViewController.cellForRowAtIndexPath s
  | .bar => NowPlayingBarTableViewController.cellForRowAtIndexPath s

def rowCounts (s : PlayingState) : PlayingTable → List Nat
  | .queue => s.queue.rowCounts
  | .bar => s.bar.rowCounts

/-- Whether a row was counted at the last reload of its table. -/
def counted (s : PlayingState) (table : PlayingTable) (indexPath : NSIndexPath) : Bool :=
  match (s.rowCounts table)[indexPath.inSection]? with
  | some count => indexPath.row < count
  | none => false

end PlayingState

/-- A triggered action on a row. -/
structure SlideGesture where
  table : PlayingTable
  indexPath : NSIndexPath
  action : DRCellSlideAction
  deriving DecidableEq

/-- `gestures` are those between their two triggers, `cells` the cells handed out for the rows
since the last reload, and `returned` all cells a table has handed out. -/
structure Screen where
  playing : PlayingState
  gestures : List SlideGesture
  cells : PlayingTable → NSIndexPath → Option UITableViewCell
  returned : PlayingTable → List UITableViewCell

inductive ScreenEvent where
  | background (event : PlayingEvent)
  | cellForRow (table : PlayingTable) (indexPath : NSIndexPath) (dequeued : UITableViewCell)
  | willTrigger (gesture : SlideGesture)
  | didTrigger (gesture : SlideGesture)

namespace PlayingEvent

/-- The events that only a gesture causes. -/
def ofGesture : PlayingEvent → Bool
  | .didChangeState _ => true
  | .upVote _ _ => true
  | .downVote _ _ => true
  | .skip => true
  | _ => false

end PlayingEvent

namespace Screen

def init : Screen where
  playing := .init
  gestures := []
  cells := fun _ _ => none
  returned := fun _ => []

def reloaded? (s : Screen) : PlayingEvent → Option PlayingTable
  | .mainQueueBlock => s.playing.mainQueue.head?
  | _ => none

def step (s : Screen) (event : ScreenEvent) : Except Stuck Screen :=
  match event with
  | .background event =>
    if event.ofGesture then .error .notEnabled
    else do
      let playing ← s.playing.step event
      return { s with
        playing
        cells := fun table => if s.reloaded? event = some table then fun _ => none
          else s.cells table }
  | .cellForRow table indexPath dequeued =>
    if s.playing.counted table indexPath ∧
        (dequeued = .fresh ∨ dequeued ∈ s.returned table) then do
      let cell ← (s.playing.cellForRowAtIndexPath table indexPath dequeued).mapError .raised
      return { s with
        cells := Function.update s.cells table
          (Function.update (s.cells table) indexPath (some cell))
        returned := Function.update s.returned table (s.returned table ++ [cell]) }
    else .error .notEnabled
  | .willTrigger gesture =>
    if s.playing.counted gesture.table gesture.indexPath ∧
        gesture.action ∈ gesture.table.slideActions then
      let triggered := { s with gestures := s.gestures ++ [gesture] }
      match gesture.action.willTriggerBlock with
      | none => .ok triggered
      | some block => do
        let playing ← s.playing.step (block.event gesture.table gesture.indexPath)
        return { triggered with playing }
    else .error .notEnabled
  | .didTrigger gesture =>
    if s.playing.counted gesture.table gesture.indexPath ∧ gesture ∈ s.gestures then do
      let playing ← s.playing.step
        (gesture.action.didTriggerBlock.event gesture.table gesture.indexPath)
      return { s with playing, gestures := s.gestures.erase gesture }
    else .error .notEnabled

end Screen

end CrowdSound

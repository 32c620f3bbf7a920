import CrowdSound.Library.EventRun
import CrowdSound.Library.RequestTable
import CrowdSound.Service.CSServiceInterface
import CrowdSound.Votes.VotesCache
import Mathlib.Logic.Function.Iterate

/-!
# The playing tables

The queue table and the now-playing bar, the requests they have under way, and the blocks they
put on the main queue. The two controllers share one votes cache. A vote is cached when it is
cast, and once more when its request has succeeded.
-/

namespace CrowdSound

open RequestTable

/-- The two subclasses of `BasePlayingTableViewController`. -/
inductive PlayingTable where
  | queue
  | bar
  deriving DecidableEq

structure NSIndexPath where
  inSection : Nat
  row : Nat
  deriving DecidableEq

/-- `rowCounts` are the row counts the table view asked for at its last reload. -/
structure BasePlayingTableViewController where
  songsForTableView : List NowPlayingSongItem
  isVoteOccurring : Bool
  rowCounts : List Nat

/-- `observers` counts the registrations for `RefreshQueue`. -/
structure NowPlayingTableViewController extends BasePlayingTableViewController where
  bufferedSongsArray : List NowPlayingSongItem
  observers : Nat

structure NowPlayingBarTableViewController extends BasePlayingTableViewController where
  skippedSong : NSString
  currentSong : NSString

structure PlayingState where
  votesCache : VotesCache
  queue : NowPlayingTableViewController
  bar : NowPlayingBarTableViewController
  getSongQueueCalls : List (Entry Unit)
  getIsPlayingCalls : List (Entry Unit)
  voteForSongCalls : List (Entry SongVote)
  /-- With the song name each call captures. -/
  voteToSkipCalls : List (Entry NSString)
  /-- The `reloadData` blocks. -/
  mainQueue : List PlayingTable

/-- `artists[0]`: a nil array answers nil, which no string can be appended. -/
def Song.firstArtist (song : Song) : Except NSException NSString :=
  match song.artists with
  | none => .error .invalidArgumentException
  | some artists => objectAtIndex artists 0

namespace PlayingState

/-- After `viewDidLoad` of both controllers, before the calls it makes. -/
def init : PlayingState where
  votesCache := .init
  queue :=
    { songsForTableView := [], isVoteOccurring := false, rowCounts := [0, 0]
      bufferedSongsArray := [], observers := 0 }
  bar :=
    { songsForTableView := [], isVoteOccurring := false, rowCounts := [1]
      skippedSong := [], currentSong := [] }
  getSongQueueCalls := []
  getIsPlayingCalls := []
  voteForSongCalls := []
  voteToSkipCalls := []
  mainQueue := []

def dispatchReload (s : PlayingState) (table : PlayingTable) : PlayingState :=
  { s with mainQueue := s.mainQueue ++ [table] }

def voteOccurredOnSong (s : PlayingState) (vote : SongVote) : PlayingState :=
  { s with voteForSongCalls := issue s.voteForSongCalls vote }

/-- The continuation of `voteOccurredOnSong` has a branch for success only. -/
def voteForSongContinuation (s : PlayingState) (vote : SongVote) (error : Option NSError) :
    PlayingState :=
  match error with
  | none => { s with
      votesCache := s.votesCache.cacheVote vote.voteValue vote.songName vote.artist }
  | some _ => s

def swipedItem (s : PlayingState) (table : PlayingTable) (indexPath : NSIndexPath) :
    Except NSException NowPlayingSongItem :=
  match table with
  | .queue =>
    if indexPath.inSection = 0 then objectAtIndex s.queue.bufferedSongsArray indexPath.row
    else objectAtIndex s.queue.songsForTableView indexPath.row
  | .bar => objectAtIndex s.bar.songsForTableView 0

def swipedVote (s : PlayingState) (table : PlayingTable) (value : Bool)
    (indexPath : NSIndexPath) : Except NSException SongVote := do
  let item ← s.swipedItem table indexPath
  let artist ← item.song.firstArtist
  return { voteValue := value, songName := item.song.name, artist }

def castVote (s : PlayingState) (table : PlayingTable) (vote : SongVote) : PlayingState :=
  let s := { s with
    votesCache := s.votesCache.cacheVote vote.voteValue vote.songName vote.artist }
  (s.dispatchReload table).voteOccurredOnSong vote

def voteCallback (table : PlayingTable) (value : Bool) (s : PlayingState)
    (indexPath : NSIndexPath) : Except NSException PlayingState := do
  let vote ← s.swipedVote table value indexPath
  return s.castVote table vote

theorem voteCallback_ok {table : PlayingTable} {value : Bool} {s s' : PlayingState}
    {indexPath : NSIndexPath} (h : voteCallback table value s indexPath = .ok s') :
    ∃ vote, s.swipedVote table value indexPath = .ok vote ∧ s' = s.castVote table vote := by
  unfold voteCallback at h
  cases hv : s.swipedVote table value indexPath with
  | error x =>
      rw [hv] at h
      exact nomatch h
  | ok vote =>
      rw [hv] at h
      exact ⟨vote, rfl, (Except.ok.inj h).symm⟩

end PlayingState

namespace NowPlayingTableViewController

def upVoteCallback := PlayingState.voteCallback .queue true

def downVoteCallback := PlayingState.voteCallback .queue false

/-- Section 0 is `Up Next`, the other `Suggested`. -/
def numberOfRowsInSection (queue : NowPlayingTableViewController) (inSection : Nat) : Nat :=
  if inSection = 0 then queue.bufferedSongsArray.length else queue.songsForTableView.length

/-- The objects of a fetched array are distinct, so an object is its position in the array, and
removing the buffered objects removes exactly their positions. -/
def updateQueueContinuation (queue : NowPlayingTableViewController)
    (outcome : BFOutcome (List NowPlayingSongItem)) : NowPlayingTableViewController :=
  match outcome with
  | .error _ => queue
  | .result items =>
    let queueWithBuffered := items.zipIdx
    let bufferedSongs := queueWithBuffered.filter fun object => object.1.isBuffered
    let suggested := queueWithBuffered.filter fun object => object ∉ bufferedSongs
    { queue with
      bufferedSongsArray := bufferedSongs.map Prod.fst
      songsForTableView := suggested.map Prod.fst }

end NowPlayingTableViewController

namespace NowPlayingBarTableViewController

def upVoteCallback := PlayingState.voteCallback .bar true

def downVoteCallback := PlayingState.voteCallback .bar false

def numberOfRowsInSection (_bar : NowPlayingBarTableViewController) (_inSection : Nat) : Nat := 1

/-- Whether the playing song changed: only the song names are compared. -/
def songChanged (bar : NowPlayingBarTableViewController) (currentItem : NowPlayingSongItem) :
    Bool :=
  currentItem.song.name != bar.currentSong

def showItem (bar : NowPlayingBarTableViewController) (currentItem : NowPlayingSongItem) :
    NowPlayingBarTableViewController :=
  { bar with
    songsForTableView := [currentItem]
    currentSong := if bar.songChanged currentItem then currentItem.song.name
      else bar.currentSong }

end NowPlayingBarTableViewController

namespace PlayingState

def updateQueueData (s : PlayingState) : PlayingState :=
  { s with getSongQueueCalls := issue s.getSongQueueCalls () }

def getSongQueueContinuation (s : PlayingState)
    (outcome : BFOutcome (List NowPlayingSongItem)) : PlayingState :=
  { s with queue := s.queue.updateQueueContinuation outcome }.dispatchReload .queue

/-- Each registered observer updates the queue. -/
def postRefreshQueue (s : PlayingState) : PlayingState :=
  Nat.iterate updateQueueData s.queue.observers s

private theorem postRefreshQueue_eq (s : PlayingState) :
    s.postRefreshQueue = { s with
      getSongQueueCalls := Nat.iterate (issue · ()) s.queue.observers s.getSongQueueCalls } := by
  have hiterate : ∀ (n : Nat) (s : PlayingState), Nat.iterate updateQueueData n s =
      { s with getSongQueueCalls := Nat.iterate (issue · ()) n s.getSongQueueCalls } := by
    intro n
    induction n with
    | zero => exact fun s => rfl
    | succ n ih => exact fun s => ih s.updateQueueData
  exact hiterate s.queue.observers s

def updateSongAndArtist (s : PlayingState) : PlayingState :=
  if s.bar.isVoteOccurring then s
  else { s with getIsPlayingCalls := issue s.getIsPlayingCalls () }

/-- The notification is posted between showing the item and recording its name; the observers
read neither. -/
def getIsPlayingContinuation (s : PlayingState)
    (outcome : BFOutcome (Option NowPlayingSongItem)) : PlayingState :=
  match outcome with
  | .error _ => s.dispatchReload .bar
  | .result none => s
  | .result (some currentItem) =>
    let shown := { s with bar := s.bar.showItem currentItem }
    let posted := if s.bar.songChanged currentItem then shown.postRefreshQueue else shown
    posted.dispatchReload .bar

theorem getIsPlayingContinuation_item (s : PlayingState) (item : NowPlayingSongItem) :
    s.getIsPlayingContinuation (.result (some item)) = dispatchReload { s with
      bar := s.bar.showItem item
      getSongQueueCalls := Nat.iterate (issue · ())
        (if s.bar.songChanged item then s.queue.observers else 0) s.getSongQueueCalls } .bar := by
  simp only [getIsPlayingContinuation, postRefreshQueue_eq]
  split <;> rfl

def skipCallback (s : PlayingState) : Except NSException PlayingState := do
  let item ← objectAtIndex s.bar.songsForTableView 0
  if s.bar.skippedSong = item.song.name then return s
  return { s with voteToSkipCalls := issue s.voteToSkipCalls item.song.name }

theorem skipCallback_ok {s s' : PlayingState} (h : s.skipCallback = .ok s') :
    ∃ item, objectAtIndex s.bar.songsForTableView 0 = .ok item ∧
      (s.bar.skippedSong = item.song.name ∧ s' = s ∨
        s.bar.skippedSong ≠ item.song.name ∧
          s' = { s with voteToSkipCalls := issue s.voteToSkipCalls item.song.name }) := by
  unfold skipCallback at h
  cases hi : objectAtIndex s.bar.songsForTableView 0 with
  | error x =>
      rw [hi] at h
      exact nomatch h
  | ok item =>
      rw [hi] at h
      refine ⟨item, rfl, ?_⟩
      by_cases hskipped : s.bar.skippedSong = item.song.name
      · simp only [bind, Except.bind, hskipped] at h
        exact Or.inl ⟨hskipped, (Except.ok.inj h).symm⟩
      · simp only [bind, Except.bind, hskipped] at h
        exact Or.inr ⟨hskipped, (Except.ok.inj h).symm⟩

/-- The skipped song is recorded whether or not the call succeeded. -/
def voteToSkipContinuation (s : PlayingState) (currentSongName : NSString)
    (_error : Option NSError) : PlayingState :=
  { s with bar := { s.bar with skippedSong := currentSongName } }

def didChangeStateCallback (s : PlayingState) : PlayingTable → PlayingState
  | .queue => { s with queue := { s.queue with isVoteOccurring := true } }
  | .bar => { s with bar := { s.bar with isVoteOccurring := true } }

def upVoteCallback (s : PlayingState) : PlayingTable → NSIndexPath →
    Except NSException PlayingState
  | .queue, indexPath => NowPlayingTableViewController.upVoteCallback s indexPath
  | .bar, indexPath => NowPlayingBarTableViewController.upVoteCallback s indexPath

def downVoteCallback (s : PlayingState) : PlayingTable → NSIndexPath →
    Except NSException PlayingState
  | .queue, indexPath => NowPlayingTableViewController.downVoteCallback s indexPath
  | .bar, indexPath => NowPlayingBarTableViewController.downVoteCallback s indexPath

theorem upVoteCallback_eq (s : PlayingState) (table : PlayingTable) (indexPath : NSIndexPath) :
    s.upVoteCallback table indexPath = voteCallback table true s indexPath := by
  cases table <;> rfl

theorem downVoteCallback_eq (s : PlayingState) (table : PlayingTable) (indexPath : NSIndexPath) :
    s.downVoteCallback table indexPath = voteCallback table false s indexPath := by
  cases table <;> rfl

def reloadData (s : PlayingState) : PlayingTable → PlayingState
  | .queue => { s with queue := { s.queue with
      rowCounts := [s.queue.numberOfRowsInSection 0, s.queue.numberOfRowsInSection 1] } }
  | .bar => { s with bar := { s.bar with rowCounts := [s.bar.numberOfRowsInSection 0] } }

end PlayingState

/-- What can happen to the tables: appearing, refreshes and timer ticks, swipes, completions of
requests in any order, and the main queue running its next block. -/
inductive PlayingEvent where
  | queueViewDidAppear
  | queueViewDidDisappear
  | updateQueueData
  | updateSongAndArtist
  | didChangeState (table : PlayingTable)
  | upVote (table : PlayingTable) (indexPath : NSIndexPath)
  | downVote (table : PlayingTable) (indexPath : NSIndexPath)
  | skip
  | getSongQueueCompleted (call : Nat) (outcome : BFOutcome (List NowPlayingSongItem))
  | getIsPlayingCompleted (call : Nat) (outcome : BFOutcome (Option NowPlayingSongItem))
  | voteForSongCompleted (call : Nat) (error : Option NSError)
  | voteToSkipCompleted (call : Nat) (error : Option NSError)
  | mainQueueBlock

namespace BFOutcome

def succeeded {α : Type} : BFOutcome α → Bool
  | .result _ => true
  | .error _ => false

end BFOutcome

namespace PlayingState

def step (s : PlayingState) (event : PlayingEvent) : Except Stuck PlayingState :=
  match event with
  | .queueViewDidAppear =>
    .ok { s with queue := { s.queue with observers := s.queue.observers + 1 } }
  | .queueViewDidDisappear => .ok { s with queue := { s.queue with observers := 0 } }
  | .updateQueueData => .ok s.updateQueueData
  | .updateSongAndArtist => .ok s.updateSongAndArtist
  | .didChangeState table => .ok (s.didChangeStateCallback table)
  | .upVote table indexPath => (s.upVoteCallback table indexPath).mapError .raised
  | .downVote table indexPath => (s.downVoteCallback table indexPath).mapError .raised
  | .skip => s.skipCallback.mapError .raised
  | .getSongQueueCompleted call outcome =>
    match settle s.getSongQueueCalls call outcome.succeeded with
    | none => .error .notEnabled
    | some ((), getSongQueueCalls) =>
      .ok ({ s with getSongQueueCalls }.getSongQueueContinuation outcome)
  | .getIsPlayingCompleted call outcome =>
    match settle s.getIsPlayingCalls call outcome.succeeded with
    | none => .error .notEnabled
    | some ((), getIsPlayingCalls) =>
      .ok ({ s with getIsPlayingCalls }.getIsPlayingContinuation outcome)
  | .voteForSongCompleted call error =>
    match settle s.voteForSongCalls call error.isNone with
    | none => .error .notEnabled
    | some (vote, voteForSongCalls) =>
      .ok ({ s with voteForSongCalls }.voteForSongContinuation vote error)
  | .voteToSkipCompleted call error =>
    match settle s.voteToSkipCalls call error.isNone with
    | none => .error .notEnabled
    | some (currentSongName, voteToSkipCalls) =>
      .ok ({ s with voteToSkipCalls }.voteToSkipContinuation currentSongName error)
  | .mainQueueBlock =>
    match s.mainQueue with
    | [] => .error .notEnabled
    | table :: mainQueue => .ok ({ s with mainQueue }.reloadData table)

/-- What an event makes of the tables. A request completes only while it is in flight. -/
inductive PlayingStep (s : PlayingState) : PlayingEvent → PlayingState → Prop where
  | appears : PlayingStep s .queueViewDidAppear
      { s with queue := { s.queue with observers := s.queue.observers + 1 } }
  | disappears : PlayingStep s .queueViewDidDisappear
      { s with queue := { s.queue with observers := 0 } }
  | updatesQueue : PlayingStep s .updateQueueData s.updateQueueData
  | updatesBar : PlayingStep s .updateSongAndArtist s.updateSongAndArtist
  | swipes (table : PlayingTable) :
      PlayingStep s (.didChangeState table) (s.didChangeStateCallback table)
  | upVotes (table : PlayingTable) (indexPath : NSIndexPath) (s' : PlayingState)
      (hvote : voteCallback table true s indexPath = .ok s') :
      PlayingStep s (.upVote table indexPath) s'
  | downVotes (table : PlayingTable) (indexPath : NSIndexPath) (s' : PlayingState)
      (hvote : voteCallback table false s indexPath = .ok s') :
      PlayingStep s (.downVote table indexPath) s'
  | refuses (item : NowPlayingSongItem)
      (hitem : objectAtIndex s.bar.songsForTableView 0 = .ok item)
      (hskipped : s.bar.skippedSong = item.song.name) : PlayingStep s .skip s
  | skips (item : NowPlayingSongItem)
      (hitem : objectAtIndex s.bar.songsForTableView 0 = .ok item)
      (hskipped : s.bar.skippedSong ≠ item.song.name) :
      PlayingStep s .skip { s with voteToSkipCalls := issue s.voteToSkipCalls item.song.name }
  | queueArrives (call : Nat) (outcome : BFOutcome (List NowPlayingSongItem))
      (getSongQueueCalls : List (Entry Unit))
      (hsettle : settle s.getSongQueueCalls call outcome.succeeded =
        some ((), getSongQueueCalls)) :
      PlayingStep s (.getSongQueueCompleted call outcome)
        ({ s with getSongQueueCalls }.getSongQueueContinuation outcome)
  | songArrives (call : Nat) (outcome : BFOutcome (Option NowPlayingSongItem))
      (getIsPlayingCalls : List (Entry Unit))
      (hsettle : settle s.getIsPlayingCalls call outcome.succeeded =
        some ((), getIsPlayingCalls)) :
      PlayingStep s (.getIsPlayingCompleted call outcome)
        ({ s with getIsPlayingCalls }.getIsPlayingContinuation outcome)
  | voteSettles (call : Nat) (error : Option NSError) (vote : SongVote)
      (voteForSongCalls : List (Entry SongVote))
      (hsettle : settle s.voteForSongCalls call error.isNone = some (vote, voteForSongCalls)) :
      PlayingStep s (.voteForSongCompleted call error)
        ({ s with voteForSongCalls }.voteForSongContinuation vote error)
  | skipSettles (call : Nat) (error : Option NSError) (songName : NSString)
      (voteToSkipCalls : List (Entry NSString))
      (hsettle : settle s.voteToSkipCalls call error.isNone = some (songName, voteToSkipCalls)) :
      PlayingStep s (.voteToSkipCompleted call error)
        ({ s with voteToSkipCalls }.voteToSkipContinuation songName error)
  | reloads (table : PlayingTable) (mainQueue : List PlayingTable)
      (hqueue : s.mainQueue = table :: mainQueue) :
      PlayingStep s .mainQueueBlock ({ s with mainQueue }.reloadData table)

theorem step_ok {s s' : PlayingState} {event : PlayingEvent} (h : s.step event = .ok s') :
    PlayingStep s event s' := by
  cases event with
  | queueViewDidAppear =>
      cases h
      exact .appears
  | queueViewDidDisappear =>
      cases h
      exact .disappears
  | updateQueueData =>
      cases h
      exact .updatesQueue
  | updateSongAndArtist =>
      cases h
      exact .updatesBar
  | didChangeState table =>
      cases h
      exact .swipes table
  | upVote table indexPath =>
      have hvote := (mapError_raised_ok _ _).mp h
      rw [upVoteCallback_eq] at hvote
      exact .upVotes table indexPath s' hvote
  | downVote table indexPath =>
      have hvote := (mapError_raised_ok _ _).mp h
      rw [downVoteCallback_eq] at hvote
      exact .downVotes table indexPath s' hvote
  | skip =>
      obtain ⟨item, hitem, ⟨hskipped, hs'⟩ | ⟨hskipped, hs'⟩⟩ :=
        skipCallback_ok ((mapError_raised_ok _ _).mp h)
      · rw [hs']
        exact .refuses item hitem hskipped
      · rw [hs']
        exact .skips item hitem hskipped
  | getSongQueueCompleted call outcome =>
      simp only [step] at h
      split at h
      · cases h
      next getSongQueueCalls hsettle =>
        cases h
        exact .queueArrives call outcome getSongQueueCalls hsettle
  | getIsPlayingCompleted call outcome =>
      simp only [step] at h
      split at h
      · cases h
      next getIsPlayingCalls hsettle =>
        cases h
        exact .songArrives call outcome getIsPlayingCalls hsettle
  | voteForSongCompleted call error =>
      simp only [step] at h
      split at h
      · cases h
      next vote voteForSongCalls hsettle =>
        cases h
        exact .voteSettles call error vote voteForSongCalls hsettle
  | voteToSkipCompleted call error =>
      simp only [step] at h
      split at h
      · cases h
      next songName voteToSkipCalls hsettle =>
        cases h
        exact .skipSettles call error songName voteToSkipCalls hsettle
  | mainQueueBlock =>
      simp only [step] at h
      split at h
      · cases h
      next table mainQueue hqueue =>
        cases h
        exact .reloads table mainQueue hqueue

end PlayingState

end CrowdSound

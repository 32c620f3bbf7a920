import CrowdSound.Playing.PlayingTables
import Mathlib.Data.List.MinMax

/-!
# Fetched data

The arrays of the two tables and the name of the current song are written by completed fetches and
by nothing else. A completion overwrites them whatever requests were issued since, so they hold
the data of the response that arrived last.
-/

namespace CrowdSound

open RequestTable

/-- The data of a fetch that has succeeded, with the number of its request. -/
inductive Fetch where
  | queue (call : Nat) (items : List NowPlayingSongItem)
  | nowPlaying (call : Nat) (item : NowPlayingSongItem)
  deriving DecidableEq

namespace Fetch

def queue? : Fetch → Option (Nat × List NowPlayingSongItem)
  | queue call items => some (call, items)
  | nowPlaying _ _ => none

def nowPlaying? : Fetch → Option (Nat × NowPlayingSongItem)
  | queue _ _ => none
  | nowPlaying call item => some (call, item)

end Fetch

/-- The fetch an event completes, if it delivers data. -/
def PlayingEvent.fetch? : PlayingEvent → Option Fetch
  | .getSongQueueCompleted call (.result items) => some (.queue call items)
  | .getIsPlayingCompleted call (.result (some item)) => some (.nowPlaying call item)
  | _ => none

/-- What the two controllers hold of the fetched data. -/
structure TableData where
  bufferedSongs : List NowPlayingSongItem
  suggestedSongs : List NowPlayingSongItem
  nowPlaying : List NowPlayingSongItem
  currentSong : NSString

namespace TableData

def empty : TableData := ⟨[], [], [], []⟩

def fetched (data : TableData) : Fetch → TableData
  | .queue _ items => { data with
      bufferedSongs := items.filter fun item => item.isBuffered
      suggestedSongs := items.filter fun item => !item.isBuffered }
  | .nowPlaying _ item => { data with nowPlaying := [item], currentSong := item.song.name }

/-- The data that a queue and a playing item stand for, empty where there is none. -/
def ofFetches (queue : Option (List NowPlayingSongItem)) (playing : Option NowPlayingSongItem) :
    TableData where
  bufferedSongs := (queue.getD []).filter fun item => item.isBuffered
  suggestedSongs := (queue.getD []).filter fun item => !item.isBuffered
  nowPlaying := playing.toList
  currentSong := (playing.map fun item => item.song.name).getD []

end TableData

namespace PlayingState

def tableData (s : PlayingState) : TableData :=
  ⟨s.queue.bufferedSongsArray, s.queue.songsForTableView, s.bar.songsForTableView,
    s.bar.currentSong⟩

end PlayingState

namespace NowPlayingTableViewController

theorem updateQueueContinuation_sections (queue : NowPlayingTableViewController)
    (items : List NowPlayingSongItem) :
    (queue.updateQueueContinuation (.result items)).bufferedSongsArray =
        items.filter (fun item => item.isBuffered) ∧
      (queue.updateQueueContinuation (.result items)).songsForTableView =
        items.filter (fun item => !item.isBuffered) := by
  have hsections : ∀ p : NowPlayingSongItem → Bool,
      ((items.zipIdx.filter fun object => p object.1).map Prod.fst) = items.filter p := by
    intro p
    have hmap := List.filter_map (f := Prod.fst) (p := p) (l := items.zipIdx)
    rw [List.zipIdx_map_fst] at hmap
    exact hmap.symm
  have hothers : (items.zipIdx.filter fun object =>
      object ∉ items.zipIdx.filter fun object => object.1.isBuffered) =
        items.zipIdx.filter fun object => !object.1.isBuffered := by
    apply List.filter_congr
    intro object hm
    simp [List.mem_filter, hm]
  constructor
  · exact hsections fun item => item.isBuffered
  · simp only [updateQueueContinuation, hothers]
    exact hsections fun item => !item.isBuffered

end NowPlayingTableViewController

namespace PlayingState

private theorem getIsPlayingContinuation_tableData (s : PlayingState)
    (outcome : BFOutcome (Option NowPlayingSongItem)) (call : Nat) :
    (s.getIsPlayingContinuation outcome).tableData =
      (PlayingEvent.getIsPlayingCompleted call outcome).fetch?.toList.foldl TableData.fetched
        s.tableData := by
  rcases outcome with (_ | item) | error
  · rfl
  · -- the name is recorded when it is new, so it is the item's name in any case
    have hname : (s.bar.showItem item).currentSong = item.song.name := by
      simp only [NowPlayingBarTableViewController.showItem,
        NowPlayingBarTableViewController.songChanged]
      by_cases hchanged : item.song.name = s.bar.currentSong
      · simp [hchanged]
      · simp [hchanged]
    rw [getIsPlayingContinuation_item]
    exact congrArg (TableData.mk _ _ _) hname
  · rfl

private theorem voteCallback_tableData {table : PlayingTable} {value : Bool} {s s' : PlayingState}
    {indexPath : NSIndexPath} (h : voteCallback table value s indexPath = .ok s') :
    s'.tableData = s.tableData := by
  obtain ⟨vote, _, hs'⟩ := voteCallback_ok h
  rw [hs']
  rfl

theorem step_tableData {s s' : PlayingState} {event : PlayingEvent}
    (h : s.step event = .ok s') :
    s'.tableData = event.fetch?.toList.foldl TableData.fetched s.tableData := by
  cases step_ok h with
  | appears => rfl
  | disappears => rfl
  | updatesQueue => rfl
  | updatesBar =>
      unfold updateSongAndArtist
      split <;> rfl
  | swipes table => cases table <;> rfl
  | upVotes table indexPath _ hvote => exact voteCallback_tableData hvote
  | downVotes table indexPath _ hvote => exact voteCallback_tableData hvote
  | refuses item _ _ => rfl
  | skips item _ _ => rfl
  | queueArrives call outcome getSongQueueCalls _ =>
      cases outcome with
      | error error => rfl
      | result items =>
          obtain ⟨hbuffered, hsuggested⟩ := s.queue.updateQueueContinuation_sections items
          exact congrArg₂ (fun buffered suggested =>
            TableData.mk buffered suggested s.bar.songsForTableView s.bar.currentSong)
            hbuffered hsuggested
  | songArrives call outcome getIsPlayingCalls _ =>
      exact getIsPlayingContinuation_tableData _ outcome call
  | voteSettles call error vote voteForSongCalls _ => cases error <;> rfl
  | skipSettles call error songName voteToSkipCalls _ => rfl
  | reloads table mainQueue _ => cases table <;> rfl

def fetches (events : List PlayingEvent) : List Fetch :=
  events.filterMap PlayingEvent.fetch?

def queueFetches (events : List PlayingEvent) : List (Nat × List NowPlayingSongItem) :=
  (fetches events).filterMap Fetch.queue?

def nowPlayingFetches (events : List PlayingEvent) : List (Nat × NowPlayingSongItem) :=
  (fetches events).filterMap Fetch.nowPlaying?

/-- The data of the fetch that came last, whichever request it answered. -/
def lastArrived {α : Type} (completed : List (Nat × α)) : Option α :=
  completed.getLast?.map Prod.snd

/-- The data of the fetch whose request was issued last. -/
def lastIssued {α : Type} (completed : List (Nat × α)) : Option α :=
  (completed.argmax Prod.fst).map Prod.snd

private theorem foldl_fetched (fetches : List Fetch) :
    fetches.foldl TableData.fetched TableData.empty =
      TableData.ofFetches (lastArrived (fetches.filterMap Fetch.queue?))
        (lastArrived (fetches.filterMap Fetch.nowPlaying?)) := by
  induction fetches using List.reverseRecOn with
  | nil => rfl
  | append_singleton fetches fetch ih =>
      rw [List.foldl_append, ih, List.filterMap_append, List.filterMap_append]
      cases fetch with
      | queue call items => simp [TableData.fetched, TableData.ofFetches, lastArrived, Fetch.queue?,
          Fetch.nowPlaying?]
      | nowPlaying call item => simp [TableData.fetched, TableData.ofFetches, lastArrived,
          Fetch.queue?, Fetch.nowPlaying?]

theorem run_tableData {events : List PlayingEvent} {s : PlayingState}
    (h : EventRun.run step init events = .ok s) :
    s.tableData = TableData.ofFetches (lastArrived (queueFetches events))
      (lastArrived (nowPlayingFetches events)) := by
  have hfold : s.tableData = (EventRun.trace step (fun _ event => event.fetch?.toList) init
      events).foldl TableData.fetched init.tableData :=
    EventRun.run_fold (fun _ _ _ hstep => step_tableData hstep) h
  rw [EventRun.trace_of_event (fun event => event.fetch?.toList) h,
    ← List.filterMap_eq_flatMap_toList] at hfold
  rw [hfold]
  exact foldl_fetched (fetches events)

private theorem lastArrived_eq_lastIssued {α : Type} {completed : List (Nat × α)}
    (h : (completed.map Prod.fst).Pairwise (· < ·)) :
    lastArrived completed = lastIssued completed := by
  unfold lastArrived lastIssued
  congr 1
  induction completed using List.reverseRecOn with
  | nil => rfl
  | append_singleton completed fetch ih =>
      rw [List.map_append, List.pairwise_append] at h
      obtain ⟨hbefore, _, hlast⟩ := h
      rw [List.argmax_concat, ← ih hbefore, List.getLast?_concat]
      cases hc : completed.getLast? with
      | none => rfl
      | some latest =>
          have hmem := List.mem_map_of_mem (f := Prod.fst) (List.mem_of_getLast? hc)
          exact (if_pos (hlast latest.1 hmem fetch.1 (by simp))).symm

/-- The tables hold the data of the requests issued last among those that have succeeded. -/
def HoldsLastIssued (events : List PlayingEvent) (s : PlayingState) : Prop :=
  s.tableData = TableData.ofFetches (lastIssued (queueFetches events))
    (lastIssued (nowPlayingFetches events))

/-- At every moment the tables hold the data of the successful responses that arrived last; when
the responses arrive in the order of their requests these are the ones issued last. -/
theorem tables_holdLastArrived (events : List PlayingEvent) (s : PlayingState)
    (hrun : EventRun.run step init events = .ok s) :
    s.tableData = TableData.ofFetches (lastArrived (queueFetches events))
        (lastArrived (nowPlayingFetches events)) ∧
      (((queueFetches events).map Prod.fst).Pairwise (· < ·) →
        ((nowPlayingFetches events).map Prod.fst).Pairwise (· < ·) → HoldsLastIssued events s) := by
  have hdata := run_tableData hrun
  refine ⟨hdata, ?_⟩
  intro hqueue hplaying
  rw [HoldsLastIssued, hdata, lastArrived_eq_lastIssued hqueue, lastArrived_eq_lastIssued hplaying]

/-- Two overlapping refreshes, answered in the order of the requests. -/
theorem tables_holdLastArrived_overlapping :
    let events := [.updateQueueData, .updateQueueData,
      .getSongQueueCompleted 0
        (.result [⟨⟨nsstring ['o'], some [nsstring ['b']], none⟩, false, false⟩]),
      .getSongQueueCompleted 1
        (.result [⟨⟨nsstring ['n'], some [nsstring ['b']], none⟩, false, true⟩])]
    ∃ s, EventRun.run step init events = .ok s ∧ HoldsLastIssued events s := by
  intro events
  refine ⟨_, rfl, ?_⟩
  exact (tables_holdLastArrived _ _ rfl).2 (by decide) (by decide)

/-- Two overlapping refreshes, the second one answered first: the older queue stays. -/
theorem staleQueue_overwrites :
    ∃ s, EventRun.run step init [.updateQueueData, .updateQueueData,
        .getSongQueueCompleted 1
          (.result [⟨⟨nsstring ['n'], some [nsstring ['b']], none⟩, false, false⟩]),
        .getSongQueueCompleted 0
          (.result [⟨⟨nsstring ['o'], some [nsstring ['b']], none⟩, false, false⟩])] = .ok s ∧
      ¬ HoldsLastIssued [.updateQueueData, .updateQueueData,
        .getSongQueueCompleted 1
          (.result [⟨⟨nsstring ['n'], some [nsstring ['b']], none⟩, false, false⟩]),
        .getSongQueueCompleted 0
          (.result [⟨⟨nsstring ['o'], some [nsstring ['b']], none⟩, false, false⟩])] s := by
  refine ⟨_, rfl, ?_⟩
  intro h
  have hsuggested := congrArg TableData.suggestedSongs h
  exact absurd hsuggested (by decide)

end PlayingState

end CrowdSound

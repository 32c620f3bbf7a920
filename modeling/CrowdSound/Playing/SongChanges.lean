import CrowdSound.Library.ChangeDetector
import CrowdSound.Playing.Fetches

/-!
# Changes of the playing song

The bar posts `RefreshQueue` when the name of the playing song is not the one it recorded. A song
is more than its name, and the name recorded at first is empty.
-/

namespace CrowdSound

open RequestTable ChangeDetector

def PlayingEvent.playedItem? : PlayingEvent → Option NowPlayingSongItem
  | .getIsPlayingCompleted _ (.result item) => item
  | _ => none

def playedItems (events : List PlayingEvent) : List NowPlayingSongItem :=
  events.filterMap PlayingEvent.playedItem?

namespace NowPlayingSongItem

def songName (item : NowPlayingSongItem) : NSString := item.song.name

def nameAndArtists (item : NowPlayingSongItem) : NSString × Option (List NSString) :=
  (item.song.name, item.song.artists)

end NowPlayingSongItem

namespace PlayingState

/-- For each successful `getIsPlaying`, whether the notification is posted. -/
def postsRefreshQueue (s : PlayingState) (event : PlayingEvent) : List Bool :=
  event.playedItem?.toList.map s.bar.songChanged

def ObserversFetch (s : PlayingState) (event : PlayingEvent) (s' : PlayingState) : Prop :=
  ∀ call outcome, event = .getIsPlayingCompleted call outcome →
    s'.getSongQueueCalls = (issue · ())^[if s.postsRefreshQueue event = [true] then
      s.queue.observers else 0] s.getSongQueueCalls

private theorem step_observersFetch {s s' : PlayingState} {event : PlayingEvent}
    (h : s.step event = .ok s') : s.ObserversFetch event s' := by
  intro call outcome hevent
  subst hevent
  cases step_ok h with
  | songArrives _ _ getIsPlayingCalls _ =>
      rcases outcome with (_ | item) | error
      · rfl
      · rw [getIsPlayingContinuation_item]
        simp only [postsRefreshQueue, PlayingEvent.playedItem?, Option.toList_some, List.map_cons,
          List.map_nil, List.cons.injEq, and_true]
        rfl
      · rfl

private theorem step_detects (s : PlayingState) (event : PlayingEvent) (s' : PlayingState)
    (h : s.step event = .ok s') :
    s.postsRefreshQueue event =
        event.playedItem?.toList.map (fun item => decide (item.songName ≠ s.bar.currentSong)) ∧
      s'.bar.currentSong =
        (event.playedItem?.map NowPlayingSongItem.songName).getD s.bar.currentSong := by
  constructor
  · have hchanged : s.bar.songChanged = fun item => decide (item.songName ≠ s.bar.currentSong) := by
      funext item
      exact Bool.eq_iff_iff.mpr (bne_iff_ne.trans decide_eq_true_iff.symm)
    rw [postsRefreshQueue, hchanged]
  · have hdata : s'.bar.currentSong = (event.fetch?.toList.foldl TableData.fetched
        s.tableData).currentSong := congrArg TableData.currentSong (step_tableData h)
    rw [hdata]
    cases event with
    | getIsPlayingCompleted call outcome => rcases outcome with (_ | item) | error <;> rfl
    | getSongQueueCompleted call outcome => cases outcome <;> rfl
    | _ => rfl

/-- The observers are notified of exactly the changes of the playing song, if and only if the
first song to arrive has a name and no song is followed by another of the same name. -/
theorem postsRefreshQueue_iff (events : List PlayingEvent) (s : PlayingState)
    (hrun : EventRun.run step init events = .ok s) :
    EventRun.EveryStep step ObserversFetch init events ∧
      (EventRun.trace step postsRefreshQueue init events =
          changes NowPlayingSongItem.nameAndArtists none (playedItems events) ↔
        (∀ first ∈ (playedItems events).head?, first.songName ≠ []) ∧
          (playedItems events).IsChain
            (KeyTells NowPlayingSongItem.songName NowPlayingSongItem.nameAndArtists)) := by
  constructor
  · have hstep : ∀ (s : PlayingState) (event : PlayingEvent) (s' : PlayingState), True →
        s.step event = .ok s' → True ∧ s.ObserversFetch event s' :=
      fun _ _ _ _ hok => ⟨trivial, step_observersFetch hok⟩
    exact EventRun.everyStep_of_invariant hstep trivial events
  · have hname : ∀ item item' : NowPlayingSongItem, item.nameAndArtists = item'.nameAndArtists →
        item.songName = item'.songName := fun _ _ hsame => congrArg Prod.fst hsame
    have htrace : EventRun.trace step postsRefreshQueue init events =
        detect NowPlayingSongItem.songName init.bar.currentSong (playedItems events) :=
      trace_eq_detect step_detects hrun
    rw [htrace]
    exact detect_eq_changes hname _ _

/-- Two songs with different names. -/
theorem postsRefreshQueue_iff_twoSongs :
    ∃ s, EventRun.run step init [.queueViewDidAppear, .updateSongAndArtist,
        .getIsPlayingCompleted 0 (.result (some ⟨⟨nsstring ['a'], some [nsstring ['b']], none⟩,
          true, false⟩)), .updateSongAndArtist,
        .getIsPlayingCompleted 1 (.result (some ⟨⟨nsstring ['c'], some [nsstring ['b']], none⟩,
          true, false⟩))] = .ok s ∧
      EventRun.trace step postsRefreshQueue init [.queueViewDidAppear, .updateSongAndArtist,
        .getIsPlayingCompleted 0 (.result (some ⟨⟨nsstring ['a'], some [nsstring ['b']], none⟩,
          true, false⟩)), .updateSongAndArtist,
        .getIsPlayingCompleted 1 (.result (some ⟨⟨nsstring ['c'], some [nsstring ['b']], none⟩,
          true, false⟩))] = [true, true] :=
  ⟨_, rfl, (postsRefreshQueue_iff _ _ rfl).2.mpr (by decide)⟩

/-- Another artist's song of the same name is not noticed. -/
theorem postsRefreshQueue_sameName :
    ∃ s, EventRun.run step init [.queueViewDidAppear, .updateSongAndArtist,
        .getIsPlayingCompleted 0 (.result (some ⟨⟨nsstring ['a'], some [nsstring ['b']], none⟩,
          true, false⟩)), .updateSongAndArtist,
        .getIsPlayingCompleted 1 (.result (some ⟨⟨nsstring ['a'], some [nsstring ['c']], none⟩,
          true, false⟩))] = .ok s ∧
      s.getSongQueueCalls.length = 1 ∧
      EventRun.trace step postsRefreshQueue init [.queueViewDidAppear, .updateSongAndArtist,
        .getIsPlayingCompleted 0 (.result (some ⟨⟨nsstring ['a'], some [nsstring ['b']], none⟩,
          true, false⟩)), .updateSongAndArtist,
        .getIsPlayingCompleted 1 (.result (some ⟨⟨nsstring ['a'], some [nsstring ['c']], none⟩,
          true, false⟩))] ≠ [true, true] :=
  ⟨_, rfl, rfl, by decide⟩

end PlayingState

end CrowdSound

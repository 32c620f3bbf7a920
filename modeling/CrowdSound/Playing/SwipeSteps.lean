import CrowdSound.Playing.PlayingTables

/-!
# Rows, the vote flag and skips

What a step does to the row counts of the tables, to the flag that holds back the bar's refresh,
and to the skips. Few events touch any of these.
-/

namespace CrowdSound

open RequestTable

/-- The part of the state that swipes depend on, the fetched items apart. -/
structure SwipeView where
  queueRows : List Nat
  barRows : List Nat
  barVoteOccurring : Bool
  skippedSong : NSString
  voteToSkipCalls : List (Entry NSString)

namespace PlayingState

def swipeView (s : PlayingState) : SwipeView :=
  ⟨s.queue.rowCounts, s.bar.rowCounts, s.bar.isVoteOccurring, s.bar.skippedSong,
    s.voteToSkipCalls⟩

/-- A step keeps the view, reloads a table, sets the flag, refuses or makes a skip, or settles
one. -/
inductive SwipeStep (s : PlayingState) (event : PlayingEvent) (s' : PlayingState) : Prop where
  | keeps (hflag : event ≠ .didChangeState .bar) (hskip : event ≠ .skip)
      (hsettled : ∀ call error, event ≠ .voteToSkipCompleted call error)
      (hview : s'.swipeView = s.swipeView)
  | reloads (table : PlayingTable) (hevent : event = .mainQueueBlock)
      (hview : s'.swipeView = (s.reloadData table).swipeView)
  | flags (hevent : event = .didChangeState .bar)
      (hview : s'.swipeView = { s.swipeView with barVoteOccurring := true })
  | refuses (item : NowPlayingSongItem) (hevent : event = .skip)
      (hitem : objectAtIndex s.bar.songsForTableView 0 = .ok item)
      (hskipped : s.bar.skippedSong = item.song.name) (hview : s'.swipeView = s.swipeView)
  | skips (item : NowPlayingSongItem) (hevent : event = .skip)
      (hitem : objectAtIndex s.bar.songsForTableView 0 = .ok item)
      (hskipped : s.bar.skippedSong ≠ item.song.name)
      (hview : s'.swipeView = { s.swipeView with
        voteToSkipCalls := issue s.voteToSkipCalls item.song.name })
  | settles (call : Nat) (error : Option NSError) (songName : NSString)
      (hevent : event = .voteToSkipCompleted call error)
      (hcalls : settle s.voteToSkipCalls call error.isNone = some (songName, s'.voteToSkipCalls))
      (hview : s'.swipeView = { s.swipeView with
        skippedSong := songName, voteToSkipCalls := s'.voteToSkipCalls })

private theorem voteCallback_swipeView {table : PlayingTable} {value : Bool}
    {s s' : PlayingState} {indexPath : NSIndexPath}
    (h : voteCallback table value s indexPath = .ok s') : s'.swipeView = s.swipeView := by
  obtain ⟨vote, _, hs'⟩ := voteCallback_ok h
  rw [hs']
  rfl

private theorem getIsPlayingContinuation_swipeView (s : PlayingState)
    (outcome : BFOutcome (Option NowPlayingSongItem)) :
    (s.getIsPlayingContinuation outcome).swipeView = s.swipeView := by
  rcases outcome with (_ | item) | error
  · rfl
  · rw [getIsPlayingContinuation_item]
    rfl
  · rfl

theorem step_swipeStep {s s' : PlayingState} {event : PlayingEvent}
    (h : s.step event = .ok s') : SwipeStep s event s' := by
  cases step_ok h with
  | appears => exact .keeps nofun nofun nofun rfl
  | disappears => exact .keeps nofun nofun nofun rfl
  | updatesQueue => exact .keeps nofun nofun nofun rfl
  | updatesBar =>
      refine .keeps nofun nofun nofun ?_
      unfold updateSongAndArtist
      split <;> rfl
  | swipes table =>
      cases table with
      | queue => exact .keeps nofun nofun nofun rfl
      | bar => exact .flags rfl rfl
  | upVotes table indexPath _ hvote =>
      exact .keeps nofun nofun nofun (voteCallback_swipeView hvote)
  | downVotes table indexPath _ hvote =>
      exact .keeps nofun nofun nofun (voteCallback_swipeView hvote)
  | refuses item hitem hskipped => exact .refuses item rfl hitem hskipped rfl
  | skips item hitem hskipped => exact .skips item rfl hitem hskipped rfl
  | queueArrives call outcome getSongQueueCalls _ =>
      refine .keeps nofun nofun nofun ?_
      cases outcome <;> rfl
  | songArrives call outcome getIsPlayingCalls _ =>
      exact .keeps nofun nofun nofun (getIsPlayingContinuation_swipeView _ outcome)
  | voteSettles call error vote voteForSongCalls _ =>
      refine .keeps nofun nofun nofun ?_
      cases error <;> rfl
  | skipSettles call error songName voteToSkipCalls hsettle =>
      exact .settles call error songName rfl hsettle rfl
  | reloads table mainQueue _ =>
      apply SwipeStep.reloads table rfl
      cases table <;> rfl

end PlayingState

end CrowdSound

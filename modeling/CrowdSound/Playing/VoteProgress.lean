import CrowdSound.Playing.ScreenRuns

/-!
# The vote flag of the bar

The flag `isVoteOccurring` holds back the refresh of the bar. Only the will-trigger block of the
down-vote action sets it and nothing clears it, so it says whether a down-vote has ever begun.
-/

namespace CrowdSound

open RequestTable

namespace PlayingState

private theorem step_isVoteOccurring {s s' : PlayingState} {event : PlayingEvent}
    (h : s.step event = .ok s') :
    s'.bar.isVoteOccurring = true ↔
      s.bar.isVoteOccurring = true ∨ event = .didChangeState .bar := by
  have hview : ∀ t : PlayingState, s'.swipeView.barVoteOccurring = t.swipeView.barVoteOccurring →
      s'.bar.isVoteOccurring = t.bar.isVoteOccurring := fun _ heq => heq
  cases step_swipeStep h with
  | keeps hflag _ _ heq =>
      rw [hview s (by rw [heq])]
      simp [hflag]
  | reloads table hevent heq =>
      rw [hview (s.reloadData table) (by rw [heq]), hevent]
      cases table <;> simp [reloadData]
  | flags hevent heq =>
      have hset : s'.bar.isVoteOccurring = true := congrArg SwipeView.barVoteOccurring heq
      simp [hset, hevent]
  | refuses item hevent _ _ heq =>
      rw [hview s (by rw [heq]), hevent]
      simp
  | skips item hevent _ _ heq =>
      rw [hview s (by rw [heq]), hevent]
      simp
  | settles call error songName hevent _ heq =>
      rw [hview s (by rw [heq]), hevent]
      simp

theorem run_isVoteOccurring {events : List PlayingEvent} {s : PlayingState}
    (h : EventRun.run step init events = .ok s) :
    s.bar.isVoteOccurring = true ↔ .didChangeState .bar ∈ events := by
  refine EventRun.run_history (I := fun past t =>
    t.bar.isVoteOccurring = true ↔ .didChangeState .bar ∈ past) ?_ ?_ h
  · intro past t event t' ht hstep
    rw [step_isVoteOccurring hstep, ht]
    simp [eq_comm]
  · simp [init]

private theorem updateSongAndArtist_issues (s : PlayingState) :
    s.updateSongAndArtist.getIsPlayingCalls = issue s.getIsPlayingCalls () ↔
      ¬ s.bar.isVoteOccurring = true := by
  unfold updateSongAndArtist
  by_cases hflag : s.bar.isVoteOccurring = true
  · simp [hflag, issue]
  · simp [hflag]

end PlayingState

namespace SlideGesture

def votesOnBar (gesture : SlideGesture) : Prop :=
  gesture.table = .bar ∧
    (gesture.action = configureUpvoteAction ∨ gesture.action = configureDownvoteAction)

end SlideGesture

namespace Screen

def VoteInProgress (s : Screen) : Prop := ∃ gesture ∈ s.gestures, gesture.votesOnBar

def DownVoteBegun (events : List ScreenEvent) : Prop :=
  ∃ indexPath, .willTrigger ⟨.bar, indexPath, configureDownvoteAction⟩ ∈ events

private theorem step_setsFlag {s s' : Screen} {event : ScreenEvent} (hs : s.GesturesConfigured)
    (h : s.step event = .ok s') :
    .didChangeState .bar ∈ event.playingEvents ↔
      ∃ indexPath, event = .willTrigger ⟨.bar, indexPath, configureDownvoteAction⟩ := by
  cases event with
  | background event =>
      obtain ⟨hgesture, _, _⟩ := step_background_ok h
      simp only [ScreenEvent.playingEvents, List.mem_singleton, reduceCtorEq, exists_false,
        iff_false]
      rintro rfl
      exact absurd hgesture (by decide)
  | cellForRow table indexPath dequeued => simp [ScreenEvent.playingEvents]
  | willTrigger gesture =>
      obtain ⟨⟨_, haction⟩, _, _⟩ := step_willTrigger_ok h
      obtain ⟨table, indexPath, action⟩ := gesture
      rcases PlayingTable.mem_slideActions.mp haction with rfl | rfl | ⟨rfl, rfl⟩
      · simp [ScreenEvent.playingEvents, configureUpvoteAction, configureDownvoteAction]
      · simp [ScreenEvent.playingEvents, configureDownvoteAction, SlideBlock.event, eq_comm]
      · simp [ScreenEvent.playingEvents, configureSkipAction, configureDownvoteAction]
  | didTrigger gesture =>
      obtain ⟨⟨_, hgesture⟩, _, _⟩ := step_didTrigger_ok h
      have haction := hs gesture hgesture
      simp only [ScreenEvent.playingEvents, List.mem_singleton, reduceCtorEq, exists_false,
        iff_false]
      -- no did-trigger block sets the flag
      have hblock : gesture.action.didTriggerBlock ≠ .didChangeStateCallback := by
        rcases PlayingTable.mem_slideActions.mp haction with haction | haction | ⟨_, haction⟩ <;>
          rw [haction] <;> decide
      cases hdid : gesture.action.didTriggerBlock with
      | didChangeStateCallback => exact absurd hdid hblock
      | upVoteCallback => simp [SlideBlock.event]
      | downVoteCallback => simp [SlideBlock.event]
      | skipCallback => simp [SlideBlock.event]

theorem run_downVoteBegun {events : List ScreenEvent} {s : Screen}
    (h : EventRun.run step init events = .ok s) :
    s.playing.bar.isVoteOccurring = true ↔ DownVoteBegun events := by
  rw [PlayingState.run_isVoteOccurring (run_playing h)]
  refine (EventRun.run_history (I := fun past t => t.GesturesConfigured ∧
    (.didChangeState .bar ∈ playingEvents past ↔ DownVoteBegun past)) ?_ ?_ h).2
  · intro past t event t' ⟨ht, hpast⟩ hstep
    refine ⟨step_gesturesConfigured ht hstep, ?_⟩
    have hsets := step_setsFlag ht hstep
    simp only [playingEvents, DownVoteBegun] at hpast ⊢
    simp only [List.flatMap_append, List.mem_append, hpast, List.flatMap_singleton, hsets,
      List.mem_singleton, exists_or, eq_comm]
  · exact ⟨by simp [GesturesConfigured, init], by simp [playingEvents, DownVoteBegun]⟩

/-- A timer tick of the bar makes a request. -/
def TickIssues (s : Screen) : Prop :=
  ∃ s', s.step (.background .updateSongAndArtist) = .ok s' ∧
    s'.playing.getIsPlayingCalls = issue s.playing.getIsPlayingCalls ()

private theorem tickIssues_iff (s : Screen) :
    s.TickIssues ↔ ¬ s.playing.bar.isVoteOccurring = true := by
  rw [← PlayingState.updateSongAndArtist_issues]
  constructor
  · rintro ⟨s', hstep, hissues⟩
    obtain ⟨_, hplaying, _⟩ := step_background_ok hstep
    rw [← Except.ok.inj hplaying] at hissues
    exact hissues
  · intro hissues
    exact ⟨_, rfl, hissues⟩

/-- In every run the flag tracks the votes exactly when these agree with the down-votes that have
ever begun. -/
theorem voteFlag_iff (events : List ScreenEvent) (s : Screen)
    (hrun : EventRun.run step init events = .ok s) :
    (s.playing.bar.isVoteOccurring = true ↔ s.VoteInProgress) ∧
        (s.gestures = [] → s.TickIssues) ↔
      (DownVoteBegun events ↔ s.VoteInProgress) := by
  rw [run_downVoteBegun hrun]
  constructor
  · exact And.left
  · intro hbegun
    refine ⟨hbegun, ?_⟩
    intro hgestures
    rw [tickIssues_iff, run_downVoteBegun hrun, hbegun]
    simp [VoteInProgress, hgestures]

theorem voteFlag_iff_duringDownVote :
    ∃ s, EventRun.run step init
        [.willTrigger ⟨.bar, ⟨0, 0⟩, configureDownvoteAction⟩] = .ok s ∧
      (s.playing.bar.isVoteOccurring = true ↔ s.VoteInProgress) ∧
        (s.gestures = [] → s.TickIssues) := by
  refine ⟨_, rfl, (voteFlag_iff [.willTrigger ⟨.bar, ⟨0, 0⟩, configureDownvoteAction⟩] _
    rfl).mpr ?_⟩
  simp [DownVoteBegun, VoteInProgress, SlideGesture.votesOnBar, init]

/-- After a down-vote the flag stays set, and the ticks of the timer do nothing. -/
theorem downVote_leavesFlag :
    ∃ s, EventRun.run step init [.background .updateSongAndArtist, .background
        (.getIsPlayingCompleted 0 (.result (some ⟨⟨nsstring ['a'], some [nsstring ['b']], none⟩,
          true, false⟩))), .willTrigger ⟨.bar, ⟨0, 0⟩, configureDownvoteAction⟩,
        .didTrigger ⟨.bar, ⟨0, 0⟩, configureDownvoteAction⟩] = .ok s ∧
      s.gestures = [] ∧ ¬ s.VoteInProgress ∧ s.playing.bar.isVoteOccurring = true ∧
      ¬ s.TickIssues := by
  refine ⟨_, rfl, rfl, ?_, rfl, ?_⟩
  · rintro ⟨gesture, hgesture, _⟩
    exact nomatch hgesture
  · rw [tickIssues_iff]
    exact fun hnot => hnot rfl

end Screen

end CrowdSound

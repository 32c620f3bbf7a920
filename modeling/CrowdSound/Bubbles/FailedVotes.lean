import CrowdSound.Bubbles.TrendingVotes
import CrowdSound.Library.RequestTable

/-!
# Failed artist votes

A bubble takes the state of a vote before the request for it is made, and a failed request only
shows a message. So the bubble shows a vote that the server never got, and refuses the gesture
that would repeat it.
-/

namespace CrowdSound

open RequestTable KeyedHistory

structure TWMessage where
  title : String
  description : String
  deriving DecidableEq

structure VotingScene where
  trending : TrendingState
  voteForArtistCalls : List (Entry ArtistVote)
  messages : List TWMessage

inductive VotingEvent where
  | trending (event : TrendingViewController.TrendingEvent)
  | voteForArtistCompleted (call : Nat) (error : Option NSError)

namespace VotingScene

open TrendingViewController

def init (size : CGSize) (offsets : BubbleOffsets) (blank : SIFloatingNode BubbleContent) :
    VotingScene :=
  ⟨TrendingViewController.init size offsets blank, [], []⟩

def voteForArtistContinuation (s : VotingScene) (error : Option NSError) : VotingScene :=
  match error with
  | some _ => { s with messages := s.messages ++ [⟨"Error", "Vote could not be sent"⟩] }
  | none => s

def step (g : Geometry) (offsets : BubbleOffsets) (s : VotingScene) :
    VotingEvent → Except Stuck VotingScene
  | .trending event =>
    match TrendingViewController.step g offsets s.trending event with
    | .error stuck => .error stuck
    | .ok trending => .ok { s with
        trending
        voteForArtistCalls := (trending.delegate.drop s.trending.delegate.length).foldl issue
          s.voteForArtistCalls }
  | .voteForArtistCompleted call error =>
    match settle s.voteForArtistCalls call error.isNone with
    | none => .error .notEnabled
    | some (_, voteForArtistCalls) =>
      .ok ({ s with voteForArtistCalls }.voteForArtistContinuation error)

/-- The latest vote on a bubble is this one, it has failed, and none on the bubble is in flight. -/
structure VoteFailed (s : VotingScene) (vote : ArtistVote) : Prop where
  latest : lastWhere (fun entry => entry.payload.node = vote.node) s.voteForArtistCalls =
    some ⟨vote, .failed⟩
  settled : ¬ HasStatus s.voteForArtistCalls .inFlight fun other => other.node = vote.node

def lastSucceeded (s : VotingScene) (node : Nat) : Option Bool :=
  (lastWhere (fun entry => entry.payload.node = node ∧ entry.status = .succeeded)
    s.voteForArtistCalls).map fun entry => entry.payload.value

/-- A tap on the bubble of a like, or a long press on that of a dislike. -/
def RepeatsGesture (s : VotingScene) (vote : ArtistVote) (gesture : List VotingEvent) : Prop :=
  ∃ location began ended hit,
    gesture = [.trending (.scene (.touchesBegan location began)),
      .trending (.scene (.touchesEnded ended hit))] ∧
    location ≠ noTouchPoint ∧ s.trending.scene.Attached hit ∧
    s.trending.scene.nodeAtPoint hit = some (.floating vote.node) ∧
    (ended - began ≤ s.trending.scene.longPressTime ↔ vote.value = true)

/-- The gesture of a vote sends it again, and until then the bubble shows the last vote that
succeeded. -/
structure CanBeCastAgain (g : Geometry) (offsets : BubbleOffsets) (s : VotingScene)
    (vote : ArtistVote) : Prop where
  sendsAgain : ∀ gesture, s.RepeatsGesture vote gesture →
    ∃ s', EventRun.run (step g offsets) s gesture = .ok s' ∧
      s'.voteForArtistCalls = issue s.voteForArtistCalls vote
  reflects : (s.trending.scene.nodes vote.node).state = voteState (s.lastSucceeded vote.node)

/-- The bubbles show the votes that were sent, whatever became of their requests. -/
structure Sends (names : List NSString) (s : VotingScene) : Prop where
  shows : ShowsVotes names s.trending
  sent : s.voteForArtistCalls.map Entry.payload = s.trending.delegate

private theorem foldl_issue_payloads (table : List (Entry ArtistVote)) (votes : List ArtistVote) :
    (votes.foldl issue table).map Entry.payload = table.map Entry.payload ++ votes := by
  induction votes generalizing table with
  | nil => simp
  | cons vote votes ih => simp [ih, issue]

private theorem step_sends (g : Geometry) (offsets : BubbleOffsets) {names : List NSString}
    {s s' : VotingScene} {event : VotingEvent} (h : Sends names s)
    (hok : step g offsets s event = .ok s') : ∃ names', Sends names' s' := by
  cases event with
  | trending event =>
      rcases step_showsVotes g offsets h.shows event with herror | ⟨t, ht, hshows, new, hnew, _⟩
      · simp only [step, herror] at hok
        cases hok
      · simp only [step, ht] at hok
        cases hok
        refine ⟨_, hshows, ?_⟩
        show (List.foldl issue _ (t.delegate.drop s.trending.delegate.length)).map _ = t.delegate
        rw [foldl_issue_payloads, h.sent, hnew, List.drop_left]
  | voteForArtistCompleted call error =>
      simp only [step] at hok
      split at hok
      · cases hok
      next payload voteForArtistCalls hsettle =>
        cases hok
        have hsent := (settle_payloads hsettle).1.trans h.sent
        cases error with
        | none => exact ⟨names, h.shows, hsent⟩
        | some error => exact ⟨names, h.shows, hsent⟩

theorem run_sends (g : Geometry) (size : CGSize) (offsets : BubbleOffsets)
    (blank : SIFloatingNode BubbleContent) {events : List VotingEvent} {s : VotingScene}
    (h : EventRun.run (step g offsets) (init size offsets blank) events = .ok s) :
    ∃ names, Sends names s := by
  have hstep : ∀ (s : VotingScene) (event : VotingEvent) (s' : VotingScene),
      (∃ names, Sends names s) → True → step g offsets s event = .ok s' →
        ∃ names, Sends names s' := by
    intro s event s' hsends _ hok
    obtain ⟨names, hsends⟩ := hsends
    exact step_sends g offsets hsends hok
  have hinit : ∃ names, Sends names (init size offsets blank) :=
    ⟨[], init_showsVotes size offsets blank, rfl⟩
  exact EventRun.run_invariant hstep hinit (fun _ _ => trivial) h

private theorem touchesEnded_shown {names : List NSString} {t : TrendingState}
    (ht : ShowsVotes names t)
    {timestamp : NSTimeInterval} {hit : SKHit} {node : Nat} (hattached : t.scene.Attached hit)
    (hhit : t.scene.nodeAtPoint hit = some (.floating node))
    (hpoint : t.scene.touchPoint ≠ noTouchPoint)
    (hshown : (t.scene.nodes node).state = voteState (some (touchValue t.scene timestamp))) :
    ∃ t', SceneState.touchesEnded floatingDelegate t timestamp hit = .ok t' ∧
      t'.delegate = t.delegate := by
  by_cases hmoving : t.scene.mode = .moving
  · have hnot : ¬ (t.scene.mode ≠ .moving ∧ t.scene.touchPoint ≠ noTouchPoint) :=
      fun hpress => hpress.1 hmoving
    rw [SceneState.touchesEnded, if_neg hnot]
    exact ⟨_, rfl, rfl⟩
  · obtain ⟨_, hpressed⟩ := touchesEnded_press ht timestamp hattached hhit ⟨hmoving, hpoint⟩
    rw [press, if_pos hshown] at hpressed
    exact ⟨_, hpressed, rfl⟩

namespace VoteFailed

variable {names : List NSString} {s : VotingScene} {vote : ArtistVote}

private theorem lastVote_eq (h : s.VoteFailed vote) (hsends : Sends names s) :
    lastVote s.trending.delegate vote.node = some vote.value := by
  rw [lastVote, ← hsends.sent, lastWhere_map, h.latest]
  rfl

private theorem node_lt (h : s.VoteFailed vote) (hsends : Sends names s) :
    vote.node < names.length := by
  have hentry := (lastWhere_mem h.latest).1
  have hvote : vote ∈ s.trending.delegate := by
    rw [← hsends.sent]
    exact List.mem_map_of_mem hentry
  exact (List.getElem?_eq_some_iff.mp (hsends.shows.carried vote hvote)).1

private theorem state_eq (h : s.VoteFailed vote) (hsends : Sends names s) :
    (s.trending.scene.nodes vote.node).state = voteState (some vote.value) := by
  rw [hsends.shows.shown vote.node (h.node_lt hsends), h.lastVote_eq hsends]

theorem gesture_sendsNothing (h : s.VoteFailed vote) (hsends : Sends names s) (g : Geometry)
    (offsets : BubbleOffsets) {gesture : List VotingEvent}
    (hgesture : s.RepeatsGesture vote gesture) :
    ∃ s', EventRun.run (step g offsets) s gesture = .ok s' ∧
      s'.voteForArtistCalls = s.voteForArtistCalls := by
  obtain ⟨location, began, ended, hit, rfl, hlocation, hattached, hhit, hvalue⟩ := hgesture
  let touched : TrendingState :=
    { s.trending with scene := s.trending.scene.touchesBegan location began }
  have htouched : ShowsVotes names touched :=
    hsends.shows.frame rfl rfl rfl rfl rfl rfl rfl (fun _ => rfl) (fun _ => rfl)
  have hsame : touchValue touched.scene ended = vote.value := by
    rw [Bool.eq_iff_iff, touchValue, decide_eq_true_iff]
    exact hvalue
  have hshown : (touched.scene.nodes vote.node).state =
      voteState (some (touchValue touched.scene ended)) := by
    rw [hsame]
    exact h.state_eq hsends
  obtain ⟨t, ht, hdelegate⟩ := touchesEnded_shown htouched hattached hhit hlocation hshown
  refine ⟨{ s with trending := t, voteForArtistCalls := s.voteForArtistCalls }, ?_, rfl⟩
  have hbegan : step g offsets s (.trending (.scene (.touchesBegan location began))) =
      .ok { s with trending := touched } := by
    simp only [step, TrendingViewController.step, SceneState.step, List.drop_length,
      List.foldl_nil]
    rfl
  have hend : step g offsets { s with trending := touched }
      (.trending (.scene (.touchesEnded ended hit))) =
        .ok { s with trending := t, voteForArtistCalls := s.voteForArtistCalls } := by
    have hattached' : touched.scene.Attached hit := hattached
    have hdrop : t.delegate.drop touched.delegate.length = [] := by
      rw [hdelegate]
      exact List.drop_length
    simp only [step, TrendingViewController.step, SceneState.step, if_pos hattached', ht, hdrop,
      List.foldl_nil]
  rw [EventRun.run, hbegan]
  simp only [EventRun.run_singleton, hend]

private theorem exists_gesture (h : s.VoteFailed vote) (hsends : Sends names s) :
    ∃ gesture, s.RepeatsGesture vote gesture := by
  have hmem := hsends.shows.mem_floatingNodes.mpr (h.node_lt hsends)
  refine ⟨_, ⟨0, 0⟩, 0, if vote.value then s.trending.scene.longPressTime else
    s.trending.scene.longPressTime + 1, [.floating vote.node], rfl, by decide, ?_, rfl, ?_⟩
  · intro skNode hnode
    rw [List.mem_singleton.mp hnode]
    simp [SIFloatingCollectionScene.isAttached, hmem]
  · cases vote.value with
    | true => simp
    | false => simp

end VoteFailed

/-- A failed vote can never be cast again: in every run, when the latest vote on a bubble has
failed and none on it is in flight, its gesture sends nothing, and the bubble shows the last vote
that succeeded only where that had the same value. -/
theorem failedVote_stays (g : Geometry) (size : CGSize) (offsets : BubbleOffsets)
    (blank : SIFloatingNode BubbleContent) (events : List VotingEvent) (s : VotingScene)
    (vote : ArtistVote)
    (hrun : EventRun.run (step g offsets) (init size offsets blank) events = .ok s)
    (hfailed : s.VoteFailed vote) :
    ¬ s.CanBeCastAgain g offsets vote ∧
      (∀ gesture, s.RepeatsGesture vote gesture →
        ∃ s', EventRun.run (step g offsets) s gesture = .ok s' ∧
          s'.voteForArtistCalls = s.voteForArtistCalls) ∧
      ((s.trending.scene.nodes vote.node).state = voteState (s.lastSucceeded vote.node) ↔
        s.lastSucceeded vote.node = some vote.value) := by
  obtain ⟨names, hsends⟩ := run_sends g size offsets blank hrun
  refine ⟨?_, fun _ => hfailed.gesture_sendsNothing hsends g offsets, ?_⟩
  · intro hagain
    obtain ⟨gesture, hgesture⟩ := hfailed.exists_gesture hsends
    obtain ⟨s', hs', hsame⟩ := hfailed.gesture_sendsNothing hsends g offsets hgesture
    obtain ⟨t, ht, hsent⟩ := hagain.sendsAgain gesture hgesture
    have hst := Except.ok.inj (hs'.symm.trans ht)
    rw [← hst, hsame] at hsent
    exact ne_issue _ _ hsent
  · rw [hfailed.state_eq hsends, voteState_injective.eq_iff]
    exact eq_comm

/-- A bubble is added and tapped, and the request fails. -/
def failedTap : List VotingEvent :=
  [.trending (.addArtist (nsstring ['d', 'r', 'a', 'k', 'e']) 30 ⟨0, 0, 0⟩),
    .trending (.scene (.touchesBegan ⟨5, 5⟩ 1)),
    .trending (.scene (.touchesEnded (11 / 10) [.floating 0])),
    .voteForArtistCompleted 0 (some ⟨nsstring ['g', 'r', 'p', 'c'], 14⟩)]

theorem run_failedTap :
    ∃ s, EventRun.run (step ⟨id, max, fun radius => ⟨2 * radius, 2 * radius⟩⟩ ⟨200, 64⟩)
        (init ⟨320, 480⟩ ⟨200, 64⟩ ⟨.normal, .normal, true, 0, ⟨0, 0⟩, ⟨0, 0⟩, true, ⟨[], none⟩⟩)
        failedTap = .ok s ∧
      s.voteForArtistCalls = [⟨⟨0, nsstring ['d', 'r', 'a', 'k', 'e'], true⟩, .failed⟩] ∧
      (s.trending.scene.nodes 0).state = .tapped := by
  have hany : (EventRun.run (step ⟨id, max, fun radius => ⟨2 * radius, 2 * radius⟩⟩ ⟨200, 64⟩)
      (init ⟨320, 480⟩ ⟨200, 64⟩ ⟨.normal, .normal, true, 0, ⟨0, 0⟩, ⟨0, 0⟩, true, ⟨[], none⟩⟩)
      failedTap).toOption.any (fun s => decide (s.voteForArtistCalls =
        [⟨⟨0, nsstring ['d', 'r', 'a', 'k', 'e'], true⟩, .failed⟩] ∧
          (s.trending.scene.nodes 0).state = .tapped)) = true := by
    decide +kernel
  obtain ⟨s, hs, hp⟩ := EventRun.exists_ok_of_any hany
  exact ⟨s, hs, of_decide_eq_true hp⟩

private theorem voteFailed_of_single {s : VotingScene} {vote : ArtistVote}
    (h : s.voteForArtistCalls = [⟨vote, .failed⟩]) : s.VoteFailed vote := by
  constructor
  · simp [h, lastWhere]
  · simp [h, HasStatus]

theorem failedVote_stays_tap :
    ∃ s, EventRun.run (step ⟨id, max, fun radius => ⟨2 * radius, 2 * radius⟩⟩ ⟨200, 64⟩)
        (init ⟨320, 480⟩ ⟨200, 64⟩ ⟨.normal, .normal, true, 0, ⟨0, 0⟩, ⟨0, 0⟩, true, ⟨[], none⟩⟩)
        failedTap = .ok s ∧
      ∀ gesture, s.RepeatsGesture ⟨0, nsstring ['d', 'r', 'a', 'k', 'e'], true⟩ gesture →
        ∃ s', EventRun.run (step ⟨id, max, fun radius => ⟨2 * radius, 2 * radius⟩⟩ ⟨200, 64⟩) s
            gesture = .ok s' ∧ s'.voteForArtistCalls = s.voteForArtistCalls := by
  obtain ⟨s, hs, hcalls, _⟩ := run_failedTap
  exact ⟨s, hs, (failedVote_stays _ _ _ _ _ s _ hs (voteFailed_of_single hcalls)).2.1⟩

/-- After a tap whose request failed the bubble stays tapped, though no vote succeeded. -/
theorem failedTap_staysTapped :
    ∃ s, EventRun.run (step ⟨id, max, fun radius => ⟨2 * radius, 2 * radius⟩⟩ ⟨200, 64⟩)
        (init ⟨320, 480⟩ ⟨200, 64⟩ ⟨.normal, .normal, true, 0, ⟨0, 0⟩, ⟨0, 0⟩, true, ⟨[], none⟩⟩)
        failedTap = .ok s ∧
      s.VoteFailed ⟨0, nsstring ['d', 'r', 'a', 'k', 'e'], true⟩ ∧
      ¬ s.CanBeCastAgain ⟨id, max, fun radius => ⟨2 * radius, 2 * radius⟩⟩ ⟨200, 64⟩
        ⟨0, nsstring ['d', 'r', 'a', 'k', 'e'], true⟩ := by
  obtain ⟨s, hs, hcalls, htapped⟩ := run_failedTap
  refine ⟨s, hs, voteFailed_of_single hcalls, ?_⟩
  intro hagain
  have hreflects := hagain.reflects
  rw [htapped, lastSucceeded, hcalls] at hreflects
  exact absurd hreflects (by decide)

end VotingScene

end CrowdSound

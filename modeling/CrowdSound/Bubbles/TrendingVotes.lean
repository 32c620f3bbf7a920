import CrowdSound.Bubbles.Trending

/-!
# The votes of the trending scene

Seen from outside, a bubble is a toggle with three positions: a press with the value of its last
vote does nothing, a press with the other value is recorded, and the state of the bubble shows the
last vote recorded. The scene with its delegate behaves so for every run of touches, updates and
arrivals of artists, and no run of it raises.
-/

namespace CrowdSound

open KeyedHistory

namespace TrendingViewController

/-- The state that shows the last vote on a bubble. -/
def voteState : Option Bool → SIFloatingNodeState
  | none => .normal
  | some true => .tapped
  | some false => .longPressed

theorem voteState_injective : Function.Injective voteState := by
  intro a b h
  rcases a with _ | _ | _ <;> rcases b with _ | _ | _ <;> first | rfl | exact nomatch h

private theorem voteState_ne_removing (value : Option Bool) : voteState value ≠ .removing := by
  rcases value with _ | _ | _ <;> decide

def lastVote (votes : List ArtistVote) (node : Nat) : Option Bool :=
  (lastWhere (fun vote => vote.node = node) votes).map ArtistVote.value

private theorem lastVote_snoc (votes : List ArtistVote) (vote : ArtistVote) (node : Nat) :
    lastVote (votes ++ [vote]) node =
      if vote.node = node then some vote.value else lastVote votes node := by
  rw [lastVote, lastWhere_snoc]
  by_cases h : vote.node = node
  · simp [h]
  · simp [h, lastVote]

/-- Press a bubble with a value: nothing happens if the bubble already shows it. -/
def press (value : Bool) (s : TrendingState) (node : Nat) : TrendingState :=
  if (s.scene.nodes node).state = voteState (some value) then s
  else
    { scene := s.scene.setState node (voteState (some value))
      delegate := s.delegate ++
        [{ node, artist := BubbleNode.artist (s.scene.nodes node).content, value }] }

private theorem tell_performVote (value : Bool) (s : TrendingState) (node : Nat)
    (h : node ∈ s.scene.floatingNodes) :
    SceneState.tell (some (performVoteForNodeAtIndex value))
        (s.setState node (voteState (some value))) (indexOfObject s.scene.floatingNodes node) =
      .ok { scene := s.scene.setState node (voteState (some value))
            delegate := s.delegate ++
              [{ node, artist := BubbleNode.artist (s.scene.nodes node).content, value }] } := by
  have hindex : objectAtIndex (s.scene.setState node (voteState (some value))).floatingNodes
      (indexOfObject s.scene.floatingNodes node) = .ok node := objectAtIndex_indexOfObject h
  have hcontent := s.scene.setState_content node (voteState (some value)) node
  simp only [SceneState.tell, SceneState.setState, performVoteForNodeAtIndex, hindex]
  rw [← hcontent]
  rfl

private theorem updateNodeState_eq_press (s : TrendingState) (node : Nat)
    (hnode : node ∈ s.scene.floatingNodes) (hmultiple : s.scene.allowMultipleSelection = true)
    (hstate : (s.scene.nodes node).state ≠ .removing) :
    s.updateNodeState floatingDelegate node = .ok (press true s node) := by
  have htell := tell_performVote true s node hnode
  have hselected : ∀ f, s.updateSelectedNode f = .ok s := by
    intro f
    simp [SceneState.updateSelectedNode, hmultiple]
  cases hs : (s.scene.nodes node).state with
  | normal =>
      have hnew : (s.scene.nodes node).state ≠ voteState (some true) := by
        rw [hs]
        decide
      rw [press, if_neg hnew, ← htell, SceneState.updateNodeState, SceneState.updateNodeStateBody]
      simp only [hs, SceneState.ask, floatingDelegate, hselected, if_true]
      rfl
  | tapped =>
      have hshown : (s.scene.nodes node).state = voteState (some true) := hs
      rw [press, if_pos hshown]
      exact SceneState.updateNodeStateBody_tapped floatingDelegate _ s node hs
  | longPressed =>
      have hnew : (s.scene.nodes node).state ≠ voteState (some true) := by
        rw [hs]
        decide
      rw [press, if_neg hnew, ← htell, SceneState.updateNodeState, SceneState.updateNodeStateBody]
      simp only [hs, SceneState.ask, floatingDelegate, if_true]
      rfl
  | removing => exact absurd hs hstate

private theorem updateNodeStateWhenLongPressed_eq_press (s : TrendingState) (node : Nat)
    (hnode : node ∈ s.scene.floatingNodes)
    (hstate : (s.scene.nodes node).state ≠ .removing) :
    s.updateNodeStateWhenLongPressed floatingDelegate node = .ok (press false s node) := by
  have htell := tell_performVote false s node hnode
  cases hs : (s.scene.nodes node).state with
  | normal =>
      have hnew : (s.scene.nodes node).state ≠ voteState (some false) := by
        rw [hs]
        decide
      rw [press, if_neg hnew, ← htell]
      simp only [SceneState.updateNodeStateWhenLongPressed, hs]
      rfl
  | tapped =>
      have hnew : (s.scene.nodes node).state ≠ voteState (some false) := by
        rw [hs]
        decide
      rw [press, if_neg hnew, ← htell]
      simp only [SceneState.updateNodeStateWhenLongPressed, hs]
      rfl
  | longPressed =>
      have hshown : (s.scene.nodes node).state = voteState (some false) := hs
      rw [press, if_pos hshown]
      simp only [SceneState.updateNodeStateWhenLongPressed, hs]
  | removing => exact absurd hs hstate

/-- The scene holds one bubble for each name, in order, and every bubble shows its last vote. -/
structure ShowsVotes (names : List NSString) (s : TrendingState) : Prop where
  editing : s.scene.allowEditing = false
  multiple : s.scene.allowMultipleSelection = true
  enabled : s.scene.userInteractionEnabled = true
  fading : s.scene.fadingOut = []
  created : s.scene.created = names.length
  floating : s.scene.floatingNodes = List.range names.length
  named : ∀ node < names.length,
    names[node]? = some (BubbleNode.artist (s.scene.nodes node).content)
  shown : ∀ node < names.length,
    (s.scene.nodes node).state = voteState (lastVote s.delegate node)
  carried : ∀ vote ∈ s.delegate, names[vote.node]? = some vote.artist
  alternating : Alternates ArtistVote.node ArtistVote.value s.delegate

namespace ShowsVotes

variable {names : List NSString} {s s' : TrendingState}

theorem mem_floatingNodes (h : ShowsVotes names s) {node : Nat} :
    node ∈ s.scene.floatingNodes ↔ node < names.length := by
  rw [h.floating, List.mem_range]

theorem frame (h : ShowsVotes names s)
    (hdelegate : s'.delegate = s.delegate)
    (hediting : s'.scene.allowEditing = s.scene.allowEditing)
    (hmultiple : s'.scene.allowMultipleSelection = s.scene.allowMultipleSelection)
    (henabled : s'.scene.userInteractionEnabled = s.scene.userInteractionEnabled)
    (hfading : s'.scene.fadingOut = s.scene.fadingOut)
    (hcreated : s'.scene.created = s.scene.created)
    (hfloating : s'.scene.floatingNodes = s.scene.floatingNodes)
    (hstate : ∀ node, (s'.scene.nodes node).state = (s.scene.nodes node).state)
    (hcontent : ∀ node, (s'.scene.nodes node).content = (s.scene.nodes node).content) :
    ShowsVotes names s' where
  editing := hediting.trans h.editing
  multiple := hmultiple.trans h.multiple
  enabled := henabled.trans h.enabled
  fading := hfading.trans h.fading
  created := hcreated.trans h.created
  floating := hfloating.trans h.floating
  named := by
    intro node hlt
    rw [hcontent]
    exact h.named node hlt
  shown := by
    intro node hlt
    rw [hstate, hdelegate]
    exact h.shown node hlt
  carried := by
    rw [hdelegate]
    exact h.carried
  alternating := by
    rw [hdelegate]
    exact h.alternating

private theorem lastVote_none (h : ShowsVotes names s) {node : Nat} (hnew : names.length ≤ node) :
    lastVote s.delegate node = none := by
  have hnone : lastWhere (fun vote => vote.node = node) s.delegate = none := by
    rw [lastWhere_eq_none]
    intro vote hm
    have hcarried := h.carried vote hm
    obtain ⟨hlt, _⟩ := List.getElem?_eq_some_iff.mp hcarried
    exact decide_eq_false (by omega)
  rw [lastVote, hnone]
  rfl

private theorem addArtist (h : ShowsVotes names s) (offsets : BubbleOffsets)
    (bubble : SIFloatingNode BubbleContent) (draws : BubbleScene.Draws)
    (hnormal : bubble.state = .normal) :
    ShowsVotes (names ++ [BubbleNode.artist bubble.content])
      { s with scene := BubbleScene.addChild offsets s.scene bubble draws } := by
  have hold : ∀ node < names.length,
      (BubbleScene.addChild offsets s.scene bubble draws).nodes node = s.scene.nodes node := by
    intro node hlt
    have hne : node ≠ s.scene.created := by
      rw [h.created]
      omega
    simp [BubbleScene.addChild, SIFloatingCollectionScene.addChild, hne]
  have hnew : ((BubbleScene.addChild offsets s.scene bubble draws).nodes names.length).state =
        .normal ∧
      ((BubbleScene.addChild offsets s.scene bubble draws).nodes names.length).content =
        bubble.content := by
    simp [BubbleScene.addChild, SIFloatingCollectionScene.addChild, ← h.created, hnormal,
      SIFloatingCollectionScene.configureNode]
  refine ⟨h.editing, h.multiple, h.enabled, h.fading, ?_, ?_, ?_, ?_, ?_, h.alternating⟩
  · simp [BubbleScene.addChild, SIFloatingCollectionScene.addChild, h.created]
  · simp [BubbleScene.addChild, SIFloatingCollectionScene.addChild, h.created, h.floating,
      List.range_succ]
  · intro node hlt
    rw [List.length_append, List.length_singleton] at hlt
    by_cases hlast : node = names.length
    · subst hlast
      rw [hnew.2]
      simp
    · have hlt' : node < names.length := by omega
      rw [hold node hlt', List.getElem?_append_left hlt']
      exact h.named node hlt'
  · intro node hlt
    rw [List.length_append, List.length_singleton] at hlt
    by_cases hlast : node = names.length
    · subst hlast
      rw [hnew.1, h.lastVote_none (Nat.le_refl _)]
      rfl
    · have hlt' : node < names.length := by omega
      rw [hold node hlt']
      exact h.shown node hlt'
  · intro vote hm
    have hcarried := h.carried vote hm
    obtain ⟨hlt, _⟩ := List.getElem?_eq_some_iff.mp hcarried
    rw [List.getElem?_append_left hlt]
    exact hcarried

private theorem press (h : ShowsVotes names s) (value : Bool) {node : Nat}
    (hnode : node < names.length) :
    ShowsVotes names (press value s node) := by
  unfold TrendingViewController.press
  split
  · exact h
  next hnew =>
    have hvalue : lastVote s.delegate node ≠ some value := by
      intro hlast
      exact hnew (by rw [h.shown node hnode, hlast])
    refine ⟨h.editing, h.multiple, h.enabled, h.fading, h.created, h.floating, ?_, ?_, ?_, ?_⟩
    · intro node' hlt
      rw [SIFloatingCollectionScene.setState_content]
      exact h.named node' hlt
    · intro node' hlt
      rw [SIFloatingCollectionScene.setState_state, lastVote_snoc]
      by_cases hsame : node' = node
      · simp [hsame]
      · rw [if_neg hsame, if_neg (Ne.symm hsame)]
        exact h.shown node' hlt
    · intro vote hm
      rcases List.mem_append.mp hm with hm | hm
      · exact h.carried vote hm
      · rw [List.mem_singleton.mp hm]
        exact h.named node hnode
    · refine alternates_snoc h.alternating _ ?_
      intro vote hlast heq
      apply hvalue
      rw [lastVote, hlast]
      exact congrArg some heq

end ShowsVotes

/-- The votes an event makes are on the bubble that its touch hit. -/
def VotesForHit (s : TrendingState) (event : TrendingEvent) (s' : TrendingState) : Prop :=
  ∃ new, s'.delegate = s.delegate ++ new ∧
    ∀ vote ∈ new, ∃ timestamp hit, event = .scene (.touchesEnded timestamp hit) ∧
      s.scene.nodeAtPoint hit = some (.floating vote.node)

private theorem votesForHit_same {s s' : TrendingState} (event : TrendingEvent)
    (h : s'.delegate = s.delegate) : VotesForHit s event s' :=
  ⟨[], by simpa using h, by simp⟩

/-- The vote of a touch that ends: a short one likes. -/
def touchValue (scene : SIFloatingCollectionScene BubbleContent) (timestamp : NSTimeInterval) :
    Bool :=
  decide (timestamp - scene.touchStartedTime ≤ scene.longPressTime)

theorem touchesEnded_press {names : List NSString} {s : TrendingState} (h : ShowsVotes names s)
    (timestamp : NSTimeInterval) {hit : SKHit} {node : Nat}
    (hattached : s.scene.Attached hit)
    (hhit : s.scene.nodeAtPoint hit = some (.floating node))
    (hpress : s.scene.mode ≠ .moving ∧ s.scene.touchPoint ≠ noTouchPoint) :
    node < names.length ∧
      SceneState.touchesEnded floatingDelegate s timestamp hit =
        .ok { press (touchValue s.scene timestamp) s node with
          scene := { (press (touchValue s.scene timestamp) s node).scene with mode := .normal } } := by
  have hmem : node ∈ s.scene.floatingNodes := by
    have hon := hattached (.floating node) (climb_floating hhit)
    simpa [SIFloatingCollectionScene.isAttached, h.fading] using hon
  have hlt := h.mem_floatingNodes.mp hmem
  have hstate : (s.scene.nodes node).state ≠ .removing := by
    rw [h.shown node hlt]
    exact voteState_ne_removing _
  refine ⟨hlt, ?_⟩
  unfold SceneState.touchesEnded
  rw [if_pos hpress, hhit]
  by_cases hlong : timestamp - s.scene.touchStartedTime > s.scene.longPressTime
  · have hvalue : touchValue s.scene timestamp = false := decide_eq_false (not_le.mpr hlong)
    simp only [if_pos hlong, updateNodeStateWhenLongPressed_eq_press s node hmem hstate, hvalue]
    rfl
  · have hvalue : touchValue s.scene timestamp = true := decide_eq_true (not_lt.mp hlong)
    simp only [if_neg hlong, updateNodeState_eq_press s node hmem h.multiple hstate, hvalue]
    rfl

private theorem press_votesForHit (value : Bool) (s : TrendingState) (timestamp : NSTimeInterval)
    {hit : SKHit} {node : Nat} (hhit : s.scene.nodeAtPoint hit = some (.floating node))
    (scene : SIFloatingCollectionScene BubbleContent) :
    VotesForHit s (.scene (.touchesEnded timestamp hit)) { press value s node with scene } := by
  unfold press
  split
  · exact votesForHit_same _ rfl
  · refine ⟨[_], rfl, ?_⟩
    intro vote hm
    rw [List.mem_singleton.mp hm]
    exact ⟨timestamp, hit, rfl, hhit⟩

private theorem touchesEnded_showsVotes {names : List NSString} {s : TrendingState}
    (h : ShowsVotes names s) (timestamp : NSTimeInterval) (hit : SKHit)
    (hattached : s.scene.Attached hit) :
    ∃ s', SceneState.touchesEnded floatingDelegate s timestamp hit = .ok s' ∧
      ShowsVotes names s' ∧ VotesForHit s (.scene (.touchesEnded timestamp hit)) s' := by
  by_cases hpress : s.scene.mode ≠ .moving ∧ s.scene.touchPoint ≠ noTouchPoint
  · obtain ⟨target, htarget⟩ := climb_enabled hit
    have hnode : s.scene.nodeAtPoint hit = some target := by
      rw [SIFloatingCollectionScene.nodeAtPoint, h.enabled, htarget]
    cases target with
    | floating node =>
        obtain ⟨hlt, hended⟩ := touchesEnded_press h timestamp hattached hnode hpress
        refine ⟨_, hended, ?_, press_votesForHit _ s timestamp hnode _⟩
        exact (h.press _ hlt).frame rfl rfl rfl rfl rfl rfl rfl (fun _ => rfl) (fun _ => rfl)
    | scene =>
        refine ⟨s, ?_, h, votesForHit_same _ rfl⟩
        rw [SceneState.touchesEnded, if_pos hpress, hnode]
    | other =>
        refine ⟨s, ?_, h, votesForHit_same _ rfl⟩
        rw [SceneState.touchesEnded, if_pos hpress, hnode]
  · refine ⟨{ s with scene := { s.scene with mode := .normal } }, ?_, ?_, votesForHit_same _ rfl⟩
    · rw [SceneState.touchesEnded, if_neg hpress]
    · exact h.frame rfl rfl rfl rfl rfl rfl rfl (fun _ => rfl) (fun _ => rfl)

def addedNames : TrendingEvent → List NSString
  | .addArtist name _ _ => [name]
  | .scene _ => []

/-- Every event that can happen is handled without an exception, keeps the bubbles showing their
votes, and votes for the bubble it hit only. -/
theorem step_showsVotes (g : Geometry) (offsets : BubbleOffsets) {names : List NSString}
    {s : TrendingState} (h : ShowsVotes names s) (event : TrendingEvent) :
    step g offsets s event = .error .notEnabled ∨
      ∃ s', step g offsets s event = .ok s' ∧ ShowsVotes (names ++ addedNames event) s' ∧
        VotesForHit s event s' := by
  cases event with
  | addArtist name radius draws =>
      obtain ⟨bubble, hbubble, hnormal, hartist⟩ :=
        BubbleNode.instantiateWithText_ok g name radius
      right
      refine ⟨{ s with scene := BubbleScene.addChild offsets s.scene bubble draws }, ?_, ?_,
        votesForHit_same _ rfl⟩
      · simp only [step, hbubble]
      · have hadd := h.addArtist offsets bubble draws hnormal
        rw [hartist] at hadd
        exact hadd
  | scene event =>
      rw [addedNames, List.append_nil]
      cases event with
      | touchesBegan location timestamp =>
          right
          refine ⟨_, rfl, ?_, votesForHit_same _ rfl⟩
          exact h.frame rfl rfl rfl rfl rfl rfl rfl (fun _ => rfl) (fun _ => rfl)
      | touchesMoved previousLocation location =>
          right
          refine ⟨_, rfl, ?_, votesForHit_same _ rfl⟩
          rcases s.scene.touchesMoved_cases g previousLocation location with hsame | ⟨forces, hmoved⟩
          · rw [hsame]
            exact h
          · rw [hmoved]
            exact h.frame rfl rfl rfl rfl rfl rfl rfl (fun _ => rfl) (fun _ => rfl)
      | touchesEnded timestamp hit =>
          by_cases hattached : s.scene.Attached hit
          · right
            obtain ⟨s', hs', hshows, hvotes⟩ := touchesEnded_showsVotes h timestamp hit hattached
            refine ⟨s', ?_, hshows, hvotes⟩
            simp only [step, SceneState.step, if_pos hattached, hs']
          · left
            simp only [step, SceneState.step, if_neg hattached]
      | touchesCancelled =>
          right
          refine ⟨_, rfl, ?_, votesForHit_same _ rfl⟩
          exact h.frame rfl rfl rfl rfl rfl rfl rfl (fun _ => rfl) (fun _ => rfl)
      | update currentTime hit =>
          by_cases hattached : s.scene.Attached hit
          · right
            have hupdate := SceneState.update_of_not_allowEditing floatingDelegate g s currentTime
              hit h.editing
            refine ⟨{ s with scene := s.scene.dampNodes g }, ?_, ?_, votesForHit_same _ rfl⟩
            · simp only [step, SceneState.step, if_pos hattached, hupdate]
            · exact h.frame rfl rfl rfl rfl rfl rfl rfl
                (fun node => (s.scene.dampNodes_node g node).1)
                (fun node => (s.scene.dampNodes_node g node).2)
          · left
            simp only [step, SceneState.step, if_neg hattached]
      | didSimulatePhysics position =>
          right
          refine ⟨_, rfl, ?_, votesForHit_same _ rfl⟩
          exact h.frame rfl rfl rfl rfl rfl rfl rfl (fun _ => rfl) (fun _ => rfl)
      | fadedOut node =>
          left
          simp [step, SceneState.step, h.fading]

theorem init_showsVotes (size : CGSize) (offsets : BubbleOffsets)
    (blank : SIFloatingNode BubbleContent) : ShowsVotes [] (init size offsets blank) where
  editing := rfl
  multiple := rfl
  enabled := rfl
  fading := rfl
  created := rfl
  floating := rfl
  named := by simp
  shown := by simp
  carried := by simp [init]
  alternating := alternates_nil _ _

def artistNames (events : List TrendingEvent) : List NSString := events.flatMap addedNames

theorem run_showsVotes (g : Geometry) (size : CGSize) (offsets : BubbleOffsets)
    (blank : SIFloatingNode BubbleContent) {events : List TrendingEvent} {s : TrendingState}
    (h : EventRun.run (step g offsets) (init size offsets blank) events = .ok s) :
    ShowsVotes (artistNames events) s := by
  have hstep : ∀ (names : List NSString) (s : TrendingState) (event : TrendingEvent)
      (s' : TrendingState), ShowsVotes names s → step g offsets s event = .ok s' →
        ShowsVotes (names ++ addedNames event) s' := by
    intro names s event s' hshows hok
    rcases step_showsVotes g offsets hshows event with herror | ⟨t, ht, hshows', _⟩
    · exact nomatch herror.symm.trans hok
    · have hts := Except.ok.inj (ht.symm.trans hok)
      rw [← hts]
      exact hshows'
  have hrun := EventRun.run_trace_invariant hstep (init_showsVotes size offsets blank) h
  rw [EventRun.trace_of_event addedNames h] at hrun
  exact hrun

/-- The votes of the trending scene over every run. No event raises or hangs; every vote is made
by a touch, for the bubble it hit, under the whole name the bubble was created with; on every
bubble likes and dislikes alternate; and the state of a bubble tells the last vote sent for it. -/
theorem trending_votes (g : Geometry) (size : CGSize) (offsets : BubbleOffsets)
    (blank : SIFloatingNode BubbleContent) (events : List TrendingEvent) :
    (∀ stuck, EventRun.run (step g offsets) (init size offsets blank) events = .error stuck →
      stuck = .notEnabled) ∧
    EventRun.EveryStep (step g offsets) VotesForHit (init size offsets blank) events ∧
    ∀ s, EventRun.run (step g offsets) (init size offsets blank) events = .ok s →
      s.scene.floatingNodes = List.range (artistNames events).length ∧
      (∀ vote ∈ s.delegate, (artistNames events)[vote.node]? = some vote.artist) ∧
      (∀ node, ((s.delegate.filter fun vote => vote.node = node).map
        ArtistVote.value).IsChain (· ≠ ·)) ∧
      ∀ node ∈ s.scene.floatingNodes,
        ((s.scene.nodes node).state = .tapped ↔ lastVote s.delegate node = some true) ∧
        ((s.scene.nodes node).state = .longPressed ↔ lastVote s.delegate node = some false) ∧
        ((s.scene.nodes node).state = .normal ↔ lastVote s.delegate node = none) := by
  have hinit := init_showsVotes size offsets blank
  have hstep : ∀ (s : TrendingState) (event : TrendingEvent) (s' : TrendingState),
      (∃ names, ShowsVotes names s) → step g offsets s event = .ok s' →
        (∃ names, ShowsVotes names s') ∧ VotesForHit s event s' := by
    intro s event s' ⟨names, hshows⟩ hok
    rcases step_showsVotes g offsets hshows event with herror | ⟨t, ht, hshows', hvotes⟩
    · exact nomatch herror.symm.trans hok
    · have hts := Except.ok.inj (ht.symm.trans hok)
      rw [← hts]
      exact ⟨⟨_, hshows'⟩, hvotes⟩
  refine ⟨?_, EventRun.everyStep_of_invariant hstep ⟨[], hinit⟩ events, ?_⟩
  · intro stuck hrun
    refine EventRun.run_error (I := fun s => ∃ names, ShowsVotes names s)
      (Q := fun stuck => stuck = .notEnabled)
      (fun s event s' hs hok => (hstep s event s' hs hok).1) ?_ ⟨[], hinit⟩ hrun
    intro s event x ⟨names, hshows⟩ herror
    rcases step_showsVotes g offsets hshows event with hdisabled | ⟨t, ht, _⟩
    · exact Except.error.inj (herror.symm.trans hdisabled)
    · exact nomatch ht.symm.trans herror
  · intro s hrun
    have hshows := run_showsVotes g size offsets blank hrun
    refine ⟨hshows.floating, hshows.carried, hshows.alternating, ?_⟩
    intro node hnode
    have hstate := hshows.shown node (hshows.mem_floatingNodes.mp hnode)
    rw [hstate]
    exact ⟨voteState_injective.eq_iff (b := some true),
      voteState_injective.eq_iff (b := some false), voteState_injective.eq_iff (b := none)⟩

/-- A short touch and two long ones on a bubble with a shortened label: one like and one dislike,
under the whole name. -/
example :
    let name := nsstring ['t', 'h', 'e', ' ', 'b', 'e', 'a', 't', 'l', 'e', 's']
    let touch (seconds : ℚ) : List TrendingEvent :=
      [.scene (.touchesBegan ⟨5, 5⟩ 0), .scene (.touchesEnded seconds [.other false, .floating 0])]
    ((EventRun.run (step ⟨id, max, fun radius => ⟨2 * radius, 2 * radius⟩⟩ ⟨200, 64⟩)
      (init ⟨320, 480⟩ ⟨200, 64⟩ ⟨.normal, .normal, true, 0, ⟨0, 0⟩, ⟨0, 0⟩, true, ⟨[], none⟩⟩)
      (.addArtist name 30 ⟨0, 0, 0⟩ :: (touch (1 / 10) ++ touch 1 ++ touch 2))).toOption.map
        SceneState.delegate) = some [⟨0, name, true⟩, ⟨0, name, false⟩] := by
  decide +kernel

end TrendingViewController

end CrowdSound

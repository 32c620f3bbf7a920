import CrowdSound.Bubbles.Callbacks
import CrowdSound.Bubbles.NodeChanges

/-!
# The indexes that the delegate receives

The scene passes on the index at which it finds a node in `floatingNodes`, and minus one when it
does not find it. A removal checks the index first. A press and the start of a removal do not, and
act on whatever the hit test answers, which may be a bubble that is fading out.
-/

namespace CrowdSound

open SIFloatingCollectionScene

def HitNode.floating? : HitNode → Option Nat
  | .floating node => some node
  | _ => none

namespace SceneState

variable {C D : Type} (o : Observer C D)

/-- A press goes through and tells the index of its node only. If it does not settle at once, it
asks or tells something or changes the state of the node. -/
structure PressTold (s s' : ObservedScene C D) (node : Nat) (acts : Prop) : Prop where
  told : Told (OfPress (indexOfObject s.scene.floatingNodes node)) s s'
  acted : acts → newCallbacks s s' ≠ [] ∨
    (s'.scene.nodes node).state ≠ (s.scene.nodes node).state
  settled : ¬ acts → s'.received = s.received

private theorem PressTold.refl (s : ObservedScene C D) (node : Nat) {acts : Prop} (h : ¬ acts) :
    PressTold s s node acts :=
  ⟨Told.same rfl, fun hacts => absurd hacts h, fun _ => rfl⟩

private theorem askPress_told {s : ObservedScene C D} {node : Nat}
    {question report : CallbackMethod}
    {state : SIFloatingNodeState} {acts : Prop} (hacts : acts) (hquestion : question ≠ .shouldRemove)
    (hreport : report ≠ .shouldRemove) (hstate : state ≠ (s.scene.nodes node).state) :
    ∃ s', askPress (o.question question) (o.report report) state s node = .ok s' ∧
      PressTold s s' node acts := by
  have hasked := ask_told o question s (indexOfObject s.scene.floatingNodes node) hquestion
  unfold askPress
  dsimp only
  split
  next hanswer =>
    obtain ⟨s', htell, hscene, htold⟩ := tell_told o report
      ((ask (o.question question) s (indexOfObject s.scene.floatingNodes node)).2.setState node
        state) (indexOfObject s.scene.floatingNodes node) hreport
    refine ⟨s', htell, hasked.trans htold, ?_, fun hnot => absurd hacts hnot⟩
    intro _
    refine Or.inr ?_
    rw [hscene, setState, setState_state, if_pos rfl]
    exact hstate
  next hanswer =>
    have hrefused := ask_refused_received o (by simpa using hanswer)
    exact ⟨_, rfl, hasked, fun _ => Or.inl hrefused, fun hnot => absurd hacts hnot⟩

private theorem longPress_told (s : ObservedScene C D) (node : Nat) :
    ∃ s', s.updateNodeStateWhenLongPressed o.delegate node = .ok s' ∧
      PressTold s s' node
        ((s.scene.nodes node).state = .normal ∨ (s.scene.nodes node).state = .tapped) := by
  by_cases hstate : (s.scene.nodes node).state = .normal ∨ (s.scene.nodes node).state = .tapped
  · rw [updateNodeStateWhenLongPressed_eq hstate]
    apply askPress_told o hstate (by decide) (by decide)
    rcases hstate with hstate | hstate <;> rw [hstate] <;> decide
  · refine ⟨s, ?_, PressTold.refl s node hstate⟩
    unfold updateNodeStateWhenLongPressed
    cases hnode : (s.scene.nodes node).state with
    | normal => exact absurd (Or.inl hnode) hstate
    | tapped => exact absurd (Or.inr hnode) hstate
    | longPressed => rfl
    | removing => rfl

private theorem tap_told (s : ObservedScene C D) (node : Nat)
    (hprevious : (s.scene.nodes node).state = .removing →
      (s.scene.nodes node).previousState ≠ .removing) :
    ∃ s', s.updateNodeState o.delegate node = .ok s' ∧
      PressTold s s' node ((s.scene.nodes node).state ≠ .tapped) := by
  cases hnode : (s.scene.nodes node).state with
  | normal =>
      rw [updateNodeState_eq (Or.inl hnode)]
      exact askPress_told o (by decide) (by decide) (by decide) (by rw [hnode]; decide)
  | longPressed =>
      rw [updateNodeState_eq (Or.inr hnode)]
      exact askPress_told o (by decide) (by decide) (by decide) (by rw [hnode]; decide)
  | tapped =>
      refine ⟨s, ?_, PressTold.refl s node (by simp)⟩
      exact updateNodeStateBody_tapped o.delegate _ s node hnode
  | removing =>
      have hcancel : s.updateNodeState o.delegate node = s.cancelRemovingNode o.delegate node := by
        rw [updateNodeState, updateNodeStateBody]
        simp only [hnode]
      obtain ⟨s', htell, hscene, htold⟩ := tell_told o .canceledRemoving
        ({ s with scene := { s.scene.restored node with mode := .normal } } : ObservedScene C D)
        (indexOfObject s.scene.floatingNodes node) (by decide)
      refine ⟨s', hcancel.trans htell, htold, ?_, fun hnot => absurd (by decide) hnot⟩
      intro _
      refine Or.inr ?_
      rw [hscene, hnode]
      simp only [restored_state, if_true]
      exact hprevious hnode

def Acts (s : SIFloatingCollectionScene C) (timestamp : NSTimeInterval) (node : Nat) : Prop :=
  (s.LongPress timestamp ∧ ((s.nodes node).state = .normal ∨ (s.nodes node).state = .tapped)) ∨
    (¬ s.LongPress timestamp ∧ (s.nodes node).state ≠ .tapped)

theorem touchesEnded_told {s : ObservedScene C D} {hit : SKHit} {node : Nat}
    (timestamp : NSTimeInterval) (hpressed : s.scene.Pressed hit node)
    (hprevious : (s.scene.nodes node).state = .removing →
      (s.scene.nodes node).previousState ≠ .removing) :
    ∃ s', s.touchesEnded o.delegate timestamp hit = .ok s' ∧
      PressTold s s' node (Acts s.scene timestamp node) := by
  unfold touchesEnded
  rw [if_pos ⟨hpressed.1, hpressed.2.1⟩, hpressed.2.2]
  by_cases hlong : s.scene.LongPress timestamp
  · obtain ⟨s', hok, htold⟩ := longPress_told o s node
    have hacts : Acts s.scene timestamp node ↔
        (s.scene.nodes node).state = .normal ∨ (s.scene.nodes node).state = .tapped := by
      simp [Acts, hlong]
    have hlong' : timestamp - s.scene.touchStartedTime > s.scene.longPressTime := hlong
    rw [hacts]
    simp only [if_pos hlong', hok]
    exact ⟨_, rfl, htold.told, htold.acted, htold.settled⟩
  · obtain ⟨s', hok, htold⟩ := tap_told o s node hprevious
    have hacts : Acts s.scene timestamp node ↔ (s.scene.nodes node).state ≠ .tapped := by
      simp [Acts, hlong]
    have hshort : ¬ timestamp - s.scene.touchStartedTime > s.scene.longPressTime := hlong
    rw [hacts]
    simp only [if_neg hshort, hok]
    exact ⟨_, rfl, htold.told, htold.acted, htold.settled⟩

theorem touchesEnded_unpressed {s s' : ObservedScene C D} {timestamp : NSTimeInterval}
    {hit : SKHit} (hmiss : ∀ node, ¬ s.scene.Pressed hit node)
    (h : s.touchesEnded o.delegate timestamp hit = .ok s') : s'.received = s.received := by
  unfold touchesEnded at h
  split at h
  next hactive =>
    split at h
    · exact nomatch h
    next node hnode => exact absurd ⟨hactive.1, hactive.2, hnode⟩ (hmiss node)
    · cases h
      rfl
  · cases h
    rfl

/-- A callback of a removal carries its index, and then there is a node at the index; the question
comes before that is known. -/
def OfRemoval (floatingNodes : List Nat) (index : Int) (callback : Callback) : Prop :=
  callback.method ≠ .shouldRemove →
    callback.index = index ∧ ∃ node, objectAtIndex floatingNodes index = .ok node

theorem removeFloatingNodeAtIndex_told {s s' : ObservedScene C D} {index : Int}
    (h : s.removeFloatingNodeAtIndex o.delegate index = .ok s') :
    Told (OfRemoval s.scene.floatingNodes index) s s' := by
  have hasked : Told (OfRemoval s.scene.floatingNodes index) s
      (s.shouldRemoveNodeAtIndex o.delegate index).2 :=
    (shouldRemove_told o s index).mono fun _ hquestion hne => absurd hquestion hne
  have hscene := s.shouldRemoveNodeAtIndex_scene (d := o.delegate) index
  unfold removeFloatingNodeAtIndex at h
  generalize s.shouldRemoveNodeAtIndex o.delegate index = answered at h hasked hscene
  obtain ⟨answer, asked⟩ := answered
  cases answer with
  | false =>
      cases h
      exact hasked
  | true =>
      obtain ⟨node, hnode, htell⟩ := bind_eq_ok.mp h
      have hobject := (mapError_raised_ok _ _).mp hnode
      dsimp only at hscene hobject
      rw [hscene] at hobject
      obtain ⟨told, htold, _, hreceived⟩ := tell_received o .didRemove
        (removeFromParent { asked with scene := { asked.scene with
          floatingNodes := asked.scene.floatingNodes.eraseIdx index.toNat } } node) index
      have hsame : s' = told := Except.ok.inj (htell.symm.trans htold)
      rw [removeFromParent_received] at hreceived
      rw [hsame]
      exact hasked.trans (Told.call o hreceived fun _ => ⟨rfl, node, hobject⟩)

def actedOn (s : SceneState C D) : FloatingEvent C → Option Nat
  | .removeFloatingNodeAtIndex index => (objectAtIndex s.scene.floatingNodes index).toOption
  | .scene (.touchesEnded _ hit) => (s.scene.nodeAtPoint hit).bind HitNode.floating?
  | .scene (.update _ hit) => (s.scene.nodeAtPoint hit).bind HitNode.floating?
  | _ => none

def NamesActedOn (s : SceneState C D) (event : FloatingEvent C) (callback : Callback) : Prop :=
  callback.method ≠ .shouldRemove → ∃ node, s.actedOn event = some node ∧
    objectAtIndex s.scene.floatingNodes callback.index = .ok node

private theorem OfPress.names {s : SceneState C D} {event : FloatingEvent C} {node : Nat}
    {callback : Callback} (hacted : s.actedOn event = some node)
    (hnode : node ∈ s.scene.floatingNodes)
    (h : OfPress (indexOfObject s.scene.floatingNodes node) callback) :
    NamesActedOn s event callback := by
  intro _
  refine ⟨node, hacted, ?_⟩
  rw [h.1]
  exact objectAtIndex_indexOfObject hnode

private theorem OfRemoval.names {s : SceneState C D} {event : FloatingEvent C} {index : Int}
    {callback : Callback}
    (hacted : ∀ node, objectAtIndex s.scene.floatingNodes index = .ok node →
      s.actedOn event = some node)
    (h : OfRemoval s.scene.floatingNodes index callback) : NamesActedOn s event callback := by
  intro hmethod
  obtain ⟨hindex, node, hnode⟩ := h hmethod
  refine ⟨node, hacted node hnode, ?_⟩
  rw [hindex]
  exact hnode

def StartsMember (s : SceneState C D) (event : FloatingEvent C) : Prop :=
  ∀ currentTime hit, event = .scene (.update currentTime hit) → s.scene.StartDue currentTime →
    ∃ node ∈ s.scene.floatingNodes, s.scene.nodeAtPoint hit = some (.floating node)

private theorem update_starts {g : Geometry} {s : ObservedScene C D} {currentTime : NSTimeInterval}
    {hit : SKHit} {node : Nat} (hdue : s.scene.StartDue currentTime)
    (hnode : s.scene.nodeAtPoint hit = some (.floating node)) :
    ∃ s', s.update o.delegate g currentTime hit = .ok s' ∧
      (s'.scene.nodes node).state = .removing ∧
        Told (OfPress (indexOfObject s.scene.floatingNodes node)) s s' := by
  obtain ⟨s', htell, hscene, htold⟩ := tell_told o .startedRemoving
    ({ s with scene := { ({ s.scene.dampNodes g with
        touchStartedTime := -1, removingStartedTime := currentTime } :
          SIFloatingCollectionScene C).frozen node with mode := .editing } } : ObservedScene C D)
    (indexOfObject s.scene.floatingNodes node) (by decide)
  refine ⟨s', ?_, ?_, (Told.same rfl).trans htold⟩
  · rw [update_eq, if_pos hdue, hnode]
    exact htell
  · rw [hscene]
    simp

private theorem update_told {g : Geometry} {s s' : ObservedScene C D} {currentTime : NSTimeInterval}
    {hit : SKHit} (hstarts : StartsMember s (.scene (.update currentTime hit)))
    (h : s.update o.delegate g currentTime hit = .ok s') :
    Told (NamesActedOn s (.scene (.update currentTime hit))) s s' := by
  by_cases hdue : s.scene.StartDue currentTime
  · obtain ⟨node, hmember, hnode⟩ := hstarts currentTime hit rfl hdue
    obtain ⟨told, hupdate, _, htold⟩ := update_starts o (g := g) hdue hnode
    have hsame : s' = told := Except.ok.inj (h.symm.trans hupdate)
    rw [hsame]
    apply htold.mono
    intro callback hpress
    exact hpress.names (by simp [actedOn, hnode, HitNode.floating?]) hmember
  · rw [update_eq, if_neg hdue] at h
    split at h
    next =>
      split at h
      · exact nomatch h
      next found hfound =>
        apply (Told.same rfl).trans ((removeFloatingNodeAtIndex_told o h).mono _)
        intro callback hcallback
        have hremoval : OfRemoval s.scene.floatingNodes (s.scene.indexOfNode found) callback :=
          hcallback
        apply hremoval.names
        intro node hobject
        obtain ⟨hfloating, _⟩ := objectAtIndex_indexOfNode hobject
        simp [actedOn, hfound, hfloating, HitNode.floating?]
    next =>
      cases h
      exact Told.same rfl

/-- Attached nodes that are being removed had another state before. -/
def Restorable (s : SIFloatingCollectionScene C) : Prop :=
  ∀ node, s.isAttached (.floating node) = true → (s.nodes node).state = .removing →
    (s.nodes node).previousState ≠ .removing

theorem floatingStep_restorable {g : Geometry} {d : SIFloatingCollectionSceneDelegate C D}
    {s : SceneState C D} {event : FloatingEvent C} {scene' : SIFloatingCollectionScene C}
    (hs : Restorable s.scene) (h : FloatingStep g d s event scene') : Restorable scene' := by
  intro node hattached
  rcases floatingStep_changes h hattached with ⟨hbefore, hchange⟩ | ⟨new, hevent, hnode⟩
  · exact hchange.restorable (hs node hbefore)
  · subst hevent
    cases h
    intro hremoving
    rw [hnode] at hremoving
    simp [addChild, configureNode, SIFloatingNode.init] at hremoving

theorem scene_restorable (settings : SceneSettings) (blank : SIFloatingNode C) :
    Restorable (settings.scene blank) := by
  intro node hnode
  simp [isAttached, SceneSettings.scene, initWithSize, configureScene] at hnode

/-- In every run, attached nodes that are being removed had another state before. -/
theorem run_restorable {g : Geometry} {d : SIFloatingCollectionSceneDelegate C D}
    {s s' : SceneState C D} {events : List (FloatingEvent C)} (hs : Restorable s.scene)
    (hrun : EventRun.run (floatingStep g d) s events = .ok s') : Restorable s'.scene := by
  have hstep : ∀ (s : SceneState C D) (event : FloatingEvent C) (s' : SceneState C D),
      Restorable s.scene → True → s.floatingStep g d event = .ok s' → Restorable s'.scene :=
    fun _ _ _ hs _ hok => floatingStep_restorable hs (floatingStep_ok hok)
  exact EventRun.run_invariant hstep hs (fun _ _ => trivial) hrun

private theorem attached_of_enabled {g : Geometry} {d : SIFloatingCollectionSceneDelegate C D}
    {s : SceneState C D} {timestamp : NSTimeInterval} {hit : SKHit}
    (h : s.floatingStep g d (.scene (.touchesEnded timestamp hit)) ≠ .error .notEnabled) :
    s.scene.Attached hit := by
  by_contra hattached
  exact h (if_neg hattached)

theorem Restorable.pressed {s : SIFloatingCollectionScene C} (hs : Restorable s) {hit : SKHit}
    {node : Nat} (hattached : s.Attached hit) (hpressed : s.Pressed hit node) :
    (s.nodes node).state = .removing → (s.nodes node).previousState ≠ .removing :=
  hs node (hattached (.floating node) (climb_floating hpressed.2.2))

def PressActs (s : SceneState C D) (event : FloatingEvent C) (node : Nat) : Prop :=
  ∃ timestamp hit, event = .scene (.touchesEnded timestamp hit) ∧ s.scene.Pressed hit node ∧
    Acts s.scene timestamp node

private theorem setState_changed {s : SIFloatingCollectionScene C} {node other : Nat}
    {state : SIFloatingNodeState}
    (hchanged : ((s.setState other state).nodes node).state ≠ (s.nodes node).state) :
    node = other := by
  by_contra hne
  rw [setState_state, if_neg hne] at hchanged
  exact hchanged rfl

theorem ended_states {d : SIFloatingCollectionSceneDelegate C D} {s : SceneState C D}
    {timestamp : NSTimeInterval} {hit : SKHit} {scene' : SIFloatingCollectionScene C}
    (h : EndedStep d s timestamp hit scene') (node : Nat)
    (hchanged : (scene'.nodes node).state ≠ (s.scene.nodes node).state) :
    s.scene.Pressed hit node ∧ Acts s.scene timestamp node := by
  cases h with
  | misses _ mode hscene =>
      rw [hscene] at hchanged
      exact absurd rfl hchanged
  | settles pressed _ _ hscene =>
      rw [hscene] at hchanged
      exact absurd rfl hchanged
  | longPresses pressed hpressed hlong hstate hscene =>
      rw [hscene] at hchanged
      rw [setState_changed hchanged]
      exact ⟨hpressed, Or.inl ⟨hlong, hstate⟩⟩
  | taps pressed hpressed hshort hstate _ hscene =>
      rw [hscene] at hchanged
      rw [setState_changed hchanged]
      refine ⟨hpressed, Or.inr ⟨hshort, ?_⟩⟩
      rcases hstate with hstate | hstate <;> rw [hstate] <;> decide
  | cancels pressed hpressed hshort hstate hscene =>
      have hnode : node = pressed := by
        by_contra hne
        rw [hscene] at hchanged
        simp [hne] at hchanged
      rw [hnode]
      refine ⟨hpressed, Or.inr ⟨hshort, ?_⟩⟩
      rw [hstate]
      decide

theorem updated_states {g : Geometry} {d : SIFloatingCollectionSceneDelegate C D}
    {s : SceneState C D} {currentTime : NSTimeInterval} {hit : SKHit}
    {scene' : SIFloatingCollectionScene C} (h : UpdateStep g d s currentTime hit scene')
    (node : Nat) (hchanged : (scene'.nodes node).state ≠ (s.scene.nodes node).state) :
    s.scene.StartDue currentTime ∧ s.scene.nodeAtPoint hit = some (.floating node) := by
  have hdamped := (s.scene.dampNodes_node g node).1
  cases h with
  | idles _ _ hscene =>
      rw [hscene] at hchanged
      exact absurd hdamped hchanged
  | starts started hdue hnode hscene =>
      have hsame : node = started := by
        by_contra hne
        rw [hscene] at hchanged
        simp only [frozen_state, if_neg hne] at hchanged
        exact hchanged hdamped
      rw [hsame]
      exact ⟨hdue, hnode⟩
  | refuses _ _ _ hscene =>
      rw [hscene] at hchanged
      exact absurd hdamped hchanged
  | removes removed _ _ _ _ _ hscene =>
      rw [hscene] at hchanged
      exact absurd hdamped hchanged

private theorem floatingStep_states {g : Geometry} {d : SIFloatingCollectionSceneDelegate C D}
    {s : SceneState C D} {event : FloatingEvent C} {scene' : SIFloatingCollectionScene C}
    (h : FloatingStep g d s event scene') (node : Nat)
    (hchanged : (scene'.nodes node).state ≠ (s.scene.nodes node).state) :
    ((∃ new, event = .addChild new) ∧ node ∈ scene'.floatingNodes) ∨ PressActs s event node ∨
      ∃ currentTime hit, event = .scene (.update currentTime hit) ∧ s.scene.StartDue currentTime ∧
        s.scene.nodeAtPoint hit = some (.floating node) := by
  cases h with
  | adds new =>
      by_cases hnew : node = s.scene.created
      · refine Or.inl ⟨⟨new, rfl⟩, ?_⟩
        simp [addChild, hnew]
      · simp [addChild, hnew] at hchanged
  | keeps index => exact absurd rfl hchanged
  | removes index removed _ => exact absurd rfl hchanged
  | begins location timestamp => exact absurd rfl hchanged
  | moves previousLocation location mode appliedForces => exact absurd rfl hchanged
  | ends timestamp hit _ _ hended =>
      exact Or.inr (Or.inl ⟨timestamp, hit, rfl, ended_states hended node hchanged⟩)
  | cancels => exact absurd rfl hchanged
  | updates currentTime hit _ _ hupdated =>
      exact Or.inr (Or.inr ⟨currentTime, hit, rfl, updated_states hupdated node hchanged⟩)
  | simulates position => exact absurd rfl hchanged
  | fades faded _ => exact absurd rfl hchanged

/-- Every callback names the node that is acted on, only members are given a state, and a removal
that is due to start is started for a member. -/
structure NamesMembers (g : Geometry) (s : ObservedScene C D) (event : FloatingEvent C) : Prop where
  callbacks : ∀ s', s.floatingStep g o.delegate event = .ok s' →
    ∀ callback ∈ newCallbacks s s', NamesActedOn s event callback
  states : ∀ s', s.floatingStep g o.delegate event = .ok s' → ∀ node,
    (s'.scene.nodes node).state ≠ (s.scene.nodes node).state →
      node ∈ s.scene.floatingNodes ∨ node ∈ s'.scene.floatingNodes
  starts : ∀ currentTime hit, event = .scene (.update currentTime hit) →
    s.scene.StartDue currentTime → ∃ node ∈ s.scene.floatingNodes,
      s.scene.nodeAtPoint hit = some (.floating node) ∧
        ∃ s', s.floatingStep g o.delegate event = .ok s' ∧ (s'.scene.nodes node).state = .removing

/-- Touches act on members, and when a start is due one is under the touch. -/
structure HitsMembers (s : SceneState C D) (event : FloatingEvent C) : Prop where
  presses : ∀ node, PressActs s event node → node ∈ s.scene.floatingNodes
  starts : StartsMember s event

private theorem ended_told {s s' : ObservedScene C D} {timestamp : NSTimeInterval} {hit : SKHit}
    (hs : Restorable s.scene) (hattached : s.scene.Attached hit)
    (hmember : ∀ node, PressActs s (.scene (.touchesEnded timestamp hit)) node →
      node ∈ s.scene.floatingNodes)
    (h : s.touchesEnded o.delegate timestamp hit = .ok s') :
    Told (NamesActedOn s (.scene (.touchesEnded timestamp hit))) s s' := by
  by_cases hpressed : ∃ node, s.scene.Pressed hit node
  · obtain ⟨node, hpressed⟩ := hpressed
    obtain ⟨told, hended, htold⟩ := touchesEnded_told o timestamp hpressed
      (hs.pressed hattached hpressed)
    have hsame : s' = told := Except.ok.inj (h.symm.trans hended)
    rw [hsame]
    by_cases hacts : Acts s.scene timestamp node
    · have hnode := hmember node ⟨timestamp, hit, rfl, hpressed, hacts⟩
      apply htold.told.mono
      intro callback hpress
      exact hpress.names (by simp [actedOn, hpressed.2.2, HitNode.floating?]) hnode
    · exact Told.same (htold.settled hacts)
  · exact Told.same (touchesEnded_unpressed o (not_exists.mp hpressed) h)

private theorem floatingStep_told {g : Geometry} {s s' : ObservedScene C D}
    {event : FloatingEvent C} (hs : Restorable s.scene) (hmembers : HitsMembers s event)
    (h : s.floatingStep g o.delegate event = .ok s') : Told (NamesActedOn s event) s s' := by
  cases event with
  | addChild new =>
      cases h
      exact Told.same rfl
  | removeFloatingNodeAtIndex index =>
      apply (removeFloatingNodeAtIndex_told o h).mono
      intro callback hremoval
      apply hremoval.names
      intro node hnode
      simp [actedOn, hnode, Except.toOption]
  | scene event =>
      cases event with
      | touchesBegan location timestamp =>
          cases h
          exact Told.same rfl
      | touchesMoved previousLocation location =>
          cases h
          exact Told.same rfl
      | touchesEnded timestamp hit =>
          obtain ⟨hattached, hended⟩ := enabled_ok.mp h
          exact ended_told o hs hattached hmembers.presses hended
      | touchesCancelled =>
          cases h
          exact Told.same rfl
      | update currentTime hit =>
          obtain ⟨_, hupdated⟩ := enabled_ok.mp h
          exact update_told o hmembers.starts hupdated
      | didSimulatePhysics position =>
          cases h
          exact Told.same rfl
      | fadedOut node =>
          obtain ⟨_, hfaded⟩ := enabled_ok.mp h
          cases hfaded
          exact Told.same rfl

private theorem namesMembers_iff {g : Geometry} {s : ObservedScene C D} {event : FloatingEvent C}
    (hs : Restorable s.scene)
    (henabled : s.floatingStep g o.delegate event ≠ .error .notEnabled) :
    NamesMembers o g s event ↔ HitsMembers s event := by
  constructor
  · intro hnames
    constructor
    · rintro node ⟨timestamp, hit, rfl, hpressed, hacts⟩
      have hattached := attached_of_enabled henabled
      obtain ⟨s', hended, htold⟩ := touchesEnded_told o timestamp hpressed
        (hs.pressed hattached hpressed)
      have hstep : s.floatingStep g o.delegate (.scene (.touchesEnded timestamp hit)) = .ok s' :=
        (if_pos hattached).trans hended
      by_contra hnot
      rcases htold.acted hacts with hcallbacks | hchanged
      · -- the node is not found, and minus one is the index of no node
        obtain ⟨callback, hcallback⟩ := List.exists_mem_of_ne_nil _ hcallbacks
        have hpress := htold.told.new callback hcallback
        obtain ⟨named, _, hnamed⟩ := hnames.callbacks s' hstep callback hcallback hpress.2
        rw [hpress.1, indexOfObject_of_not_mem hnot] at hnamed
        exact nomatch hnamed
      · obtain ⟨_, _, hmembers⟩ := (touchesEnded_ok hended).frame
        have hnode := hnames.states s' hstep node hchanged
        rw [hmembers] at hnode
        exact hnot (hnode.elim id id)
    · intro currentTime hit hevent hdue
      obtain ⟨node, hmember, hnode, _⟩ := hnames.starts currentTime hit hevent hdue
      exact ⟨node, hmember, hnode⟩
  · intro hmembers
    refine ⟨fun s' h => (floatingStep_told o hs hmembers h).new, ?_, ?_⟩
    · intro s' h node hchanged
      rcases floatingStep_states (floatingStep_ok h) node hchanged with
        ⟨_, hnew⟩ | hpress | ⟨currentTime, hit, hevent, hdue, hnode⟩
      · exact Or.inr hnew
      · exact Or.inl (hmembers.presses node hpress)
      · obtain ⟨member, hmember, hunder⟩ := hmembers.starts currentTime hit hevent hdue
        rw [hnode] at hunder
        cases hunder
        exact Or.inl hmember
    · intro currentTime hit hevent hdue
      obtain ⟨node, hmember, hnode⟩ := hmembers.starts currentTime hit hevent hdue
      obtain ⟨s', hupdate, hstate, _⟩ := update_starts o (g := g) hdue hnode
      subst hevent
      have hattached : s.scene.Attached hit := by
        by_contra hnot
        exact henabled (if_neg hnot)
      exact ⟨node, hmember, hnode, s', (if_pos hattached).trans hupdate, hstate⟩

/-- In every run, the delegate hears of the members acted on, and of nothing else, exactly when
touches and starts only hit members. -/
theorem delegateIndexes_iff (g : Geometry) (settings : SceneSettings) (blank : SIFloatingNode C)
    (delegate : D) (events : List (FloatingEvent C)) :
    EventRun.EachEvent (floatingStep g o.delegate)
        (fun s event => s.floatingStep g o.delegate event ≠ .error .notEnabled →
          NamesMembers o g s event) ⟨settings.scene blank, (delegate, [])⟩ events ↔
      EventRun.EachEvent (floatingStep g o.delegate)
        (fun s event => s.floatingStep g o.delegate event ≠ .error .notEnabled →
          HitsMembers s event) ⟨settings.scene blank, (delegate, [])⟩ events := by
  apply EventRun.eachEvent_congr (I := fun s => Restorable s.scene)
  · exact fun s event s' hs h => floatingStep_restorable hs (floatingStep_ok h)
  · exact fun s event hs => imp_congr_right fun henabled => namesMembers_iff o hs henabled
  · exact scene_restorable settings blank

def emptyScene : ObservedScene Unit Unit :=
  ⟨(defaultSettings ⟨100, 100⟩).scene (.init ⟨⟨0, 0⟩, ⟨20, 20⟩, false, ()⟩), ((), [])⟩

/-- The only bubble is removed, and a finger touches it while it fades out. -/
def touchFading : List (FloatingEvent Unit) :=
  [.addChild ⟨⟨20, 20⟩, ⟨20, 20⟩, true, ()⟩, .removeFloatingNodeAtIndex 0,
    .scene (.touchesBegan ⟨20, 20⟩ 1)]

/-- The finger is lifted, and the delegate hears of a tap at minus one. -/
theorem fadingTap_namesNone :
    ¬ EventRun.EachEvent (floatingStep axisGeometry Observer.agreeing.delegate)
      (fun s event => s.floatingStep axisGeometry Observer.agreeing.delegate event ≠
        .error .notEnabled → NamesMembers .agreeing axisGeometry s event) emptyScene
      (touchFading ++ [.scene (.touchesEnded (11 / 10) [.floating 0])]) := by
  intro h
  have hbefore : (EventRun.run (floatingStep axisGeometry Observer.agreeing.delegate) emptyScene
      touchFading).toOption.any (fun s => s.scene.floatingNodes = [] ∧ s.received.length = 2) =
        true := by
    decide +kernel
  have hafter : (EventRun.run (floatingStep axisGeometry Observer.agreeing.delegate) emptyScene
      (touchFading ++ [.scene (.touchesEnded (11 / 10) [.floating 0])])).toOption.any (fun s =>
        ⟨.didTap, -1⟩ ∈ s.received.drop 2) = true := by
    decide +kernel
  obtain ⟨s, hs, hempty⟩ := EventRun.exists_ok_of_any hbefore
  obtain ⟨s', hs', htapped⟩ := EventRun.exists_ok_of_any hafter
  rw [EventRun.run_append _ hs, EventRun.run_singleton] at hs'
  obtain ⟨_, hlength⟩ := of_decide_eq_true hempty
  have henabled : s.floatingStep axisGeometry Observer.agreeing.delegate
      (.scene (.touchesEnded (11 / 10) [.floating 0])) ≠ .error .notEnabled := by
    rw [hs']
    intro herror
    cases herror
  have hnames := h.last hs henabled
  have hcallback : ⟨.didTap, -1⟩ ∈ newCallbacks s s' := by
    rw [newCallbacks, hlength]
    exact of_decide_eq_true htapped
  obtain ⟨node, _, hnode⟩ := hnames.callbacks s' hs' ⟨.didTap, -1⟩ hcallback (by decide)
  cases hnode

end SceneState

end CrowdSound

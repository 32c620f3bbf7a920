import CrowdSound.Bubbles.NodeChanges

/-!
# Frozen nodes

A node stops moving when its removal starts, and moves again when the removal is cancelled. The
state it returns to is kept in its one previous state. Beside the scene a log keeps the state in
which each node was when its removal started.
-/

namespace CrowdSound

open SIFloatingCollectionScene

/-- A node in the normal state; what is left of earlier states does not matter. -/
structure NormalNode (C : Type) where
  floating : SIFloatingNode C
  normal : floating.state = .normal

/-- A node in the normal state is added, or something else happens to the scene. -/
inductive NodeEvent (C : Type) where
  | addChild (new : NormalNode C)
  | floating (event : FloatingEvent C)

namespace SceneState

variable {C D : Type} {g : Geometry} {d : SIFloatingCollectionSceneDelegate C D}

def nodeStep (g : Geometry) (d : SIFloatingCollectionSceneDelegate C D) (s : SceneState C D) :
    NodeEvent C → Except Stuck (SceneState C D)
  | .addChild new => .ok { s with scene := s.scene.addChild new.floating }
  | .floating event => s.floatingStep g d event

abbrev RemovalLog := Nat → SIFloatingNodeState

/-- A removal starts when the state becomes the removing one. -/
def logRemoval (old before after : SIFloatingNodeState) : SIFloatingNodeState :=
  if after = .removing ∧ before ≠ .removing then before else old

def logRemovals (log : RemovalLog) (s : SceneState C D) (_ : NodeEvent C) (s' : SceneState C D) :
    RemovalLog :=
  fun node => logRemoval (log node) (s.scene.nodes node).state (s'.scene.nodes node).state

abbrev LoggedScene (C D : Type) := SceneState C D × RemovalLog

/-- A node is frozen exactly while it is being removed, and then its previous state is the one in
the log. -/
structure Restores (log : SIFloatingNodeState) (floating : SIFloatingNode C) : Prop where
  frozen : floating.dynamic = false ↔ floating.state = .removing
  previous : floating.state = .removing → floating.previousState = log
  started : floating.state = .removing → log ≠ .removing

private theorem Restores.of_normal {floating : SIFloatingNode C} (log : SIFloatingNodeState)
    (hstate : floating.state = .normal) (hdynamic : floating.dynamic = true) :
    Restores log floating := by
  constructor
  · simp [hstate, hdynamic]
  · simp [hstate]
  · simp [hstate]

private theorem Restores.change {log : SIFloatingNodeState} {before after : SIFloatingNode C}
    (hbefore : Restores log before) (h : NodeChange before after) :
    Restores (logRemoval log before.state after.state) after := by
  cases h with
  | keeps hstate hprevious hdynamic =>
      have hlog : logRemoval log before.state after.state = log := by
        simp [logRemoval, hstate]
      rw [hlog]
      constructor
      · rw [hstate, hdynamic]
        exact hbefore.frozen
      · rw [hstate, hprevious]
        exact hbefore.previous
      · rw [hstate]
        exact hbefore.started
  | presses hpressed hstate hprevious hdynamic =>
      have hmoving : after.dynamic ≠ false := by
        rw [hdynamic]
        exact fun hfrozen => hpressed (hbefore.frozen.mp hfrozen)
      constructor
      · exact iff_of_false hmoving hstate
      · exact fun hremoving => absurd hremoving hstate
      · exact fun hremoving => absurd hremoving hstate
  | freezes hstate hprevious hdynamic =>
      by_cases hremoving : before.state = .removing
      · -- starting a removal twice changes neither the slot nor the log
        have hlog : logRemoval log before.state after.state = log := by
          simp [logRemoval, hremoving]
        rw [if_pos hremoving] at hprevious
        rw [hlog]
        constructor
        · simp [hstate, hdynamic]
        · intro _
          rw [hprevious]
          exact hbefore.previous hremoving
        · exact fun _ => hbefore.started hremoving
      · have hlog : logRemoval log before.state after.state = before.state := by
          simp [logRemoval, hremoving, hstate]
        rw [if_neg hremoving] at hprevious
        rw [hlog]
        constructor
        · simp [hstate, hdynamic]
        · exact fun _ => hprevious
        · exact fun _ => hremoving
  | restores hremoving hstate hprevious hdynamic =>
      have hnot : after.state ≠ .removing := by
        rw [hstate, hbefore.previous hremoving]
        exact hbefore.started hremoving
      constructor
      · simp [hdynamic, hnot]
      · exact fun hafter => absurd hafter hnot
      · exact fun hafter => absurd hafter hnot

/-- Every attached node, member or fading out, can be restored. -/
def AttachedRestore (w : LoggedScene C D) : Prop :=
  ∀ node, w.1.scene.isAttached (.floating node) = true →
    Restores (w.2 node) (w.1.scene.nodes node)

private theorem AttachedRestore.addChild {w : LoggedScene C D} (hw : AttachedRestore w)
    {floating : SIFloatingNode C} (hnormal : floating.state = .normal) (node : Nat)
    (hattached : (w.1.scene.addChild floating).isAttached (.floating node) = true) :
    Restores (logRemoval (w.2 node) (w.1.scene.nodes node).state
      ((w.1.scene.addChild floating).nodes node).state)
      ((w.1.scene.addChild floating).nodes node) := by
  by_cases hnew : node = w.1.scene.created
  · have hnode : (w.1.scene.addChild floating).nodes node = configureNode floating := by
      rw [hnew]
      exact Function.update_self _ _ _
    rw [hnode]
    exact Restores.of_normal _ hnormal rfl
  · have hnode : (w.1.scene.addChild floating).nodes node = w.1.scene.nodes node := by
      simp [SIFloatingCollectionScene.addChild, hnew]
    rw [hnode]
    apply Restores.change _ (.refl _)
    apply hw
    rw [isAttached_floating] at hattached ⊢
    simpa [SIFloatingCollectionScene.addChild, hnew] using hattached

private theorem nodeStep_restores {w w' : LoggedScene C D} {event : NodeEvent C}
    (hw : AttachedRestore w)
    (h : EventRun.watch (nodeStep g d) logRemovals w event = .ok w') : AttachedRestore w' := by
  obtain ⟨hstep, hlog⟩ := EventRun.watch_ok.mp h
  intro node hattached
  rw [hlog]
  cases event with
  | addChild new =>
      have hscene : w'.1.scene = w.1.scene.addChild new.floating := by
        rw [← Except.ok.inj hstep]
      rw [hscene] at hattached
      unfold logRemovals
      rw [hscene]
      exact hw.addChild new.normal node hattached
  | floating event =>
      rcases floatingStep_changes (floatingStep_ok hstep) hattached with
        ⟨hbefore, hchange⟩ | ⟨new, hevent, _⟩
      · exact (hw node hbefore).change hchange
      · subst hevent
        have hscene : w'.1.scene = w.1.scene.addChild (.init new) := by
          rw [← Except.ok.inj hstep]
        rw [hscene] at hattached
        unfold logRemovals
        rw [hscene]
        exact hw.addChild rfl node hattached

/-- Cancelling the removal of the node leads back to the state, lets the node move, and tells the
delegate. -/
def CancelRestores (d : SIFloatingCollectionSceneDelegate C D) (s : SceneState C D) (node : Nat)
    (state : SIFloatingNodeState) : Prop :=
  ∃ scene', s.cancelRemovingNode d node =
      tell d.canceledRemovingOfFloatingNodeAtIndex { s with scene := scene' }
        (indexOfObject s.scene.floatingNodes node) ∧
    (scene'.nodes node).state = state ∧ (scene'.nodes node).dynamic = true ∧ state ≠ .removing

private theorem cancelRemovingNode_restores {s : SceneState C D} {node : Nat}
    {log : SIFloatingNodeState} (hnode : Restores log (s.scene.nodes node))
    (hremoving : (s.scene.nodes node).state = .removing) : CancelRestores d s node log := by
  have hprevious := hnode.previous hremoving
  refine ⟨{ s.scene.restored node with mode := .normal }, rfl, ?_, ?_, hnode.started hremoving⟩
  · simp [hprevious]
  · simp only [restored, updateNode, Function.update_self, SIFloatingNode.setState]
    split <;> rfl

/-- Members are frozen exactly while they are being removed, and a removal that is cancelled leads
back to the state in which it started. -/
def FrozenWhileRemoved (d : SIFloatingCollectionSceneDelegate C D) (w : LoggedScene C D) : Prop :=
  ∀ node ∈ w.1.scene.floatingNodes,
    ((w.1.scene.nodes node).dynamic = false ↔ (w.1.scene.nodes node).state = .removing) ∧
      ((w.1.scene.nodes node).state = .removing →
        (w.1.scene.nodes node).previousState = w.2 node ∧ w.2 node ≠ .removing ∧
          CancelRestores d w.1 node (w.2 node))

private theorem AttachedRestore.members {w : LoggedScene C D} (hw : AttachedRestore w) :
    FrozenWhileRemoved d w := by
  intro node hmember
  have hnode := hw node ((isAttached_floating _ _).mpr (Or.inl hmember))
  refine ⟨hnode.frozen, ?_⟩
  intro hremoving
  exact ⟨hnode.previous hremoving, hnode.started hremoving,
    cancelRemovingNode_restores hnode hremoving⟩

/-- In every run of a scene, whatever its settings, its delegate and the log at the start. -/
theorem frozenWhileRemoved (g : Geometry) (d : SIFloatingCollectionSceneDelegate C D)
    (settings : SceneSettings) (blank : SIFloatingNode C) (delegate : D) (log : RemovalLog)
    (events : List (NodeEvent C)) :
    EventRun.Throughout (EventRun.watch (nodeStep g d) logRemovals) (FrozenWhileRemoved d)
      (⟨settings.scene blank, delegate⟩, log) events := by
  have hstart : AttachedRestore ((⟨settings.scene blank, delegate⟩, log) : LoggedScene C D) := by
    intro node hattached
    have hnone := (isAttached_floating (settings.scene blank) node).mp hattached
    rcases hnone with hnone | hnone
    · cases hnone
    · cases hnone
  apply EventRun.throughout_of_invariant (I := AttachedRestore) _ _ hstart
  · exact fun w event w' hw h => nodeStep_restores hw h
  · exact fun w hw => hw.members

end SceneState

end CrowdSound

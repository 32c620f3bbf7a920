import CrowdSound.Bubbles.SceneRuns

/-!
# What a step does to a node

A step leaves the state of a node alone, presses it, freezes it for its removal, or restores it.
The nodes attached after a step were attached before, or are new.
-/

namespace CrowdSound

open SIFloatingCollectionScene

variable {C D : Type}

/-- What a step does to the state, the previous state and the dynamic flag of a node. -/
inductive NodeChange (before after : SIFloatingNode C) : Prop where
  | keeps (hstate : after.state = before.state)
      (hprevious : after.previousState = before.previousState)
      (hdynamic : after.dynamic = before.dynamic)
  | presses (hbefore : before.state ≠ .removing) (hstate : after.state ≠ .removing)
      (hprevious : after.previousState = before.state) (hdynamic : after.dynamic = before.dynamic)
  | freezes (hstate : after.state = .removing)
      (hprevious : after.previousState =
        if before.state = .removing then before.previousState else before.state)
      (hdynamic : after.dynamic = false)
  | restores (hbefore : before.state = .removing) (hstate : after.state = before.previousState)
      (hprevious : after.previousState = .removing) (hdynamic : after.dynamic = true)

theorem NodeChange.refl (floating : SIFloatingNode C) : NodeChange floating floating :=
  .keeps rfl rfl rfl

theorem NodeChange.restorable {before after : SIFloatingNode C} (h : NodeChange before after)
    (hbefore : before.state = .removing → before.previousState ≠ .removing)
    (hremoving : after.state = .removing) : after.previousState ≠ .removing := by
  cases h with
  | keeps hstate hprevious hdynamic =>
      rw [hstate] at hremoving
      rw [hprevious]
      exact hbefore hremoving
  | presses hpressed hstate hprevious hdynamic => exact absurd hremoving hstate
  | freezes hstate hprevious hdynamic =>
      rw [hprevious]
      split
      next hfrozen => exact hbefore hfrozen
      next hfree => exact hfree
  | restores hfrozen hstate hprevious hdynamic =>
      rw [hstate] at hremoving
      exact absurd hremoving (hbefore hfrozen)

private theorem SIFloatingNode.setState_changes {floating : SIFloatingNode C}
    {state : SIFloatingNodeState}
    (hbefore : floating.state ≠ .removing) (hstate : state ≠ .removing)
    (hne : floating.state ≠ state) : NodeChange floating (floating.setState state) := by
  unfold SIFloatingNode.setState
  rw [if_neg hne]
  exact .presses hbefore hstate rfl rfl

private theorem SIFloatingNode.freeze_changes (floating : SIFloatingNode C) :
    NodeChange floating ({ floating with dynamic := false }.setState .removing) := by
  unfold SIFloatingNode.setState
  dsimp only
  by_cases hremoving : floating.state = .removing
  · rw [if_pos hremoving]
    exact .freezes hremoving (by rw [if_pos hremoving]) rfl
  · rw [if_neg hremoving]
    exact .freezes rfl (by rw [if_neg hremoving]) rfl

private theorem SIFloatingNode.restore_changes {floating : SIFloatingNode C}
    (hbefore : floating.state = .removing) :
    NodeChange floating
      ({ floating with dynamic := true }.setState floating.previousState) := by
  unfold SIFloatingNode.setState
  dsimp only
  by_cases hsame : floating.state = floating.previousState
  · rw [if_pos hsame]
    exact .restores hbefore hsame (hsame.symm.trans hbefore) rfl
  · rw [if_neg hsame]
    exact .restores hbefore rfl hbefore rfl

namespace SIFloatingCollectionScene

private theorem updateNode_changes (s : SIFloatingCollectionScene C) (changed : Nat)
    {f : SIFloatingNode C → SIFloatingNode C}
    (hf : NodeChange (s.nodes changed) (f (s.nodes changed))) (node : Nat) :
    NodeChange (s.nodes node) ((s.updateNode changed f).nodes node) := by
  by_cases hsame : node = changed
  · rw [hsame]
    simpa [updateNode] using hf
  · simpa [updateNode, hsame] using NodeChange.refl (s.nodes node)

private theorem frozen_changes (s : SIFloatingCollectionScene C) (frozen node : Nat) :
    NodeChange (s.nodes node) ((s.frozen frozen).nodes node) :=
  s.updateNode_changes frozen (SIFloatingNode.freeze_changes _) node

private theorem restored_changes {s : SIFloatingCollectionScene C} {restored : Nat}
    (hstate : (s.nodes restored).state = .removing) (node : Nat) :
    NodeChange (s.nodes node) ((s.restored restored).nodes node) :=
  s.updateNode_changes restored (SIFloatingNode.restore_changes hstate) node

private theorem dampNodes_changes (g : Geometry) (s : SIFloatingCollectionScene C) (node : Nat) :
    NodeChange (s.nodes node) ((s.dampNodes g).nodes node) := by
  unfold dampNodes
  dsimp only
  split
  · exact .keeps rfl rfl rfl
  · exact .refl _

private theorem changes_of_damped {g : Geometry} {s : SIFloatingCollectionScene C} {node : Nat}
    {after : SIFloatingNode C} (h : NodeChange ((s.dampNodes g).nodes node) after) :
    NodeChange (s.nodes node) after := by
  have hdamped : ((s.dampNodes g).nodes node).state = (s.nodes node).state ∧
      ((s.dampNodes g).nodes node).previousState = (s.nodes node).previousState ∧
        ((s.dampNodes g).nodes node).dynamic = (s.nodes node).dynamic := by
    unfold dampNodes
    dsimp only
    split
    · exact ⟨rfl, rfl, rfl⟩
    · exact ⟨rfl, rfl, rfl⟩
  obtain ⟨hstate, hprevious, hdynamic⟩ := hdamped
  cases h with
  | keeps hstate' hprevious' hdynamic' =>
      exact .keeps (hstate'.trans hstate) (hprevious'.trans hprevious) (hdynamic'.trans hdynamic)
  | presses hbefore hstate' hprevious' hdynamic' =>
      rw [hstate] at hbefore hprevious'
      exact .presses hbefore hstate' hprevious' (hdynamic'.trans hdynamic)
  | freezes hstate' hprevious' hdynamic' =>
      rw [hstate, hprevious] at hprevious'
      exact .freezes hstate' hprevious' hdynamic'
  | restores hbefore hstate' hprevious' hdynamic' =>
      rw [hstate] at hbefore
      exact .restores hbefore (hstate'.trans hprevious) hprevious' hdynamic'

private theorem isAttached_without {s : SIFloatingCollectionScene C} {index : Int}
    {removed node : Nat} (hremoved : removed ∈ s.floatingNodes)
    (h : (s.without index removed).isAttached (.floating node) = true) :
    s.isAttached (.floating node) = true := by
  rw [isAttached_floating] at h ⊢
  simp only [without] at h
  rcases h with hmember | hfading
  · exact Or.inl (List.mem_of_mem_eraseIdx hmember)
  · split at hfading
    · rcases List.mem_append.mp hfading with hfading | hnew
      · exact Or.inr hfading
      · rw [List.mem_singleton.mp hnew]
        exact Or.inl hremoved
    · exact Or.inr hfading

end SIFloatingCollectionScene

namespace SceneState

variable {g : Geometry} {d : SIFloatingCollectionSceneDelegate C D}

private theorem ended_changes {s : SceneState C D} {timestamp : NSTimeInterval} {hit : SKHit}
    {scene' : SIFloatingCollectionScene C} (h : EndedStep d s timestamp hit scene') (node : Nat) :
    NodeChange (s.scene.nodes node) (scene'.nodes node) := by
  cases h with
  | misses _ mode hscene =>
      rw [hscene]
      exact .refl _
  | settles pressed _ _ hscene =>
      rw [hscene]
      exact .refl _
  | longPresses pressed _ _ hstate hscene =>
      rw [hscene]
      show NodeChange _ ((s.scene.setState pressed .longPressed).nodes node)
      apply updateNode_changes
      rcases hstate with hstate | hstate
      · exact SIFloatingNode.setState_changes (by simp [hstate]) (by simp) (by simp [hstate])
      · exact SIFloatingNode.setState_changes (by simp [hstate]) (by simp) (by simp [hstate])
  | taps pressed _ _ hstate _ hscene =>
      rw [hscene]
      show NodeChange _ ((s.scene.setState pressed .tapped).nodes node)
      apply updateNode_changes
      rcases hstate with hstate | hstate
      · exact SIFloatingNode.setState_changes (by simp [hstate]) (by simp) (by simp [hstate])
      · exact SIFloatingNode.setState_changes (by simp [hstate]) (by simp) (by simp [hstate])
  | cancels pressed _ _ hstate hscene =>
      rw [hscene]
      exact restored_changes hstate node

private theorem updated_changes {s : SceneState C D} {currentTime : NSTimeInterval} {hit : SKHit}
    {scene' : SIFloatingCollectionScene C} (h : UpdateStep g d s currentTime hit scene')
    (node : Nat) : NodeChange (s.scene.nodes node) (scene'.nodes node) := by
  cases h with
  | idles _ _ hscene =>
      rw [hscene]
      exact dampNodes_changes g s.scene node
  | starts started _ _ hscene =>
      rw [hscene]
      apply changes_of_damped (g := g)
      exact (s.scene.dampNodes g).frozen_changes started node
  | refuses _ _ _ hscene =>
      rw [hscene]
      exact dampNodes_changes g s.scene node
  | removes removed _ _ _ _ _ hscene =>
      rw [hscene]
      exact dampNodes_changes g s.scene node

theorem floatingStep_changes {s : SceneState C D} {event : FloatingEvent C}
    {scene' : SIFloatingCollectionScene C} (h : FloatingStep g d s event scene') {node : Nat}
    (hattached : scene'.isAttached (.floating node) = true) :
    (s.scene.isAttached (.floating node) = true ∧
        NodeChange (s.scene.nodes node) (scene'.nodes node)) ∨
      ∃ new, event = .addChild new ∧ node = s.scene.created := by
  cases h with
  | adds new =>
      by_cases hnew : node = s.scene.created
      · exact Or.inr ⟨new, rfl, hnew⟩
      · refine Or.inl ⟨?_, ?_⟩
        · rw [isAttached_floating] at hattached ⊢
          simpa [addChild, hnew] using hattached
        · simpa [addChild, hnew] using NodeChange.refl (s.scene.nodes node)
  | keeps index => exact Or.inl ⟨hattached, .refl _⟩
  | removes index removed hremoved =>
      have hmember := List.mem_of_getElem? ((objectAtIndex_ok _ _ _).mp hremoved).2
      exact Or.inl ⟨isAttached_without hmember hattached, .refl _⟩
  | begins location timestamp => exact Or.inl ⟨hattached, .refl _⟩
  | moves previousLocation location mode appliedForces => exact Or.inl ⟨hattached, .refl _⟩
  | ends timestamp hit _ _ hended =>
      obtain ⟨nodes, mode, hframe⟩ := hended.frame
      refine Or.inl ⟨?_, ended_changes hended node⟩
      rw [hframe] at hattached
      exact hattached
  | cancels => exact Or.inl ⟨hattached, .refl _⟩
  | updates currentTime hit _ _ hupdated =>
      refine Or.inl ⟨?_, updated_changes hupdated node⟩
      cases hupdated with
      | idles _ _ hscene =>
          rw [hscene] at hattached
          exact hattached
      | starts started _ _ hscene =>
          rw [hscene] at hattached
          exact hattached
      | refuses _ _ _ hscene =>
          rw [hscene] at hattached
          exact hattached
      | removes removed _ _ _ hmember _ hscene =>
          rw [hscene] at hattached
          exact isAttached_without (s := { s.scene.dampNodes g with removingStartedTime := -1 })
            hmember hattached
  | simulates position => exact Or.inl ⟨hattached, .keeps rfl rfl rfl⟩
  | fades faded _ =>
      refine Or.inl ⟨?_, .refl _⟩
      rw [isAttached_floating] at hattached ⊢
      exact hattached.imp_right List.mem_of_mem_erase

end SceneState

end CrowdSound

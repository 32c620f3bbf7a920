import CrowdSound.Bubbles.Callbacks

/-!
# Removal by index

A removal checks its index in `shouldRemoveNodeAtIndex:`, whose upper bound includes the number of
members. The access that follows has no node at that index, and raises.
-/

namespace CrowdSound

namespace SceneState

variable {C D : Type} (o : Observer C D)

def Allows (s : ObservedScene C D) (index : Int) : Prop :=
  (ask (o.question .shouldRemove) s index).1 = true

def Removable (s : ObservedScene C D) (index : Int) : Prop :=
  0 ≤ index ∧ index < s.scene.floatingNodes.length ∧ Allows o s index

/-- The node at the index has left, and the delegate was asked and told once. -/
def RemovedAt (s s' : ObservedScene C D) (index : Int) : Prop :=
  ∃ before node after, s.scene.floatingNodes = before ++ node :: after ∧
    (before.length : Int) = index ∧ s'.scene.floatingNodes = before ++ after ∧
      s'.scene = s.scene.without index node ∧
        newCallbacks s s' = o.call .shouldRemove index ++ o.call .didRemove index

def KeptAll (s s' : ObservedScene C D) : Prop :=
  s'.scene = s.scene ∧ ∀ callback ∈ newCallbacks s s', callback.method = .shouldRemove

/-- A removal goes through, removes the node at the index if there is one that may go, and does
nothing else. -/
def RemovesExactly (s : ObservedScene C D) (index : Int) : Prop :=
  ∃ s', s.removeFloatingNodeAtIndex o.delegate index = .ok s' ∧
    (Removable o s index → RemovedAt o s s' index) ∧ (¬ Removable o s index → KeptAll s s')

private theorem shouldRemove_inside {s : ObservedScene C D} {index : Int} (hnonneg : 0 ≤ index)
    (hle : index ≤ s.scene.floatingNodes.length) :
    s.shouldRemoveNodeAtIndex o.delegate index = ask (o.question .shouldRemove) s index :=
  if_pos ⟨hnonneg, hle⟩

private theorem shouldRemove_outside {s : ObservedScene C D} {index : Int}
    (h : index < 0 ∨ s.scene.floatingNodes.length < index) :
    s.shouldRemoveNodeAtIndex o.delegate index = (false, s) := by
  apply if_neg
  omega

theorem removeFloatingNodeAtIndex_allowed {s : ObservedScene C D} {index : Int} {node : Nat}
    (hnode : objectAtIndex s.scene.floatingNodes index = .ok node) (hallowed : Allows o s index) :
    ∃ s', s.removeFloatingNodeAtIndex o.delegate index = .ok s' ∧
      s'.scene = s.scene.without index node ∧
        s'.received = s.received ++ (o.call .shouldRemove index ++ o.call .didRemove index) := by
  obtain ⟨hnonneg, hget⟩ := (objectAtIndex_ok _ _ _).mp hnode
  obtain ⟨hlt, _⟩ := List.getElem?_eq_some_iff.mp hget
  have hasked := ask_received o .shouldRemove s index
  have hscene := ask_scene (o.question .shouldRemove) s index
  have hanswer : (ask (o.question .shouldRemove) s index).1 = true := hallowed
  unfold removeFloatingNodeAtIndex
  rw [shouldRemove_inside o hnonneg (by omega)]
  generalize ask (o.question .shouldRemove) s index = answered at hasked hscene hanswer
  obtain ⟨answer, asked⟩ := answered
  dsimp only at hasked hscene hanswer ⊢
  obtain ⟨s', htell, hscene', hreceived⟩ := tell_received o .didRemove
    (removeFromParent { asked with scene := { asked.scene with
      floatingNodes := asked.scene.floatingNodes.eraseIdx index.toNat } } node) index
  refine ⟨s', ?_, ?_, ?_⟩
  · rw [if_pos hanswer]
    apply bind_eq_ok.mpr
    refine ⟨node, ?_, htell⟩
    rw [mapError_raised_ok, hscene]
    exact hnode
  · rw [hscene', hscene]
    unfold removeFromParent SIFloatingCollectionScene.without
    dsimp only
    split <;> rfl
  · rw [hreceived, removeFromParent_received, ← List.append_assoc]
    exact congrArg (· ++ o.call .didRemove index) hasked

private theorem removeFloatingNodeAtIndex_count {s : ObservedScene C D}
    (hallowed : Allows o s s.scene.floatingNodes.length) :
    s.removeFloatingNodeAtIndex o.delegate s.scene.floatingNodes.length =
      .error (.raised .rangeException) := by
  have hscene := ask_scene (o.question .shouldRemove) s s.scene.floatingNodes.length
  have hanswer : (ask (o.question .shouldRemove) s s.scene.floatingNodes.length).1 = true :=
    hallowed
  unfold removeFloatingNodeAtIndex
  rw [shouldRemove_inside o (by omega) (by omega)]
  have hobject : objectAtIndex s.scene.floatingNodes (s.scene.floatingNodes.length : Int) =
      .error .rangeException := by
    simp [objectAtIndex]
  simp only [hanswer, if_true, hscene, hobject]
  rfl

private theorem RemovedAt.intro {s s' : ObservedScene C D} {index : Int} {node : Nat}
    (hnode : objectAtIndex s.scene.floatingNodes index = .ok node)
    (hscene : s'.scene = s.scene.without index node)
    (hreceived : s'.received =
      s.received ++ (o.call .shouldRemove index ++ o.call .didRemove index)) :
    RemovedAt o s s' index := by
  obtain ⟨hnonneg, hget⟩ := (objectAtIndex_ok _ _ _).mp hnode
  obtain ⟨hlt, hat⟩ := List.getElem?_eq_some_iff.mp hget
  refine ⟨s.scene.floatingNodes.take index.toNat, node,
    s.scene.floatingNodes.drop (index.toNat + 1), ?_, ?_, ?_, hscene, ?_⟩
  · rw [← hat, List.getElem_cons_drop, List.take_append_drop]
  · rw [List.length_take]
    omega
  · rw [hscene]
    exact List.eraseIdx_eq_take_drop_succ _ _
  · rw [newCallbacks, hreceived, List.drop_left]

/-- A removal is exact unless its index is the number of members and the delegate allows it. -/
theorem removesExactly_iff (s : ObservedScene C D) (index : Int) :
    RemovesExactly o s index ↔
      index ≠ s.scene.floatingNodes.length ∨ ¬ Allows o s index := by
  constructor
  · rintro ⟨s', hok, _, _⟩
    by_contra hboth
    simp only [not_or, not_not] at hboth
    have hallowed := hboth.2
    rw [hboth.1] at hok hallowed
    rw [removeFloatingNodeAtIndex_count o hallowed] at hok
    cases hok
  · intro hexact
    by_cases hremovable : Removable o s index
    · obtain ⟨hnonneg, hlt, hallowed⟩ := hremovable
      have hnode : objectAtIndex s.scene.floatingNodes index =
          .ok s.scene.floatingNodes[index.toNat] :=
        (objectAtIndex_ok _ _ _).mpr ⟨hnonneg, List.getElem?_eq_getElem (by omega)⟩
      obtain ⟨s', hok, hscene, hreceived⟩ := removeFloatingNodeAtIndex_allowed o hnode hallowed
      refine ⟨s', hok, ?_, ?_⟩
      · intro _
        exact RemovedAt.intro o hnode hscene hreceived
      · intro hnot
        exact absurd ⟨hnonneg, hlt, hallowed⟩ hnot
    · have hrefused : (s.shouldRemoveNodeAtIndex o.delegate index).1 = false := by
        by_cases hinside : 0 ≤ index ∧ index ≤ s.scene.floatingNodes.length
        · rw [shouldRemove_inside o hinside.1 hinside.2]
          by_contra hanswer
          have hallowed : Allows o s index := eq_true_of_ne_false hanswer
          have hne := hexact.resolve_right (not_not.mpr hallowed)
          exact hremovable ⟨hinside.1, by omega, hallowed⟩
        · rw [shouldRemove_outside o (by omega)]
      refine ⟨_, removeFloatingNodeAtIndex_refused hrefused, ?_, ?_⟩
      · intro hyes
        exact absurd hyes hremovable
      · intro _
        exact ⟨shouldRemoveNodeAtIndex_scene s index, (shouldRemove_told o s index).new⟩

/-- In a scene without members the index zero passes the check, and the removal raises. -/
theorem emptyRemoval_not_exact :
    ¬ RemovesExactly Observer.agreeing
      ⟨(defaultSettings ⟨100, 100⟩).scene (.init ⟨⟨0, 0⟩, ⟨20, 20⟩, false, ()⟩), ((), [])⟩ 0 := by
  rintro ⟨s', hok, _, _⟩
  have hraised := removeFloatingNodeAtIndex_count Observer.agreeing (C := Unit) (D := Unit)
    (s := ⟨(defaultSettings ⟨100, 100⟩).scene (.init ⟨⟨0, 0⟩, ⟨20, 20⟩, false, ()⟩), ((), [])⟩) rfl
  cases hok.symm.trans hraised

end SceneState

end CrowdSound

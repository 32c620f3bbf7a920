import CrowdSound.Bubbles.SceneRuns
import CrowdSound.Library.Comparators

/-!
# The order of the commit animation

The bubbles are sorted by a comparator that returns a truth value where one of three values is
expected: zero for a tie, one for a first bubble that comes after the second, and never the
opposite of that.
-/

namespace CrowdSound

variable {C : Type}

namespace BubbleScene

/-- How far a node is from the magnetic field. -/
def fieldDistance (g : Geometry) (s : SIFloatingCollectionScene C) (node : Nat) : ℚ :=
  SIFloatingCollectionScene.distanceBetweenFirstPoint g (s.nodes node).position
    s.magneticFieldPosition

/-- The comparator of `sortedFloatingNodes`; as an `NSComparisonResult`, true is
`NSOrderedDescending` and false is `NSOrderedSame`. -/
def comparator (g : Geometry) (s : SIFloatingCollectionScene C) (obj1 obj2 : Nat) : Ordering :=
  let distance1 := fieldDistance g s obj1
  let distance2 := fieldDistance g s obj2
  if distance1 < distance2 ∧ (s.nodes obj1).state ≠ .tapped then .gt else .eq

/-- `sortedArrayUsingComparator:` answers the elements of the array in some order. -/
structure Sorting where
  sortedArrayUsingComparator : (Nat → Nat → Ordering) → List Nat → List Nat
  perm : ∀ cmp array, (sortedArrayUsingComparator cmp array).Perm array

def sortedFloatingNodes (sorting : Sorting) (g : Geometry) (s : SIFloatingCollectionScene C) :
    List Nat :=
  sorting.sortedArrayUsingComparator (comparator g s) s.floatingNodes

abbrev Member (s : SIFloatingCollectionScene C) := { node : Nat // node ∈ s.floatingNodes }

def compareMembers (g : Geometry) (s : SIFloatingCollectionScene C) (a b : Member s) : Ordering :=
  comparator g s a b

/-- The comparison is opposite both ways round, transitive, and about distances and tapped nodes
only; arrays of the same members are sorted alike, up to ties. -/
structure RealOrdering (g : Geometry) (s : SIFloatingCollectionScene C) : Prop where
  ordering : Std.TransCmp (compareMembers g s)
  determined : ∀ a b a' b' : Member s, fieldDistance g s a = fieldDistance g s a' →
    fieldDistance g s b = fieldDistance g s b' →
    ((s.nodes a).state = .tapped ↔ (s.nodes a').state = .tapped) →
    ((s.nodes b).state = .tapped ↔ (s.nodes b').state = .tapped) →
      compareMembers g s a b = compareMembers g s a' b'
  sorted : ∀ xs ys : List (Member s), xs.Perm ys →
    Comparators.Sorted (compareMembers g s) xs → Comparators.Sorted (compareMembers g s) ys →
      List.Forall₂ (fun a b => compareMembers g s a b = .eq) xs ys

def NoneNearer (g : Geometry) (s : SIFloatingCollectionScene C) : Prop :=
  ∀ a ∈ s.floatingNodes, ∀ b ∈ s.floatingNodes,
    ¬ (fieldDistance g s a < fieldDistance g s b ∧ (s.nodes a).state ≠ .tapped)

private theorem comparator_ne_lt (g : Geometry) (s : SIFloatingCollectionScene C) (a b : Nat) :
    comparator g s a b ≠ .lt := by
  unfold comparator
  dsimp only
  split
  · decide
  · decide

private theorem comparator_gt_iff (g : Geometry) (s : SIFloatingCollectionScene C) (a b : Nat) :
    comparator g s a b = .gt ↔
      fieldDistance g s a < fieldDistance g s b ∧ (s.nodes a).state ≠ .tapped := by
  unfold comparator
  dsimp only
  split
  next h => exact iff_of_true rfl h
  next h => exact iff_of_false (by decide) h

private theorem noneNearer_of_oriented {g : Geometry} {s : SIFloatingCollectionScene C}
    (h : Std.OrientedCmp (compareMembers g s)) : NoneNearer g s := by
  intro a ha b hb hnearer
  have hgt : compareMembers g s ⟨a, ha⟩ ⟨b, hb⟩ = .gt := (comparator_gt_iff g s a b).mpr hnearer
  rw [h.eq_swap, Ordering.swap_eq_gt] at hgt
  exact comparator_ne_lt g s b a hgt

private theorem NoneNearer.tied {g : Geometry} {s : SIFloatingCollectionScene C}
    (h : NoneNearer g s) (a b : Member s) : compareMembers g s a b = .eq :=
  if_neg (h a.1 a.2 b.1 b.2)

private theorem NoneNearer.ordering {g : Geometry} {s : SIFloatingCollectionScene C}
    (h : NoneNearer g s) : Std.TransCmp (compareMembers g s) where
  eq_swap := by
    intro a b
    rw [h.tied a b, h.tied b a]
    rfl
  isLE_trans := by
    intro a b c _ _
    rw [h.tied a c]
    rfl

/-- The comparator orders the members exactly when all of them are tied. -/
theorem realOrdering_iff (g : Geometry) (s : SIFloatingCollectionScene C) :
    RealOrdering g s ↔ NoneNearer g s := by
  constructor
  · intro h
    exact noneNearer_of_oriented h.ordering.toOrientedCmp
  · intro h
    have hordering := h.ordering
    constructor
    · exact hordering
    · intro a b a' b' _ _ _ _
      rw [h.tied a b, h.tied a' b']
    · intro xs ys hperm hxs hys
      exact Comparators.sorted_agree hperm hxs hys

/-- Two nodes in the normal state above the field, one of them farther away. -/
def twoAbove : SIFloatingCollectionScene Unit :=
  (((defaultSettings ⟨100, 100⟩).scene (.init ⟨⟨0, 0⟩, ⟨20, 20⟩, false, ()⟩)).addChild
    (.init ⟨⟨50, 60⟩, ⟨20, 20⟩, false, ()⟩)).addChild (.init ⟨⟨50, 80⟩, ⟨20, 20⟩, false, ()⟩)

/-- The nearer one comes after the farther one, which ties with it. -/
theorem twoAbove_not_ordered : ¬ RealOrdering axisGeometry twoAbove := by
  intro h
  have hgt : compareMembers axisGeometry twoAbove ⟨0, by decide⟩ ⟨1, by decide⟩ = .gt := by
    decide +kernel
  have heq : compareMembers axisGeometry twoAbove ⟨1, by decide⟩ ⟨0, by decide⟩ = .eq := by
    decide +kernel
  rw [h.ordering.eq_swap, heq] at hgt
  cases hgt

end BubbleScene

end CrowdSound

import CrowdSound.Bubbles.SceneRuns
import Mathlib.Tactic.Linarith

/-!
# Pushes

A drag pushes every node. With the nodes restricted to the bounds of the scene, a node outside on
one side is not pushed further out on that side, which the code reads off the sign of a product of
its coordinate and the displacement.
-/

namespace CrowdSound

private theorem outside_and_mul_pos_iff {p d extent half : ℚ} (hextent : 0 ≤ extent)
    (hhalf : 0 ≤ half) :
    (p < -half ∨ p > extent + half) ∧ p * d > 0 ↔
      (p < -half ∧ d < 0) ∨ (p > extent + half ∧ d > 0) := by
  constructor
  · rintro ⟨hbelow | habove, hproduct⟩
    · have hneg : p < 0 := by linarith
      exact Or.inl ⟨hbelow, (neg_iff_neg_of_mul_pos hproduct).mp hneg⟩
    · have hpos : 0 < p := by linarith
      exact Or.inr ⟨habove, (pos_iff_pos_of_mul_pos hproduct).mp hpos⟩
  · rintro (⟨hbelow, hd⟩ | ⟨habove, hd⟩)
    · have hneg : p < 0 := by linarith
      exact ⟨Or.inl hbelow, mul_pos_of_neg_of_neg hneg hd⟩
    · have hpos : 0 < p := by linarith
      exact ⟨Or.inr habove, mul_pos hpos hd⟩

namespace SIFloatingCollectionScene

variable {C : Type}

/-- The component of a force along an axis on which the scene has the given extent: none for a
node that is outside and would be pushed further out. -/
def componentInBounds (strength extent p half d : ℚ) : ℚ :=
  if (p < -half ∧ d < 0) ∨ (p > extent + half ∧ d > 0) then 0 else strength * d

/-- The force that does not lead further out, on each axis by itself. -/
def forceInBounds (s : SIFloatingCollectionScene C) (floating : SIFloatingNode C) (dx dy : ℚ) :
    CGVector where
  dx := componentInBounds s.pushStrength s.size.width floating.position.x
    (floating.frameSize.width / 2) dx
  dy := componentInBounds s.pushStrength s.size.height floating.position.y
    (floating.frameSize.height / 2) dy

structure NonnegativeExtents (s : SIFloatingCollectionScene C) : Prop where
  width : 0 ≤ s.size.width
  height : 0 ≤ s.size.height
  halfWidth : ∀ node ∈ s.floatingNodes, 0 ≤ (s.nodes node).frameSize.width / 2
  halfHeight : ∀ node ∈ s.floatingNodes, 0 ≤ (s.nodes node).frameSize.height / 2

private theorem pushForce_inBounds {s : SIFloatingCollectionScene C} {node : Nat}
    (hs : s.NonnegativeExtents) (hrestricted : s.restrictedToBounds = true)
    (hmember : node ∈ s.floatingNodes) (dx dy : ℚ) :
    s.pushForce (s.nodes node) dx dy = s.forceInBounds (s.nodes node) dx dy := by
  have hx := outside_and_mul_pos_iff (p := (s.nodes node).position.x) (d := dx) hs.width
    (hs.halfWidth node hmember)
  have hy := outside_and_mul_pos_iff (p := (s.nodes node).position.y) (d := dy) hs.height
    (hs.halfHeight node hmember)
  simp only [pushForce, forceInBounds, componentInBounds, hrestricted, true_and, hx, hy]

/-- A drag pushes every member once, and none of them further out. -/
theorem touchesMoved_inBounds (g : Geometry) (s : SIFloatingCollectionScene C)
    (previousLocation location : CGPoint) (hs : s.NonnegativeExtents)
    (hrestricted : s.restrictedToBounds = true) (hmode : s.mode ≠ .editing)
    (hmoved : (scaledDisplacement g previousLocation location).dx ≠ 0 ∨
      (scaledDisplacement g previousLocation location).dy ≠ 0) :
    s.touchesMoved g previousLocation location =
      { s with
        mode := .moving
        appliedForces := s.appliedForces ++ s.floatingNodes.map fun node =>
          (node, s.forceInBounds (s.nodes node)
            (scaledDisplacement g previousLocation location).dx
            (scaledDisplacement g previousLocation location).dy) } := by
  have hpushed : s.floatingNodes.map (fun node => (node, s.pushForce (s.nodes node)
        (scaledDisplacement g previousLocation location).dx
        (scaledDisplacement g previousLocation location).dy)) =
      s.floatingNodes.map (fun node => (node, s.forceInBounds (s.nodes node)
        (scaledDisplacement g previousLocation location).dx
        (scaledDisplacement g previousLocation location).dy)) := by
    apply List.map_congr_left
    intro node hmember
    rw [pushForce_inBounds hs hrestricted hmember]
  have hnot : ¬ ((scaledDisplacement g previousLocation location).dx = 0 ∧
      (scaledDisplacement g previousLocation location).dy = 0) := by
    intro hzero
    exact hmoved.elim (fun hdx => hdx hzero.1) (fun hdy => hdy hzero.2)
  unfold touchesMoved
  rw [if_neg hmode]
  dsimp only
  rw [if_neg hnot, hpushed]

def leftOfScene : SIFloatingCollectionScene Unit :=
  ((defaultSettings ⟨100, 100⟩).scene (.init ⟨⟨0, 0⟩, ⟨20, 20⟩, false, ()⟩)).addChild
    (.init ⟨⟨-30, 50⟩, ⟨20, 20⟩, false, ()⟩)

private theorem leftOfScene_extents : leftOfScene.NonnegativeExtents := by
  constructor
  · decide +kernel
  · decide +kernel
  · decide +kernel
  · decide +kernel

/-- A drag to the left and down only pushes the node down. -/
theorem leftOfScene_moved :
    (leftOfScene.touchesMoved axisGeometry ⟨2, 1⟩ ⟨1, 0⟩).appliedForces = [(0, ⟨0, -10000⟩)] := by
  rw [touchesMoved_inBounds axisGeometry leftOfScene ⟨2, 1⟩ ⟨1, 0⟩ leftOfScene_extents rfl
    (by decide) (Or.inl (by decide +kernel))]
  decide +kernel

end SIFloatingCollectionScene

end CrowdSound

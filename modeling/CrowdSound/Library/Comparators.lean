import Mathlib.Order.Antisymmetrization
import Mathlib.Data.List.Forall2
import Mathlib.Data.List.Sort

/-!
# Comparators

A comparison in three values that is oriented and transitive sorts: two sorted lists of the same
elements agree up to ties.
-/

namespace Comparators

variable {α : Type*} {cmp : α → α → Ordering}

def Sorted (cmp : α → α → Ordering) (xs : List α) : Prop :=
  xs.Pairwise fun a b => (cmp a b).isLE = true

/-- The order of a comparator. -/
@[reducible] def preorder (cmp : α → α → Ordering) [Std.TransCmp cmp] : Preorder α where
  le a b := (cmp a b).isLE = true
  le_refl a := by simp [Std.ReflCmp.compare_self]
  le_trans _ _ _ := Std.TransCmp.isLE_trans

theorem eq_of_isLE [Std.OrientedCmp cmp] {a b : α} (hab : (cmp a b).isLE = true)
    (hba : (cmp b a).isLE = true) : cmp a b = .eq := by
  have hswap : cmp b a = (cmp a b).swap := Std.OrientedCmp.eq_swap
  rw [hswap] at hba
  cases h : cmp a b with
  | lt => simp [h] at hba
  | eq => rfl
  | gt => simp [h] at hab

theorem sorted_agree [Std.TransCmp cmp] {xs ys : List α} (h : xs.Perm ys) (hx : Sorted cmp xs)
    (hy : Sorted cmp ys) : List.Forall₂ (fun a b => cmp a b = .eq) xs ys := by
  let _ := preorder cmp
  -- in the quotient by ties the comparator is a partial order
  let tied := toAntisymmetrization (α := α) (· ≤ ·)
  have hpairwise : ∀ {zs : List α}, Sorted cmp zs → (zs.map tied).Pairwise (· ≤ ·) := by
    intro zs hz
    exact List.pairwise_map.mpr hz
  have hmap : xs.map tied = ys.map tied :=
    List.Perm.eq_of_pairwise (fun _ _ _ _ => le_antisymm) (hpairwise hx) (hpairwise hy)
      (h.map tied)
  have hequal : List.Forall₂ Eq (xs.map tied) (ys.map tied) := by
    rw [hmap, List.forall₂_eq_eq_eq]
  have hforall : List.Forall₂ (fun a b => tied a = tied b) xs ys :=
    List.forall₂_map_right_iff.mp (List.forall₂_map_left_iff.mp hequal)
  apply hforall.imp
  intro a b hab
  have hrel := Quotient.exact hab
  exact eq_of_isLE hrel.1 hrel.2

end Comparators

import Mathlib.Data.List.Basic

/-!
# Delimited pairs

Two lists joined around one separator can be told apart again exactly when neither of them
contains the separator.
-/

namespace Delimited

variable {α : Type*}

/-- Join a pair of lists around a separator. -/
def join (sep : α) (p : List α × List α) : List α := p.1 ++ sep :: p.2

theorem join_split_left (sep : α) (xs ys zs : List α) :
    join sep (xs, ys ++ sep :: zs) = join sep (xs ++ sep :: ys, zs) := by
  simp [join]

theorem join_unique (sep : α) (p q : List α × List α) (h₁ : sep ∉ p.1) (h₂ : sep ∉ p.2)
    (h : join sep q = join sep p) : q = p := by
  rcases List.append_eq_append_iff.mp h with ⟨as, hp, hq⟩ | ⟨as, hq, hp⟩
  · cases as with
    | nil =>
        simp only [List.append_nil, List.nil_append, List.cons.injEq, true_and] at hp hq
        exact Prod.ext hp.symm hq
    | cons a as =>
        simp only [List.cons_append, List.cons.injEq] at hq
        exact absurd (by simp [hp, hq.1]) h₁
  · cases as with
    | nil =>
        simp only [List.append_nil, List.nil_append, List.cons.injEq, true_and] at hp hq
        exact Prod.ext hq hp.symm
    | cons a as =>
        simp only [List.cons_append, List.cons.injEq] at hp
        exact absurd (by simp [hp.2]) h₂

/-- The pairs that no other pair collides with are those free of the separator. -/
theorem join_unique_iff (sep : α) (p : List α × List α) :
    (∀ q, join sep q = join sep p → q = p) ↔ sep ∉ p.1 ∧ sep ∉ p.2 := by
  constructor
  · intro h
    constructor
    · intro hm
      obtain ⟨xs, ys, hp⟩ := List.append_of_mem hm
      have hq := h (xs, ys ++ sep :: p.2) (by rw [join_split_left, ← hp])
      have hlen := congrArg (fun q => q.1.length) hq
      simp [hp] at hlen
    · intro hm
      obtain ⟨ys, zs, hp⟩ := List.append_of_mem hm
      have hq := h (p.1 ++ sep :: ys, zs) (by rw [← join_split_left, ← hp])
      have hlen := congrArg (fun q => q.1.length) hq
      simp at hlen
  · rintro ⟨h₁, h₂⟩ q hq
    exact join_unique sep p q h₁ h₂ hq

end Delimited

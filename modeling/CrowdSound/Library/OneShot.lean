import CrowdSound.Library.EventRun

/-!
# One-shot cells

A cell is completed at most once: completing it a second time fails. A sequence of completions
therefore succeeds and leaves the cell complete exactly when it consists of a single completion.
-/

namespace OneShot

variable {β χ : Type*}

structure Cell (β : Type*) where
  value : Option β
  completions : Nat
  deriving DecidableEq

def Cell.empty : Cell β := ⟨none, 0⟩

/-- Complete a cell; one that is complete already fails with `again`. -/
def Cell.complete (again : χ) (c : Cell β) (b : β) : Except χ (Cell β) :=
  match c.value with
  | none => .ok ⟨some b, c.completions + 1⟩
  | some _ => .error again

/-- The attempt ended without failure, with the cell completed once and for all by `b`. -/
def CompletedOnceWith (r : Except χ (Cell β)) (b : β) : Prop := r = .ok ⟨some b, 1⟩

/-- The attempt ended without failure, with the cell completed exactly once. -/
def CompletedOnce (r : Except χ (Cell β)) : Prop := ∃ b, CompletedOnceWith r b

@[simp] theorem complete_empty (again : χ) (b : β) :
    Cell.complete again Cell.empty b = .ok ⟨some b, 1⟩ := rfl

@[simp] theorem complete_some (again : χ) (b c : β) (n : Nat) :
    Cell.complete again ⟨some b, n⟩ c = .error again := rfl

theorem run_complete_empty (again : χ) (bs : List β) (c : Cell β) :
    EventRun.run (Cell.complete again) Cell.empty bs = .ok c ↔
      (bs = [] ∧ c = Cell.empty) ∨ ∃ b, bs = [b] ∧ c = ⟨some b, 1⟩ := by
  rcases bs with _ | ⟨b, _ | ⟨b', bs⟩⟩
  · simp [eq_comm]
  · simp only [EventRun.run_cons_ok, complete_empty, EventRun.run_nil, Except.ok.injEq]
    simp [eq_comm]
  · simp [EventRun.run_cons_ok]

/-- Exactly one completion is what completes an empty cell. -/
theorem run_completedOnceWith_iff (again : χ) (bs : List β) (b : β) :
    CompletedOnceWith (EventRun.run (Cell.complete again) Cell.empty bs) b ↔ bs = [b] := by
  rw [CompletedOnceWith, run_complete_empty]
  simp [Cell.empty, eq_comm]

theorem run_completedOnce_iff (again : χ) (bs : List β) :
    CompletedOnce (EventRun.run (Cell.complete again) Cell.empty bs) ↔ bs.length = 1 := by
  simp only [CompletedOnce, run_completedOnceWith_iff, List.length_eq_one_iff]

end OneShot

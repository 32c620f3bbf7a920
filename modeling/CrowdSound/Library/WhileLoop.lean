import Mathlib.Order.WellFounded

/-!
# While loops

A loop that tests and runs its body for as long as the test says so, given a number of tests after
which the attempt is given up. A loop terminates when some number of tests is enough. The rules
prove termination with a postcondition from an invariant and a well-founded relation, and
divergence from an invariant under which the test never fails.
-/

namespace WhileLoop

variable {σ : Type*} {continues : σ → Bool} {body : σ → σ}

def run (continues : σ → Bool) (body : σ → σ) : Nat → σ → Option σ
  | 0, _ => none
  | fuel + 1, s => if continues s then run continues body fuel (body s) else some s

theorem run_stop {s : σ} (h : continues s = false) (fuel : Nat) :
    run continues body (fuel + 1) s = some s := by
  simp [run, h]

theorem run_step {s : σ} (h : continues s = true) (fuel : Nat) :
    run continues body (fuel + 1) s = run continues body fuel (body s) := by
  simp [run, h]

theorem terminates {I : σ → Prop} {r : σ → σ → Prop} (hr : WellFounded r)
    (hstep : ∀ s, I s → continues s = true → I (body s) ∧ r (body s) s) {s : σ} (hs : I s) :
    ∃ fuel t, run continues body fuel s = some t ∧ I t ∧ continues t = false := by
  induction s using hr.induction with
  | _ s ih =>
      by_cases hcontinues : continues s = true
      · obtain ⟨hI, hless⟩ := hstep s hs hcontinues
        obtain ⟨fuel, t, hrun, ht⟩ := ih (body s) hless hI
        exact ⟨fuel + 1, t, (run_step hcontinues fuel).trans hrun, ht⟩
      · have hstop : continues s = false := eq_false_of_ne_true hcontinues
        exact ⟨1, s, run_stop hstop 0, hs, hstop⟩

theorem diverges {I : σ → Prop} (hstep : ∀ s, I s → continues s = true ∧ I (body s)) (fuel : Nat)
    {s : σ} (hs : I s) : run continues body fuel s = none := by
  induction fuel generalizing s with
  | zero => rfl
  | succ fuel ih =>
      obtain ⟨hcontinues, hI⟩ := hstep s hs
      rw [run_step hcontinues]
      exact ih hI

end WhileLoop

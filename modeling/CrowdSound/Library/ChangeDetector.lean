import CrowdSound.Library.EventRun
import Mathlib.Data.List.Chain

/-!
# Detecting changes

A detector keeps a key of the last value it saw and reports a value whose key is another one. It
reports the changes of the values themselves exactly when the keys tell neighbours apart, and the
first value from what the detector started with.
-/

namespace ChangeDetector

variable {α κ ι : Type*} [DecidableEq κ] [DecidableEq ι]

/-- Whether each value is reported, by a detector that starts with a recorded key. -/
def detect (key : α → κ) (recorded : κ) : List α → List Bool
  | [] => []
  | value :: values => decide (key value ≠ recorded) :: detect key (key value) values

/-- Whether each value differs from the one before it; a first value does. -/
def changes (identity : α → ι) (previous : Option α) : List α → List Bool
  | [] => []
  | value :: values =>
    decide (previous.map identity ≠ some (identity value)) ::
      changes identity (some value) values

/-- Neighbours with the same key are the same. -/
def KeyTells (key : α → κ) (identity : α → ι) (value value' : α) : Prop :=
  key value = key value' → identity value = identity value'

instance (key : α → κ) (identity : α → ι) : DecidableRel (KeyTells key identity) := fun _ _ =>
  inferInstanceAs (Decidable (_ → _))

variable {key : α → κ} {identity : α → ι}

theorem detect_eq_changes_some (hkey : ∀ value value', identity value = identity value' →
      key value = key value') (previous : α) (values : List α) :
    detect key (key previous) values = changes identity (some previous) values ↔
      (previous :: values).IsChain (KeyTells key identity) := by
  induction values generalizing previous with
  | nil => simp [detect, changes]
  | cons value values ih =>
      rw [detect, changes, List.cons.injEq, ih value, List.isChain_cons_cons]
      apply and_congr_left
      intro _
      rw [decide_eq_decide, KeyTells, Option.map_some, Ne, Ne, Option.some.injEq, not_iff_not]
      constructor
      · intro h hsame
        exact h.mp hsame.symm
      · intro h
        exact ⟨fun hsame => h hsame.symm, fun hsame => (hkey _ _ hsame).symm⟩

theorem detect_eq_changes (hkey : ∀ value value', identity value = identity value' →
      key value = key value') (recorded : κ) (values : List α) :
    detect key recorded values = changes identity none values ↔
      (∀ first ∈ values.head?, key first ≠ recorded) ∧
        values.IsChain (KeyTells key identity) := by
  cases values with
  | nil => simp [detect, changes]
  | cons value values =>
      rw [detect, changes, List.cons.injEq, detect_eq_changes_some hkey]
      apply and_congr_left
      intro _
      simp

theorem trace_eq_detect {σ ε χ : Type*} {step : σ → ε → Except χ σ} {out : σ → ε → List Bool}
    {recorded : σ → κ} {received : ε → Option α}
    (hstep : ∀ s e s', step s e = .ok s' →
      out s e = (received e).toList.map (fun value => decide (key value ≠ recorded s)) ∧
        recorded s' = ((received e).map key).getD (recorded s))
    {s t : σ} {es : List ε} (h : EventRun.run step s es = .ok t) :
    EventRun.trace step out s es = detect key (recorded s) (es.filterMap received) := by
  induction es generalizing s with
  | nil => rfl
  | cons e es ih =>
      obtain ⟨s', he, hs'⟩ := (EventRun.run_cons_ok s t e es).mp h
      obtain ⟨hout, hrecorded⟩ := hstep s e s' he
      rw [EventRun.trace_cons out es he, ih hs', hout, hrecorded, List.filterMap_cons]
      cases received e with
      | none => rfl
      | some value => rfl

end ChangeDetector

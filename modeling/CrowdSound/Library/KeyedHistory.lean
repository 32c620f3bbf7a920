import Mathlib.Data.List.Chain
import Mathlib.Data.List.Induction
import Mathlib.Logic.Function.Basic

/-!
# Keyed write histories

A map written to one entry at a time holds, at each key, the last value of the history written
there. When the entries are stored under a code of their key, lookups agree with the map keyed
by the entries themselves exactly where the code has a single preimage.
-/

namespace KeyedHistory

variable {α κ π ν : Type*} [DecidableEq κ]

def lastWhere (p : α → Bool) (history : List α) : Option α := (history.filter p).getLast?

@[simp] theorem lastWhere_nil (p : α → Bool) : lastWhere p [] = none := rfl

theorem lastWhere_append (p : α → Bool) (xs ys : List α) :
    lastWhere p (xs ++ ys) = (lastWhere p ys).or (lastWhere p xs) := by
  simp [lastWhere, List.filter_append, List.getLast?_append]

theorem lastWhere_singleton (p : α → Bool) (x : α) :
    lastWhere p [x] = if p x then some x else none := by
  cases h : p x <;> simp [lastWhere, h]

theorem lastWhere_snoc (p : α → Bool) (xs : List α) (x : α) :
    lastWhere p (xs ++ [x]) = if p x then some x else lastWhere p xs := by
  rw [lastWhere_append, lastWhere_singleton]
  cases p x <;> simp

theorem lastWhere_middle (p : α → Bool) (xs ys : List α) (x : α) :
    lastWhere p (xs ++ x :: ys) =
      (lastWhere p ys).or (if p x then some x else lastWhere p xs) := by
  rw [List.append_cons, lastWhere_append, lastWhere_snoc]

theorem lastWhere_mem {p : α → Bool} {xs : List α} {x : α} (h : lastWhere p xs = some x) :
    x ∈ xs ∧ p x := by
  have hm := List.mem_of_getLast? h
  exact List.mem_filter.mp hm

theorem lastWhere_eq_none {p : α → Bool} {xs : List α} :
    lastWhere p xs = none ↔ ∀ x ∈ xs, p x = false := by
  simp [lastWhere]

theorem lastWhere_congr {p q : α → Bool} {xs : List α} (h : ∀ x ∈ xs, p x = q x) :
    lastWhere p xs = lastWhere q xs := by
  rw [lastWhere, lastWhere, List.filter_congr h]

theorem lastWhere_eq_some_iff {p : α → Bool} {xs : List α} {x : α} :
    lastWhere p xs = some x ↔
      p x ∧ ∃ before after, xs = before ++ x :: after ∧ ∀ y ∈ after, p y = false := by
  constructor
  · intro h
    have hp := (lastWhere_mem h).2
    refine ⟨hp, ?_⟩
    induction xs using List.reverseRecOn with
    | nil => simp at h
    | append_singleton xs z ih =>
        rw [lastWhere_snoc] at h
        by_cases hz : p z = true
        · rw [if_pos hz] at h
          have hzx := Option.some.inj h
          subst hzx
          exact ⟨xs, [], rfl, by simp⟩
        · rw [if_neg hz] at h
          obtain ⟨before, after, hxs, hafter⟩ := ih h
          refine ⟨before, after ++ [z], by simp [hxs], ?_⟩
          intro y hy
          rcases List.mem_append.mp hy with hy | hy
          · exact hafter y hy
          · rw [List.mem_singleton.mp hy]
            simpa using hz
  · intro ⟨hp, before, after, hxs, hafter⟩
    have hnone : lastWhere p after = none := lastWhere_eq_none.mpr hafter
    rw [hxs, lastWhere_middle, hnone, if_pos hp, Option.none_or]

theorem lastWhere_filterMap {β : Type*} {p : α → Bool} {q : β → Bool} {f : α → Option β}
    (hpq : ∀ x y, f x = some y → q y = p x) {xs : List α} {x : α} {y : β}
    (h : lastWhere p xs = some x) (hy : f x = some y) :
    lastWhere q (xs.filterMap f) = some y := by
  obtain ⟨hp, before, after, hxs, hafter⟩ := lastWhere_eq_some_iff.mp h
  rw [lastWhere_eq_some_iff]
  refine ⟨(hpq x y hy).trans hp, before.filterMap f, after.filterMap f, ?_, ?_⟩
  · rw [hxs, List.filterMap_append, List.filterMap_cons_some hy]
  · intro z hz
    obtain ⟨w, hw, hz⟩ := List.mem_filterMap.mp hz
    rw [hpq w z hz]
    exact hafter w hw

theorem lastWhere_map {β : Type*} (p : β → Bool) (f : α → β) (xs : List α) :
    lastWhere p (xs.map f) = (lastWhere (fun x => p (f x)) xs).map f := by
  rw [lastWhere, List.filter_map, List.getLast?_map]
  rfl

/-- Write the entries of a history one after the other. -/
def replay (key : α → κ) (value : α → ν) (store : κ → Option ν) (history : List α) :
    κ → Option ν :=
  history.foldl (fun m x => Function.update m (key x) (some (value x))) store

theorem replay_apply (key : α → κ) (value : α → ν) (store : κ → Option ν) (history : List α)
    (k : κ) : replay key value store history k =
      ((lastWhere (fun x => key x = k) history).map value).or (store k) := by
  induction history using List.reverseRecOn with
  | nil => simp [replay]
  | append_singleton xs x ih =>
      have hstep : replay key value store (xs ++ [x]) =
          Function.update (replay key value store xs) (key x) (some (value x)) := by
        simp [replay]
      rw [hstep, lastWhere_snoc]
      by_cases hx : key x = k
      · subst hx
        simp
      · rw [Function.update_of_ne (Ne.symm hx), ih]
        simp [hx]

/-- Storing under a code of the key answers as the map keyed by the entries themselves if and
only if the last entry under the code carries the value of the last entry under the key. -/
theorem replay_code_iff [DecidableEq π] (code : π → κ) (pair : α → π) (value : α → ν)
    (history : List α) (q : π) :
    replay (fun x => code (pair x)) value (fun _ => none) history (code q) =
        replay pair value (fun _ => none) history q ↔
      ∀ x, lastWhere (fun x => code (pair x) = code q) history = some x →
        ∃ y, lastWhere (fun x => pair x = q) history = some y ∧ value y = value x := by
  rw [replay_apply, replay_apply, Option.or_none, Option.or_none]
  cases hx : lastWhere (fun x => code (pair x) = code q) history with
  | none =>
      have hnone : lastWhere (fun x => pair x = q) history = none := by
        rw [lastWhere_eq_none] at hx ⊢
        intro x hm
        have hc := hx x hm
        simp only [decide_eq_false_iff_not] at hc ⊢
        exact fun hp => hc (by rw [hp])
      simp [hnone]
  | some x =>
      cases hy : lastWhere (fun x => pair x = q) history with
      | none => simp
      | some y => simp [eq_comm]

/-- The coded store answers like the uncoded one on every history exactly when no other key
shares the code. -/
theorem replay_code_forall_iff [DecidableEq π] (code : π → κ) (pair : α → π) (value : α → ν)
    (hpair : Function.Surjective pair) (q : π) :
    (∀ history, replay (fun x => code (pair x)) value (fun _ => none) history (code q) =
        replay pair value (fun _ => none) history q) ↔
      ∀ q', code q' = code q → q' = q := by
  constructor
  · intro h q' hc
    obtain ⟨x, rfl⟩ := hpair q'
    have hq := (replay_code_iff code pair value [x] q).mp (h [x]) x
      (by simp [lastWhere_singleton, hc])
    obtain ⟨y, hy, _⟩ := hq
    obtain ⟨hm, hp⟩ := lastWhere_mem hy
    rw [List.mem_singleton] at hm
    subst hm
    simpa using hp
  · intro h history
    rw [replay_code_iff]
    intro x hx
    have hsame : lastWhere (fun x => pair x = q) history =
        lastWhere (fun x => code (pair x) = code q) history := by
      apply lastWhere_congr
      intro z _
      rw [decide_eq_decide]
      exact ⟨fun hz => by rw [hz], h (pair z)⟩
    exact ⟨x, hsame.trans hx, rfl⟩

/-- Under every key, no value of the history is followed by the same value. -/
def Alternates (key : α → κ) (value : α → ν) (history : List α) : Prop :=
  ∀ k, ((history.filter fun x => key x = k).map value).IsChain (· ≠ ·)

theorem alternates_nil (key : α → κ) (value : α → ν) : Alternates key value [] := by
  intro k
  exact List.IsChain.nil

/-- An entry whose value differs from the last one under its key keeps a history alternating. -/
theorem alternates_snoc {key : α → κ} {value : α → ν} {history : List α}
    (h : Alternates key value history) (x : α)
    (hx : ∀ y, lastWhere (fun y => key y = key x) history = some y → value y ≠ value x) :
    Alternates key value (history ++ [x]) := by
  intro k
  rw [List.filter_append, List.map_append, List.isChain_append]
  refine ⟨h k, ?_, ?_⟩
  · by_cases hk : key x = k
    · simp [hk]
    · simp [hk]
  · intro a ha b hb
    by_cases hk : key x = k
    · subst hk
      rw [List.getLast?_map, Option.mem_def, Option.map_eq_some_iff] at ha
      obtain ⟨y, hy, hya⟩ := ha
      have hb' : value x = b := by simpa using hb
      rw [← hya, ← hb']
      exact hx y hy
    · simp [hk] at hb

end KeyedHistory

import CrowdSound.Library.KeyedHistory

/-!
# Tables of asynchronous requests

Requests are numbered in the order in which they were issued. Each is in flight until it is
settled, once, as succeeded or failed; requests settle in any order.
-/

namespace RequestTable

inductive Status where
  | inFlight
  | succeeded
  | failed
  deriving DecidableEq

structure Entry (α : Type*) where
  payload : α
  status : Status
  deriving DecidableEq

variable {α : Type*}

def issue (table : List (Entry α)) (payload : α) : List (Entry α) :=
  table ++ [⟨payload, .inFlight⟩]

theorem ne_issue (table : List (Entry α)) (payload : α) : table ≠ issue table payload := by
  simp [issue]

def settled (ok : Bool) : Status := if ok then .succeeded else .failed

/-- Settle the request with number `i`, if it is in flight; the payload is returned. -/
def settle (table : List (Entry α)) (i : Nat) (ok : Bool) : Option (α × List (Entry α)) :=
  match table[i]? with
  | some ⟨payload, .inFlight⟩ => some (payload, table.set i ⟨payload, settled ok⟩)
  | _ => none

theorem settle_split {table table' : List (Entry α)} {i : Nat} {ok : Bool} {payload : α}
    (h : settle table i ok = some (payload, table')) :
    ∃ before after, before.length = i ∧ table = before ++ ⟨payload, .inFlight⟩ :: after ∧
      table' = before ++ ⟨payload, settled ok⟩ :: after := by
  unfold settle at h
  split at h
  next payload' hi =>
    obtain ⟨hlt, hget⟩ := List.getElem?_eq_some_iff.mp hi
    have hlen : (table.take i).length = i := by
      rw [List.length_take]
      omega
    have hsplit : table = table.take i ++ ⟨payload', .inFlight⟩ :: table.drop (i + 1) := by
      rw [← hget, List.getElem_cons_drop, List.take_append_drop]
    simp only [Option.some.injEq, Prod.mk.injEq] at h
    obtain ⟨hp, ht⟩ := h
    subst hp
    refine ⟨table.take i, table.drop (i + 1), hlen, hsplit, ?_⟩
    rw [← ht, List.set_eq_take_append_cons_drop, if_pos hlt]
  next => simp at h

theorem settle_payloads {table table' : List (Entry α)} {i : Nat} {ok : Bool} {payload : α}
    (h : settle table i ok = some (payload, table')) :
    table'.map Entry.payload = table.map Entry.payload ∧ payload ∈ table.map Entry.payload := by
  obtain ⟨before, after, _, htable, htable'⟩ := settle_split h
  rw [htable, htable']
  simp

theorem settle_eq_set {table table' : List (Entry α)} {i : Nat} {ok : Bool} {payload : α}
    (h : settle table i ok = some (payload, table')) :
    table[i]? = some ⟨payload, .inFlight⟩ ∧ table' = table.set i ⟨payload, settled ok⟩ := by
  obtain ⟨before, after, hlen, htable, htable'⟩ := settle_split h
  subst hlen
  rw [htable, htable']
  simp

/-- The number of requests from the `n`-th on that are in flight or have succeeded. -/
def liveSince (table : List (Entry α)) (n : Nat) : Nat :=
  (table.drop n).countP fun entry => entry.status ≠ .failed

theorem liveSince_issue (table : List (Entry α)) (payload : α) {n : Nat} (h : n ≤ table.length) :
    liveSince (issue table payload) n = liveSince table n + 1 := by
  simp [liveSince, issue, List.drop_append_of_le_length h]

theorem liveSince_length (table : List (Entry α)) : liveSince table table.length = 0 := by
  simp [liveSince]

theorem liveSince_settle_le {table table' : List (Entry α)} {i : Nat} {ok : Bool} {payload : α}
    (h : settle table i ok = some (payload, table')) (n : Nat) :
    liveSince table' n ≤ liveSince table n := by
  obtain ⟨hi, htable'⟩ := settle_eq_set h
  obtain ⟨hlt, hget⟩ := List.getElem?_eq_some_iff.mp hi
  unfold liveSince
  rw [htable', List.drop_set]
  split
  · exact le_refl _
  next hn =>
    have hdrop : i - n < (table.drop n).length := by
      rw [List.length_drop]
      omega
    have hentry : (table.drop n)[i - n] = ⟨payload, .inFlight⟩ := by
      rw [List.getElem_drop, ← hget]
      congr 1
      omega
    have hpos : 0 < (table.drop n).countP fun entry => entry.status ≠ .failed := by
      apply List.countP_pos_iff.mpr
      exact ⟨_, List.getElem_mem hdrop, by simp [hentry]⟩
    rw [List.countP_set hdrop, hentry]
    simp only [ne_eq, reduceCtorEq, not_false_eq_true, decide_true, if_true] at hpos ⊢
    split <;> omega

theorem lastWhere_settle {table table' : List (Entry α)} {i : Nat} {ok : Bool} {payload : α}
    (h : settle table i ok = some (payload, table')) (p : α → Bool) :
    KeyedHistory.lastWhere (fun entry => p entry.payload) table' =
        KeyedHistory.lastWhere (fun entry => p entry.payload) table ∨
      p payload = true ∧ KeyedHistory.lastWhere (fun entry => p entry.payload) table' =
        some ⟨payload, settled ok⟩ := by
  obtain ⟨before, after, _, htable, htable'⟩ := settle_split h
  rw [htable, htable', KeyedHistory.lastWhere_middle, KeyedHistory.lastWhere_middle]
  cases hafter : KeyedHistory.lastWhere (fun entry => p entry.payload) after with
  | some entry => exact Or.inl rfl
  | none =>
      cases hp : p payload with
      | true => exact Or.inr ⟨rfl, by simp⟩
      | false => exact Or.inl (by simp)

/-- Some request with the given property of its payload has the given status. -/
def HasStatus (table : List (Entry α)) (status : Status) (p : α → Prop) : Prop :=
  ∃ entry ∈ table, entry.status = status ∧ p entry.payload

theorem hasStatus_nil (status : Status) (p : α → Prop) : ¬ HasStatus [] status p := by
  simp [HasStatus]

theorem hasStatus_issue (table : List (Entry α)) (payload : α) (status : Status)
    (p : α → Prop) :
    HasStatus (issue table payload) status p ↔
      HasStatus table status p ∨ status = .inFlight ∧ p payload := by
  simp [HasStatus, issue, or_and_right, exists_or, eq_comm]

theorem hasStatus_succeeded_settle {table table' : List (Entry α)} {i : Nat} {ok : Bool}
    {payload : α} (h : settle table i ok = some (payload, table')) (p : α → Prop) :
    HasStatus table' .succeeded p ↔
      HasStatus table .succeeded p ∨ ok = true ∧ p payload := by
  obtain ⟨before, after, _, htable, htable'⟩ := settle_split h
  subst htable
  subst htable'
  have hnew : (settled ok = .succeeded) ↔ ok = true := by
    cases ok <;> simp [settled]
  simp only [HasStatus, List.mem_append, List.mem_cons, or_and_right, exists_or,
    exists_eq_left, hnew]
  simp only [reduceCtorEq, false_and, false_or]
  rw [or_right_comm, or_assoc]

theorem failed_iff (table : List (Entry α)) (p : α → Prop) :
    (∀ entry ∈ table, p entry.payload → entry.status = .failed) ↔
      ¬ HasStatus table .inFlight p ∧ ¬ HasStatus table .succeeded p := by
  constructor
  · intro h
    constructor
    · rintro ⟨entry, hm, hs, hp⟩
      exact absurd (hs.symm.trans (h entry hm hp)) (by decide)
    · rintro ⟨entry, hm, hs, hp⟩
      exact absurd (hs.symm.trans (h entry hm hp)) (by decide)
  · intro ⟨hflight, hsucceeded⟩ entry hm hp
    cases hs : entry.status with
    | inFlight => exact absurd ⟨entry, hm, hs, hp⟩ hflight
    | succeeded => exact absurd ⟨entry, hm, hs, hp⟩ hsucceeded
    | failed => rfl

end RequestTable

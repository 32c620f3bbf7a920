import Mathlib.Data.List.Basic

/-!
# Foundation values

The parts of the Objective-C runtime and of Foundation that the application relies on: strings,
errors, exceptions, and array access. Collection counts are natural numbers; the `int` casts of
a found index are exact, and `(int)NSNotFound` is `-1`.
-/

namespace CrowdSound

/-- A string is its UTF-16 code units; `isEqualToString:` compares exactly these. -/
abbrev NSString := List UInt16

/-- The string of a list of characters outside the surrogate range. -/
def nsstring (cs : List Char) : NSString := cs.map fun c => c.toNat.toUInt16

structure NSError where
  domain : NSString
  code : Int
  deriving DecidableEq

/-- The exceptions raised by the library calls the application makes. -/
inductive NSException where
  | rangeException
  | invalidArgumentException
  | internalInconsistencyException
  deriving DecidableEq

/-- Why an event has no next state: it cannot happen now, handling it raised, or never ends. -/
inductive Stuck where
  | notEnabled
  | raised (exception : NSException)
  | loops

/-- A handler that may raise, as a step, succeeds when it does not raise. -/
@[simp] theorem mapError_raised_ok {α : Type} (r : Except NSException α) (a : α) :
    r.mapError Stuck.raised = .ok a ↔ r = .ok a := by
  cases r <;> simp [Except.mapError]

theorem bind_eq_ok {ε α β : Type} {x : Except ε α} {f : α → Except ε β} {b : β} :
    x >>= f = .ok b ↔ ∃ a, x = .ok a ∧ f a = .ok b := by
  cases x <;> simp [bind, Except.bind]

theorem map_eq_ok {ε α β : Type} {x : Except ε α} {f : α → β} {b : β} :
    f <$> x = .ok b ↔ ∃ a, x = .ok a ∧ f a = b := by
  cases x <;> simp [Functor.map, Except.map]

theorem enabled_ok {p : Prop} [Decidable p] {α : Type*} {x : Except Stuck α} {a : α} :
    (if p then x else .error .notEnabled) = .ok a ↔ p ∧ x = .ok a := by
  by_cases hp : p <;> simp [hp]

namespace NSString

def stringByAppendingString (s t : NSString) : NSString := s ++ t

def substringToIndex (s : NSString) (n : Nat) : Except NSException NSString :=
  if n ≤ s.length then .ok (s.take n) else .error .rangeException

end NSString

/-- `array[index]` raises outside the bounds of the array. -/
def objectAtIndex {α : Type*} (array : List α) (index : Int) : Except NSException α :=
  if 0 ≤ index then
    match array[index.toNat]? with
    | some object => .ok object
    | none => .error .rangeException
  else .error .rangeException

/-- `(int)[array indexOfObject:object]`. -/
def indexOfObject {α : Type*} [DecidableEq α] (array : List α) (object : α) : Int :=
  match array.idxOf? object with
  | some index => index
  | none => -1

theorem objectAtIndex_ok {α : Type*} (array : List α) (index : Int) (object : α) :
    objectAtIndex array index = .ok object ↔ 0 ≤ index ∧ array[index.toNat]? = some object := by
  unfold objectAtIndex
  by_cases h : 0 ≤ index
  · cases array[index.toNat]? <;> simp [h]
  · simp [h]

@[simp] theorem objectAtIndex_natCast {α : Type*} (array : List α) (index : Nat) (object : α) :
    objectAtIndex array (index : Int) = .ok object ↔ array[index]? = some object := by
  simp [objectAtIndex_ok]

theorem objectAtIndex_error {α : Type*} {array : List α} {index : Int} {exception : NSException}
    (h : objectAtIndex array index = .error exception) : exception = .rangeException := by
  unfold objectAtIndex at h
  split at h
  · split at h
    · exact nomatch h
    · exact (Except.error.inj h).symm
  · exact (Except.error.inj h).symm

theorem indexOfObject_of_not_mem {α : Type*} [DecidableEq α] {array : List α} {object : α}
    (h : object ∉ array) : indexOfObject array object = -1 := by
  simp only [indexOfObject, List.idxOf?_eq_none_iff.mpr h]

theorem objectAtIndex_indexOfObject {α : Type*} [DecidableEq α] {array : List α} {object : α}
    (h : object ∈ array) : objectAtIndex array (indexOfObject array object) = .ok object := by
  unfold indexOfObject
  cases hi : array.idxOf? object with
  | none => exact absurd h (List.idxOf?_eq_none_iff.mp hi)
  | some i =>
      obtain ⟨hlt, ho, _⟩ := List.findIdx?_eq_some_iff_getElem.mp hi
      rw [objectAtIndex_natCast, List.getElem?_eq_getElem hlt]
      simpa using ho

end CrowdSound

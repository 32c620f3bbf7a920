import Mathlib.Data.List.Range
import Mathlib.Data.List.Nodup
import Mathlib.Data.List.Perm.Basic

/-!
# Arrays of objects

An object is its address in a heap that only grows; two objects with the same fields are still
two objects. Removing objects from an array goes by an equality of objects, and what it leaves
depends on how fine that equality is.
-/

namespace ObjectArrays

variable {α β : Type*}

/-- A heap and an array of addresses in it. -/
structure Collection (α : Type*) where
  heap : List α
  array : List Nat

namespace Collection

def addNew (c : Collection α) (object : α) : Collection α where
  heap := c.heap ++ [object]
  array := c.array ++ [c.heap.length]

def read (heap : List α) (array : List Nat) : List α := array.filterMap fun ref => heap[ref]?

theorem foldl_addNew_heap (c : Collection α) (objects : List α) :
    (objects.foldl addNew c).heap = c.heap ++ objects := by
  induction objects generalizing c with
  | nil => simp
  | cons object objects ih =>
      rw [List.foldl_cons, ih]
      simp [addNew]

theorem foldl_addNew_array (c : Collection α) (objects : List α) :
    (objects.foldl addNew c).array =
      c.array ++ List.range' c.heap.length objects.length := by
  induction objects generalizing c with
  | nil => simp
  | cons object objects ih =>
      rw [List.foldl_cons, ih]
      simp [addNew, List.range'_succ]

/-- The new objects, read back, with a part of them left out. -/
theorem read_filter_range' (heap objects : List α) (p : α → Bool) :
    read (heap ++ objects) ((List.range' heap.length objects.length).filter fun ref =>
      ((heap ++ objects)[ref]?.map p).getD false) = objects.filter p := by
  induction objects generalizing heap with
  | nil => simp [read]
  | cons object objects ih =>
      have hrest := ih (heap ++ [object])
      rw [List.append_assoc, List.singleton_append, List.length_append,
        List.length_singleton] at hrest
      have hfirst : (heap ++ object :: objects)[heap.length]? = some object := by
        simp
      rw [List.length_cons, List.range'_succ, List.filter_cons, hfirst]
      cases hp : p object with
      | true =>
          have hread := List.filterMap_cons_some (f := fun ref => (heap ++ object :: objects)[ref]?)
            hfirst (l := (List.range' (heap.length + 1) objects.length).filter fun ref =>
              ((heap ++ object :: objects)[ref]?.map p).getD false)
          simp only [Option.map_some, Option.getD_some, hp, if_true, List.filter_cons_of_pos]
          rw [read, hread]
          exact congrArg (object :: ·) hrest
      | false =>
          simpa [hp] using hrest

end Collection

theorem filter_eq_filter_iff {p q : β → Bool} {array : List β} :
    array.filter p = array.filter q ↔ ∀ object ∈ array, p object = q object := by
  constructor
  · intro h object hobject
    have hmem : object ∈ array.filter p ↔ object ∈ array.filter q := by
      rw [h]
    simp only [List.mem_filter, hobject, true_and] at hmem
    exact Bool.eq_iff_iff.mpr hmem
  · exact List.filter_congr

/-- Where one selection contains another, their images are equal only if they choose the same
elements. -/
theorem map_filter_eq_iff {γ : Type*} (f : β → γ) {p q : β → Bool} {array : List β}
    (hsub : ∀ object ∈ array, q object = true → p object = true) :
    (array.filter p).map f = (array.filter q).map f ↔
      ∀ object ∈ array, p object = true → q object = true := by
  have hinner : (array.filter p).filter q = array.filter q := by
    rw [List.filter_filter]
    apply List.filter_congr
    intro object hobject
    cases hq : q object with
    | true => rw [hsub object hobject hq, Bool.and_true]
    | false => rfl
  constructor
  · intro h object hobject hp
    have hlength := congrArg List.length h
    rw [List.length_map, List.length_map, ← hinner] at hlength
    have hall := List.length_filter_eq_length_iff.mp hlength.symm
    exact hall object (List.mem_filter.mpr ⟨hobject, hp⟩)
  · intro h
    apply congrArg (List.map f)
    apply filter_eq_filter_iff.mpr
    intro object hobject
    exact Bool.eq_iff_iff.mpr ⟨h object hobject, hsub object hobject⟩

def removeAll (isEqual : β → β → Bool) (array others : List β) : List β :=
  array.filter fun object => !others.any (isEqual object)

theorem removeAll_filter_iff {isEqual : β → β → Bool}
    (hrefl : ∀ object, isEqual object object = true) (p : β → Bool) (array : List β) :
    removeAll isEqual array (array.filter p) = array.filter (fun object => !p object) ↔
      ∀ object ∈ array, p object = false →
        ∀ chosen ∈ array, p chosen = true → isEqual object chosen = false := by
  rw [removeAll, filter_eq_filter_iff]
  apply forall_congr'
  intro object
  apply imp_congr_right
  intro hobject
  cases hp : p object with
  | true =>
      have hself : (array.filter p).any (isEqual object) = true :=
        List.any_eq_true.mpr ⟨object, List.mem_filter.mpr ⟨hobject, hp⟩, hrefl object⟩
      simp [hself]
  | false => simp

end ObjectArrays

import Mathlib.Algebra.Order.Ring.Cast
import Mathlib.Algebra.Order.Ring.Rat
import KarstflowTests.Library.Fallible
import KarstflowTests.Library.KeySort
import KarstflowTests.Python.Exception

/-!
# `list.sort(key=...)`

Python computes all keys first and then compares them with `<`, which is
defined for two numbers, two strings and two lists.  A sort that meets two
keys without an order raises `TypeError`.
-/

namespace KarstflowTests

open KarstflowTests.Library

namespace Json

mutual

/-- Python's `<`; `none` where it raises `TypeError`. -/
def pyLess : Json → Json → Option Bool
  | .str left, .str right => some (decide (left < right))
  | .arr left, .arr right => pyLessItems left right
  | left, right =>
      match left.number, right.number with
      | some left, some right => some (left.lt right)
      | _, _ => none

/-- Lists compare at the first position where they differ. -/
def pyLessItems : List Json → List Json → Option Bool
  | [], rights => some (!rights.isEmpty)
  | _ :: _, [] => some false
  | left :: lefts, right :: rights =>
      if left.pyEq right then
        pyLessItems lefts rights
      else
        pyLess left right

end

@[simp]
theorem pyLess_int_int (left right : ℤ) :
    pyLess (.int left) (.int right) = some (decide (left < right)) := by
  simp [pyLess, number, PyFloat.lt, Int.cast_lt]

end Json

/-- `a` may stay before `b`: not `key(b) < key(a)`. -/
def StaysBefore {α : Type} (first second : Json × α) : Prop :=
  second.1.pyLess first.1 ≠ some true

instance {α : Type} : DecidableRel (@StaysBefore α) :=
  fun _ _ => inferInstanceAs (Decidable (_ ≠ _))

def unorderedKeys : Exc :=
  .typeError "'<' not supported between the keys"

/-- `items.sort(key=key)` -/
def sortByKey {α : Type} (key : α → Except Exc Json) (items : List α) :
    Except Exc (List α) := do
  let keys ← items.mapM key
  if (keys.Pairwise fun earlier later => (later.pyLess earlier).isSome) then
    return ((keys.zip items).insertionSort StaysBefore).map Prod.snd
  else
    throw unorderedKeys

section Sorting

variable {α : Type} {key : α → Except Exc Json} {items sorted : List α}

theorem sortByKey_of_keys
    {keys : List Json} (keyed : items.mapM key = .ok keys) :
    sortByKey key items =
      if (keys.Pairwise fun earlier later =>
          (later.pyLess earlier).isSome) then
        .ok (((keys.zip items).insertionSort StaysBefore).map Prod.snd)
      else
        .error unorderedKeys := by
  simp only [sortByKey, keyed, bind, Except.bind]
  rfl

/-- A sort that returns has permuted the list. -/
theorem perm_of_sortByKey (sorts : sortByKey key items = .ok sorted) :
    items.Perm sorted := by
  rcases keyed : items.mapM key with exc | keys
  · simp [sortByKey, keyed, bind, Except.bind] at sorts
  · rw [sortByKey_of_keys keyed] at sorts
    split at sorts
    · cases sorts
      have sameLength : items.length ≤ keys.length :=
        (mapM_eq_ok_iff.mp keyed).length_eq.le
      have unzipped : (keys.zip items).map Prod.snd = items :=
        List.map_snd_zip sameLength
      have permuted :=
        (List.perm_insertionSort StaysBefore (keys.zip items)).map Prod.snd
      rw [unzipped] at permuted
      exact permuted.symm
    · cases sorts

/-- A sort fails on a key it cannot compute or on keys without an order. -/
theorem sortByKey_error {exc : Exc}
    (fails : sortByKey key items = .error exc) :
    (∃ item ∈ items, key item = .error exc) ∨ exc = unorderedKeys := by
  rcases keyed : items.mapM key with failure | keys
  · simp only [sortByKey, keyed, bind, Except.bind] at fails
    cases fails
    exact Or.inl (exists_error_of_mapM keyed)
  · rw [sortByKey_of_keys keyed] at fails
    split at fails
    · cases fails
    · cases fails
      exact Or.inr rfl

/-- Sorting by integer keys puts a permutation of a list with increasing keys
back into order. -/
theorem sortByKey_of_perm
    {number : α → ℤ}
    (keyed : ∀ item ∈ items, key item = .ok (.int (number item)))
    (perm : items.Perm sorted)
    (increasing :
      sorted.Pairwise fun first second => number first < number second) :
    sortByKey key items = .ok sorted := by
  let tag : α → Json × α := fun item => (.int (number item), item)
  have keys :
      items.mapM key = .ok (items.map fun item => .int (number item)) := by
    rw [mapM_eq_ok_iff, List.forall₂_map_right_iff, List.forall₂_same]
    exact keyed
  have comparable :
      (items.map fun item => Json.int (number item)).Pairwise
        fun earlier later => (later.pyLess earlier).isSome := by
    rw [List.pairwise_map]
    exact List.pairwise_of_forall fun _ _ => by simp
  have tagged :
      (items.map fun item => Json.int (number item)).zip items =
        items.map tag := by
    have zipped :
        (items.map fun item => Json.int (number item)).zip
          (items.map id) = items.map tag :=
      List.zip_map'
    rwa [List.map_id] at zipped
  rw [sortByKey_of_keys keys, if_pos comparable, tagged]
  have agrees :
      ∀ left ∈ items.map tag, ∀ right ∈ items.map tag,
        StaysBefore left right ↔ number left.2 ≤ number right.2 := by
    simp only [List.forall_mem_map]
    intro left _ right _
    simp [StaysBefore, tag]
  have taggedIncreasing :
      (sorted.map tag).Pairwise fun first second =>
        number first.2 < number second.2 :=
    List.pairwise_map.mpr increasing
  have sorts :
      (items.map tag).insertionSort StaysBefore = sorted.map tag :=
    insertionSort_eq_of_perm agrees (perm.map tag) taggedIncreasing
  rw [sorts, List.map_map]
  exact congrArg _ (List.map_id sorted)

end Sorting

end KarstflowTests

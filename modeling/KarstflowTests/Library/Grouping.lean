import Mathlib.Algebra.BigOperators.Group.List.Basic
import Mathlib.Algebra.GroupWithZero.Nat

/-!
# Lists in groups

The items of a list fall into groups by their keys.  Summing group by group
gives the sum of the list.
-/

namespace KarstflowTests.Library

universe u v w

variable {α : Type u} {Key : Type v} [DecidableEq Key]

/-- The items with the key. -/
def group (key : α → Key) (items : List α) (name : Key) : List α :=
  items.filter fun item => key item = name

section Sums

variable {Sum : Type w} [AddCommMonoid Sum]
variable {key : α → Key} {value : α → Sum} {items : List α}
variable {names : List Key}

theorem sum_group_cons (item : α) (name : Key) :
    ((group key (item :: items) name).map value).sum =
      (if key item = name then value item else 0) +
        ((group key items name).map value).sum := by
  by_cases isName : key item = name
  · simp [group, isName]
  · simp [group, isName]

/-- The groups of distinct names that cover all keys. -/
theorem sum_groups
    (distinct : names.Nodup) (covered : ∀ item ∈ items, key item ∈ names) :
    (names.map fun name => ((group key items name).map value).sum).sum =
      (items.map value).sum := by
  induction items with
  | nil => simp [group]
  | cons item items inductionHypothesis =>
      obtain ⟨here, later⟩ := List.forall_mem_cons.mp covered
      have ownGroup :
          (names.map fun name =>
              if key item = name then value item else 0).sum =
            value item := by
        have others : ∀ name, name ≠ key item → name ∈ names →
            (if key item = name then value item else 0) = 0 :=
          fun name other _ => if_neg other.symm
        rw [List.sum_map_eq_nsmul_single (key item) _ others,
          distinct.count, if_pos here, one_nsmul, if_pos rfl]
      simp only [sum_group_cons, List.sum_map_add, ownGroup,
        inductionHypothesis later, List.map_cons, List.sum_cons]

end Sums

/-- Counting is summing ones. -/
theorem countP_eq_sum (predicate : α → Bool) (items : List α) :
    items.countP predicate =
      (items.map fun item => if predicate item then 1 else 0).sum := by
  induction items with
  | nil => rfl
  | cons item items inductionHypothesis =>
      rw [List.countP_cons, inductionHypothesis, List.map_cons,
        List.sum_cons, Nat.add_comm]

end KarstflowTests.Library

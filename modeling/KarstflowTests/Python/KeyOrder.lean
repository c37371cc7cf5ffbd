import Mathlib.Data.Prod.Lex
import Mathlib.Data.String.Basic
import Mathlib.Order.WithBot
import KarstflowTests.Library.OrderedDict
import KarstflowTests.Python.Sorting

/-!
# Sorting the items of a dict

`sorted(counts.items())` compares the keys of the dict, which are distinct, so
that the values are never compared.  Numbers and strings have an order among
themselves; a sort that meets keys of two kinds raises `TypeError`.
-/

namespace KarstflowTests

open KarstflowTests.Library

namespace PyKey

/-- The kinds of keys: `None`, numbers and strings. -/
inductive Kind where
  | null
  | number
  | str
  deriving DecidableEq

def kind : PyKey → Kind
  | null => .null
  | number _ => .number
  | str _ => .str

/-- Python's `<` on keys; `none` where it raises `TypeError`. -/
def less : PyKey → PyKey → Option Bool
  | number left, number right => some (left.lt right)
  | str left, str right => some (decide (left < right))
  | _, _ => none

end PyKey

/-- `sorted(dict.items())` -/
def sortedItems {α : Type} (dict : OrderedDict PyKey α) :
    Except Exc (List (PyKey × α)) :=
  if (dict.keys.Pairwise fun earlier later =>
      (later.less earlier).isSome) then
    .ok (dict.entries.insertionSort fun first second =>
      second.1.less first.1 ≠ some true)
  else
    .error unorderedKeys

/-! ## The order of the keys of one kind -/

def PyFloat.position : PyFloat → WithBot (WithTop ℚ)
  | negInf => ⊥
  | finite value => ((value : WithTop ℚ) : WithBot (WithTop ℚ))
  | posInf => ((⊤ : WithTop ℚ) : WithBot (WithTop ℚ))

theorem PyFloat.lt_iff_position (left right : PyFloat) :
    left.lt right ↔ left.position < right.position := by
  cases left with
  | negInf => cases right <;> simp [PyFloat.lt, PyFloat.position]
  | posInf => cases right <;> simp [PyFloat.lt, PyFloat.position]
  | finite value =>
      cases right with
      | negInf => simp [PyFloat.lt, PyFloat.position]
      | finite other => simp [PyFloat.lt, PyFloat.position]
      | posInf =>
          have below := WithTop.coe_lt_top value
          simpa [PyFloat.lt, PyFloat.position] using
            WithBot.coe_lt_coe.mpr below

/-- A place for every number and string. -/
def PyKey.position : PyKey → WithBot (WithTop ℚ) ×ₗ String
  | null => toLex (⊥, "")
  | number value => toLex (value.position, "")
  | str text => toLex (⊥, text)

namespace PyKey

theorem less_of_kind {left right : PyKey} (sameKind : left.kind = right.kind)
    (different : left ≠ right) :
    left.less right = some (decide (left.position < right.position)) := by
  cases left with
  | null =>
      cases right with
      | null => exact absurd rfl different
      | number _ => cases sameKind
      | str _ => cases sameKind
  | number left =>
      cases right with
      | null => cases sameKind
      | number right =>
          have before := left.lt_iff_position right
          simp only [less, position, Prod.Lex.toLex_lt_toLex, lt_irrefl,
            and_false, or_false, ← before, Bool.decide_eq_true]
      | str _ => cases sameKind
  | str left =>
      cases right with
      | null => cases sameKind
      | number _ => cases sameKind
      | str right =>
          simp only [less, position, Prod.Lex.toLex_lt_toLex, lt_irrefl,
            true_and, false_or]

theorem less_of_other_kind {left right : PyKey}
    (otherKind : left.kind ≠ right.kind) : left.less right = none := by
  cases left <;> cases right <;> first | rfl | exact absurd rfl otherKind

theorem isSome_less {left right : PyKey} (different : left ≠ right) :
    (left.less right).isSome ↔ left.kind = right.kind := by
  by_cases sameKind : left.kind = right.kind
  · simp [less_of_kind sameKind different, sameKind]
  · simp [less_of_other_kind sameKind, sameKind]

theorem PyFloat.position_injective {left right : PyFloat}
    (same : left.position = right.position) : left = right := by
  cases left <;> cases right <;> simp_all [PyFloat.position]

theorem position_injective {left right : PyKey}
    (sameKind : left.kind = right.kind)
    (same : left.position = right.position) : left = right := by
  cases left <;> cases right <;> cases sameKind
  · rfl
  · have positions := congrArg (fun place => (ofLex place).1) same
    exact congrArg _ (PyFloat.position_injective positions)
  · exact congrArg _ (congrArg (fun place => (ofLex place).2) same)

end PyKey

/-! ## The sort -/

section Items

variable {α : Type} {dict : OrderedDict PyKey α} {sorted : List (PyKey × α)}

/-- The sort raises exactly when the dict has keys of two kinds. -/
theorem sortedItems_error_iff :
    (∃ exc, sortedItems dict = .error exc) ↔
      ∃ first ∈ dict.keys, ∃ second ∈ dict.keys,
        first.kind ≠ second.kind := by
  have comparable :
      (dict.keys.Pairwise fun earlier later =>
          (later.less earlier).isSome) ↔
        ∀ first ∈ dict.keys, ∀ second ∈ dict.keys,
          first.kind = second.kind := by
    have sameKinds :
        (dict.keys.Pairwise fun earlier later =>
            (later.less earlier).isSome) ↔
          dict.keys.Pairwise fun earlier later =>
            earlier.kind = later.kind := by
      have distinct : dict.keys.Nodup := dict.distinct
      rw [List.nodup_iff_pairwise_ne] at distinct
      constructor
      · intro ordered
        refine (distinct.and ordered).imp ?_
        intro first second both
        exact ((PyKey.isSome_less both.1.symm).mp both.2).symm
      · intro kinds
        refine (distinct.and kinds).imp ?_
        intro first second both
        exact (PyKey.isSome_less both.1.symm).mpr both.2.symm
    rw [sameKinds]
    constructor
    · intro kinds first isFirst second isSecond
      let alike : PyKey → PyKey → Prop :=
        fun earlier later => earlier.kind = later.kind
      have flipped : dict.keys.Pairwise (flip alike) := kinds.imp Eq.symm
      exact List.Pairwise.forall_of_forall_of_flip (R := alike)
        (fun _ _ => rfl) kinds flipped isFirst isSecond
    · intro kinds
      exact List.pairwise_of_forall_mem_list kinds
  rw [sortedItems]
  split
  · next ordered =>
      have kinds := comparable.mp ordered
      simp only [reduceCtorEq, exists_false, false_iff, not_exists, not_and,
        not_not]
      exact kinds
  · next unordered =>
      rw [comparable] at unordered
      simp only [Except.error.injEq, exists_eq', true_iff]
      push Not at unordered
      exact unordered

theorem sortedItems_error {exc : Exc}
    (raises : sortedItems dict = .error exc) : exc = unorderedKeys := by
  rw [sortedItems] at raises
  split at raises
  · cases raises
  · cases raises
    rfl

/-- A sort that returns lists the items with increasing keys. -/
theorem sortedItems_ok (sorts : sortedItems dict = .ok sorted) :
    dict.entries.Perm sorted ∧
      sorted.Pairwise fun first second =>
        first.1.less second.1 = some true := by
  have kinds :
      ∀ first ∈ dict.keys, ∀ second ∈ dict.keys,
        first.kind = second.kind := by
    by_contra mixed
    push Not at mixed
    obtain ⟨exc, raises⟩ := sortedItems_error_iff.mpr mixed
    cases sorts.symm.trans raises
  rw [sortedItems] at sorts
  split at sorts
  · cases sorts
    let before : PyKey × α → PyKey × α → Prop :=
      fun first second => second.1.less first.1 ≠ some true
    have agrees :
        ∀ left ∈ dict.entries, ∀ right ∈ dict.entries,
          before left right ↔ left.1.position ≤ right.1.position := by
      intro left isLeft right isRight
      have sameKind := kinds right.1 (List.mem_map_of_mem isRight) left.1
        (List.mem_map_of_mem isLeft)
      by_cases same : right.1 = left.1
      · have irreflexive : left.1.less left.1 ≠ some true := by
          cases left.1 with
          | null => exact nofun
          | number value => cases value <;> simp [PyKey.less, PyFloat.lt]
          | str text => simp [PyKey.less]
        simp only [before, same, le_refl, iff_true]
        exact irreflexive
      · simp [before, PyKey.less_of_kind sameKind same]
    have perm := List.perm_insertionSort before dict.entries
    have ordered := pairwise_insertionSort_of_agrees agrees
    have distinct :
        (dict.entries.insertionSort before).Pairwise fun first second =>
          first.1 ≠ second.1 := by
      have nodup := (perm.map Prod.fst).nodup_iff.mpr dict.distinct
      rw [List.nodup_iff_pairwise_ne, List.pairwise_map] at nodup
      exact nodup
    refine ⟨perm.symm, ?_⟩
    refine ((distinct.and ordered).imp_of_mem ?_)
    intro first second isFirst isSecond both
    have sameKind := kinds first.1
      (List.mem_map_of_mem (perm.subset isFirst)) second.1
      (List.mem_map_of_mem (perm.subset isSecond))
    have apart : first.1.position ≠ second.1.position := fun same =>
      both.1 (PyKey.position_injective sameKind same)
    rw [PyKey.less_of_kind sameKind both.1]
    simp [lt_of_le_of_ne both.2 apart]
  · cases sorts

end Items

end KarstflowTests

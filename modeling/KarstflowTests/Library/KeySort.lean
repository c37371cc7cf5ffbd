import Mathlib.Data.List.Sort

/-!
# Sorting by a key

A list is sorted by a relation that agrees with the order of a key on the
members of that list.  When the keys are distinct there is only one sorted
arrangement, so that sorting undoes any permutation.  A descending sort keeps
the order of items with equal keys.
-/

namespace KarstflowTests.Library

universe u v

variable {α : Type u} {Key : Type v} [LinearOrder Key]

/-- Strictly increasing keys are distinct. -/
theorem nodup_keys_of_increasing
    {key : α → Key} {items : List α}
    (increasing :
      items.Pairwise fun first second => key first < key second) :
    (items.map key).Nodup :=
  List.pairwise_map.mpr (increasing.imp fun below => ne_of_lt below)

/-- Sorting by a relation that agrees with the keys puts the keys in order. -/
theorem pairwise_insertionSort_of_agrees
    {key : α → Key} {before : α → α → Prop} [DecidableRel before]
    {items : List α}
    (agrees :
      ∀ left ∈ items, ∀ right ∈ items,
        before left right ↔ key left ≤ key right) :
    (items.insertionSort before).Pairwise fun first second =>
      key first ≤ key second := by
  let order : α → α → Prop := fun left right => key left ≤ key right
  have total : Std.Total order :=
    ⟨fun left right => le_total (key left) (key right)⟩
  have transitive : IsTrans α order := ⟨fun _ _ _ => le_trans⟩
  have byKey :
      items.insertionSort before = items.insertionSort order := by
    have mapped := List.map_insertionSort before order id items agrees
    simpa only [List.map_id] using mapped
  rw [byKey]
  exact List.pairwise_insertionSort order items

/-- Sorting a permutation of a list with increasing keys gives the list. -/
theorem insertionSort_eq_of_perm
    {key : α → Key} {before : α → α → Prop} [DecidableRel before]
    {items sorted : List α}
    (agrees :
      ∀ left ∈ items, ∀ right ∈ items,
        before left right ↔ key left ≤ key right)
    (perm : items.Perm sorted)
    (increasing :
      sorted.Pairwise fun first second => key first < key second) :
    items.insertionSort before = sorted := by
  have byKey :
      items.insertionSort before =
        items.insertionSort fun left right => key left ≤ key right := by
    have mapped :=
      List.map_insertionSort before
        (fun left right => key left ≤ key right) id items agrees
    simpa only [List.map_id] using mapped
  let order : α → α → Prop := fun left right => key left ≤ key right
  have total : Std.Total order :=
    ⟨fun left right => le_total (key left) (key right)⟩
  have transitive : IsTrans α order := ⟨fun _ _ _ => le_trans⟩
  have arranged : (items.insertionSort order).Perm sorted :=
    (List.perm_insertionSort order items).trans perm
  rw [byKey]
  refine arranged.eq_of_pairwise ?_
    (List.pairwise_insertionSort order items) (increasing.imp le_of_lt)
  intro left right leftMember rightMember below above
  exact List.inj_on_of_nodup_map (nodup_keys_of_increasing increasing)
    (arranged.subset leftMember) rightMember (le_antisymm below above)

/-! ## Descending -/

/-- The first item may stand before the second. -/
def notBelow (key : α → Key) (first second : α) : Bool :=
  key second ≤ key first

/-- `sorted(items, key=key, reverse=True)` -/
def sortDescending (key : α → Key) (items : List α) : List α :=
  items.mergeSort (notBelow key)

section Descending

variable {key : α → Key} {items : List α}

theorem notBelow_trans (first second third : α)
    (before : notBelow key first second)
    (further : notBelow key second third) : notBelow key first third := by
  simp only [notBelow, decide_eq_true_eq] at before further ⊢
  exact further.trans before

theorem notBelow_total (first second : α) :
    notBelow key first second || notBelow key second first := by
  simpa [notBelow] using le_total (key second) (key first)

theorem perm_sortDescending : (sortDescending key items).Perm items :=
  List.mergeSort_perm _ _

theorem pairwise_sortDescending :
    (sortDescending key items).Pairwise fun first second =>
      key second ≤ key first := by
  have ordered :
      (sortDescending key items).Pairwise fun first second =>
        notBelow key first second :=
    List.pairwise_mergeSort notBelow_trans notBelow_total items
  exact ordered.imp of_decide_eq_true

/-- Items with the same key keep their order. -/
theorem filter_sortDescending (level : Key) :
    (sortDescending key items).filter (fun item => key item = level) =
      items.filter fun item => key item = level := by
  have alike :
      (items.filter fun item => key item = level).Pairwise
        fun first second => notBelow key first second := by
    apply List.pairwise_of_forall_mem_list
    intro first isFirst second isSecond
    have firstLevel := (List.mem_filter.mp isFirst).2
    have secondLevel := (List.mem_filter.mp isSecond).2
    simp only [decide_eq_true_eq] at firstLevel secondLevel
    rw [notBelow, firstLevel, secondLevel]
    exact decide_eq_true le_rfl
  have kept :
      (items.filter fun item => key item = level).Sublist
        (sortDescending key items) :=
    List.sublist_mergeSort notBelow_trans notBelow_total alike
      List.filter_sublist
  have filtered := kept.filter fun item => decide (key item = level)
  rw [List.filter_filter] at filtered
  simp only [Bool.and_self] at filtered
  have asMany :
      (items.filter fun item => key item = level).length =
        ((sortDescending key items).filter
          fun item => key item = level).length :=
    (perm_sortDescending.filter _).length_eq.symm
  exact (filtered.eq_of_length asMany).symm

/-- None of the first items is below one of the others. -/
theorem le_of_mem_take_sortDescending {count : ℕ} {chosen other : α}
    (isChosen : chosen ∈ (sortDescending key items).take count)
    (isOther : other ∈ (sortDescending key items).drop count) :
    key other ≤ key chosen := by
  have ordered :
      (sortDescending key items).Pairwise fun first second =>
        key second ≤ key first :=
    pairwise_sortDescending
  rw [← List.take_append_drop count (sortDescending key items),
    List.pairwise_append] at ordered
  exact ordered.2.2 chosen isChosen other isOther

end Descending

end KarstflowTests.Library

import Mathlib.Algebra.BigOperators.Group.List.Basic
import Mathlib.Algebra.GroupWithZero.Nat
import Mathlib.Data.List.Nodup
import Mathlib.Tactic.Common

/-!
# Dicts in insertion order

A dict is a list of entries with distinct keys.  Assigning to a present key
replaces its value in place; assigning to a new key appends an entry.  `total`
adds up a number taken from every value; `total_set` says how an assignment
changes it.
-/

namespace KarstflowTests.Library

universe u v

/-! ## Looking up a key in a list of entries -/

section Lookup

variable {Key : Type u} {Value : Type v} [DecidableEq Key]
variable {entries : List (Key × Value)} {key : Key} {value : Value}

theorem lookup_cons_ite (other : Key) :
    ((key, value) :: entries).lookup other =
      if other = key then some value else entries.lookup other := by
  rw [List.lookup_cons]
  by_cases same : other = key
  · simp [same]
  · rw [beq_eq_false_iff_ne.mpr same, if_neg same]

theorem mem_of_lookup (found : entries.lookup key = some value) :
    (key, value) ∈ entries := by
  obtain ⟨front, back, rfl, _⟩ := List.lookup_eq_some_iff.mp found
  exact List.mem_append_right front List.mem_cons_self

theorem lookup_of_mem
    (distinct : (entries.map Prod.fst).Nodup)
    (member : (key, value) ∈ entries) :
    entries.lookup key = some value := by
  induction entries with
  | nil => cases member
  | cons entry entries inductionHypothesis =>
      obtain ⟨absent, rest⟩ := List.nodup_cons.mp distinct
      rcases List.mem_cons.mp member with rfl | later
      · exact List.lookup_cons_self
      · have different : key ≠ entry.1 := by
          rintro rfl
          exact absent (List.mem_map.mpr ⟨_, later, rfl⟩)
        rw [lookup_cons_ite, if_neg different]
        exact inductionHypothesis rest later

theorem lookup_isSome_iff_mem_keys :
    (entries.lookup key).isSome ↔ key ∈ entries.map Prod.fst := by
  constructor
  · intro present
    obtain ⟨value, found⟩ := Option.isSome_iff_exists.mp present
    exact List.mem_map.mpr ⟨_, mem_of_lookup found, rfl⟩
  · intro listed
    obtain ⟨entry, member, rfl⟩ := List.mem_map.mp listed
    exact List.lookup_isSome_iff.mpr ⟨entry, member, beq_self_eq_true _⟩

end Lookup

/-! ## Assignment and removal -/

section Entries

variable {Key : Type u} {Value : Type v} [DecidableEq Key]

/-- Replace the value of a present key in place, or append a new entry. -/
def setEntry (key : Key) (value : Value) :
    List (Key × Value) → List (Key × Value)
  | [] => [(key, value)]
  | (other, old) :: rest =>
      if other = key then
        (key, value) :: rest
      else
        (other, old) :: setEntry key value rest

theorem mem_keys_setEntry
    {key other : Key} {value : Value} {entries : List (Key × Value)} :
    other ∈ (setEntry key value entries).map Prod.fst ↔
      other = key ∨ other ∈ entries.map Prod.fst := by
  induction entries with
  | nil => simp [setEntry]
  | cons entry rest inductionHypothesis =>
      by_cases here : entry.1 = key
      · simp [setEntry, here]
      · simp only [setEntry, here, if_false, List.map_cons,
          List.mem_cons, inductionHypothesis]
        exact or_left_comm

/-- A new key comes last, a present one keeps its place. -/
theorem keys_setEntry
    (key : Key) (value : Value) (entries : List (Key × Value)) :
    (setEntry key value entries).map Prod.fst =
      if key ∈ entries.map Prod.fst then entries.map Prod.fst
      else entries.map Prod.fst ++ [key] := by
  induction entries with
  | nil => rfl
  | cons entry rest inductionHypothesis =>
      by_cases here : entry.1 = key
      · simp [setEntry, here]
      · simp only [setEntry, here, if_false, List.map_cons,
          inductionHypothesis, List.mem_cons, Ne.symm here, false_or]
        split
        · rfl
        · rfl

theorem nodup_keys_setEntry
    {key : Key} {value : Value} {entries : List (Key × Value)}
    (distinct : (entries.map Prod.fst).Nodup) :
    ((setEntry key value entries).map Prod.fst).Nodup := by
  induction entries with
  | nil => simp [setEntry]
  | cons entry rest inductionHypothesis =>
      obtain ⟨absent, restDistinct⟩ := List.nodup_cons.mp distinct
      by_cases here : entry.1 = key
      · simp only [setEntry, here, if_true, List.map_cons]
        exact List.nodup_cons.mpr ⟨here ▸ absent, restDistinct⟩
      · simp only [setEntry, here, if_false, List.map_cons]
        refine List.nodup_cons.mpr
          ⟨?_, inductionHypothesis restDistinct⟩
        rw [mem_keys_setEntry]
        exact not_or.mpr ⟨here, absent⟩

theorem lookup_setEntry
    {key other : Key} {value : Value} {entries : List (Key × Value)} :
    (setEntry key value entries).lookup other =
      if other = key then some value else entries.lookup other := by
  induction entries with
  | nil =>
      by_cases same : other = key <;> simp [setEntry, same]
  | cons entry rest inductionHypothesis =>
      obtain ⟨first, old⟩ := entry
      by_cases here : first = key
      · by_cases same : other = key <;>
          simp [setEntry, here, lookup_cons_ite, same]
      · simp only [setEntry, here, if_false, lookup_cons_ite,
          inductionHypothesis]
        by_cases same : other = key
        · simp [same, Ne.symm here]
        · simp [same]

theorem setEntry_of_not_mem
    {key : Key} {value : Value} {entries : List (Key × Value)}
    (absent : key ∉ entries.map Prod.fst) :
    setEntry key value entries = entries ++ [(key, value)] := by
  induction entries with
  | nil => rfl
  | cons entry rest inductionHypothesis =>
      rw [List.map_cons, List.mem_cons, not_or] at absent
      have different : entry.1 ≠ key := fun same => absent.1 same.symm
      rw [setEntry, if_neg different, inductionHypothesis absent.2]
      rfl

/-- The later value stands where the earlier one stood. -/
theorem setEntry_setEntry
    (key : Key) (earlier later : Value) (entries : List (Key × Value)) :
    setEntry key later (setEntry key earlier entries) =
      setEntry key later entries := by
  induction entries with
  | nil => simp [setEntry]
  | cons entry rest inductionHypothesis =>
      by_cases here : entry.1 = key
      · simp [setEntry, here]
      · simp only [setEntry, here, if_false, inductionHypothesis]

/-- An assignment has no effect exactly when the value is there. -/
theorem setEntry_eq_self_iff
    {key : Key} {value : Value} {entries : List (Key × Value)} :
    setEntry key value entries = entries ↔
      entries.lookup key = some value := by
  constructor
  · intro unchanged
    rw [← unchanged, lookup_setEntry, if_pos rfl]
  · intro found
    induction entries with
    | nil => cases found
    | cons entry rest inductionHypothesis =>
        obtain ⟨first, old⟩ := entry
        rw [lookup_cons_ite] at found
        by_cases here : first = key
        · rw [if_pos here.symm, Option.some.injEq] at found
          simp [setEntry, here, found]
        · rw [if_neg (Ne.symm here)] at found
          simp only [setEntry, here, if_false, inductionHypothesis found]

end Entries

/-- A dict whose keys are distinct. -/
structure OrderedDict (Key : Type u) (Value : Type v) where
  entries : List (Key × Value)
  distinct : (entries.map Prod.fst).Nodup

namespace OrderedDict

variable {Key : Type u} {Value : Type v} [DecidableEq Key]

def empty : OrderedDict Key Value := ⟨[], List.nodup_nil⟩

def keys (dict : OrderedDict Key Value) : List Key :=
  dict.entries.map Prod.fst

/-- `dict.get(key)` -/
def get? (dict : OrderedDict Key Value) (key : Key) : Option Value :=
  dict.entries.lookup key

/-- `dict[key] = value` -/
def set (dict : OrderedDict Key Value) (key : Key) (value : Value) :
    OrderedDict Key Value where
  entries := setEntry key value dict.entries
  distinct := nodup_keys_setEntry dict.distinct

/-- `dict.pop(key, None)` -/
def erase (dict : OrderedDict Key Value) (key : Key) :
    OrderedDict Key Value where
  entries := dict.entries.filter fun entry => entry.1 ≠ key
  distinct :=
    dict.distinct.sublist (List.filter_sublist.map Prod.fst)

omit [DecidableEq Key] in
theorem eq_of_entries
    {first second : OrderedDict Key Value}
    (same : first.entries = second.entries) : first = second := by
  cases first
  cases second
  cases same
  rfl

theorem entries_set_of_not_mem
    {dict : OrderedDict Key Value} {key : Key} (value : Value)
    (absent : key ∉ dict.entries.map Prod.fst) :
    (dict.set key value).entries = dict.entries ++ [(key, value)] :=
  setEntry_of_not_mem absent

/-- Assigning entry after entry of new keys appends them. -/
theorem entries_foldl_set
    {added : List (Key × Value)} {dict : OrderedDict Key Value}
    (distinct : ((dict.entries ++ added).map Prod.fst).Nodup) :
    (added.foldl (fun dict entry => dict.set entry.1 entry.2) dict).entries =
      dict.entries ++ added := by
  induction added generalizing dict with
  | nil => exact (List.append_nil _).symm
  | cons entry rest inductionHypothesis =>
      have absent : entry.1 ∉ dict.entries.map Prod.fst := by
        intro present
        rw [List.map_append, List.nodup_append] at distinct
        exact distinct.2.2 entry.1 present entry.1 List.mem_cons_self rfl
      have assigned := entries_set_of_not_mem entry.2 absent
      rw [List.foldl_cons, inductionHypothesis, assigned, List.append_assoc,
        List.singleton_append]
      rw [assigned, List.append_assoc, List.singleton_append]
      exact distinct

@[simp]
theorem get?_empty (key : Key) :
    (empty : OrderedDict Key Value).get? key = none :=
  rfl

theorem get?_set
    (dict : OrderedDict Key Value) (key other : Key) (value : Value) :
    (dict.set key value).get? other =
      if other = key then some value else dict.get? other :=
  lookup_setEntry

theorem keys_set
    (dict : OrderedDict Key Value) (key : Key) (value : Value) :
    (dict.set key value).keys =
      if key ∈ dict.keys then dict.keys else dict.keys ++ [key] :=
  keys_setEntry key value dict.entries

theorem get?_erase
    (dict : OrderedDict Key Value) (key other : Key) :
    (dict.erase key).get? other =
      if other = key then none else dict.get? other := by
  obtain ⟨entries, distinct⟩ := dict
  simp only [erase, get?]
  clear distinct
  induction entries with
  | nil => simp
  | cons entry rest inductionHypothesis =>
      rw [List.filter_cons, lookup_cons_ite]
      by_cases here : entry.1 = key
      · rw [if_neg (by simp [here]), inductionHypothesis, here]
        by_cases same : other = key
        · rw [if_pos same, if_pos same]
        · rw [if_neg same, if_neg same, if_neg same]
      · rw [if_pos (by simp [here]), lookup_cons_ite, inductionHypothesis]
        by_cases first : other = entry.1
        · have different : other ≠ key := first ▸ here
          rw [if_pos first, if_neg different, if_pos first]
        · rw [if_neg first, if_neg first]

theorem entries_erase_head
    {dict : OrderedDict Key Value} {key : Key} {value : Value}
    {rest : List (Key × Value)} (first : dict.entries = (key, value) :: rest) :
    (dict.erase key).entries = rest := by
  have distinct := dict.distinct
  rw [first, List.map_cons, List.nodup_cons] at distinct
  simp only [erase, first, List.filter_cons, decide_not, decide_true,
    Bool.not_true, Bool.false_eq_true, if_false]
  rw [List.filter_eq_self]
  intro entry member
  have different : entry.1 ≠ key := by
    intro same
    exact distinct.1 (List.mem_map.mpr ⟨entry, member, same⟩)
  simp [different]

theorem get?_eq_some_iff
    {dict : OrderedDict Key Value} {key : Key} {value : Value} :
    dict.get? key = some value ↔ (key, value) ∈ dict.entries :=
  ⟨mem_of_lookup, lookup_of_mem dict.distinct⟩

/-- Dicts that agree under every key differ at most in their order. -/
theorem perm_entries
    {first second : OrderedDict Key Value}
    (agree : ∀ key, first.get? key = second.get? key) :
    first.entries.Perm second.entries := by
  rw [List.perm_ext_iff_of_nodup (first.distinct.of_map _)
    (second.distinct.of_map _)]
  intro entry
  change (entry.1, entry.2) ∈ _ ↔ (entry.1, entry.2) ∈ _
  rw [← get?_eq_some_iff, ← get?_eq_some_iff, agree]

theorem mem_keys_iff_isSome
    {dict : OrderedDict Key Value} {key : Key} :
    key ∈ dict.keys ↔ (dict.get? key).isSome :=
  lookup_isSome_iff_mem_keys.symm

theorem get?_eq_none_of_not_mem
    {dict : OrderedDict Key Value} {key : Key} (absent : key ∉ dict.keys) :
    dict.get? key = none := by
  rw [mem_keys_iff_isSome, Option.not_isSome_iff_eq_none] at absent
  exact absent

/-- `dict.update(other)` -/
def update (dict other : OrderedDict Key Value) : OrderedDict Key Value :=
  other.entries.foldl (fun dict entry => dict.set entry.1 entry.2) dict

theorem get?_foldl_set
    (dict : OrderedDict Key Value) {added : List (Key × Value)}
    (distinct : (added.map Prod.fst).Nodup) (key : Key) :
    (added.foldl (fun dict entry => dict.set entry.1 entry.2) dict).get? key =
      (added.lookup key).or (dict.get? key) := by
  induction added generalizing dict with
  | nil => rfl
  | cons entry rest inductionHypothesis =>
      obtain ⟨absent, restDistinct⟩ := List.nodup_cons.mp distinct
      rw [List.foldl_cons, inductionHypothesis _ restDistinct, get?_set,
        lookup_cons_ite]
      by_cases here : key = entry.1
      · have notLater : rest.lookup key = none := by
          rw [← Option.not_isSome_iff_eq_none, lookup_isSome_iff_mem_keys,
            here]
          exact absent
        rw [if_pos here, if_pos here, notLater, Option.none_or,
          Option.some_or]
      · rw [if_neg here, if_neg here]

/-- The entries of the other dict win. -/
theorem get?_update (dict other : OrderedDict Key Value) (key : Key) :
    (dict.update other).get? key = (other.get? key).or (dict.get? key) :=
  get?_foldl_set dict other.distinct key

/-- What a series of updates leaves under a key is from one of the dicts. -/
theorem get?_foldl_update
    {dict : OrderedDict Key Value} {others : List (OrderedDict Key Value)}
    {key : Key} {value : Value}
    (found : (others.foldl update dict).get? key = some value) :
    dict.get? key = some value ∨
      ∃ other ∈ others, other.get? key = some value := by
  induction others generalizing dict with
  | nil => exact .inl found
  | cons other rest inductionHypothesis =>
      rcases inductionHypothesis found with early | ⟨later, member, late⟩
      · rw [get?_update, Option.or_eq_some_iff] at early
        rcases early with here | ⟨_, before⟩
        · exact .inr ⟨other, List.mem_cons_self, here⟩
        · exact .inl before
      · exact .inr ⟨later, List.mem_cons_of_mem _ member, late⟩

theorem isSome_get?_foldl_update
    {dict : OrderedDict Key Value} {others : List (OrderedDict Key Value)}
    {key : Key} :
    ((others.foldl update dict).get? key).isSome ↔
      (dict.get? key).isSome ∨
        ∃ other ∈ others, (other.get? key).isSome := by
  induction others generalizing dict with
  | nil => simp
  | cons other rest inductionHypothesis =>
      rw [List.foldl_cons, inductionHypothesis, get?_update,
        Option.isSome_or, Bool.or_eq_true, List.exists_mem_cons_iff,
        or_comm (a := (other.get? key).isSome), or_assoc]

/-- The same keys with other values. -/
def mapValues {Other : Type v} (dict : OrderedDict Key Value)
    (change : Value → Other) : OrderedDict Key Other where
  entries := dict.entries.map fun entry => (entry.1, change entry.2)
  distinct := by
    rw [List.map_map]
    exact dict.distinct

theorem get?_mapValues
    {Other : Type v} (dict : OrderedDict Key Value) (change : Value → Other)
    (key : Key) :
    (dict.mapValues change).get? key = (dict.get? key).map change := by
  obtain ⟨entries, distinct⟩ := dict
  simp only [mapValues, get?]
  clear distinct
  induction entries with
  | nil => rfl
  | cons entry rest inductionHypothesis =>
      rw [List.map_cons, lookup_cons_ite, lookup_cons_ite,
        inductionHypothesis]
      by_cases here : key = entry.1
      · rw [if_pos here, if_pos here, Option.map_some]
      · rw [if_neg here, if_neg here]

/-- The sum of a number taken from every value. -/
def total (dict : OrderedDict Key Value) (number : Value → ℕ) : ℕ :=
  (dict.entries.map fun entry => number entry.2).sum

/-- An assignment puts the new value's number in the place of the old one's. -/
theorem total_set
    (dict : OrderedDict Key Value) (key : Key) (value : Value)
    (number : Value → ℕ) :
    (dict.set key value).total number + (dict.get? key).elim 0 number =
      dict.total number + number value := by
  obtain ⟨entries, distinct⟩ := dict
  simp only [total, set, get?]
  clear distinct
  induction entries with
  | nil => simp [setEntry]
  | cons entry rest inductionHypothesis =>
      obtain ⟨first, old⟩ := entry
      by_cases here : first = key
      · simp [setEntry, here]
        omega
      · simp only [setEntry, here, if_false, List.map_cons, List.sum_cons,
          lookup_cons_ite, Ne.symm here]
        omega

end OrderedDict

end KarstflowTests.Library

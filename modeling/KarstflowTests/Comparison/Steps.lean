import Mathlib.Data.List.Flatten
import KarstflowTests.Comparison.DeepCompare

/-!
# The comparison step by step

An array and an object are both read as a value with children: a step down is
a key or an index, `steps` lists the steps that the comparison takes in a pair
of containers, and `deepCompare_containers` says what it does in each.  The
loops over keys and over indexes become one, so that a proof by induction has
one case for containers and one for the others.
-/

namespace KarstflowTests

open KarstflowTests.Library

/-! ## Children -/

namespace Json

/-- `value[step]`, where there is such a member or element. -/
def child : Json → Step → Option Json
  | .obj members, .key key => members.lookup key
  | .arr items, .index index => items[index]?
  | _, _ => none

theorem resolve_cons (value : Json) (step : Step) (rest : List Step) :
    value.resolve (step :: rest) =
      (value.child step).bind fun item => item.resolve rest := by
  cases value <;> cases step <;> simp only [resolve, child, Option.bind_none]

/-- A step that both values take makes them containers of one kind. -/
theorem bothContainers_of_child
    {left right leftChild rightChild : Json} {step : Step}
    (onLeft : left.child step = some leftChild)
    (onRight : right.child step = some rightChild) :
    left.BothContainers right := by
  cases step <;> cases left <;> simp only [child, reduceCtorEq] at onLeft <;>
    cases right <;> simp only [child, reduceCtorEq] at onRight <;> trivial

/-- One case for a pair of containers, with what holds for the children of
the first, and one for all other pairs. -/
@[elab_as_elim]
theorem childInduction
    {motive : Json → Json → Prop} (left right : Json)
    (apart : ∀ left right, ¬ BothContainers left right → motive left right)
    (containers : ∀ left right, BothContainers left right →
      (∀ step item, left.child step = some item →
        ∀ other, motive item other) →
          motive left right) :
    motive left right := by
  induction left, right using pairInduction with
  | apart left right isApart => exact apart left right isApart
  | arr lefts rights inductionHypothesis =>
      refine containers _ _ trivial ?_
      intro step item isChild other
      cases step with
      | key key => cases isChild
      | index index =>
          have listed : item ∈ lefts := List.mem_of_getElem? isChild
          exact inductionHypothesis item listed other
  | obj lefts rights inductionHypothesis =>
      refine containers _ _ trivial ?_
      intro step item isChild other
      cases step with
      | key key =>
          have listed : (key, item) ∈ lefts := mem_of_lookup isChild
          exact inductionHypothesis (key, item) listed other
      | index index => cases isChild

end Json

namespace Comparison

open Json (Step)

/-! ## One iteration of the loops -/

/-- `child_path` -/
def stepPath (path : String) : Step → String
  | .key key => childPath path key
  | .index index => indexPath path index

/-- The keys or indexes that the comparison goes through. -/
def steps : Json → Json → List Step
  | .obj references, .obj targets =>
      (sortedKeys references targets).map .key
  | .arr references, .arr targets =>
      (List.range (max references.length targets.length)).map .index
  | _, _ => []

/-- `field_name in ignore_fields or path in ignore_fields` -/
abbrev StopsAt (ignoreFields : Finset String) (path : String) : Prop :=
  fieldName path ∈ ignoreFields ∨ path ∈ ignoreFields

/-- The `continue` of the loop over the keys; the loop over the indexes has
none. -/
def Skips (ignoreFields : Finset String) (path : String) : Step → Prop
  | .key key => key ∈ ignoreFields ∨ childPath path key ∈ ignoreFields
  | .index _ => False

instance (ignoreFields : Finset String) (path : String) :
    (step : Step) → Decidable (Skips ignoreFields path step)
  | .key key =>
      inferInstanceAs
        (Decidable (key ∈ ignoreFields ∨ childPath path key ∈ ignoreFields))
  | .index _ => inferInstanceAs (Decidable False)

theorem not_skips_index
    (ignoreFields : Finset String) (path : String) (index : ℕ) :
    ¬ Skips ignoreFields path (.index index) :=
  id

/-- What an iteration appends, from the children of the two sides. -/
def compareChildren (ignoreFields : Finset String) (path : String) :
    Option Json → Option Json → List FieldDiff
  | some value, none => [⟨path, .missingField, value, .null⟩]
  | none, some value => [⟨path, .extraField, .null, value⟩]
  | some value, some other => deepCompare ignoreFields value other path
  | none, none => []

section Iterations

variable {ignoreFields : Finset String} {path : String}

theorem extraItems_eq_flatMap (targets : List Json) (index : ℕ) :
    extraItems path index targets =
      (List.range targets.length).flatMap fun offset =>
        compareChildren ignoreFields (indexPath path (index + offset)) none
          targets[offset]? := by
  induction targets generalizing index with
  | nil => rfl
  | cons target targets inductionHypothesis =>
      rw [extraItems, inductionHypothesis, List.length_cons,
        List.range_succ_eq_map, List.flatMap_cons, List.flatMap_map]
      simp only [List.getElem?_cons_zero, List.getElem?_cons_succ,
        Nat.add_zero, Nat.add_assoc, Nat.add_comm 1, compareChildren,
        List.singleton_append]

theorem compareItems_eq_flatMap
    (references targets : List Json) (index : ℕ) :
    compareItems ignoreFields references targets path index =
      (List.range (max references.length targets.length)).flatMap
        fun offset =>
          compareChildren ignoreFields (indexPath path (index + offset))
            references[offset]? targets[offset]? := by
  induction references generalizing targets index with
  | nil =>
      rw [compareItems, extraItems_eq_flatMap, List.length_nil, Nat.zero_max]
      rfl
  | cons reference references inductionHypothesis =>
      cases targets with
      | nil =>
          rw [compareItems, inductionHypothesis]
          simp only [List.length_cons, List.length_nil, Nat.max_zero,
            List.range_succ_eq_map, List.flatMap_cons, List.flatMap_map,
            List.getElem?_cons_zero, List.getElem?_cons_succ,
            List.getElem?_nil, Nat.add_zero, Nat.add_assoc, Nat.add_comm 1,
            compareChildren, List.singleton_append]
      | cons target targets =>
          rw [compareItems, inductionHypothesis]
          simp only [List.length_cons, Nat.succ_max_succ, Nat.succ_eq_add_one,
            List.range_succ_eq_map, List.flatMap_cons, List.flatMap_map,
            List.getElem?_cons_zero, List.getElem?_cons_succ, Nat.add_zero,
            Nat.add_assoc, Nat.add_comm 1, compareChildren]

theorem deepCompare_stops
    {reference target : Json} (stops : StopsAt ignoreFields path) :
    deepCompare ignoreFields reference target path = [] := by
  rw [deepCompare.eq_def, if_pos stops]

theorem deepCompare_leaf
    {reference target : Json} (enters : ¬ StopsAt ignoreFields path)
    (apart : ¬ reference.BothContainers target) :
    deepCompare ignoreFields reference target path =
      compareLeaf reference target path := by
  rw [deepCompare.eq_def, if_neg enters]
  cases reference <;> cases target <;>
    first
      | exact absurd trivial apart
      | rfl

/-- The two loops as one loop over the steps. -/
theorem deepCompare_containers
    {reference target : Json} (enters : ¬ StopsAt ignoreFields path)
    (both : reference.BothContainers target) :
    deepCompare ignoreFields reference target path =
      (steps reference target).flatMap fun step =>
        if Skips ignoreFields path step then
          []
        else
          compareChildren ignoreFields (stepPath path step)
            (reference.child step) (target.child step) := by
  cases reference with
  | arr references =>
      cases target with
      | arr targets =>
          rw [deepCompare, if_neg enters, compareItems_eq_flatMap, steps,
            List.flatMap_map]
          simp only [Nat.zero_add, not_skips_index, if_false, stepPath,
            Json.child]
      | _ => exact absurd both id
  | obj references =>
      cases target with
      | obj targets =>
          rw [deepCompare, if_neg enters, steps, List.flatMap_map]
          simp only [compareMember_eq, Skips, stepPath, Json.child]
          rfl
      | _ => exact absurd both id
  | _ => exact absurd both id

end Iterations

/-! ## Ignoring more -/

section Monotone

variable {ignoreFields more : Finset String}

theorem StopsAt.mono
    {path : String} (grows : ignoreFields ⊆ more)
    (stops : StopsAt ignoreFields path) : StopsAt more path :=
  stops.imp (fun named => grows named) (fun whole => grows whole)

theorem Skips.mono
    {path : String} {step : Step} (grows : ignoreFields ⊆ more)
    (skips : Skips ignoreFields path step) : Skips more path step := by
  cases step with
  | key key =>
      exact skips.imp (fun named => grows named) (fun whole => grows whole)
  | index index => exact skips

/-- A larger ignore set only takes entries out of the list of differences. -/
theorem deepCompare_sublist_of_subset
    (reference target : Json) (path : String)
    (grows : ignoreFields ⊆ more) :
    List.Sublist (deepCompare more reference target path)
      (deepCompare ignoreFields reference target path) := by
  induction reference, target using Json.childInduction
    generalizing path with
  | apart reference target apart =>
      by_cases stops : StopsAt more path
      · rw [deepCompare_stops stops]
        exact List.nil_sublist _
      · have entersBefore : ¬ StopsAt ignoreFields path :=
          fun before => stops (before.mono grows)
        rw [deepCompare_leaf stops apart, deepCompare_leaf entersBefore apart]
  | containers reference target both inductionHypothesis =>
      by_cases stops : StopsAt more path
      · rw [deepCompare_stops stops]
        exact List.nil_sublist _
      have entersBefore : ¬ StopsAt ignoreFields path :=
        fun before => stops (before.mono grows)
      rw [deepCompare_containers stops both,
        deepCompare_containers entersBefore both]
      apply List.Sublist.flatMap_right
      intro step _
      by_cases skips : Skips more path step
      · rw [if_pos skips]
        exact List.nil_sublist _
      have keptBefore : ¬ Skips ignoreFields path step :=
        fun before => skips (before.mono grows)
      rw [if_neg skips, if_neg keptBefore]
      -- only where both sides have a child does the comparison go on
      cases onTarget : target.child step with
      | none =>
          cases reference.child step <;> exact List.Sublist.refl _
      | some other =>
          cases onReference : reference.child step with
          | none => exact List.Sublist.refl _
          | some value =>
              exact inductionHypothesis step value onReference other
                (stepPath path step)

/-- The defaults against no ignore set at all. -/
theorem deepCompare_sublist_slot :
    List.Sublist
      (deepCompare DEFAULT_IGNORE_FIELDS
        (.obj [("slot", .int 1), ("value", .int 2)])
        (.obj [("slot", .int 3), ("value", .int 4)]) "")
      (deepCompare ∅
        (.obj [("slot", .int 1), ("value", .int 2)])
        (.obj [("slot", .int 3), ("value", .int 4)]) "") :=
  deepCompare_sublist_of_subset _ _ _ (Finset.empty_subset _)

end Monotone

end Comparison

end KarstflowTests

import Mathlib.Data.String.Basic
import KarstflowTests.Comparison.Located

/-!
# Comparing the other way round

With the sides exchanged the comparison should find the same differences, with
missing and extra fields exchanged and the two values of each.  The leaf test is
not symmetric: it lets a boolean pass for an integer, but not an integer for a
boolean.  The lists mirror each other exactly when the comparison comes to no
such pair.
-/

namespace KarstflowTests.Comparison

open Json (Step)

/-! ## Mirrored differences -/

def DiffKind.mirror : DiffKind → DiffKind
  | missingField => extraField
  | extraField => missingField
  | kind => kind

def FieldDiff.mirror (diff : FieldDiff) : FieldDiff where
  path := diff.path
  kind := diff.kind.mirror
  referenceValue := diff.targetValue
  targetValue := diff.referenceValue

/-- A boolean on one side and an integer on the other. -/
def MixesBool : Json → Json → Prop
  | .bool _, .int _ => True
  | .int _, .bool _ => True
  | _, _ => False

/-- The comparison comes to a pair of values of which at most one is a
container. -/
inductive ComesTo (ignoreFields : Finset String) (left right : Json) :
    Json → Json → String → Prop where
  | here {path : String} (enters : ¬ StopsAt ignoreFields path)
      (apart : ¬ left.BothContainers right) :
      ComesTo ignoreFields left right left right path
  | under {reference target item other : Json} {path : String} {step : Step}
      (enters : ¬ StopsAt ignoreFields path)
      (kept : ¬ Skips ignoreFields path step)
      (onReference : reference.child step = some item)
      (onTarget : target.child step = some other)
      (comes :
        ComesTo ignoreFields left right item other (stepPath path step)) :
      ComesTo ignoreFields left right reference target path

theorem MixesBool.symm {left right : Json} (mixes : MixesBool left right) :
    MixesBool right left := by
  cases left <;> cases right <;> exact mixes

theorem bothContainers_symm {left right : Json}
    (both : left.BothContainers right) : right.BothContainers left := by
  cases left <;> cases right <;> exact both

section Mirror

variable {ignoreFields : Finset String} {left right reference target : Json}
variable {path : String}

theorem ComesTo.symm
    (comes : ComesTo ignoreFields left right reference target path) :
    ComesTo ignoreFields right left target reference path := by
  induction comes with
  | here enters apart =>
      exact .here enters fun both => apart (bothContainers_symm both)
  | under enters kept onReference onTarget _ inductionHypothesis =>
      exact .under enters kept onTarget onReference inductionHypothesis

/-! ## One level -/

theorem compareLeaf_mirror
    (apart : ¬ reference.BothContainers target)
    (unmixed : ¬ MixesBool reference target) :
    compareLeaf target reference path =
      (compareLeaf reference target path).map FieldDiff.mirror := by
  have typed :
      target.isinstanceOfType reference =
        reference.isinstanceOfType target := by
    cases reference <;> cases target <;>
      first
        | rfl
        | exact absurd trivial unmixed
  have equal : reference.isinstanceOfType target →
      target.pyEq reference = reference.pyEq target := by
    intro instanceOf
    cases reference <;> cases target <;>
      first
        | exact absurd trivial unmixed
        | exact absurd trivial apart
        | simp [Json.pyEq, Json.number, eq_comm]
  rw [compareLeaf, compareLeaf, typed]
  by_cases instanceOf : reference.isinstanceOfType target
  · rw [equal instanceOf]
    by_cases same : reference.pyEq target
    · simp [instanceOf, same]
    · simp [instanceOf, same, FieldDiff.mirror, DiffKind.mirror]
  · simp [instanceOf, FieldDiff.mirror, DiffKind.mirror]

theorem steps_comm (reference target : Json) :
    steps target reference = steps reference target := by
  cases reference with
  | obj references =>
      cases target with
      | obj targets =>
          have sameKeys :
              sortedKeys targets references =
                sortedKeys references targets := by
            refine List.Perm.eq_of_pairwise ?_
              (List.pairwise_insertionSort _ _)
              (List.pairwise_insertionSort _ _) ?_
            · intro first second _ _ below above
              exact le_antisymm below above
            · refine (List.perm_insertionSort _ _).trans
                (List.Perm.trans ?_ (List.perm_insertionSort _ _).symm)
              exact List.perm_append_comm.dedup
          rw [steps, steps, sameKeys]
      | _ => rfl
  | arr references =>
      cases target with
      | arr targets => rw [steps, steps, max_comm]
      | _ => rfl
  | _ => cases target <;> rfl

/-! ## All levels -/

theorem deepCompare_mirror
    (unmixed :
      ∀ left right, ComesTo ignoreFields left right reference target path →
        ¬ MixesBool left right) :
    deepCompare ignoreFields target reference path =
      (deepCompare ignoreFields reference target path).map
        FieldDiff.mirror := by
  induction reference, target using Json.childInduction
    generalizing path with
  | apart reference target apart =>
      by_cases stops : StopsAt ignoreFields path
      · rw [deepCompare_stops stops, deepCompare_stops stops]
        rfl
      · rw [deepCompare_leaf stops apart,
          deepCompare_leaf stops fun both =>
            apart (bothContainers_symm both)]
        exact compareLeaf_mirror apart (unmixed _ _ (.here stops apart))
  | containers reference target both inductionHypothesis =>
      by_cases stops : StopsAt ignoreFields path
      · rw [deepCompare_stops stops, deepCompare_stops stops]
        rfl
      rw [deepCompare_containers stops both,
        deepCompare_containers stops (bothContainers_symm both),
        steps_comm, List.map_flatMap]
      refine List.flatMap_congr fun step _ => ?_
      by_cases skips : Skips ignoreFields path step
      · rw [if_pos skips, if_pos skips]
        rfl
      rw [if_neg skips, if_neg skips]
      cases onReference : reference.child step with
      | none => cases target.child step <;> rfl
      | some item =>
          cases onTarget : target.child step with
          | none => rfl
          | some other =>
              refine inductionHypothesis step item onReference other ?_
              intro left right comes
              exact unmixed left right
                (.under stops skips onReference onTarget comes)

/-! ## A mixed pair -/

/-- A type mismatch is listed only for values that fail the type test. -/
theorem not_instance_of_mem {diff : FieldDiff}
    (member : diff ∈ deepCompare ignoreFields reference target path)
    (mismatch : diff.kind = .typeMismatch) :
    ¬ diff.referenceValue.isinstanceOfType diff.targetValue := by
  induction reference, target using Json.childInduction
    generalizing path with
  | apart reference target apart =>
      by_cases stops : StopsAt ignoreFields path
      · rw [deepCompare_stops stops] at member
        cases member
      · rw [deepCompare_leaf stops apart, compareLeaf] at member
        split at member
        · next failed =>
            cases List.mem_singleton.mp member
            exact failed
        · split at member
          · cases List.mem_singleton.mp member
            cases mismatch
          · cases member
  | containers reference target both inductionHypothesis =>
      by_cases stops : StopsAt ignoreFields path
      · rw [deepCompare_stops stops] at member
        cases member
      rw [deepCompare_containers stops both, List.mem_flatMap] at member
      obtain ⟨step, _, listed⟩ := member
      by_cases skips : Skips ignoreFields path step
      · rw [if_pos skips] at listed
        cases listed
      rw [if_neg skips] at listed
      cases onReference : reference.child step with
      | none =>
          cases onTarget : target.child step with
          | none =>
              rw [onReference, onTarget] at listed
              cases listed
          | some other =>
              rw [onReference, onTarget] at listed
              cases List.mem_singleton.mp listed
              cases mismatch
      | some item =>
          cases onTarget : target.child step with
          | none =>
              rw [onReference, onTarget] at listed
              cases List.mem_singleton.mp listed
              cases mismatch
          | some other =>
              rw [onReference, onTarget] at listed
              exact inductionHypothesis step item onReference other listed

/-- A pair that fails the type test is listed. -/
theorem mem_of_comesTo
    (comes : ComesTo ignoreFields left right reference target path)
    (failed : ¬ left.isinstanceOfType right) :
    ∃ place, ⟨place, .typeMismatch, left, right⟩ ∈
      deepCompare ignoreFields reference target path := by
  induction comes with
  | @here path enters apart =>
      refine ⟨path, ?_⟩
      rw [deepCompare_leaf enters apart, compareLeaf, if_pos failed]
      exact List.mem_singleton_self _
  | @under reference target item other path step enters kept onReference
      onTarget _ inductionHypothesis =>
      obtain ⟨place, listed⟩ := inductionHypothesis
      have both := Json.bothContainers_of_child onReference onTarget
      refine ⟨place, ?_⟩
      rw [deepCompare_containers enters both, List.mem_flatMap]
      refine ⟨step, (mem_steps both).mpr (.inl (by rw [onReference]; rfl)), ?_⟩
      rw [if_neg kept, onReference, onTarget]
      exact listed

theorem int_not_instance_bool (number : ℤ) (truth : Bool) :
    ¬ (Json.int number).isinstanceOfType (.bool truth) := by
  simp [Json.isinstanceOfType, Json.typeName]

/-- A boolean against an integer passes the type test, so that it is never
listed as a mismatch of types. -/
theorem not_mem_bool_int {place : String} {truth : Bool} {number : ℤ} :
    ⟨place, .typeMismatch, .bool truth, .int number⟩ ∉
      deepCompare ignoreFields reference target path :=
  fun listed => not_instance_of_mem listed rfl rfl

/-- The other way round the comparison finds the mirrored differences, in the
same order, exactly when it comes to no boolean beside an integer. -/
theorem deepCompare_mirror_iff
    (ignoreFields : Finset String) (reference target : Json)
    (path : String) :
    deepCompare ignoreFields target reference path =
        (deepCompare ignoreFields reference target path).map
          FieldDiff.mirror ↔
      ∀ left right,
        ComesTo ignoreFields left right reference target path →
          ¬ MixesBool left right := by
  constructor
  · intro mirrored left right comes mixes
    cases left with
    | bool truth =>
        cases right with
        | int number =>
            obtain ⟨place, listed⟩ :=
              mem_of_comesTo comes.symm (int_not_instance_bool number truth)
            rw [mirrored, List.mem_map] at listed
            obtain ⟨⟨_, kind, _, _⟩, member, same⟩ := listed
            cases kind <;> cases same
            exact not_mem_bool_int member
        | _ => exact mixes
    | int number =>
        cases right with
        | bool truth =>
            obtain ⟨place, listed⟩ :=
              mem_of_comesTo comes (int_not_instance_bool number truth)
            have reversed := List.mem_map_of_mem (f := FieldDiff.mirror) listed
            rw [← mirrored] at reversed
            exact not_mem_bool_int reversed
        | _ => exact mixes
    | _ => exact mixes
  · exact deepCompare_mirror

end Mirror

end KarstflowTests.Comparison

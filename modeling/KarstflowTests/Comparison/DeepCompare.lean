import Mathlib.Data.Finset.Insert
import Mathlib.Data.List.Sort
import KarstflowTests.Python.Exception
import KarstflowTests.Python.Sameness

/-!
# Field-level comparison of two JSON values

`deepCompare` walks the reference and the target together and lists their
differences.  Its leaf test is `isinstance(reference, type(target))` followed
by `==`; since a Python boolean is an integer, it accepts a boolean on the
reference side against the equal integer on the target side, but not the
reverse.
-/

namespace KarstflowTests.Comparison

open KarstflowTests.Library

/-! ## Differences -/

/-- Classification of a comparison difference. -/
inductive DiffKind where
  | «match»
  | valueMismatch
  | typeMismatch
  | missingField
  | extraField
  | errorMismatch
  | bothError
  | referenceError
  | targetError
  deriving DecidableEq

def DiffKind.value : DiffKind → String
  | .match => "match"
  | .valueMismatch => "value_mismatch"
  | .typeMismatch => "type_mismatch"
  | .missingField => "missing_field"
  | .extraField => "extra_field"
  | .errorMismatch => "error_mismatch"
  | .bothError => "both_error"
  | .referenceError => "reference_error"
  | .targetError => "target_error"

structure FieldDiff where
  path : String
  kind : DiffKind
  referenceValue : Json := .null
  targetValue : Json := .null
  deriving DecidableEq

def DEFAULT_IGNORE_FIELDS : Finset String :=
  {"context.slot", "context.apiVersion", "absoluteSlot", "blockHeight",
    "slotIndex", "transactionCount", "slot", "blockTime", "blockhash",
    "lastValidBlockHeight", "feeCalculator", "full", "incremental"}

/-! ## Paths -/

/-- `path.rsplit(".", 1)[-1] if path else ""` -/
def fieldName (path : String) : String :=
  String.ofList (path.toList.reverse.takeWhile (· ≠ '.')).reverse

/-- `f"{path}.{key}" if path else key` -/
def childPath (path key : String) : String :=
  if path = "" then key else path ++ "." ++ key

/-- `f"{path}[{i}]"` -/
def indexPath (path : String) (index : ℕ) : String :=
  path ++ "[" ++ toString index ++ "]"

/-- `sorted(set(reference) | set(target))` -/
def sortedKeys (reference target : List (String × Json)) : List String :=
  (reference.map Prod.fst ++ target.map Prod.fst).dedup.insertionSort (· ≤ ·)

theorem mem_sortedKeys
    {reference target : List (String × Json)} {key : String} :
    key ∈ sortedKeys reference target ↔
      (reference.lookup key).isSome ∨ (target.lookup key).isSome := by
  rw [sortedKeys, List.mem_insertionSort, List.mem_dedup, List.mem_append,
    lookup_isSome_iff_mem_keys, lookup_isSome_iff_mem_keys]

/-! ## The comparison -/

/-- The two tests at the end of `deep_compare`. -/
def compareLeaf (reference target : Json) (path : String) : List FieldDiff :=
  if ¬ reference.isinstanceOfType target then
    [⟨path, .typeMismatch, reference, target⟩]
  else if ¬ reference.pyEq target then
    [⟨path, .valueMismatch, reference, target⟩]
  else
    []

/-- The iterations beyond the end of the reference array. -/
def extraItems (path : String) (index : ℕ) : List Json → List FieldDiff
  | [] => []
  | target :: targets =>
      ⟨indexPath path index, .extraField, .null, target⟩ ::
        extraItems path (index + 1) targets

mutual

/-- Deep compare two JSON-like values, collecting field-level diffs. -/
def deepCompare (ignoreFields : Finset String)
    (reference target : Json) (path : String) : List FieldDiff :=
  if fieldName path ∈ ignoreFields ∨ path ∈ ignoreFields then
    []
  else
    match reference, target with
    | .obj references, .obj targets =>
        (sortedKeys references targets).flatMap fun key =>
          if key ∈ ignoreFields ∨ childPath path key ∈ ignoreFields then
            []
          else
            compareMember ignoreFields references targets path key
    | .arr references, .arr targets =>
        compareItems ignoreFields references targets path 0
    | _, _ => compareLeaf reference target path

/-- The body of the loop over the keys; the recursion finds
`reference[key]`. -/
def compareMember (ignoreFields : Finset String) :
    List (String × Json) → List (String × Json) → String → String →
      List FieldDiff
  | [], target, path, key =>
      match target.lookup key with
      | some value => [⟨childPath path key, .extraField, .null, value⟩]
      | none => []
  | (name, value) :: reference, target, path, key =>
      if key = name then
        match target.lookup key with
        | none => [⟨childPath path key, .missingField, value, .null⟩]
        | some other =>
            deepCompare ignoreFields value other (childPath path key)
      else
        compareMember ignoreFields reference target path key

/-- The loop over the indexes, from `index` on. -/
def compareItems (ignoreFields : Finset String) :
    List Json → List Json → String → ℕ → List FieldDiff
  | reference :: references, target :: targets, path, index =>
      deepCompare ignoreFields reference target (indexPath path index) ++
        compareItems ignoreFields references targets path (index + 1)
  | reference :: references, [], path, index =>
      ⟨indexPath path index, .missingField, reference, .null⟩ ::
        compareItems ignoreFields references [] path (index + 1)
  | [], targets, path, index => extraItems path index targets

end

/-- The body of the loop over the keys, as the source has it. -/
theorem compareMember_eq
    (ignoreFields : Finset String)
    (reference target : List (String × Json)) (path key : String) :
    compareMember ignoreFields reference target path key =
      match reference.lookup key, target.lookup key with
      | some value, none =>
          [⟨childPath path key, .missingField, value, .null⟩]
      | none, some value =>
          [⟨childPath path key, .extraField, .null, value⟩]
      | some value, some other =>
          deepCompare ignoreFields value other (childPath path key)
      | none, none => [] := by
  induction reference with
  | nil =>
      rw [compareMember, List.lookup_nil]
      cases target.lookup key <;> rfl
  | cons member reference inductionHypothesis =>
      obtain ⟨name, value⟩ := member
      rw [compareMember, lookup_cons_ite, inductionHypothesis]
      by_cases here : key = name
      · rw [if_pos here, if_pos here]
        cases target.lookup key <;> rfl
      · rw [if_neg here, if_neg here]

section EmptyIgnoreSet

variable {reference target : Json} {path : String}

theorem deepCompare_apart
    (apart : ¬ reference.BothContainers target) :
    deepCompare ∅ reference target path =
      compareLeaf reference target path := by
  rw [deepCompare.eq_def, if_neg (by simp)]
  cases reference <;> cases target <;>
    first
      | exact absurd trivial apart
      | rfl

theorem compareItems_eq_nil_iff
    {references targets : List Json} {index : ℕ} :
    compareItems ∅ references targets path index = [] ↔
      references.length = targets.length ∧
        ∀ offset value other,
          references[offset]? = some value →
          targets[offset]? = some other →
            deepCompare ∅ value other
              (indexPath path (index + offset)) = [] := by
  induction references generalizing targets index with
  | nil =>
      cases targets <;> simp [compareItems, extraItems]
  | cons first rest inductionHypothesis =>
      cases targets with
      | nil => simp [compareItems]
      | cons other others =>
          simp only [compareItems, List.append_eq_nil_iff,
            inductionHypothesis, List.length_cons, Nat.add_right_cancel_iff]
          constructor
          · intro holds
            rcases holds with ⟨atZero, sameLength, later⟩
            refine ⟨sameLength, ?_⟩
            rintro (_ | offset) value target onReference onTarget
            · cases onReference
              cases onTarget
              exact atZero
            · rw [Nat.add_comm offset 1, ← Nat.add_assoc]
              exact later offset _ _ onReference onTarget
          · intro holds
            rcases holds with ⟨sameLength, everywhere⟩
            refine ⟨everywhere 0 _ _ rfl rfl, sameLength, ?_⟩
            intro offset value target onReference onTarget
            rw [Nat.add_assoc, Nat.add_comm 1 offset]
            exact everywhere (offset + 1) _ _ onReference onTarget

theorem compareMembers_eq_nil_iff
    {references targets : List (String × Json)} :
    deepCompare ∅ (.obj references) (.obj targets) path = [] ↔
      (∀ key, (references.lookup key).isSome ↔
        (targets.lookup key).isSome) ∧
        ∀ key value other,
          references.lookup key = some value →
          targets.lookup key = some other →
            deepCompare ∅ value other (childPath path key) = [] := by
  rw [deepCompare, if_neg (by simp)]
  simp only [List.flatMap_eq_nil_iff, mem_sortedKeys, compareMember_eq,
    Finset.notMem_empty, or_self, if_false]
  constructor
  · intro silent
    refine ⟨fun key => ?_, fun key value other onReference onTarget => ?_⟩
    · have here := silent key
      revert here
      cases references.lookup key <;> cases targets.lookup key <;> simp
    · have here := silent key
      simpa [onReference, onTarget] using here
  · rintro ⟨sameKeys, silent⟩ key _
    have keys := sameKeys key
    have here := silent key
    revert keys here
    cases references.lookup key <;> cases targets.lookup key <;> simp

/-- With an empty ignore set the comparison is silent exactly on values that
match up to its leaf test. -/
theorem deepCompare_eq_nil_iff (wellFormed : reference.WF) :
    deepCompare ∅ reference target path = [] ↔
      reference.Matches
        (fun value other =>
          value.isinstanceOfType other ∧ value.pyEq other) target := by
  induction reference, target using Json.pairInduction generalizing path with
  | apart reference target apart =>
      rw [deepCompare_apart apart, Json.matches_leaf apart, compareLeaf]
      by_cases instanceOf : reference.isinstanceOfType target <;>
        by_cases equal : reference.pyEq target <;>
        simp [instanceOf, equal]
  | arr references targets inductionHypothesis =>
      rw [deepCompare, if_neg (by simp), compareItems_eq_nil_iff,
        Json.matches_arr]
      refine and_congr_right fun _ => ?_
      refine forall_congr' fun index => forall_congr' fun value =>
        forall_congr' fun other => forall_congr' fun onReference =>
        forall_congr' fun _ => ?_
      have listed := List.mem_of_getElem? onReference
      exact inductionHypothesis value listed other (wellFormed.item listed)
  | obj references targets inductionHypothesis =>
      rw [compareMembers_eq_nil_iff, Json.matches_obj wellFormed.distinct]
      refine and_congr_right fun _ => ?_
      refine forall_congr' fun key => forall_congr' fun value =>
        forall_congr' fun other => forall_congr' fun onReference =>
        forall_congr' fun _ => ?_
      have listed := mem_of_lookup onReference
      exact inductionHypothesis _ listed other (wellFormed.member listed)

end EmptyIgnoreSet

/-! ## When the comparison decides sameness -/

/-- What a caller reads from an empty list of differences. -/
structure JudgesSameness (reference target : JsonValue) : Prop where
  same :
    deepCompare ∅ reference.json target.json "" = [] ↔
      reference.json.Same target.json
  symmetric :
    deepCompare ∅ reference.json target.json "" = [] ↔
      deepCompare ∅ target.json reference.json "" = []

/-- Equal, or a boolean and the integer that Python takes it for. -/
def EqualOrReplaced (value other : Json) : Prop :=
  value = other ∨
    ∃ truth, value = .bool truth ∧ other = .int (if truth then 1 else 0)

/-- The target is the reference with `0` or `1` in the place of at least one
boolean. -/
structure BooleansReplaced (reference target : Json) : Prop where
  matched : reference.Matches EqualOrReplaced target
  replaced :
    ∃ position truth number,
      reference.resolve position = some (.bool truth) ∧
        target.resolve position = some (.int number)

section Sameness

variable {reference target : Json} {path : String}

theorem leafTest_iff (apart : ¬ reference.BothContainers target) :
    (reference.isinstanceOfType target ∧ reference.pyEq target) ↔
      EqualOrReplaced reference target := by
  cases reference <;> cases target <;>
    simp [Json.isinstanceOfType, Json.typeName, Json.pyEq, Json.number,
      EqualOrReplaced, Json.BothContainers] at apart ⊢
  case bool.bool truth other => cases truth <;> cases other <;> simp
  case bool.int truth number => cases truth <;> simp
  case int.int => exact eq_comm
  case float.float => exact eq_comm

theorem deepCompare_eq_nil_iff_replaced (wellFormed : reference.WF) :
    deepCompare ∅ reference target path = [] ↔
      reference.Matches EqualOrReplaced target := by
  rw [deepCompare_eq_nil_iff wellFormed]
  constructor
  · exact fun matched =>
      matched.imp (fun _ _ apart => (leafTest_iff apart).mp) wellFormed
  · exact fun matched =>
      matched.imp (fun _ _ apart => (leafTest_iff apart).mpr) wellFormed

/-- Without a boolean against an integer only equal leaves are left. -/
theorem same_of_matches
    (wellFormed : reference.WF)
    (matched : reference.Matches EqualOrReplaced target)
    (noneReplaced :
      ∀ position truth number,
        reference.resolve position = some (.bool truth) →
          target.resolve position ≠ some (.int number)) :
    reference.Same target := by
  rw [Json.Same]
  induction reference, target using Json.pairInduction with
  | apart reference target apart =>
      rw [Json.matches_leaf apart] at matched ⊢
      rcases matched with same | ⟨truth, rfl, rfl⟩
      · exact same
      · exact absurd (Json.resolve_nil _)
          (noneReplaced [] _ _ (Json.resolve_nil _))
  | arr references targets inductionHypothesis =>
      rw [Json.matches_arr] at matched ⊢
      refine ⟨matched.1, fun index value other onReference onTarget => ?_⟩
      have listed := List.mem_of_getElem? onReference
      refine inductionHypothesis value listed other
        (wellFormed.item listed)
        (matched.2 index value other onReference onTarget) ?_
      intro position truth number
      have below := noneReplaced (.index index :: position) truth number
      simpa [Json.resolve, onReference, onTarget] using below
  | obj references targets inductionHypothesis =>
      rw [Json.matches_obj wellFormed.distinct] at matched ⊢
      refine ⟨matched.1, fun key value other onReference onTarget => ?_⟩
      have listed := mem_of_lookup onReference
      refine inductionHypothesis _ listed other
        (wellFormed.member listed)
        (matched.2 key value other onReference onTarget) ?_
      intro position truth number
      have below := noneReplaced (.key key :: position) truth number
      simpa [Json.resolve, onReference, onTarget] using below

theorem same_iff_not_replaced
    (wellFormed : reference.WF)
    (matched : reference.Matches EqualOrReplaced target) :
    reference.Same target ↔ ¬ BooleansReplaced reference target := by
  constructor
  · rintro same ⟨_, position, truth, number, onReference, onTarget⟩
    obtain ⟨other, reached, sameThere⟩ := same.resolve wellFormed onReference
    cases onTarget.symm.trans reached
    cases sameThere
  · intro notReplaced
    refine same_of_matches wellFormed matched ?_
    intro position truth number onReference onTarget
    exact notReplaced
      ⟨matched, position, truth, number, onReference, onTarget⟩

theorem matches_of_same
    (wellFormed : reference.WF) (same : reference.Same target) :
    reference.Matches EqualOrReplaced target :=
  Json.Matches.imp (fun _ _ _ => Or.inl) wellFormed same

end Sameness

/-- The comparison decides sameness, and so does not depend on which side is
the reference, unless one value is the other with booleans replaced by the
integers they equal in Python. -/
theorem judgesSameness_iff (reference target : JsonValue) :
    JudgesSameness reference target ↔
      ¬ BooleansReplaced reference.json target.json ∧
        ¬ BooleansReplaced target.json reference.json := by
  obtain ⟨reference, referenceWf⟩ := reference
  obtain ⟨target, targetWf⟩ := target
  have silent :
      deepCompare ∅ reference target "" = [] ↔
        reference.Matches EqualOrReplaced target :=
    deepCompare_eq_nil_iff_replaced referenceWf
  have silentBack :
      deepCompare ∅ target reference "" = [] ↔
        target.Matches EqualOrReplaced reference :=
    deepCompare_eq_nil_iff_replaced targetWf
  constructor
  · intro holds
    rcases holds with ⟨same, symmetric⟩
    rw [silent] at same
    rw [silent, silentBack] at symmetric
    refine ⟨fun replaced => ?_, fun replaced => ?_⟩
    · have isSame := same.mp replaced.matched
      exact (same_iff_not_replaced referenceWf replaced.matched).mp
        isSame replaced
    · have isSame := same.mp (symmetric.mpr replaced.matched)
      exact (same_iff_not_replaced targetWf replaced.matched).mp
        (isSame.symm referenceWf targetWf) replaced
  · intro holds
    rcases holds with ⟨notReplaced, notReplacedBack⟩
    have forward :
        reference.Matches EqualOrReplaced target ↔
          reference.Same target :=
      ⟨fun matched =>
        (same_iff_not_replaced referenceWf matched).mpr notReplaced,
        matches_of_same referenceWf⟩
    have backward :
        target.Matches EqualOrReplaced reference ↔
          reference.Same target :=
      ⟨fun matched =>
        ((same_iff_not_replaced targetWf matched).mpr
          notReplacedBack).symm targetWf referenceWf,
        fun same =>
          matches_of_same targetWf (same.symm referenceWf targetWf)⟩
    exact ⟨silent.trans forward,
      (silent.trans forward).trans (silentBack.trans backward).symm⟩

/-- `{"executable": true}` as the reference and `{"executable": 1}` as the
target. -/
theorem deepCompare_accepts_one_for_true :
    ¬ JudgesSameness
      ⟨.obj [("executable", .bool true)], by simp [Json.WF, Json.WFMembers]⟩
      ⟨.obj [("executable", .int 1)], by simp [Json.WF, Json.WFMembers]⟩ := by
  intro holds
  rcases holds with ⟨same, _⟩
  have silent :
      deepCompare ∅ (.obj [("executable", .bool true)])
        (.obj [("executable", .int 1)]) "" = [] := by
    decide
  have equal := same.mp silent
  simp [Json.Same, Json.Matches, Json.MatchesMembers] at equal

end KarstflowTests.Comparison

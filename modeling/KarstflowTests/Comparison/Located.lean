import KarstflowTests.Comparison.Steps

/-!
# Where the differences lie

`locate` is the comparison with the position of every difference kept beside
it: `map_snd_locate` says that nothing else changes.  `FirstDifference` says
where two values first differ and what they hold there, without any ignore
set; `Blocked` says where an ignore set keeps the comparison from looking.
`mem_locate_iff` puts them together.
-/

namespace KarstflowTests.Comparison

open KarstflowTests.Library
open Json (Step)

/-- The path that the comparison builds up on its way to a position. -/
def pathText (position : List Step) : String :=
  position.foldl stepPath ""

theorem pathText_concat (position : List Step) (step : Step) :
    pathText (position ++ [step]) = stepPath (pathText position) step := by
  rw [pathText, List.foldl_append]
  rfl

/-! ## The comparison with positions -/

instance : (reference target : Json) →
    Decidable (reference.BothContainers target)
  | .arr _, .arr _ => isTrue trivial
  | .obj _, .obj _ => isTrue trivial
  | .arr _, .null | .arr _, .bool _ | .arr _, .int _ | .arr _, .float _
  | .arr _, .str _ | .arr _, .obj _ => isFalse id
  | .obj _, .null | .obj _, .bool _ | .obj _, .int _ | .obj _, .float _
  | .obj _, .str _ | .obj _, .arr _ => isFalse id
  | .null, _ | .bool _, _ | .int _, _ | .float _, _ | .str _, _ => isFalse id

theorem sizeOf_child
    {value item : Json} {step : Step} (isChild : value.child step = some item) :
    sizeOf item < sizeOf value := by
  cases value with
  | arr items =>
      cases step with
      | key key => cases isChild
      | index index =>
          have smaller :=
            List.sizeOf_lt_of_mem (List.mem_of_getElem? isChild)
          simp only [Json.arr.sizeOf_spec]
          omega
  | obj members =>
      cases step with
      | key key =>
          have smaller := List.sizeOf_lt_of_mem (mem_of_lookup isChild)
          simp only [Prod.mk.sizeOf_spec] at smaller
          simp only [Json.obj.sizeOf_spec]
          omega
      | index index => cases isChild
  | _ => cases step <;> cases isChild

/-- `deepCompare` with the position of every difference. -/
def locate (ignoreFields : Finset String)
    (reference target : Json) (position : List Step) :
    List (List Step × FieldDiff) :=
  if StopsAt ignoreFields (pathText position) then
    []
  else if reference.BothContainers target then
    (steps reference target).flatMap fun step =>
      if Skips ignoreFields (pathText position) step then
        []
      else
        let child := position ++ [step]
        match _found : reference.child step, target.child step with
        | some value, none =>
            [(child, ⟨pathText child, .missingField, value, .null⟩)]
        | none, some value =>
            [(child, ⟨pathText child, .extraField, .null, value⟩)]
        | some value, some other => locate ignoreFields value other child
        | none, none => []
  else
    (compareLeaf reference target (pathText position)).map fun diff =>
      (position, diff)
termination_by sizeOf reference
decreasing_by exact sizeOf_child _found

/-- What an iteration of `locate` appends. -/
def locateChildren (ignoreFields : Finset String) (position : List Step) :
    Option Json → Option Json → List (List Step × FieldDiff)
  | some value, none =>
      [(position, ⟨pathText position, .missingField, value, .null⟩)]
  | none, some value =>
      [(position, ⟨pathText position, .extraField, .null, value⟩)]
  | some value, some other => locate ignoreFields value other position
  | none, none => []

section Located

variable {ignoreFields : Finset String} {reference target : Json}
variable {position : List Step}

theorem locate_stops (stops : StopsAt ignoreFields (pathText position)) :
    locate ignoreFields reference target position = [] := by
  rw [locate, if_pos stops]

theorem locate_leaf
    (enters : ¬ StopsAt ignoreFields (pathText position))
    (apart : ¬ reference.BothContainers target) :
    locate ignoreFields reference target position =
      (compareLeaf reference target (pathText position)).map fun diff =>
        (position, diff) := by
  rw [locate, if_neg enters, if_neg apart]

theorem locate_containers
    (enters : ¬ StopsAt ignoreFields (pathText position))
    (both : reference.BothContainers target) :
    locate ignoreFields reference target position =
      (steps reference target).flatMap fun step =>
        if Skips ignoreFields (pathText position) step then
          []
        else
          locateChildren ignoreFields (position ++ [step])
            (reference.child step) (target.child step) := by
  rw [locate, if_neg enters, if_pos both]
  congr 1
  funext step
  congr 1
  cases onReference : reference.child step <;>
    cases onTarget : target.child step <;>
      rfl

/-- The positions are all that `locate` adds. -/
theorem map_snd_locate :
    (locate ignoreFields reference target position).map Prod.snd =
      deepCompare ignoreFields reference target (pathText position) := by
  induction reference, target using Json.childInduction
    generalizing position with
  | apart reference target apart =>
      by_cases stops : StopsAt ignoreFields (pathText position)
      · rw [locate_stops stops, deepCompare_stops stops, List.map_nil]
      · rw [locate_leaf stops apart, deepCompare_leaf stops apart,
          List.map_map]
        exact List.map_id _
  | containers reference target both inductionHypothesis =>
      by_cases stops : StopsAt ignoreFields (pathText position)
      · rw [locate_stops stops, deepCompare_stops stops, List.map_nil]
      rw [locate_containers stops both, deepCompare_containers stops both,
        List.map_flatMap]
      congr 1
      funext step
      rw [← pathText_concat]
      by_cases skips : Skips ignoreFields (pathText position) step
      · rw [if_pos skips, if_pos skips, List.map_nil]
      rw [if_neg skips, if_neg skips]
      cases onReference : reference.child step with
      | none => cases target.child step <;> rfl
      | some value =>
          cases target.child step with
          | none => rfl
          | some other => exact inductionHypothesis step value onReference other

end Located

/-! ## Where two values first differ -/

/-- The two values first differ at that position, and hold there what is
given: a pair that is not of two objects or two arrays, or the topmost member
or element that only one of them has. -/
inductive FirstDifference :
    Json → Json → List Step → Option Json → Option Json → Prop
  | here {reference target : Json} :
      ¬ reference.BothContainers target → reference ≠ target →
      FirstDifference reference target [] (some reference) (some target)
  | missing {reference target value : Json} {step : Step} :
      reference.BothContainers target →
      reference.child step = some value → target.child step = none →
      FirstDifference reference target [step] (some value) none
  | extra {reference target value : Json} {step : Step} :
      reference.BothContainers target →
      reference.child step = none → target.child step = some value →
      FirstDifference reference target [step] none (some value)
  | inside {reference target value other : Json} {step : Step}
      {rest : List Step} {left right : Option Json} :
      reference.child step = some value → target.child step = some other →
      FirstDifference value other rest left right →
      FirstDifference reference target (step :: rest) left right

theorem FirstDifference.resolve
    {reference target : Json} {position : List Step}
    {left right : Option Json}
    (differs : FirstDifference reference target position left right) :
    reference.resolve position = left ∧ target.resolve position = right := by
  induction differs with
  | here apart different =>
      exact ⟨Json.resolve_nil _, Json.resolve_nil _⟩
  | missing both onReference onTarget =>
      rw [Json.resolve_cons, Json.resolve_cons, onReference, onTarget]
      exact ⟨Json.resolve_nil _, rfl⟩
  | extra both onReference onTarget =>
      rw [Json.resolve_cons, Json.resolve_cons, onReference, onTarget]
      exact ⟨rfl, Json.resolve_nil _⟩
  | inside onReference onTarget differs inductionHypothesis =>
      rw [Json.resolve_cons, Json.resolve_cons, onReference, onTarget]
      exact inductionHypothesis

theorem FirstDifference.pair
    {reference target value other : Json} {position : List Step}
    {left right : Option Json}
    (differs : FirstDifference reference target position left right)
    (onReference : left = some value) (onTarget : right = some other) :
    ¬ value.BothContainers other ∧ value ≠ other := by
  induction differs with
  | here apart different =>
      cases onReference
      cases onTarget
      exact ⟨apart, different⟩
  | missing => cases onTarget
  | extra => cases onReference
  | inside _ _ _ inductionHypothesis =>
      exact inductionHypothesis onReference onTarget

theorem FirstDifference.not_both_none
    {reference target : Json} {position : List Step}
    {left right : Option Json}
    (differs : FirstDifference reference target position left right) :
    left ≠ none ∨ right ≠ none := by
  induction differs with
  | here => exact Or.inl (Option.some_ne_none _)
  | missing => exact Or.inl (Option.some_ne_none _)
  | extra => exact Or.inr (Option.some_ne_none _)
  | inside _ _ _ inductionHypothesis => exact inductionHypothesis

/-! ## Where an ignore set stops the comparison -/

/-- On the way from `start` down to a position, the comparison stops at a pair
of values or skips a key. -/
inductive Blocked (ignoreFields : Finset String) :
    Json → Json → List Step → List Step → Prop
  | stops {reference target : Json} {start below : List Step} :
      StopsAt ignoreFields (pathText start) →
      Blocked ignoreFields reference target start below
  | skips {reference target : Json} {start rest : List Step} {step : Step} :
      Skips ignoreFields (pathText start) step →
      Blocked ignoreFields reference target start (step :: rest)
  | inside {reference target value other : Json}
      {start rest : List Step} {step : Step} :
      reference.child step = some value → target.child step = some other →
      Blocked ignoreFields value other (start ++ [step]) rest →
      Blocked ignoreFields reference target start (step :: rest)

section Blocked

variable {ignoreFields : Finset String} {reference target : Json}
variable {start : List Step} {step : Step}

theorem blocked_nil :
    Blocked ignoreFields reference target start [] ↔
      StopsAt ignoreFields (pathText start) := by
  constructor
  · intro blocked
    cases blocked with
    | stops stops => exact stops
  · exact Blocked.stops

theorem blocked_of_one_side
    (oneSided : reference.child step = none ∨ target.child step = none) :
    Blocked ignoreFields reference target start [step] ↔
      StopsAt ignoreFields (pathText start) ∨
        Skips ignoreFields (pathText start) step := by
  constructor
  · intro blocked
    cases blocked with
    | stops stops => exact Or.inl stops
    | skips skips => exact Or.inr skips
    | inside onReference onTarget _ =>
        rcases oneSided with absent | absent
        · cases onReference.symm.trans absent
        · cases onTarget.symm.trans absent
  · rintro (stops | skips)
    · exact Blocked.stops stops
    · exact Blocked.skips skips

theorem blocked_of_both_sides
    {value other : Json} {rest : List Step}
    (onReference : reference.child step = some value)
    (onTarget : target.child step = some other) :
    Blocked ignoreFields reference target start (step :: rest) ↔
      (StopsAt ignoreFields (pathText start) ∨
        Skips ignoreFields (pathText start) step) ∨
        Blocked ignoreFields value other (start ++ [step]) rest := by
  constructor
  · intro blocked
    cases blocked with
    | stops stops => exact Or.inl (Or.inl stops)
    | skips skips => exact Or.inl (Or.inr skips)
    | inside onReference' onTarget' blocked =>
        cases onReference.symm.trans onReference'
        cases onTarget.symm.trans onTarget'
        exact Or.inr blocked
  · rintro ((stops | skips) | blocked)
    · exact Blocked.stops stops
    · exact Blocked.skips skips
    · exact Blocked.inside onReference onTarget blocked

end Blocked

/-! ## What the comparison lists -/

/-- The entry for a first difference; there is none for a pair that the two
tests at the end let pass. -/
def noted (path : String) : Option Json → Option Json → List FieldDiff
  | some value, some other => compareLeaf value other path
  | some value, none => [⟨path, .missingField, value, .null⟩]
  | none, some value => [⟨path, .extraField, .null, value⟩]
  | none, none => []

section Membership

variable {ignoreFields : Finset String} {reference target : Json}
variable {position start : List Step} {step : Step} {diff : FieldDiff}

theorem mem_steps (both : reference.BothContainers target) :
    step ∈ steps reference target ↔
      (reference.child step).isSome ∨ (target.child step).isSome := by
  cases reference with
  | arr references =>
      cases target with
      | arr targets =>
          cases step with
          | key key => simp [steps, Json.child]
          | index index =>
              simp [steps, Json.child]
      | _ => exact absurd both id
  | obj references =>
      cases target with
      | obj targets =>
          cases step with
          | key key => simp [steps, Json.child, mem_sortedKeys]
          | index index => simp [steps, Json.child]
      | _ => exact absurd both id
  | _ => exact absurd both id

theorem mem_locate_containers
    (enters : ¬ StopsAt ignoreFields (pathText start))
    (both : reference.BothContainers target) :
    (position, diff) ∈ locate ignoreFields reference target start ↔
      ∃ step, ¬ Skips ignoreFields (pathText start) step ∧
        (position, diff) ∈
          locateChildren ignoreFields (start ++ [step])
            (reference.child step) (target.child step) := by
  rw [locate_containers enters both, List.mem_flatMap]
  constructor
  · rintro ⟨step, _, listed⟩
    by_cases skips : Skips ignoreFields (pathText start) step
    · rw [if_pos skips] at listed
      cases listed
    · rw [if_neg skips] at listed
      exact ⟨step, skips, listed⟩
  · rintro ⟨step, kept, listed⟩
    refine ⟨step, (mem_steps both).mpr ?_, ?_⟩
    · -- without a child on either side nothing would be listed
      cases onReference : reference.child step with
      | some value => exact Or.inl rfl
      | none =>
          cases onTarget : target.child step with
          | some value => exact Or.inr rfl
          | none =>
              rw [onReference, onTarget] at listed
              cases listed
    · rw [if_neg kept]
      exact listed

theorem mem_locate_leaf
    (enters : ¬ StopsAt ignoreFields (pathText start))
    (apart : ¬ reference.BothContainers target) :
    (position, diff) ∈ locate ignoreFields reference target start ↔
      position = start ∧
        diff ∈ compareLeaf reference target (pathText start) := by
  rw [locate_leaf enters apart, List.mem_map]
  constructor
  · rintro ⟨listed, member, same⟩
    cases same
    exact ⟨rfl, member⟩
  · rintro ⟨rfl, member⟩
    exact ⟨diff, member, rfl⟩

theorem compareLeaf_self (value : Json) (path : String)
    (apart : ¬ value.BothContainers value) :
    compareLeaf value value path = [] := by
  obtain ⟨instanceOf, equal⟩ := (leafTest_iff apart).mpr (Or.inl rfl)
  rw [compareLeaf, if_neg (not_not.mpr instanceOf), if_neg (not_not.mpr equal)]

/-- The diff is the entry for a first difference that nothing on the way
hides. -/
def Reported (ignoreFields : Finset String) (reference target : Json)
    (start position : List Step) (diff : FieldDiff) : Prop :=
  ∃ below left right, position = start ++ below ∧
    FirstDifference reference target below left right ∧
      ¬ Blocked ignoreFields reference target start below ∧
        diff ∈ noted (pathText position) left right

theorem not_reported_of_stops
    (stops : StopsAt ignoreFields (pathText start)) :
    ¬ Reported ignoreFields reference target start position diff := by
  rintro ⟨below, left, right, _, _, free, _⟩
  exact free (Blocked.stops stops)

theorem reported_leaf_iff
    (enters : ¬ StopsAt ignoreFields (pathText start))
    (apart : ¬ reference.BothContainers target) :
    Reported ignoreFields reference target start position diff ↔
      position = start ∧
        diff ∈ compareLeaf reference target (pathText start) := by
  constructor
  · rintro ⟨below, left, right, rfl, differs, _, listed⟩
    cases differs with
    | here _ different =>
        rw [List.append_nil] at listed ⊢
        exact ⟨rfl, listed⟩
    | missing both _ _ => exact absurd both apart
    | extra both _ _ => exact absurd both apart
    | inside onReference onTarget _ =>
        have both : reference.BothContainers target :=
          Json.bothContainers_of_child onReference onTarget
        exact absurd both apart
  · rintro ⟨rfl, listed⟩
    have different : reference ≠ target := by
      rintro rfl
      rw [compareLeaf_self _ _ apart] at listed
      cases listed
    exact
      ⟨[], _, _, (List.append_nil _).symm,
        FirstDifference.here apart different,
        mt blocked_nil.mp enters, listed⟩

/-- What is reported below one step, by what the two sides have there. -/
def ReportedChild (ignoreFields : Finset String) (child : List Step)
    (left right : Option Json) (position : List Step)
    (diff : FieldDiff) : Prop :=
  match left, right with
  | some value, some other =>
      Reported ignoreFields value other child position diff
  | left, right =>
      position = child ∧ diff ∈ noted (pathText child) left right

theorem ReportedChild.reported
    (enters : ¬ StopsAt ignoreFields (pathText start))
    (kept : ¬ Skips ignoreFields (pathText start) step)
    (both : reference.BothContainers target)
    (reported :
      ReportedChild ignoreFields (start ++ [step]) (reference.child step)
        (target.child step) position diff) :
    Reported ignoreFields reference target start position diff := by
  have free :
      ¬ (StopsAt ignoreFields (pathText start) ∨
        Skips ignoreFields (pathText start) step) :=
    not_or.mpr ⟨enters, kept⟩
  cases onReference : reference.child step with
  | none =>
      cases onTarget : target.child step with
      | none =>
          rw [onReference, onTarget] at reported
          cases reported.2
      | some other =>
          rw [onReference, onTarget] at reported
          obtain ⟨rfl, listed⟩ := reported
          exact
            ⟨[step], none, some other, rfl,
              FirstDifference.extra both onReference onTarget,
              mt (blocked_of_one_side (Or.inl onReference)).mp free,
              listed⟩
  | some value =>
      cases onTarget : target.child step with
      | none =>
          rw [onReference, onTarget] at reported
          obtain ⟨rfl, listed⟩ := reported
          exact
            ⟨[step], some value, none, rfl,
              FirstDifference.missing both onReference onTarget,
              mt (blocked_of_one_side (Or.inr onTarget)).mp free, listed⟩
      | some other =>
          rw [onReference, onTarget] at reported
          obtain ⟨below, left, right, rfl, differs, freeBelow, listed⟩ :=
            reported
          refine
            ⟨step :: below, left, right, by simp,
              FirstDifference.inside onReference onTarget differs, ?_,
              listed⟩
          rw [blocked_of_both_sides onReference onTarget]
          exact not_or.mpr ⟨free, freeBelow⟩

theorem reported_containers_iff
    (enters : ¬ StopsAt ignoreFields (pathText start))
    (both : reference.BothContainers target) :
    Reported ignoreFields reference target start position diff ↔
      ∃ step, ¬ Skips ignoreFields (pathText start) step ∧
        ReportedChild ignoreFields (start ++ [step])
          (reference.child step) (target.child step) position diff := by
  constructor
  · rintro ⟨below, left, right, rfl, differs, free, listed⟩
    cases differs with
    | here apart _ => exact absurd both apart
    | missing _ onReference onTarget =>
        rw [blocked_of_one_side (Or.inr onTarget)] at free
        refine ⟨_, (not_or.mp free).2, ?_⟩
        rw [onReference, onTarget]
        exact ⟨rfl, listed⟩
    | extra _ onReference onTarget =>
        rw [blocked_of_one_side (Or.inl onReference)] at free
        refine ⟨_, (not_or.mp free).2, ?_⟩
        rw [onReference, onTarget]
        exact ⟨rfl, listed⟩
    | @inside _ _ value other step rest _ _ onReference onTarget differs =>
        rw [blocked_of_both_sides onReference onTarget] at free
        obtain ⟨free, freeBelow⟩ := not_or.mp free
        refine ⟨_, (not_or.mp free).2, ?_⟩
        rw [onReference, onTarget]
        exact ⟨rest, left, right, by simp, differs, freeBelow, listed⟩
  · rintro ⟨step, kept, reported⟩
    exact reported.reported enters kept both

/-- Every listed difference lies at a first difference that nothing on the way
hides, and every such first difference is listed. -/
theorem mem_locate_iff :
    (position, diff) ∈ locate ignoreFields reference target start ↔
      Reported ignoreFields reference target start position diff := by
  induction reference, target using Json.childInduction
    generalizing start with
  | apart reference target apart =>
      by_cases stops : StopsAt ignoreFields (pathText start)
      · rw [locate_stops stops]
        exact iff_of_false List.not_mem_nil (not_reported_of_stops stops)
      · rw [mem_locate_leaf stops apart, reported_leaf_iff stops apart]
  | containers reference target both inductionHypothesis =>
      by_cases stops : StopsAt ignoreFields (pathText start)
      · rw [locate_stops stops]
        exact iff_of_false List.not_mem_nil (not_reported_of_stops stops)
      rw [mem_locate_containers stops both,
        reported_containers_iff stops both]
      have sameChild (step : Step) :
          (position, diff) ∈
              locateChildren ignoreFields (start ++ [step])
                (reference.child step) (target.child step) ↔
            ReportedChild ignoreFields (start ++ [step])
              (reference.child step) (target.child step) position diff := by
        cases onReference : reference.child step with
        | none =>
            cases target.child step with
            | none => simp [locateChildren, ReportedChild, noted]
            | some other => simp [locateChildren, ReportedChild, noted]
        | some value =>
            cases target.child step with
            | none => simp [locateChildren, ReportedChild, noted]
            | some other =>
                exact inductionHypothesis step value onReference other
      simp only [sameChild]

end Membership

/-! ## No position is listed twice -/

section Distinct

theorem nodup_steps (reference target : Json) :
    (steps reference target).Nodup := by
  cases reference with
  | arr references =>
      cases target with
      | arr targets =>
          exact List.nodup_range.map fun _ _ same => Step.index.inj same
      | _ => exact List.nodup_nil
  | obj references =>
      cases target with
      | obj targets =>
          have distinct : (sortedKeys references targets).Nodup :=
            (List.perm_insertionSort _ _).nodup_iff.mpr (List.nodup_dedup _)
          exact distinct.map fun _ _ same => Step.key.inj same
      | _ => exact List.nodup_nil
  | _ => exact List.nodup_nil

theorem prefix_of_mem_locateChildren
    {ignoreFields : Finset String} {position child : List Step}
    {diff : FieldDiff} {left right : Option Json}
    (listed :
      (position, diff) ∈ locateChildren ignoreFields child left right) :
    child <+: position := by
  cases left with
  | none =>
      cases right with
      | none => cases listed
      | some other =>
          rw [(Prod.mk.inj (List.mem_singleton.mp listed)).1]
  | some value =>
      cases right with
      | none => rw [(Prod.mk.inj (List.mem_singleton.mp listed)).1]
      | some other =>
          obtain ⟨below, _, _, rfl, _⟩ := mem_locate_iff.mp listed
          exact List.prefix_append child below

/-- The positions of one step all continue that step. -/
theorem prefix_of_mem_positions
    {ignoreFields : Finset String} {reference target : Json}
    {start position : List Step} {step : Step}
    (member :
      position ∈
        (if Skips ignoreFields (pathText start) step then
          []
        else
          locateChildren ignoreFields (start ++ [step])
            (reference.child step) (target.child step)).map Prod.fst) :
    start ++ [step] <+: position := by
  obtain ⟨⟨found, diff⟩, listed, rfl⟩ := List.mem_map.mp member
  by_cases skips : Skips ignoreFields (pathText start) step
  · rw [if_pos skips] at listed
    cases listed
  · rw [if_neg skips] at listed
    exact prefix_of_mem_locateChildren listed

theorem nodup_compareLeaf (reference target : Json) (start : List Step) :
    ((compareLeaf reference target (pathText start)).map
      fun _ => start).Nodup := by
  rw [compareLeaf]
  split
  · exact List.nodup_singleton start
  · split
    · exact List.nodup_singleton start
    · exact List.nodup_nil

theorem nodup_locate (ignoreFields : Finset String)
    (reference target : Json) (start : List Step) :
    ((locate ignoreFields reference target start).map Prod.fst).Nodup := by
  induction reference, target using Json.childInduction
    generalizing start with
  | apart reference target apart =>
      by_cases stops : StopsAt ignoreFields (pathText start)
      · rw [locate_stops stops]
        exact List.nodup_nil
      · rw [locate_leaf stops apart, List.map_map]
        exact nodup_compareLeaf reference target start
  | containers reference target both inductionHypothesis =>
      by_cases stops : StopsAt ignoreFields (pathText start)
      · rw [locate_stops stops]
        exact List.nodup_nil
      rw [locate_containers stops both, List.map_flatMap,
        List.nodup_flatMap]
      constructor
      · intro step _
        by_cases skips : Skips ignoreFields (pathText start) step
        · rw [if_pos skips]
          exact List.nodup_nil
        rw [if_neg skips]
        cases onReference : reference.child step with
        | none =>
            cases target.child step with
            | none => exact List.nodup_nil
            | some other => exact List.nodup_singleton _
        | some value =>
            cases target.child step with
            | none => exact List.nodup_singleton _
            | some other =>
                exact inductionHypothesis step value onReference other _
      · refine (nodup_steps reference target).imp ?_
        intro step other different position fromStep fromOther
        apply different
        obtain ⟨back, rfl⟩ := prefix_of_mem_positions fromStep
        obtain ⟨otherBack, same⟩ := prefix_of_mem_positions fromOther
        simp only [List.append_assoc, List.append_cancel_left_eq,
          List.singleton_append, List.cons.injEq] at same
        exact same.1.symm

end Distinct

end KarstflowTests.Comparison

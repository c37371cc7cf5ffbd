import KarstflowTests.Comparison.Client
import KarstflowTests.Comparison.Located

/-!
# What an ignore set hides

A caller who hands `compare` an ignore set means a rule on positions:
`IgnoredBy` says that a position or one above it has its path or its own key in
the set.  The comparison tests other things, and with an empty set it uses the
client's; `IgnoresAsAsked` says on which values that makes no difference.
-/

namespace KarstflowTests.Comparison

open KarstflowTests.Rpc
open Json (Step)

/-! ## The rule -/

/-- The object key of the position itself. -/
def ownKey (position : List Step) : Option String :=
  match position.getLast? with
  | some (.key key) => some key
  | _ => none

/-- The set has the path of the position, or its own object key. -/
abbrev Names (asked : Finset String) (position : List Step) : Prop :=
  pathText position ∈ asked ∨ ∃ key ∈ ownKey position, key ∈ asked

/-- The set names the position or one above it. -/
abbrev IgnoredBy (asked : Finset String) (position : List Step) : Prop :=
  ∃ front ∈ position.inits, Names asked front

/-- The values' first differences are listed unless the set ignores them. -/
def ReportsUnlessIgnored (asked : Finset String) (reference target : Json)
    (listed : List (List Step × FieldDiff)) : Prop :=
  ∀ position left right,
    FirstDifference reference target position left right →
      ((∃ diff, (position, diff) ∈ listed) ↔ ¬ IgnoredBy asked position)

/-! ## When the comparison follows it -/

/-- A boolean against the integer that Python takes it for. -/
def BooleanForInteger (left right : Option Json) : Prop :=
  ∃ truth, left = some (.bool truth) ∧
    right = some (.int (if truth then 1 else 0))

/-- The set that is used hides no difference that was not to be ignored, and
no element beyond the end of the shorter array is to be ignored by its own
path, unless the comparison stops above it. -/
structure IgnoresAsAsked (asked used : Finset String)
    (reference target : Json) : Prop where
  kept :
    ∀ position left right,
      FirstDifference reference target position left right →
      ¬ IgnoredBy asked position →
        ¬ Blocked used reference target [] position ∧
          ¬ BooleanForInteger left right
  dropped :
    ∀ parent index left right,
      FirstDifference reference target (parent ++ [.index index])
        left right →
      left = none ∨ right = none →
      pathText (parent ++ [.index index]) ∈ asked →
        Blocked used reference target [] (parent ++ [.index index])

section Rule

variable {asked used : Finset String} {reference target : Json}
variable {left right : Option Json}

theorem noted_eq_nil_iff
    {position : List Step} (path : String)
    (differs : FirstDifference reference target position left right) :
    noted path left right = [] ↔ BooleanForInteger left right := by
  cases left with
  | none =>
      cases right with
      | none => simpa using differs.not_both_none
      | some other => simp [noted, BooleanForInteger]
  | some value =>
      cases right with
      | none => simp [noted, BooleanForInteger]
      | some other =>
          obtain ⟨apart, different⟩ := differs.pair rfl rfl
          have silent :
              compareLeaf value other path = [] ↔
                EqualOrReplaced value other := by
            rw [← leafTest_iff apart, compareLeaf]
            by_cases instanceOf : value.isinstanceOfType other <;>
              by_cases equal : value.pyEq other <;>
                simp [instanceOf, equal]
          rw [noted, silent, EqualOrReplaced, or_iff_right different,
            BooleanForInteger]
          simp only [Option.some.injEq]

/-- A first difference is listed unless it is blocked or passes the tests. -/
theorem listed_iff
    {position : List Step}
    (differs : FirstDifference reference target position left right) :
    (∃ diff, (position, diff) ∈ locate used reference target []) ↔
      ¬ Blocked used reference target [] position ∧
        ¬ BooleanForInteger left right := by
  rw [← noted_eq_nil_iff (pathText position) differs]
  constructor
  · rintro ⟨diff, listed⟩
    obtain ⟨below, found, other, same, differsThere, free, member⟩ :=
      mem_locate_iff.mp listed
    rw [List.nil_append] at same
    subst same
    obtain ⟨onReference, onTarget⟩ := differs.resolve
    obtain ⟨foundReference, foundTarget⟩ := differsThere.resolve
    rw [← onReference, ← onTarget, foundReference, foundTarget]
    exact ⟨free, List.ne_nil_of_mem member⟩
  · rintro ⟨free, isNoted⟩
    obtain ⟨diff, member⟩ := List.exists_mem_of_ne_nil _ isNoted
    exact
      ⟨diff, mem_locate_iff.mpr
        ⟨position, left, right, rfl, differs, free, member⟩⟩

theorem ownKey_concat (parent : List Step) (step : Step) :
    ownKey (parent ++ [step]) =
      match step with
      | .key key => some key
      | .index _ => none := by
  rw [ownKey, List.getLast?_concat]
  cases step <;> rfl

theorem Names.below
    {start parent : List Step} {step last : Step}
    (named : Names asked (start ++ step :: (parent ++ [last]))) :
    Names asked ((start ++ [step]) ++ (parent ++ [last])) := by
  simpa using named

/-- At a single step a named key or path is tested, save an index. -/
theorem skips_of_named_step
    {start : List Step} {step : Step} (grows : asked ⊆ used)
    (named : Names asked (start ++ [step])) :
    Skips used (pathText start) step ∨
      (∃ index, step = .index index) ∧ pathText (start ++ [step]) ∈ asked := by
  rw [Names, ownKey_concat] at named
  cases step with
  | key key =>
      rcases named with whole | ⟨name, isKey, isAsked⟩
      · rw [pathText_concat] at whole
        exact Or.inl (Or.inr (grows whole))
      · cases isKey
        exact Or.inl (Or.inl (grows isAsked))
  | index index =>
      rcases named with whole | ⟨name, isNone, _⟩
      · exact Or.inr ⟨⟨index, rfl⟩, whole⟩
      · cases isNone

theorem eq_of_singleton_eq
    {step last : Step} {parent back : List Step}
    (split : [step] = parent ++ [last] ++ back) :
    parent = [] ∧ step = last := by
  cases parent with
  | nil => exact ⟨rfl, (List.cons.inj split).1⟩
  | cons first parent => simp at split

/-- On the way down every named position is tested, save an element that only
one array has. -/
theorem blocked_of_named
    {start below front back : List Step}
    (grows : asked ⊆ used)
    (differs : FirstDifference reference target below left right)
    (split : below = front ++ back)
    (named : Names asked (start ++ front))
    (testedStart : front = [] → pathText start ∈ asked) :
    Blocked used reference target start below ∨
      (∃ parent index, below = parent ++ [.index index]) ∧
        (left = none ∨ right = none) ∧ pathText (start ++ below) ∈ asked := by
  rcases front.eq_nil_or_concat' with rfl | ⟨parent, last, rfl⟩
  · exact Or.inl (Blocked.stops (Or.inr (grows (testedStart rfl))))
  induction differs generalizing start parent with
  | here apart different => simp at split
  | missing both onReference onTarget =>
      obtain ⟨rfl, rfl⟩ := eq_of_singleton_eq split
      rcases skips_of_named_step grows named with skips | ⟨isIndex, whole⟩
      · exact Or.inl (Blocked.skips skips)
      · obtain ⟨index, rfl⟩ := isIndex
        exact Or.inr ⟨⟨[], index, rfl⟩, Or.inr rfl, whole⟩
  | extra both onReference onTarget =>
      obtain ⟨rfl, rfl⟩ := eq_of_singleton_eq split
      rcases skips_of_named_step grows named with skips | ⟨isIndex, whole⟩
      · exact Or.inl (Blocked.skips skips)
      · obtain ⟨index, rfl⟩ := isIndex
        exact Or.inr ⟨⟨[], index, rfl⟩, Or.inl rfl, whole⟩
  | @inside _ _ value other step rest _ _ onReference onTarget differs
      inductionHypothesis =>
      cases parent with
      | nil =>
          rw [List.nil_append, List.singleton_append] at split
          obtain ⟨rfl, rfl⟩ := List.cons.inj split
          rcases skips_of_named_step grows named with skips | ⟨_, whole⟩
          · exact Or.inl (Blocked.skips skips)
          · exact Or.inl
              (Blocked.inside onReference onTarget
                (Blocked.stops (Or.inr (grows whole))))
      | cons first parent =>
          rw [List.cons_append, List.cons_append] at split
          obtain ⟨rfl, splitRest⟩ := List.cons.inj split
          rcases
            inductionHypothesis parent splitRest named.below (by simp) with
            blocked | ⟨⟨above, index, isIndex⟩, oneSided, whole⟩
          · exact Or.inl (Blocked.inside onReference onTarget blocked)
          · refine Or.inr ⟨⟨step :: above, index, ?_⟩, oneSided, ?_⟩
            · rw [isIndex]
              rfl
            · simpa using whole

end Rule

/-- An ignore set that is not empty is the one that is used. -/
theorem ignoreOr_of_mem
    {asked default : Finset String} {field : String} (member : field ∈ asked) :
    ignoreOr (some asked) default = asked := by
  rw [ignoreOr, if_neg (Finset.ne_empty_of_mem member)]

theorem IgnoredBy.subset_ignoreOr
    {asked : Finset String} {position : List Step}
    (ignored : IgnoredBy asked position) (default : Finset String) :
    asked ⊆ ignoreOr (some asked) default := by
  obtain ⟨front, _, named⟩ := ignored
  rcases named with whole | ⟨key, _, isAsked⟩
  · rw [ignoreOr_of_mem whole]
  · rw [ignoreOr_of_mem isAsked]

theorem reportsUnlessIgnored_iff
    (asked default : Finset String) (reference target : Json) :
    ReportsUnlessIgnored asked reference target
        (locate (ignoreOr (some asked) default) reference target []) ↔
      IgnoresAsAsked asked (ignoreOr (some asked) default) reference
        target := by
  constructor
  · intro reports
    refine ⟨?_, ?_⟩
    · intro position left right differs notIgnored
      exact (listed_iff differs).mp
        ((reports position left right differs).mpr notIgnored)
    · intro parent index left right differs oneSided whole
      by_contra free
      have ignored : IgnoredBy asked (parent ++ [.index index]) :=
        ⟨_, (List.mem_inits _ _).mpr (List.prefix_refl _), Or.inl whole⟩
      have notBoolean : ¬ BooleanForInteger left right := by
        rintro ⟨truth, rfl, rfl⟩
        simp at oneSided
      have listed := (listed_iff differs).mpr ⟨free, notBoolean⟩
      exact (reports _ left right differs).mp listed ignored
  · intro follows position left right differs
    rw [listed_iff differs]
    constructor
    · rintro ⟨free, _⟩ ignored
      have grows := ignored.subset_ignoreOr default
      obtain ⟨front, above, named⟩ := ignored
      obtain ⟨back, split⟩ := (List.mem_inits _ _).mp above
      -- the root has no key of its own, so that its path must be named
      have atRoot : front = [] → pathText [] ∈ asked := by
        rintro rfl
        rcases named with whole | ⟨key, isNone, _⟩
        · exact whole
        · cases isNone
      have namedBelow : Names asked ([] ++ front) := named
      rcases blocked_of_named grows differs split.symm namedBelow atRoot with
        blocked | ⟨⟨parent, index, rfl⟩, oneSided, whole⟩
      · exact free blocked
      · exact free
          (follows.dropped parent index left right differs oneSided whole)
    · exact follows.kept position left right differs

/-- For two endpoints that answered: the comparison lists the differences that
the caller's set does not ignore, and only these, exactly on the values on
which the set that is used hides what was asked for. -/
theorem compare_ignores_iff
    (rendering : Rendering) (client : ComparisonClient) (method : String)
    (params : Option (List Json)) (asked : Finset String)
    (reference target : RpcResponse)
    (answered : reference.error = none) (answeredTarget : target.error = none) :
    (client.compare rendering method params (some asked)
          (.ok reference) (.ok target)).1.diffs =
        (locate (ignoreOr (some asked) client.ignore) reference.result
          target.result []).map Prod.snd ∧
      (ReportsUnlessIgnored asked reference.result target.result
          (locate (ignoreOr (some asked) client.ignore) reference.result
            target.result []) ↔
        IgnoresAsAsked asked (ignoreOr (some asked) client.ignore)
          reference.result target.result) := by
  refine ⟨?_, reportsUnlessIgnored_iff asked client.ignore _ _⟩
  rw [map_snd_locate]
  simp only [ComparisonClient.compare, sideError, sideResult, answered,
    answeredTarget, Option.map_none, compareSides]
  rfl

/-! ## Three sets that are not followed -/

/-- The diffs of a comparison by a client with the default set. -/
def diffsIgnoring (asked : Finset String) (reference target : Json) :
    List FieldDiff :=
  ((ComparisonClient.init none).compare ⟨Json.typeName, Json.typeName⟩
    "getBlock" none (some asked) (.ok ⟨.int 1, reference, none⟩)
    (.ok ⟨.int 1, target, none⟩)).1.diffs

/-- The rule is followed when a field is ignored by name. -/
theorem compare_ignores_slot :
    (diffsIgnoring {"slot"} (.obj [("slot", .int 1)])
          (.obj [("slot", .int 2)]) =
        (locate {"slot"} (.obj [("slot", .int 1)])
          (.obj [("slot", .int 2)]) []).map Prod.snd) ∧
      (ReportsUnlessIgnored {"slot"} (.obj [("slot", .int 1)])
          (.obj [("slot", .int 2)])
          (locate {"slot"} (.obj [("slot", .int 1)])
            (.obj [("slot", .int 2)]) []) ↔
        IgnoresAsAsked {"slot"} {"slot"} (.obj [("slot", .int 1)])
          (.obj [("slot", .int 2)])) :=
  compare_ignores_iff ⟨Json.typeName, Json.typeName⟩
    (ComparisonClient.init none) "getBlock" none {"slot"}
    ⟨.int 1, .obj [("slot", .int 1)], none⟩
    ⟨.int 1, .obj [("slot", .int 2)], none⟩ rfl rfl

/-- The empty set hides the slot; `b[0]` hides an element under another path;
`[0]` does not hide a surplus element of that path. -/
theorem compare_ignores_otherwise :
    (FirstDifference (.obj [("slot", .int 1)]) (.obj [("slot", .int 2)])
        [.key "slot"] (some (.int 1)) (some (.int 2)) ∧
      ¬ IgnoredBy ∅ [.key "slot"] ∧
        diffsIgnoring ∅ (.obj [("slot", .int 1)])
          (.obj [("slot", .int 2)]) = []) ∧
    (FirstDifference
        (.obj [("a", .obj [("b", .arr [.int 1])])])
        (.obj [("a", .obj [("b", .arr [.int 2])])])
        [.key "a", .key "b", .index 0] (some (.int 1)) (some (.int 2)) ∧
      ¬ IgnoredBy {"b[0]"} [.key "a", .key "b", .index 0] ∧
        diffsIgnoring {"b[0]"}
          (.obj [("a", .obj [("b", .arr [.int 1])])])
          (.obj [("a", .obj [("b", .arr [.int 2])])]) = []) ∧
    (FirstDifference (.arr []) (.arr [.int 2]) [.index 0] none
        (some (.int 2)) ∧
      IgnoredBy {"[0]"} [.index 0] ∧
        diffsIgnoring {"[0]"} (.arr []) (.arr [.int 2]) =
          [⟨"[0]", .extraField, .null, .int 2⟩]) := by
  refine ⟨⟨?_, by decide, by decide⟩, ⟨?_, by decide, by decide⟩,
    ⟨?_, by decide, by decide⟩⟩
  · exact .inside rfl rfl (.here id (by simp))
  · exact .inside rfl rfl
      (.inside rfl rfl (.inside rfl rfl (.here id (by simp))))
  · exact .extra trivial rfl rfl

end KarstflowTests.Comparison

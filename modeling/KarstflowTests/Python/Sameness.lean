import KarstflowTests.Library.OrderedDict
import KarstflowTests.Python.Json

/-!
# Comparing two JSON values position by position

`Matches leaf` relates two values of the same shape: arrays of equal length,
objects with the same keys in any order, and `leaf` wherever the two values
are not both arrays or both objects.  `Same` is the instance in which the
leaves are equal.

The lemmas read `Matches` by index and by key, so that proofs about it need
one case for leaves, one for arrays and one for objects.
-/

namespace KarstflowTests.Json

open KarstflowTests.Library

/-! ## Induction over one value and over two -/

/-- Neither an array nor an object. -/
def IsLeaf : Json → Prop
  | .arr _ => False
  | .obj _ => False
  | _ => True

/-- Both values are arrays, or both are objects. -/
def BothContainers : Json → Json → Prop
  | .arr _, .arr _ => True
  | .obj _, .obj _ => True
  | _, _ => False

/-- One case for the leaves, one for arrays and one for objects. -/
@[elab_as_elim]
theorem inductionOn
    {motive : Json → Prop} (value : Json)
    (leaf : ∀ value, value.IsLeaf → motive value)
    (arr : ∀ items, (∀ item ∈ items, motive item) → motive (.arr items))
    (obj : ∀ members, (∀ member ∈ members, motive member.2) →
      motive (.obj members)) :
    motive value :=
  @Json.rec motive
    (fun items => ∀ item ∈ items, motive item)
    (fun members => ∀ member ∈ members, motive member.2)
    (fun member => motive member.2)
    (leaf _ trivial)
    (fun _ => leaf _ trivial)
    (fun _ => leaf _ trivial)
    (fun _ => leaf _ trivial)
    (fun _ => leaf _ trivial)
    arr
    obj
    (by simp)
    (fun _ _ first rest => List.forall_mem_cons.mpr ⟨first, rest⟩)
    (by simp)
    (fun _ _ first rest => List.forall_mem_cons.mpr ⟨first, rest⟩)
    (fun _ _ second => second)
    value

/-- Two values are both arrays, both objects, or apart. -/
@[elab_as_elim]
theorem pairInduction
    {motive : Json → Json → Prop} (left right : Json)
    (apart : ∀ left right, ¬ BothContainers left right → motive left right)
    (arr : ∀ lefts rights,
      (∀ left ∈ lefts, ∀ right, motive left right) →
        motive (.arr lefts) (.arr rights))
    (obj : ∀ lefts rights,
      (∀ member ∈ lefts, ∀ right, motive member.2 right) →
        motive (.obj lefts) (.obj rights)) :
    motive left right := by
  induction left using inductionOn generalizing right with
  | leaf left isLeaf =>
      refine apart left right ?_
      cases left <;> simp_all [IsLeaf, BothContainers]
  | arr lefts inductionHypothesis =>
      cases right with
      | arr rights => exact arr lefts rights inductionHypothesis
      | _ => exact apart _ _ id
  | obj lefts inductionHypothesis =>
      cases right with
      | obj rights => exact obj lefts rights inductionHypothesis
      | _ => exact apart _ _ id

/-! ## Well-formed values -/

theorem WF.item
    {items : List Json} (wellFormed : (Json.arr items).WF)
    {item : Json} (member : item ∈ items) :
    item.WF := by
  simp only [WF] at wellFormed
  induction items with
  | nil => cases member
  | cons first rest inductionHypothesis =>
      simp only [WFItems] at wellFormed
      rcases List.mem_cons.mp member with rfl | later
      · exact wellFormed.1
      · exact inductionHypothesis wellFormed.2 later

theorem WF.distinct
    {members : List (String × Json)} (wellFormed : (Json.obj members).WF) :
    (members.map Prod.fst).Nodup := by
  simp only [WF] at wellFormed
  exact wellFormed.1

theorem WF.member
    {members : List (String × Json)} (wellFormed : (Json.obj members).WF)
    {member : String × Json} (listed : member ∈ members) :
    member.2.WF := by
  simp only [WF] at wellFormed
  replace wellFormed := wellFormed.2
  induction members with
  | nil => cases listed
  | cons first rest inductionHypothesis =>
      obtain ⟨key, value⟩ := first
      simp only [WFMembers] at wellFormed
      rcases List.mem_cons.mp listed with rfl | later
      · exact wellFormed.1
      · exact inductionHypothesis later wellFormed.2

theorem wf_arr
    {items : List Json} (wellFormed : ∀ item ∈ items, item.WF) :
    (Json.arr items).WF := by
  simp only [WF]
  induction items with
  | nil => exact trivial
  | cons first rest inductionHypothesis =>
      rw [List.forall_mem_cons] at wellFormed
      exact ⟨wellFormed.1, inductionHypothesis wellFormed.2⟩

theorem wf_obj
    {members : List (String × Json)}
    (distinct : (members.map Prod.fst).Nodup)
    (wellFormed : ∀ member ∈ members, member.2.WF) :
    (Json.obj members).WF := by
  simp only [WF]
  refine ⟨distinct, ?_⟩
  clear distinct
  induction members with
  | nil => exact trivial
  | cons first rest inductionHypothesis =>
      rw [List.forall_mem_cons] at wellFormed
      exact ⟨wellFormed.1, inductionHypothesis wellFormed.2⟩

/-! ## Python's equality -/

theorem pyEqMembers_of_lookup
    {left right : List (String × Json)}
    (related :
      ∀ member ∈ left, ∃ value, right.lookup member.1 = some value ∧
        pyEq member.2 value) :
    pyEqMembers left right := by
  induction left with
  | nil => simp [pyEqMembers]
  | cons first rest inductionHypothesis =>
      rw [List.forall_mem_cons] at related
      obtain ⟨⟨value, found, equal⟩, later⟩ := related
      simp [pyEqMembers, found, equal, inductionHypothesis later]

theorem pyEqItems_iff {left right : List Json} :
    pyEqItems left right ↔
      List.Forall₂ (fun first second => pyEq first second = true)
        left right := by
  induction left generalizing right with
  | nil => cases right <;> simp [pyEqItems]
  | cons item rest inductionHypothesis =>
      cases right with
      | nil => simp [pyEqItems]
      | cons other others => simp [pyEqItems, inductionHypothesis]

theorem pyEq_refl
    {value : Json} (wellFormed : value.WF) : pyEq value value := by
  induction value using inductionOn with
  | leaf value isLeaf =>
      cases value <;> first | exact isLeaf.elim | simp [pyEq, number]
  | arr items inductionHypothesis =>
      simp only [pyEq]
      rw [pyEqItems_iff, List.forall₂_same]
      intro item member
      exact inductionHypothesis item member (wellFormed.item member)
  | obj members inductionHypothesis =>
      simp only [pyEq, beq_self_eq_true, Bool.true_and]
      apply pyEqMembers_of_lookup
      intro member listed
      exact ⟨member.2, lookup_of_mem wellFormed.distinct listed,
        inductionHypothesis member listed (wellFormed.member listed)⟩

/-- The order of the keys does not matter. -/
theorem pyEq_obj_of_perm
    {left right : List (String × Json)} (wellFormed : (Json.obj left).WF)
    (reordered : left.Perm right) : pyEq (.obj left) (.obj right) := by
  have distinct : (right.map Prod.fst).Nodup :=
    (reordered.map Prod.fst).nodup_iff.mp wellFormed.distinct
  simp only [pyEq, reordered.length_eq, beq_self_eq_true, Bool.true_and]
  apply pyEqMembers_of_lookup
  intro member listed
  exact ⟨member.2, lookup_of_mem distinct (reordered.mem_iff.mp listed),
    pyEq_refl (wellFormed.member listed)⟩

/-! ## Matching values -/

mutual

/-- Two values of the same shape whose leaves are related. -/
def Matches (leaf : Json → Json → Prop) : Json → Json → Prop
  | .arr left, .arr right => MatchesItems leaf left right
  | .obj left, .obj right =>
      (∀ key, key ∈ right.map Prod.fst → key ∈ left.map Prod.fst) ∧
        MatchesMembers leaf left right
  | left, right => leaf left right

def MatchesItems (leaf : Json → Json → Prop) :
    List Json → List Json → Prop
  | [], [] => True
  | left :: lefts, right :: rights =>
      Matches leaf left right ∧ MatchesItems leaf lefts rights
  | _, _ => False

/-- Every member on the left has a match under its key on the right. -/
def MatchesMembers (leaf : Json → Json → Prop) :
    List (String × Json) → List (String × Json) → Prop
  | [], _ => True
  | (key, left) :: lefts, rights =>
      (match rights.lookup key with
        | some right => Matches leaf left right
        | none => False) ∧ MatchesMembers leaf lefts rights

end

/-- The same JSON value: the same type and the same content at every
position, whatever the order in which an object lists its members. -/
def Same (left right : Json) : Prop := Matches Eq left right

section Matches

variable {leaf weaker : Json → Json → Prop}

theorem matches_leaf {left right : Json}
    (apart : ¬ BothContainers left right) :
    Matches leaf left right ↔ leaf left right := by
  cases left <;> cases right <;>
    first
      | exact absurd trivial apart
      | rfl

/-- Arrays match when they have equal length and match at each index. -/
theorem matches_arr {left right : List Json} :
    Matches leaf (.arr left) (.arr right) ↔
      left.length = right.length ∧
        ∀ (index : ℕ) leftValue rightValue,
          left[index]? = some leftValue →
          right[index]? = some rightValue →
            Matches leaf leftValue rightValue := by
  simp only [Matches]
  induction left generalizing right with
  | nil => cases right <;> simp [MatchesItems]
  | cons first rest inductionHypothesis =>
      cases right with
      | nil => simp [MatchesItems]
      | cons other others =>
          simp only [MatchesItems, inductionHypothesis, List.length_cons,
            Nat.add_right_cancel_iff]
          constructor
          · intro holds
            rcases holds with ⟨atZero, sameLength, later⟩
            refine ⟨sameLength, ?_⟩
            rintro (_ | index) leftValue rightValue onLeft onRight
            · cases onLeft
              cases onRight
              exact atZero
            · exact later index _ _ onLeft onRight
          · intro holds
            rcases holds with ⟨sameLength, everywhere⟩
            exact ⟨everywhere 0 _ _ rfl rfl, sameLength,
              fun index => everywhere (index + 1)⟩

/-- Objects match when they have the same keys and a match under each. -/
theorem matches_obj {left right : List (String × Json)}
    (distinct : (left.map Prod.fst).Nodup) :
    Matches leaf (.obj left) (.obj right) ↔
      (∀ key, (left.lookup key).isSome ↔ (right.lookup key).isSome) ∧
        ∀ key leftValue rightValue,
          left.lookup key = some leftValue →
          right.lookup key = some rightValue →
            Matches leaf leftValue rightValue := by
  have members :
      MatchesMembers leaf left right ↔
        ∀ member ∈ left, ∃ rightValue,
          right.lookup member.1 = some rightValue ∧
            Matches leaf member.2 rightValue := by
    clear distinct
    induction left with
    | nil => simp [MatchesMembers]
    | cons first rest inductionHypothesis =>
        obtain ⟨key, value⟩ := first
        simp only [MatchesMembers, inductionHypothesis, List.mem_cons,
          forall_eq_or_imp]
        cases right.lookup key <;> simp
  simp only [Matches, members, lookup_isSome_iff_mem_keys]
  constructor
  · intro holds
    rcases holds with ⟨backward, related⟩
    refine ⟨fun key => ⟨?_, backward key⟩, ?_⟩
    · intro listed
      obtain ⟨member, inLeft, rfl⟩ := List.mem_map.mp listed
      obtain ⟨_, found, _⟩ := related member inLeft
      exact lookup_isSome_iff_mem_keys.mp (found ▸ rfl)
    · intro key leftValue rightValue onLeft onRight
      obtain ⟨value, found, matched⟩ :=
        related (key, leftValue) (mem_of_lookup onLeft)
      cases onRight.symm.trans found
      exact matched
  · intro holds
    rcases holds with ⟨sameKeys, related⟩
    refine ⟨fun key => (sameKeys key).mpr, ?_⟩
    intro member inLeft
    have onLeft : left.lookup member.1 = some member.2 :=
      lookup_of_mem distinct inLeft
    obtain ⟨rightValue, onRight⟩ :=
      Option.isSome_iff_exists.mp
        (lookup_isSome_iff_mem_keys.mpr
          ((sameKeys member.1).mp
            (List.mem_map.mpr ⟨member, inLeft, rfl⟩)))
    exact ⟨rightValue, onRight, related _ _ _ onLeft onRight⟩

theorem Matches.imp
    (weakens :
      ∀ left right, ¬ BothContainers left right →
        leaf left right → weaker left right)
    {left right : Json} (wellFormed : left.WF)
    (matched : Matches leaf left right) :
    Matches weaker left right := by
  induction left, right using pairInduction with
  | apart left right apart =>
      rw [matches_leaf apart] at matched ⊢
      exact weakens _ _ apart matched
  | arr lefts rights inductionHypothesis =>
      rw [matches_arr] at matched ⊢
      refine ⟨matched.1, fun index left right onLeft onRight => ?_⟩
      have listed := List.mem_of_getElem? onLeft
      exact inductionHypothesis _ listed _
        (wellFormed.item listed) (matched.2 index _ _ onLeft onRight)
  | obj lefts rights inductionHypothesis =>
      rw [matches_obj wellFormed.distinct] at matched ⊢
      refine ⟨matched.1, fun key left right onLeft onRight => ?_⟩
      have listed := mem_of_lookup onLeft
      exact inductionHypothesis _ listed _
        (wellFormed.member listed) (matched.2 key _ _ onLeft onRight)

theorem Same.symm
    {left right : Json} (leftWellFormed : left.WF)
    (rightWellFormed : right.WF) (same : Same left right) :
    Same right left := by
  rw [Same] at same ⊢
  induction left, right using pairInduction with
  | apart left right apart =>
      have apart' : ¬ BothContainers right left := by
        cases left <;> cases right <;> simp_all [BothContainers]
      rw [matches_leaf apart] at same
      rw [matches_leaf apart']
      exact same.symm
  | arr lefts rights inductionHypothesis =>
      rw [matches_arr] at same ⊢
      refine ⟨same.1.symm, fun index right left onRight onLeft => ?_⟩
      have inLefts := List.mem_of_getElem? onLeft
      have inRights := List.mem_of_getElem? onRight
      exact inductionHypothesis _ inLefts _
        (leftWellFormed.item inLefts) (rightWellFormed.item inRights)
        (same.2 index _ _ onLeft onRight)
  | obj lefts rights inductionHypothesis =>
      rw [matches_obj leftWellFormed.distinct] at same
      rw [matches_obj rightWellFormed.distinct]
      refine ⟨fun key => (same.1 key).symm, ?_⟩
      intro key right left onRight onLeft
      have inLefts := mem_of_lookup onLeft
      have inRights := mem_of_lookup onRight
      exact inductionHypothesis _ inLefts _
        (leftWellFormed.member inLefts) (rightWellFormed.member inRights)
        (same.2 key _ _ onLeft onRight)

end Matches

/-! ## Positions inside a value -/

/-- One step down into a value. -/
inductive Step where
  | key (key : String)
  | index (index : ℕ)
  deriving DecidableEq

/-- The value reached by a chain of keys and indexes. -/
def resolve : Json → List Step → Option Json
  | value, [] => some value
  | .obj members, .key key :: rest =>
      (members.lookup key).bind fun value => value.resolve rest
  | .arr items, .index index :: rest =>
      items[index]?.bind fun item => item.resolve rest
  | _, _ :: _ => none

@[simp]
theorem resolve_nil (value : Json) : value.resolve [] = some value := by
  cases value <;> rfl

/-- The same value is found at every position. -/
theorem Same.resolve
    {position : List Step} {left right value : Json}
    (wellFormed : left.WF) (same : Same left right)
    (reached : left.resolve position = some value) :
    ∃ other, right.resolve position = some other ∧ Same value other := by
  rw [Same] at same
  induction position generalizing left right with
  | nil =>
      rw [resolve_nil] at reached
      cases reached
      exact ⟨right, resolve_nil right, same⟩
  | cons step rest inductionHypothesis =>
      cases left with
      | arr lefts =>
          cases right with
          | arr rights =>
              rw [matches_arr] at same
              cases step with
              | key => cases reached
              | index index =>
                  simp only [Json.resolve, Option.bind_eq_some_iff]
                    at reached ⊢
                  obtain ⟨item, found, reached⟩ := reached
                  have inside : index < rights.length := by
                    rw [← same.1]
                    exact (List.getElem?_eq_some_iff.mp found).1
                  have onRight := List.getElem?_eq_getElem inside
                  obtain ⟨final, arrives, matched⟩ :=
                    inductionHypothesis
                      (wellFormed.item (List.mem_of_getElem? found))
                      (same.2 index _ _ found onRight) reached
                  exact ⟨final, ⟨_, onRight, arrives⟩, matched⟩
          | _ => cases same
      | obj lefts =>
          cases right with
          | obj rights =>
              rw [matches_obj wellFormed.distinct] at same
              cases step with
              | index => cases reached
              | key key =>
                  simp only [Json.resolve, Option.bind_eq_some_iff]
                    at reached ⊢
                  obtain ⟨member, found, reached⟩ := reached
                  obtain ⟨other, onRight⟩ :=
                    Option.isSome_iff_exists.mp
                      ((same.1 key).mp (found ▸ rfl))
                  obtain ⟨final, arrives, matched⟩ :=
                    inductionHypothesis
                      (wellFormed.member (mem_of_lookup found))
                      (same.2 key _ _ found onRight) reached
                  exact ⟨final, ⟨other, onRight, arrives⟩, matched⟩
          | _ => cases same
      | _ => simp [Json.resolve] at reached

end KarstflowTests.Json

import KarstflowTests.Comparison.Paths

/-!
# The shape of a response

`collectShape` flattens a value to a dict from the paths of its leaves to their
type names, and `compareShapes` compares two such dicts.  `Skeleton` is what a
shape is meant to keep: a tree of types.  The leaves of a value connect the
two: the dict lists them by their paths, and no two positions of plain keys
have one path; and the leaves determine the skeleton.
-/

namespace KarstflowTests.Comparison

open KarstflowTests.Library
open Json (Step)

/-! ## Collecting and comparing shapes -/

/-- `path or "(root)"` -/
def leafPath (path : String) : String :=
  if path = "" then "(root)" else path

def single (path typeName : String) : OrderedDict String String :=
  OrderedDict.empty.set path typeName

/-- `sorted(items)`, where no two names are equal -/
def sortedItems {α : Type} (items : List (String × α)) : List (String × α) :=
  items.insertionSort fun first second => first.1 ≤ second.1

mutual

/-- Recursively collect {path: type_name} for every leaf in a JSON-like
value. -/
def collectShape : Json → String → OrderedDict String String
  | .obj members, path =>
      let shape :=
        (sortedItems (memberShapes members path)).foldl
          (fun shape member => shape.update member.2) .empty
      if members.isEmpty then
        shape.set (leafPath path) "dict(empty)"
      else
        shape
  | .arr [], path => single (leafPath path) "list(empty)"
  | .arr (item :: _), path => collectShape item (indexPath path 0)
  | value, path => single (leafPath path) value.typeName

/-- The shapes of the members, each under its key. -/
def memberShapes :
    List (String × Json) → String →
      List (String × OrderedDict String String)
  | [], _ => []
  | (key, value) :: members, path =>
      (key, collectShape value (childPath path key)) ::
        memberShapes members path

end

/-- The body of the loop over the paths. -/
def comparePath (method path : String) :
    Option String → Option String → List String
  | none, target =>
      [method ++ ": extra field '" ++ path ++ "' in target (type=" ++
        target.getD "None" ++ ")"]
  | some reference, none =>
      [method ++ ": missing field '" ++ path ++ "' in target (ref type=" ++
        reference ++ ")"]
  | some reference, some target =>
      if reference ≠ target then
        [method ++ ": type mismatch at '" ++ path ++ "': ref=" ++ reference ++
          " vs target=" ++ target]
      else
        []

/-- Compare structural shapes and return list of difference descriptions. -/
def compareShapes (reference target : Json) (method : String) :
    List String :=
  let refShape := collectShape reference ""
  let tgtShape := collectShape target ""
  let allPaths :=
    (refShape.keys ++ tgtShape.keys).dedup.insertionSort (· ≤ ·)
  allPaths.flatMap fun path =>
    comparePath method path (refShape.get? path) (tgtShape.get? path)

/-! ## Skeletons -/

/-- The types of a value: of a dict those of its members, and of a list those
of its first element. -/
inductive Skeleton where
  | scalar (typeName : String)
  | obj (members : String → Option Skeleton)
  | arr (first : Option Skeleton)

mutual

def skeleton : Json → Skeleton
  | .obj members => .obj (memberSkeleton members)
  | .arr [] => .arr none
  | .arr (item :: _) => .arr (some (skeleton item))
  | value => .scalar value.typeName

def memberSkeleton : List (String × Json) → String → Option Skeleton
  | [], _ => none
  | (name, value) :: members, key =>
      if key = name then
        some (skeleton value)
      else
        memberSkeleton members key

end

theorem memberSkeleton_eq (members : List (String × Json)) (key : String) :
    memberSkeleton members key = (members.lookup key).map skeleton := by
  induction members with
  | nil => rfl
  | cons member members inductionHypothesis =>
      rw [memberSkeleton, lookup_cons_ite, inductionHypothesis]
      by_cases here : key = member.1
      · rw [if_pos here, if_pos here, Option.map_some]
      · rw [if_neg here, if_neg here]

/-! ## Leaves -/

/-- `value.child step`, of a list the first element only. -/
def sampled : Json → Step → Option Json
  | .obj members, .key key => members.lookup key
  | .arr (item :: _), .index 0 => some item
  | _, _ => none

/-- The value has a leaf at the position, with the name of its type. -/
inductive Leaf : Json → List Step → String → Prop
  | scalar {value : Json} :
      value.IsLeaf → Leaf value [] value.typeName
  | emptyObj : Leaf (.obj []) [] "dict(empty)"
  | emptyArr : Leaf (.arr []) [] "list(empty)"
  | inside {value item : Json} {step : Step} {position : List Step}
      {typeName : String} :
      sampled value step = some item → Leaf item position typeName →
      Leaf value (step :: position) typeName

theorem typeName_ne_dictEmpty (value : Json) :
    value.typeName ≠ "dict(empty)" := by
  cases value <;> simp [Json.typeName]

theorem typeName_ne_listEmpty (value : Json) :
    value.typeName ≠ "list(empty)" := by
  cases value <;> simp [Json.typeName]

theorem exists_members_of_sampled {value item : Json} {key : String}
    (found : sampled value (.key key) = some item) :
    ∃ members, value = .obj members ∧ members.lookup key = some item := by
  cases value with
  | obj members => exact ⟨members, rfl, found⟩
  | arr items => cases items <;> cases found
  | _ => cases found

theorem exists_items_of_sampled {value item : Json} {index : ℕ}
    (found : sampled value (.index index) = some item) :
    index = 0 ∧ ∃ rest, value = .arr (item :: rest) := by
  cases value with
  | arr items =>
      cases items with
      | nil => cases found
      | cons first rest =>
          cases index with
          | zero =>
              cases found
              exact ⟨rfl, rest, rfl⟩
          | succ index => cases found
  | _ => cases found

namespace Leaf

variable {value other : Json} {position : List Step}
variable {typeName otherName : String}

theorem at_root (leaf : Leaf value [] typeName) :
    (value.IsLeaf ∧ typeName = value.typeName) ∨
      (value = .obj [] ∧ typeName = "dict(empty)") ∨
      (value = .arr [] ∧ typeName = "list(empty)") := by
  cases leaf with
  | scalar isLeaf => exact .inl ⟨isLeaf, rfl⟩
  | emptyObj => exact .inr (.inl ⟨rfl, rfl⟩)
  | emptyArr => exact .inr (.inr ⟨rfl, rfl⟩)

/-- A position has one type. -/
theorem functional
    (leaf : Leaf value position typeName)
    (same : Leaf value position otherName) : typeName = otherName := by
  induction leaf with
  | scalar isLeaf =>
      cases same with
      | scalar _ => rfl
      | emptyObj => exact isLeaf.elim
      | emptyArr => exact isLeaf.elim
  | emptyObj =>
      cases same with
      | scalar isLeaf => exact isLeaf.elim
      | emptyObj => rfl
  | emptyArr =>
      cases same with
      | scalar isLeaf => exact isLeaf.elim
      | emptyArr => rfl
  | inside found leaf inductionHypothesis =>
      cases same with
      | inside again same =>
          cases found.symm.trans again
          exact inductionHypothesis same

/-- Every value has a leaf. -/
theorem exists_of (value : Json) :
    ∃ position typeName, Leaf value position typeName := by
  induction value using Json.inductionOn with
  | leaf value isLeaf => exact ⟨[], _, .scalar isLeaf⟩
  | arr items inductionHypothesis =>
      cases items with
      | nil => exact ⟨[], _, .emptyArr⟩
      | cons item rest =>
          obtain ⟨position, typeName, leaf⟩ :=
            inductionHypothesis item List.mem_cons_self
          have isFirst :
              sampled (.arr (item :: rest)) (.index 0) = some item := rfl
          exact ⟨_, typeName, .inside isFirst leaf⟩
  | obj members inductionHypothesis =>
      cases members with
      | nil => exact ⟨[], _, .emptyObj⟩
      | cons member rest =>
          obtain ⟨position, typeName, leaf⟩ :=
            inductionHypothesis member List.mem_cons_self
          have isMember :
              sampled (.obj (member :: rest)) (.key member.1) =
                some member.2 :=
            List.lookup_cons_self
          exact ⟨_, typeName, .inside isMember leaf⟩

end Leaf

/-- The two values have the same leaves. -/
def SameLeaves (value other : Json) : Prop :=
  ∀ position typeName,
    Leaf value position typeName ↔ Leaf other position typeName

namespace SameLeaves

variable {value other : Json}

theorem symm (same : SameLeaves value other) : SameLeaves other value :=
  fun position typeName => (same position typeName).symm

/-- Below every step the leaves are the same. -/
theorem sampled
    (same : SameLeaves value other) {step : Step} {item : Json}
    (found : sampled value step = some item) :
    ∃ otherItem, Comparison.sampled other step = some otherItem ∧
      SameLeaves item otherItem := by
  obtain ⟨position, typeName, leaf⟩ := Leaf.exists_of item
  cases (same _ _).mp (.inside found leaf) with
  | @inside _ otherItem _ _ _ foundOther _ =>
      refine ⟨otherItem, foundOther, ?_⟩
      intro position typeName
      constructor
      · intro leaf
        cases (same _ _).mp (.inside found leaf) with
        | inside again otherLeaf =>
            cases foundOther.symm.trans again
            exact otherLeaf
      · intro leaf
        cases (same _ _).mpr (.inside foundOther leaf) with
        | inside again itemLeaf =>
            cases found.symm.trans again
            exact itemLeaf

theorem lookup
    {members others : List (String × Json)}
    (same : SameLeaves (.obj members) (.obj others))
    {key : String} {item : Json} (found : members.lookup key = some item) :
    ∃ otherItem, others.lookup key = some otherItem ∧
      SameLeaves item otherItem := by
  have isMember : Comparison.sampled (.obj members) (.key key) = some item :=
    found
  exact same.sampled isMember

theorem typeName_eq
    (same : SameLeaves value other) (isLeaf : value.IsLeaf) :
    other.IsLeaf ∧ value.typeName = other.typeName := by
  rcases ((same _ _).mp (.scalar isLeaf)).at_root with
    leaf | ⟨_, name⟩ | ⟨_, name⟩
  · exact leaf
  · exact absurd name (typeName_ne_dictEmpty value)
  · exact absurd name (typeName_ne_listEmpty value)

theorem eq_emptyArr (same : SameLeaves (.arr []) other) : other = .arr [] := by
  rcases ((same _ _).mp .emptyArr).at_root with
    ⟨_, name⟩ | ⟨_, name⟩ | ⟨isEmpty, _⟩
  · exact absurd name.symm (typeName_ne_listEmpty other)
  · exact absurd name (by decide)
  · exact isEmpty

theorem exists_first
    {item : Json} {rest : List Json}
    (same : SameLeaves (.arr (item :: rest)) other) :
    ∃ otherItem otherRest, other = .arr (otherItem :: otherRest) ∧
      SameLeaves item otherItem := by
  have isFirst :
      Comparison.sampled (.arr (item :: rest)) (.index 0) = some item := rfl
  obtain ⟨otherItem, found, sameItem⟩ := same.sampled isFirst
  obtain ⟨_, otherRest, isArr⟩ := exists_items_of_sampled found
  exact ⟨otherItem, otherRest, isArr, sameItem⟩

theorem exists_members
    {members : List (String × Json)} (same : SameLeaves (.obj members) other) :
    ∃ others, other = .obj others := by
  cases members with
  | nil =>
      rcases ((same _ _).mp .emptyObj).at_root with
        ⟨_, name⟩ | ⟨isEmpty, _⟩ | ⟨_, name⟩
      · exact absurd name.symm (typeName_ne_dictEmpty other)
      · exact ⟨[], isEmpty⟩
      · exact absurd name (by decide)
  | cons member rest =>
      have isMember :
          Comparison.sampled (.obj (member :: rest)) (.key member.1) =
            some member.2 :=
        List.lookup_cons_self
      obtain ⟨_, found, _⟩ := same.sampled isMember
      obtain ⟨others, isObj, _⟩ := exists_members_of_sampled found
      exact ⟨others, isObj⟩

end SameLeaves

/-! ## Leaves and skeletons -/

theorem skeleton_of_isLeaf {value : Json} (isLeaf : value.IsLeaf) :
    skeleton value = .scalar value.typeName := by
  cases value with
  | arr items => exact isLeaf.elim
  | obj members => exact isLeaf.elim
  | _ => rfl

theorem skeleton_obj (members : List (String × Json)) :
    skeleton (.obj members) =
      .obj fun key => (members.lookup key).map skeleton :=
  congrArg Skeleton.obj (funext (memberSkeleton_eq members))

/-- The skeleton of a value, case by case. -/
inductive HasSkeleton : Json → Skeleton → Prop
  | leaf {value : Json} :
      value.IsLeaf → HasSkeleton value (.scalar value.typeName)
  | obj (members : List (String × Json)) :
      HasSkeleton (.obj members)
        (.obj fun key => (members.lookup key).map skeleton)
  | emptyArr : HasSkeleton (.arr []) (.arr none)
  | arr (item : Json) (rest : List Json) :
      HasSkeleton (.arr (item :: rest)) (.arr (some (skeleton item)))

theorem hasSkeleton (value : Json) : HasSkeleton value (skeleton value) := by
  cases value with
  | arr items =>
      cases items with
      | nil => exact .emptyArr
      | cons item rest => exact .arr item rest
  | obj members =>
      rw [skeleton_obj]
      exact .obj members
  | _ => exact .leaf trivial

section Inversion

variable {value other : Json}

theorem of_skeleton_scalar {typeName : String}
    (same : skeleton value = .scalar typeName) :
    value.IsLeaf ∧ value.typeName = typeName := by
  have shape := hasSkeleton value
  rw [same] at shape
  cases shape with
  | leaf isLeaf => exact ⟨isLeaf, rfl⟩

theorem of_skeleton_obj {members : String → Option Skeleton}
    (same : skeleton value = .obj members) :
    ∃ entries, value = .obj entries ∧
      ∀ key, members key = (entries.lookup key).map skeleton := by
  have shape := hasSkeleton value
  rw [same] at shape
  cases shape with
  | obj entries => exact ⟨entries, rfl, fun _ => rfl⟩

theorem of_skeleton_arr_none (same : skeleton value = .arr none) :
    value = .arr [] := by
  have shape := hasSkeleton value
  rw [same] at shape
  cases shape with
  | emptyArr => rfl

theorem of_skeleton_arr_some {first : Skeleton}
    (same : skeleton value = .arr (some first)) :
    ∃ item rest, value = .arr (item :: rest) ∧ skeleton item = first := by
  have shape := hasSkeleton value
  rw [same] at shape
  cases shape with
  | arr item rest => exact ⟨item, rest, rfl, rfl⟩

theorem sampled_of_skeleton {step : Step} {item : Json}
    (same : skeleton value = skeleton other)
    (found : sampled value step = some item) :
    ∃ otherItem, sampled other step = some otherItem ∧
      skeleton item = skeleton otherItem := by
  cases step with
  | key key =>
      obtain ⟨members, rfl, listed⟩ := exists_members_of_sampled found
      rw [skeleton_obj] at same
      obtain ⟨entries, rfl, lookups⟩ := of_skeleton_obj same.symm
      have mapped := lookups key
      rw [listed, Option.map_some, eq_comm, Option.map_eq_some_iff] at mapped
      obtain ⟨otherItem, foundOther, sameItem⟩ := mapped
      exact ⟨otherItem, foundOther, sameItem.symm⟩
  | index index =>
      obtain ⟨rfl, rest, rfl⟩ := exists_items_of_sampled found
      obtain ⟨otherItem, otherRest, rfl, sameItem⟩ :=
        of_skeleton_arr_some same.symm
      exact ⟨otherItem, rfl, sameItem.symm⟩

/-- Values with one skeleton have the same leaves. -/
theorem Leaf.of_skeleton
    {position : List Step} {typeName : String}
    (leaf : Leaf value position typeName)
    (same : skeleton value = skeleton other) :
    Leaf other position typeName := by
  induction leaf generalizing other with
  | scalar isLeaf =>
      rw [skeleton_of_isLeaf isLeaf] at same
      obtain ⟨otherLeaf, name⟩ := of_skeleton_scalar same.symm
      rw [← name]
      exact .scalar otherLeaf
  | emptyObj =>
      rw [skeleton_obj] at same
      obtain ⟨entries, rfl, lookups⟩ := of_skeleton_obj same.symm
      cases entries with
      | nil => exact .emptyObj
      | cons entry rest =>
          have found := lookups entry.1
          rw [List.lookup_cons_self] at found
          cases found
  | emptyArr =>
      cases of_skeleton_arr_none same.symm
      exact .emptyArr
  | inside found leaf inductionHypothesis =>
      obtain ⟨otherItem, foundOther, sameItem⟩ :=
        sampled_of_skeleton same found
      exact .inside foundOther (inductionHypothesis sameItem)

/-- Values with the same leaves have one skeleton. -/
theorem skeleton_eq_of_leaves (same : SameLeaves value other) :
    skeleton value = skeleton other := by
  induction value using Json.inductionOn generalizing other with
  | leaf value isLeaf =>
      obtain ⟨otherLeaf, name⟩ := same.typeName_eq isLeaf
      rw [skeleton_of_isLeaf isLeaf, skeleton_of_isLeaf otherLeaf, name]
  | arr items inductionHypothesis =>
      cases items with
      | nil => rw [same.eq_emptyArr]
      | cons item rest =>
          obtain ⟨otherItem, otherRest, rfl, sameItem⟩ := same.exists_first
          rw [skeleton, skeleton,
            inductionHypothesis item List.mem_cons_self sameItem]
  | obj members inductionHypothesis =>
      obtain ⟨others, rfl⟩ := same.exists_members
      rw [skeleton_obj, skeleton_obj, Skeleton.obj.injEq]
      funext key
      cases found : members.lookup key with
      | some item =>
          obtain ⟨otherItem, foundOther, sameItem⟩ := same.lookup found
          rw [foundOther, Option.map_some, Option.map_some,
            inductionHypothesis _ (mem_of_lookup found) sameItem]
      | none =>
          cases foundOther : others.lookup key with
          | none => rfl
          | some otherItem =>
              obtain ⟨item, again, _⟩ := same.symm.lookup foundOther
              cases found.symm.trans again

end Inversion

/-! ## The collected dict lists the leaves -/

theorem memberShapes_eq (members : List (String × Json)) (path : String) :
    memberShapes members path =
      members.map fun member =>
        (member.1, collectShape member.2 (childPath path member.1)) := by
  induction members with
  | nil => rfl
  | cons member members inductionHypothesis =>
      rw [memberShapes, inductionHypothesis, List.map_cons]

theorem get?_single {path typeName other otherName : String} :
    (single path typeName).get? other = some otherName ↔
      other = path ∧ typeName = otherName := by
  rw [single, OrderedDict.get?_set, OrderedDict.get?_empty]
  by_cases same : other = path
  · simp [same]
  · simp [same]

theorem collectShape_of_isLeaf
    {value : Json} (isLeaf : value.IsLeaf) (path : String) :
    collectShape value path = single (leafPath path) value.typeName := by
  cases value with
  | arr items => exact isLeaf.elim
  | obj members => exact isLeaf.elim
  | _ => rfl

section Members

variable {members : List (String × Json)} {path other typeName : String}

theorem collectShape_members (nonempty : members ≠ []) :
    collectShape (.obj members) path =
      ((sortedItems (memberShapes members path)).map Prod.snd).foldl
        OrderedDict.update .empty := by
  have notEmpty : ¬ members.isEmpty = true := by
    rw [List.isEmpty_iff]
    exact nonempty
  rw [collectShape, if_neg notEmpty, List.foldl_map]

theorem mem_sortedShapes_iff {shape : OrderedDict String String} :
    shape ∈ (sortedItems (memberShapes members path)).map Prod.snd ↔
      ∃ member ∈ members,
        collectShape member.2 (childPath path member.1) = shape := by
  rw [List.mem_map, memberShapes_eq]
  constructor
  · rintro ⟨item, listed, rfl⟩
    rw [sortedItems, List.mem_insertionSort, List.mem_map] at listed
    obtain ⟨member, isMember, rfl⟩ := listed
    exact ⟨member, isMember, rfl⟩
  · rintro ⟨member, isMember, rfl⟩
    refine ⟨(member.1, _), ?_, rfl⟩
    rw [sortedItems, List.mem_insertionSort]
    exact List.mem_map.mpr ⟨member, isMember, rfl⟩

theorem exists_member_of_get?
    (nonempty : members ≠ [])
    (found : (collectShape (.obj members) path).get? other = some typeName) :
    ∃ member ∈ members,
      (collectShape member.2 (childPath path member.1)).get? other =
        some typeName := by
  rw [collectShape_members nonempty] at found
  rcases OrderedDict.get?_foldl_update found with none | ⟨shape, listed, here⟩
  · cases none
  · obtain ⟨member, isMember, rfl⟩ := mem_sortedShapes_iff.mp listed
    exact ⟨member, isMember, here⟩

theorem isSome_get?_of_member
    {member : String × Json} (isMember : member ∈ members)
    (present :
      ((collectShape member.2 (childPath path member.1)).get? other).isSome) :
    ((collectShape (.obj members) path).get? other).isSome := by
  rw [collectShape_members (List.ne_nil_of_mem isMember),
    OrderedDict.isSome_get?_foldl_update]
  exact .inr ⟨_, mem_sortedShapes_iff.mpr ⟨member, isMember, rfl⟩, present⟩

end Members

/-- Every leaf has an entry under its path. -/
theorem Leaf.isSome_get?
    {value : Json} {position : List Step} {typeName : String}
    (leaf : Leaf value position typeName) (path : String) :
    ((collectShape value path).get?
      (leafPath (position.foldl stepPath path))).isSome := by
  induction leaf generalizing path with
  | scalar isLeaf =>
      rw [collectShape_of_isLeaf isLeaf]
      exact Option.isSome_iff_exists.mpr ⟨_, get?_single.mpr ⟨rfl, rfl⟩⟩
  | emptyObj =>
      have found :
          (collectShape (.obj []) path).get? (leafPath path) =
            some "dict(empty)" :=
        get?_single.mpr ⟨rfl, rfl⟩
      exact Option.isSome_of_eq_some found
  | emptyArr =>
      have found :
          (collectShape (.arr []) path).get? (leafPath path) =
            some "list(empty)" :=
        get?_single.mpr ⟨rfl, rfl⟩
      exact Option.isSome_of_eq_some found
  | @inside value item step position typeName found leaf inductionHypothesis =>
      cases step with
      | key key =>
          obtain ⟨members, rfl, listed⟩ := exists_members_of_sampled found
          exact isSome_get?_of_member (mem_of_lookup listed)
            (inductionHypothesis (childPath path key))
      | index index =>
          obtain ⟨rfl, rest, rfl⟩ := exists_items_of_sampled found
          exact inductionHypothesis (indexPath path 0)

/-- Every entry is that of a leaf. -/
theorem exists_leaf_of_get?
    {value : Json} (wellFormed : value.WF) {path other typeName : String}
    (found : (collectShape value path).get? other = some typeName) :
    ∃ position, Leaf value position typeName ∧
      other = leafPath (position.foldl stepPath path) := by
  induction value using Json.inductionOn generalizing path with
  | leaf value isLeaf =>
      rw [collectShape_of_isLeaf isLeaf, get?_single] at found
      obtain ⟨rfl, rfl⟩ := found
      exact ⟨[], .scalar isLeaf, rfl⟩
  | arr items inductionHypothesis =>
      cases items with
      | nil =>
          obtain ⟨rfl, rfl⟩ := get?_single.mp found
          exact ⟨[], .emptyArr, rfl⟩
      | cons item rest =>
          have isFirst :
              sampled (.arr (item :: rest)) (.index 0) = some item := rfl
          obtain ⟨position, leaf, rfl⟩ :=
            inductionHypothesis item List.mem_cons_self
              (wellFormed.item List.mem_cons_self) found
          exact ⟨.index 0 :: position, .inside isFirst leaf, rfl⟩
  | obj members inductionHypothesis =>
      by_cases nonempty : members = []
      · subst nonempty
        obtain ⟨rfl, rfl⟩ := get?_single.mp found
        exact ⟨[], .emptyObj, rfl⟩
      · obtain ⟨member, isMember, here⟩ :=
          exists_member_of_get? nonempty found
        have listed :
            sampled (.obj members) (.key member.1) = some member.2 :=
          lookup_of_mem wellFormed.distinct isMember
        obtain ⟨position, leaf, rfl⟩ :=
          inductionHypothesis member isMember
            (wellFormed.member isMember) here
        exact ⟨.key member.1 :: position, .inside listed leaf, rfl⟩

/-! ## Distinct paths -/

/-- A plain key that is not the name of the root. -/
abbrev ShapeKey (key : String) : Prop :=
  PlainKey key ∧ key ≠ "(root)"

mutual

/-- All keys in the value are plain, and none is the name of the root. -/
def ShapeKeys : Json → Prop
  | .arr items => ShapeItems items
  | .obj members => ShapeMembers members
  | _ => True

def ShapeItems : List Json → Prop
  | [] => True
  | item :: items => ShapeKeys item ∧ ShapeItems items

def ShapeMembers : List (String × Json) → Prop
  | [] => True
  | (key, value) :: members =>
      ShapeKey key ∧ ShapeKeys value ∧ ShapeMembers members

end

theorem ShapeMembers.member
    {members : List (String × Json)} (keys : ShapeMembers members)
    {member : String × Json} (isMember : member ∈ members) :
    ShapeKey member.1 ∧ ShapeKeys member.2 := by
  induction members with
  | nil => cases isMember
  | cons first rest inductionHypothesis =>
      obtain ⟨here, value, later⟩ := keys
      rcases List.mem_cons.mp isMember with rfl | inRest
      · exact ⟨here, value⟩
      · exact inductionHypothesis later inRest

/-- A step down into a value with such keys. -/
def ShapeStep : Step → Prop
  | .key key => ShapeKey key
  | .index _ => True

theorem ShapeStep.plain {step : Step} (isStep : ShapeStep step) :
    step.Plain := by
  cases step with
  | key key => exact isStep.1
  | index index => exact trivial

theorem ShapeKeys.sampled
    {value item : Json} {step : Step} (keys : ShapeKeys value)
    (found : sampled value step = some item) :
    ShapeStep step ∧ ShapeKeys item := by
  cases step with
  | key key =>
      obtain ⟨members, rfl, listed⟩ := exists_members_of_sampled found
      exact ShapeMembers.member keys (mem_of_lookup listed)
  | index index =>
      obtain ⟨_, rest, rfl⟩ := exists_items_of_sampled found
      exact ⟨trivial, keys.1⟩

theorem Leaf.shapeSteps
    {value : Json} {position : List Step} {typeName : String}
    (leaf : Leaf value position typeName) (keys : ShapeKeys value) :
    ∀ step ∈ position, ShapeStep step := by
  induction leaf with
  | inside found leaf inductionHypothesis =>
      obtain ⟨here, below⟩ := keys.sampled found
      exact List.forall_mem_cons.mpr ⟨here, inductionHypothesis below⟩
  | _ => simp

/-- The position that a path of a shape spells. -/
def readLeafPath (path : String) : Option (List Step) :=
  if path = "(root)" then
    some []
  else
    readPath path

theorem readLeafPath_leafPath
    {position : List Step} (steps : ∀ step ∈ position, ShapeStep step) :
    readLeafPath (leafPath (pathText position)) = some position := by
  have reads : readPath (pathText position) = some position :=
    readPath_pathText fun step member => (steps step member).plain
  by_cases atRoot : position = []
  · subst atRoot
    rfl
  · have notEmpty : pathText position ≠ "" := by
      intro empty
      rw [empty] at reads
      exact atRoot (Option.some.inj reads).symm
    have notRoot : pathText position ≠ "(root)" := by
      intro root
      have rootReads : readPath "(root)" = some [.key "(root)"] := by decide
      rw [root, rootReads, Option.some.injEq] at reads
      subst reads
      exact (steps _ List.mem_cons_self).2 rfl
    rw [leafPath, if_neg notEmpty, readLeafPath, if_neg notRoot, reads]

/-- No two positions have one path. -/
theorem leafPath_injective
    {position other : List Step}
    (steps : ∀ step ∈ position, ShapeStep step)
    (otherSteps : ∀ step ∈ other, ShapeStep step)
    (same : leafPath (pathText position) = leafPath (pathText other)) :
    position = other := by
  have reads := readLeafPath_leafPath steps
  rw [same, readLeafPath_leafPath otherSteps, Option.some.injEq] at reads
  exact reads.symm

section Root

variable {value other : Json}

/-- The dict of a whole value maps the path of every leaf to its type. -/
theorem get?_collectShape_iff
    (wellFormed : value.WF) (keys : ShapeKeys value)
    {position : List Step} {typeName : String}
    (steps : ∀ step ∈ position, ShapeStep step) :
    (collectShape value "").get? (leafPath (pathText position)) =
        some typeName ↔
      Leaf value position typeName := by
  constructor
  · intro found
    obtain ⟨found, leaf, samePath⟩ := exists_leaf_of_get? wellFormed found
    cases leafPath_injective steps (leaf.shapeSteps keys) samePath
    exact leaf
  · intro leaf
    obtain ⟨foundName, entry⟩ :=
      Option.isSome_iff_exists.mp (leaf.isSome_get? "")
    obtain ⟨found, foundLeaf, samePath⟩ :=
      exists_leaf_of_get? wellFormed entry
    cases leafPath_injective steps (foundLeaf.shapeSteps keys) samePath
    rw [leaf.functional foundLeaf]
    exact entry

theorem get?_of_leaves
    (wellFormed : value.WF)
    (otherWellFormed : other.WF) (otherKeys : ShapeKeys other)
    (leaves : ∀ position typeName,
      Leaf value position typeName → Leaf other position typeName)
    {path typeName : String}
    (found : (collectShape value "").get? path = some typeName) :
    (collectShape other "").get? path = some typeName := by
  obtain ⟨position, leaf, rfl⟩ := exists_leaf_of_get? wellFormed found
  have otherLeaf := leaves position typeName leaf
  have steps := otherLeaf.shapeSteps otherKeys
  exact (get?_collectShape_iff otherWellFormed otherKeys steps).mpr otherLeaf

/-- Flattening keeps the skeleton and nothing else. -/
theorem get?_collectShape_eq_iff
    (wellFormed : value.WF) (keys : ShapeKeys value)
    (otherWellFormed : other.WF) (otherKeys : ShapeKeys other) :
    (∀ path,
        (collectShape value "").get? path =
          (collectShape other "").get? path) ↔
      skeleton value = skeleton other := by
  constructor
  · intro same
    apply skeleton_eq_of_leaves
    intro position typeName
    constructor
    · intro leaf
      have steps := leaf.shapeSteps keys
      rw [← get?_collectShape_iff wellFormed keys steps, same] at leaf
      exact (get?_collectShape_iff otherWellFormed otherKeys steps).mp leaf
    · intro leaf
      have steps := leaf.shapeSteps otherKeys
      rw [← get?_collectShape_iff otherWellFormed otherKeys steps, ← same]
        at leaf
      exact (get?_collectShape_iff wellFormed keys steps).mp leaf
  · intro same path
    apply Option.ext
    intro typeName
    constructor
    · apply get?_of_leaves wellFormed otherWellFormed otherKeys
      exact fun _ _ leaf => leaf.of_skeleton same
    · apply get?_of_leaves otherWellFormed wellFormed keys
      exact fun _ _ leaf => leaf.of_skeleton same.symm

end Root

/-! ## What the comparison finds -/

theorem comparePath_eq_nil_iff
    {method path : String} {reference target : Option String} :
    comparePath method path reference target = [] ↔
      reference.isSome ∧ reference = target := by
  cases reference with
  | none => simp [comparePath]
  | some reference =>
      cases target with
      | none => simp [comparePath]
      | some target =>
          by_cases same : reference = target
          · simp [comparePath, same]
          · simp [comparePath, same]

/-- Nothing is reported exactly when the two dicts are equal. -/
theorem compareShapes_eq_nil_iff_get?
    {reference target : Json} {method : String} :
    compareShapes reference target method = [] ↔
      ∀ path,
        (collectShape reference "").get? path =
          (collectShape target "").get? path := by
  rw [compareShapes, List.flatMap_eq_nil_iff]
  constructor
  · intro quiet path
    by_cases listed :
        path ∈ ((collectShape reference "").keys ++
          (collectShape target "").keys)
    · have compared := quiet path
        ((List.mem_insertionSort _).mpr (List.mem_dedup.mpr listed))
      exact (comparePath_eq_nil_iff.mp compared).2
    · rw [List.mem_append, not_or] at listed
      rw [OrderedDict.get?_eq_none_of_not_mem listed.1,
        OrderedDict.get?_eq_none_of_not_mem listed.2]
  · intro same path listed
    rw [List.mem_insertionSort, List.mem_dedup, List.mem_append,
      OrderedDict.mem_keys_iff_isSome, OrderedDict.mem_keys_iff_isSome,
      ← same, or_self] at listed
    exact comparePath_eq_nil_iff.mpr ⟨listed, same path⟩

/-- The comparison is silent exactly on values with one skeleton, and two
values flatten to one dict exactly when they have one skeleton. -/
theorem compareShapes_eq_nil_iff
    (reference target : JsonValue) (method : String)
    (keys : ShapeKeys reference.json) (targetKeys : ShapeKeys target.json) :
    (compareShapes reference.json target.json method = [] ↔
        skeleton reference.json = skeleton target.json) ∧
      ((∀ path,
          (collectShape reference.json "").get? path =
            (collectShape target.json "").get? path) ↔
        skeleton reference.json = skeleton target.json) := by
  have flattened :=
    get?_collectShape_eq_iff reference.wf keys target.wf targetKeys
  exact ⟨compareShapes_eq_nil_iff_get?.trans flattened, flattened⟩

/-- Two answers with other values, lengths and orders. -/
def slotsReference : JsonValue where
  json := .obj [("value", .arr [.int 1]), ("meta", .obj [])]
  wf := by simp [Json.WF, Json.WFMembers, Json.WFItems]

def slotsTarget : JsonValue where
  json := .obj [("meta", .obj []), ("value", .arr [.int 2, .null])]
  wf := by simp [Json.WF, Json.WFMembers, Json.WFItems]

theorem compareShapes_eq_nil_iff_slots :
    (compareShapes slotsReference.json slotsTarget.json "getSlots" = [] ↔
        skeleton slotsReference.json = skeleton slotsTarget.json) ∧
      ((∀ path,
          (collectShape slotsReference.json "").get? path =
            (collectShape slotsTarget.json "").get? path) ↔
        skeleton slotsReference.json = skeleton slotsTarget.json) := by
  have isKey : ShapeKey "value" := by decide
  have isMeta : ShapeKey "meta" := by decide
  exact compareShapes_eq_nil_iff slotsReference slotsTarget "getSlots"
    ⟨isKey, ⟨trivial, trivial⟩, isMeta, trivial, trivial⟩
    ⟨isMeta, trivial, isKey, ⟨trivial, trivial, trivial⟩, trivial⟩

end KarstflowTests.Comparison

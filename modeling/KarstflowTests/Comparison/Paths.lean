import KarstflowTests.Comparison.Located

/-!
# Reading a path back

The text of a path is read as a chain of keys and indexes: a key ends before
the next `.` or `[`, an index at its `]`.  When no key is empty or contains
one of the two, every position is read back from its text
(`readPath_pathText`), so that no two positions have the same text and every
reported difference can be looked up.
-/

namespace KarstflowTests

open KarstflowTests.Library

/-! ## Plain keys -/

/-- Non-empty, without the two characters that end a key. -/
abbrev PlainKey (key : String) : Prop :=
  key ≠ "" ∧ '.' ∉ key.toList ∧ '[' ∉ key.toList

namespace Json

def Step.Plain : Step → Prop
  | .key name => PlainKey name
  | .index _ => True

mutual

/-- All keys in the value are plain. -/
def PlainKeys : Json → Prop
  | .arr items => PlainItems items
  | .obj members => PlainMembers members
  | _ => True

def PlainItems : List Json → Prop
  | [] => True
  | item :: items => PlainKeys item ∧ PlainItems items

def PlainMembers : List (String × Json) → Prop
  | [] => True
  | (key, value) :: members =>
      PlainKey key ∧ PlainKeys value ∧ PlainMembers members

end

theorem plainItems_iff {items : List Json} :
    PlainItems items ↔ ∀ item ∈ items, item.PlainKeys := by
  induction items with
  | nil => simp [PlainItems]
  | cons item items inductionHypothesis =>
      rw [PlainItems, inductionHypothesis, List.forall_mem_cons]

theorem plainMembers_iff {members : List (String × Json)} :
    PlainMembers members ↔
      ∀ member ∈ members, PlainKey member.1 ∧ member.2.PlainKeys := by
  induction members with
  | nil => simp [PlainMembers]
  | cons member members inductionHypothesis =>
      rw [PlainMembers, inductionHypothesis, List.forall_mem_cons]
      exact and_assoc.symm

theorem PlainKeys.child
    {value item : Json} {step : Step} (plain : value.PlainKeys)
    (isChild : value.child step = some item) :
    step.Plain ∧ item.PlainKeys := by
  cases value with
  | arr items =>
      cases step with
      | key key => cases isChild
      | index index =>
          rw [PlainKeys, plainItems_iff] at plain
          exact ⟨trivial, plain item (List.mem_of_getElem? isChild)⟩
  | obj members =>
      cases step with
      | key key =>
          rw [PlainKeys, plainMembers_iff] at plain
          exact plain (key, item) (mem_of_lookup isChild)
      | index index => cases isChild
  | _ => cases step <;> cases isChild

end Json

namespace Comparison

open Json (Step)

/-- The steps down to a difference are members of one value or the other. -/
theorem FirstDifference.plain
    {reference target : Json} {position : List Step}
    {left right : Option Json}
    (differs : FirstDifference reference target position left right)
    (plain : reference.PlainKeys) (plainTarget : target.PlainKeys) :
    ∀ step ∈ position, step.Plain := by
  induction differs with
  | here apart different => simp
  | missing both onReference onTarget =>
      have stepPlain := (plain.child onReference).1
      simpa using stepPlain
  | extra both onReference onTarget =>
      have stepPlain := (plainTarget.child onTarget).1
      simpa using stepPlain
  | inside onReference onTarget differs inductionHypothesis =>
      obtain ⟨stepPlain, valuePlain⟩ := plain.child onReference
      obtain ⟨_, otherPlain⟩ := plainTarget.child onTarget
      exact List.forall_mem_cons.mpr
        ⟨stepPlain, inductionHypothesis valuePlain otherPlain⟩

/-! ## The reader -/

inductive PathState where
  /-- between two steps -/
  | closed
  /-- inside a key, with its characters so far in reverse -/
  | key (chars : List Char)
  /-- inside an index, with its value so far -/
  | index (number : ℕ)

def readFrom : PathState → List Char → Option (List Step)
  | .closed, [] => some []
  | .closed, char :: rest =>
      if char = '.' then
        readFrom (.key []) rest
      else if char = '[' then
        readFrom (.index 0) rest
      else
        none
  | .key chars, [] => some [.key (String.ofList chars.reverse)]
  | .key chars, char :: rest =>
      if char = '.' then
        (readFrom (.key []) rest).map
          (Step.key (String.ofList chars.reverse) :: ·)
      else if char = '[' then
        (readFrom (.index 0) rest).map
          (Step.key (String.ofList chars.reverse) :: ·)
      else
        readFrom (.key (char :: chars)) rest
  | .index _, [] => none
  | .index number, char :: rest =>
      if char = ']' then
        (readFrom .closed rest).map (Step.index number :: ·)
      else if char.isDigit then
        readFrom (.index (10 * number + (char.toNat - 48))) rest
      else
        none

/-- The chain of keys and indexes that a path spells from the root. -/
def readPath (path : String) : Option (List Step) :=
  match path.toList with
  | [] => some []
  | char :: rest =>
      if char = '[' then
        readFrom (.index 0) rest
      else
        readFrom (.key []) (char :: rest)

/-- What a value holds at a path. -/
def valueAt (value : Json) (path : String) : Option Json :=
  (readPath path).bind value.resolve

/-! ## The text of a position -/

/-- What a step adds to a path that is not empty. -/
def segment : Step → List Char
  | .key key => '.' :: key.toList
  | .index index => '[' :: Nat.toDigits 10 index ++ [']']

theorem toList_indexPath (path : String) (index : ℕ) :
    (indexPath path index).toList = path.toList ++ segment (.index index) := by
  simp [indexPath, segment]

theorem toList_stepPath
    {path : String} (notEmpty : path ≠ "") (step : Step) :
    (stepPath path step).toList = path.toList ++ segment step := by
  cases step with
  | key key =>
      rw [stepPath, childPath, if_neg notEmpty]
      simp [segment]
  | index index => exact toList_indexPath path index

theorem segment_ne_nil (step : Step) : segment step ≠ [] := by
  cases step <;> simp [segment]

theorem toList_foldl_stepPath
    {path : String} (notEmpty : path ≠ "") (position : List Step) :
    (position.foldl stepPath path).toList =
      path.toList ++ position.flatMap segment := by
  induction position generalizing path with
  | nil => simp
  | cons step rest inductionHypothesis =>
      have longer : stepPath path step ≠ "" := by
        intro empty
        have chars := toList_stepPath notEmpty step
        rw [empty, String.toList_empty] at chars
        exact segment_ne_nil step (List.append_eq_nil_iff.mp chars.symm).2
      rw [List.foldl_cons, inductionHypothesis longer,
        toList_stepPath notEmpty, List.flatMap_cons, List.append_assoc]

/-! ## Reading it back -/

theorem readFrom_index
    (digits : List Char) (tail : List Char) (number : ℕ)
    (areDigits : ∀ char ∈ digits, char.isDigit) :
    readFrom (.index number) (digits ++ ']' :: tail) =
      (readFrom .closed tail).map
        (Step.index (Nat.ofDigitChars 10 digits number) :: ·) := by
  induction digits generalizing number with
  | nil =>
      rw [List.nil_append, readFrom, if_pos rfl, Nat.ofDigitChars_nil]
  | cons char digits inductionHypothesis =>
      obtain ⟨isDigit, areDigits⟩ := List.forall_mem_cons.mp areDigits
      have notBracket : char ≠ ']' := by
        rintro rfl
        exact absurd isDigit (by decide)
      rw [List.cons_append, readFrom, if_neg notBracket, if_pos isDigit,
        inductionHypothesis _ areDigits, Nat.ofDigitChars_cons]
      rfl

/-- What follows a key is the end or begins another step. -/
theorem readFrom_key
    (key chars : List Char) (position : List Step)
    (noDot : '.' ∉ key) (noBracket : '[' ∉ key) :
    readFrom (.key chars) (key ++ position.flatMap segment) =
      (readFrom .closed (position.flatMap segment)).map
        (Step.key (String.ofList (chars.reverse ++ key)) :: ·) := by
  induction key generalizing chars with
  | nil =>
      rw [List.nil_append, List.append_nil]
      cases position with
      | nil => rfl
      | cons step rest =>
          cases step with
          | key key =>
              simp only [List.flatMap_cons, segment, List.cons_append,
                readFrom, if_true]
          | index index =>
              have notDot : ¬ '[' = '.' := by decide
              simp only [List.flatMap_cons, segment, List.cons_append,
                readFrom, notDot, if_false, if_true]
  | cons char key inductionHypothesis =>
      rw [List.mem_cons, not_or] at noDot noBracket
      rw [List.cons_append, readFrom, if_neg (Ne.symm noDot.1),
        if_neg (Ne.symm noBracket.1),
        inductionHypothesis _ noDot.2 noBracket.2, List.reverse_cons,
        List.append_assoc, List.singleton_append]

theorem readFrom_segment_index (index : ℕ) (tail : List Char) :
    readFrom (.index 0) (Nat.toDigits 10 index ++ ']' :: tail) =
      (readFrom .closed tail).map (Step.index index :: ·) := by
  have areDigits : ∀ char ∈ Nat.toDigits 10 index, char.isDigit :=
    fun _ member => Nat.isDigit_of_mem_toDigits (by decide) (by decide) member
  rw [readFrom_index _ _ _ areDigits, Nat.ofDigitChars_ten_toDigits]

theorem readFrom_closed
    (position : List Step) (plain : ∀ step ∈ position, step.Plain) :
    readFrom .closed (position.flatMap segment) = some position := by
  induction position with
  | nil => rfl
  | cons step rest inductionHypothesis =>
      obtain ⟨stepPlain, restPlain⟩ := List.forall_mem_cons.mp plain
      rw [List.flatMap_cons]
      cases step with
      | key key =>
          obtain ⟨_, noDot, noBracket⟩ := stepPlain
          rw [segment, List.cons_append, readFrom, if_pos rfl,
            readFrom_key _ _ _ noDot noBracket,
            inductionHypothesis restPlain, Option.map_some,
            List.reverse_nil, List.nil_append, String.ofList_toList]
      | index index =>
          have notDot : ¬ '[' = '.' := by decide
          rw [segment, List.cons_append, List.cons_append, readFrom,
            if_neg notDot, if_pos rfl, List.append_assoc,
            List.singleton_append, readFrom_segment_index,
            inductionHypothesis restPlain, Option.map_some]

/-- Every position of plain keys is read back from its text. -/
theorem readPath_pathText
    {position : List Step} (plain : ∀ step ∈ position, step.Plain) :
    readPath (pathText position) = some position := by
  cases position with
  | nil => rfl
  | cons step rest =>
      obtain ⟨stepPlain, restPlain⟩ := List.forall_mem_cons.mp plain
      cases step with
      | key key =>
          obtain ⟨notEmpty, noDot, noBracket⟩ := stepPlain
          have chars :
              (pathText (.key key :: rest)).toList =
                key.toList ++ rest.flatMap segment :=
            toList_foldl_stepPath notEmpty rest
          have nonempty : key.toList ≠ [] := by
            intro empty
            exact notEmpty (String.toList_eq_nil_iff.mp empty)
          obtain ⟨first, others, split⟩ := List.exists_cons_of_ne_nil nonempty
          have firstPlain : ¬ first = '[' := by
            rintro rfl
            exact noBracket (split ▸ List.mem_cons_self)
          have reads :=
            readFrom_key key.toList [] rest noDot noBracket
          rw [split, List.cons_append] at chars reads
          rw [readPath, chars]
          simp only [firstPlain, if_false]
          rw [reads, readFrom_closed rest restPlain, Option.map_some,
            List.reverse_nil, List.nil_append, ← split,
            String.ofList_toList]
      | index index =>
          have notEmpty : indexPath "" index ≠ "" := by
            intro empty
            have chars := toList_indexPath "" index
            rw [empty] at chars
            cases chars
          have chars :
              (pathText (.index index :: rest)).toList =
                '[' :: (Nat.toDigits 10 index ++
                  ']' :: rest.flatMap segment) := by
            rw [pathText, List.foldl_cons, stepPath,
              toList_foldl_stepPath notEmpty, toList_indexPath]
            simp [segment]
          rw [readPath, chars]
          simp only [if_true]
          rw [readFrom_segment_index, readFrom_closed rest restPlain,
            Option.map_some]

/-! ## What the reported differences say -/

/-- The difference is what the two values hold at its path. -/
def Truthful (reference target : Json) (diff : FieldDiff) : Prop :=
  match diff.kind with
  | .missingField =>
      valueAt reference diff.path = some diff.referenceValue ∧
        valueAt target diff.path = none
  | .extraField =>
      valueAt target diff.path = some diff.targetValue ∧
        valueAt reference diff.path = none
  | .typeMismatch | .valueMismatch =>
      valueAt reference diff.path = some diff.referenceValue ∧
        valueAt target diff.path = some diff.targetValue ∧
          diff.referenceValue ≠ diff.targetValue
  | _ => False

theorem truthful_of_mem_compareLeaf
    {reference target value other : Json} {path : String} {diff : FieldDiff}
    (onReference : valueAt reference path = some value)
    (onTarget : valueAt target path = some other)
    (different : value ≠ other)
    (listed : diff ∈ compareLeaf value other path) :
    diff.path = path ∧ Truthful reference target diff := by
  rw [compareLeaf] at listed
  split at listed
  · cases List.mem_singleton.mp listed
    exact ⟨rfl, onReference, onTarget, different⟩
  · split at listed
    · cases List.mem_singleton.mp listed
      exact ⟨rfl, onReference, onTarget, different⟩
    · cases listed

section Located

variable {ignoreFields : Finset String} {reference target : Json}
variable {position : List Step} {diff : FieldDiff}

/-- A listed difference has the text of its position for a path, and that text
leads back to the position. -/
theorem truthful_of_located
    (plain : reference.PlainKeys) (plainTarget : target.PlainKeys)
    (listed : (position, diff) ∈ locate ignoreFields reference target []) :
    readPath diff.path = some position ∧ Truthful reference target diff := by
  obtain ⟨below, left, right, same, differs, _, member⟩ :=
    mem_locate_iff.mp listed
  rw [List.nil_append] at same
  subst same
  obtain ⟨onReference, onTarget⟩ := differs.resolve
  have reads : readPath (pathText position) = some position :=
    readPath_pathText (differs.plain plain plainTarget)
  have referenceAt : valueAt reference (pathText position) = left := by
    rw [valueAt, reads, Option.bind_some, onReference]
  have targetAt : valueAt target (pathText position) = right := by
    rw [valueAt, reads, Option.bind_some, onTarget]
  cases left with
  | none =>
      cases right with
      | none => cases member
      | some other =>
          cases List.mem_singleton.mp member
          exact ⟨reads, targetAt, referenceAt⟩
  | some value =>
      cases right with
      | none =>
          cases List.mem_singleton.mp member
          exact ⟨reads, referenceAt, targetAt⟩
      | some other =>
          have different : value ≠ other := (differs.pair rfl rfl).2
          obtain ⟨samePath, truthful⟩ :=
            truthful_of_mem_compareLeaf referenceAt targetAt different member
          exact ⟨samePath ▸ reads, truthful⟩

end Located

/-- With plain keys the reported paths are distinct and every difference is
what the two values hold at its path. -/
theorem deepCompare_truthful
    (ignoreFields : Finset String) (reference target : Json)
    (plain : reference.PlainKeys) (plainTarget : target.PlainKeys) :
    ((deepCompare ignoreFields reference target "").map
        FieldDiff.path).Nodup ∧
      ∀ diff ∈ deepCompare ignoreFields reference target "",
        Truthful reference target diff := by
  have projected :
      (locate ignoreFields reference target []).map Prod.snd =
        deepCompare ignoreFields reference target "" := map_snd_locate
  rw [← projected]
  constructor
  · have positions := nodup_locate ignoreFields reference target []
    rw [List.map_map]
    -- equal paths are read back to one position
    refine List.Nodup.of_map readPath ?_
    have readBack :
        ((locate ignoreFields reference target []).map
            (FieldDiff.path ∘ Prod.snd)).map readPath =
          ((locate ignoreFields reference target []).map Prod.fst).map
            some := by
      rw [List.map_map, List.map_map]
      apply List.map_congr_left
      rintro ⟨position, diff⟩ listed
      exact (truthful_of_located plain plainTarget listed).1
    rw [readBack]
    exact positions.map (Option.some_injective _)
  · intro diff listed
    obtain ⟨⟨position, found⟩, member, rfl⟩ := List.mem_map.mp listed
    exact (truthful_of_located plain plainTarget member).2

/-- A list that grew and a field that is gone. -/
def ratesReference : Json :=
  .obj [("rates", .arr [.int 1]), ("total", .int 5)]

def ratesTarget : Json :=
  .obj [("rates", .arr [.int 1, .int 2])]

theorem deepCompare_truthful_rates :
    ((deepCompare ∅ ratesReference ratesTarget "").map
        FieldDiff.path).Nodup ∧
      ∀ diff ∈ deepCompare ∅ ratesReference ratesTarget "",
        Truthful ratesReference ratesTarget diff := by
  have rates : PlainKey "rates" := by decide
  have total : PlainKey "total" := by decide
  have plain : ratesReference.PlainKeys := by
    simp [ratesReference, Json.PlainKeys, Json.PlainMembers, Json.PlainItems]
    exact ⟨rates, total⟩
  have plainTarget : ratesTarget.PlainKeys := by
    simp [ratesTarget, Json.PlainKeys, Json.PlainMembers, Json.PlainItems]
    exact rates
  exact deepCompare_truthful ∅ ratesReference ratesTarget plain plainTarget

end Comparison

end KarstflowTests

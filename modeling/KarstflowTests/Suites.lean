import KarstflowTests.Library.ShellWords

/-!
# Test suites

A suite gives the arguments of a pytest run as a list, and the whole command
as one line.  The line joins the arguments with blanks and quotes none of them,
so that a shell reads the arguments back exactly when each of them is a plain
word; an expression that joins two markers is none.
-/

namespace KarstflowTests.Suites

open KarstflowTests.Library

/-- A collection of tests. -/
structure TestSuite where
  paths : List String := []
  markers : List String := []
  keywords : List String := []
  timeout : ℤ := 60
  extraArgs : List String := []

/-- `[flag, " or ".join(names)]`, if there are names -/
def expressionArgs (flag : String) (names : List String) : List String :=
  if names ≠ [] then [flag, " or ".intercalate names] else []

namespace TestSuite

def pytestArgs (suite : TestSuite) : List String :=
  suite.paths ++ expressionArgs "-m" suite.markers ++
    expressionArgs "-k" suite.keywords ++
    ["--timeout", toString suite.timeout] ++ suite.extraArgs

/-- The arguments, and `-v` if verbose. -/
def runArgs (suite : TestSuite) (verbose : Bool) : List String :=
  suite.pytestArgs ++ if verbose then ["-v"] else []

def pytestCmd (suite : TestSuite) (verbose : Bool := true) : String :=
  "uv run pytest " ++ " ".intercalate (suite.runArgs verbose)

/-- The argument list that the command stands for. -/
def argumentList (suite : TestSuite) (verbose : Bool) : List String :=
  ["uv", "run", "pytest"] ++ suite.runArgs verbose

/-- A shell reads the arguments out of the command. -/
def ReadsBack (suite : TestSuite) (verbose : Bool) : Prop :=
  shellWords (suite.pytestCmd verbose) = some (suite.argumentList verbose)

/-! ## When the command is read back -/

/-- At most one name, and that a plain word. -/
def PlainExpression (names : List String) : Prop :=
  names.length ≤ 1 ∧ ∀ name ∈ names, PlainWord name.toList

/-- No argument needs quotes. -/
structure Plain (suite : TestSuite) : Prop where
  paths : ∀ path ∈ suite.paths, PlainWord path.toList
  markers : PlainExpression suite.markers
  keywords : PlainExpression suite.keywords
  extraArgs : ∀ arg ∈ suite.extraArgs, PlainWord arg.toList

end TestSuite

open TestSuite

theorem plainWord_digits (number : ℕ) :
    PlainWord (Nat.toDigits 10 number) := by
  have digits : ∀ char ∈ Nat.toDigits 10 number, char.isDigit = true :=
    fun char member =>
      Nat.isDigit_of_mem_toDigits (by decide) (by decide) member
  refine ⟨Nat.toDigits_ne_nil, ?_, ?_⟩
  · intro char member special
    have noDigit : specialChars.all (fun char => !char.isDigit) = true := by
      decide
    have isNone := List.all_eq_true.mp noDigit char special
    rw [digits char member] at isNone
    cases isNone
  · intro char isFirst isFront
    have noDigit : frontChars.all (fun char => !char.isDigit) = true := by
      decide
    have isNone := List.all_eq_true.mp noDigit char isFront
    rw [digits char (List.mem_of_mem_head? isFirst)] at isNone
    cases isNone

theorem plainWord_toString (number : ℤ) :
    PlainWord (toString number).toList := by
  rw [Int.toString_eq_repr, Int.repr_eq_if]
  split
  · rw [Nat.toList_repr]
    exact plainWord_digits _
  · have plain := plainWord_digits (-number).toNat
    rw [String.toList_append, Nat.toList_repr]
    refine ⟨List.cons_ne_nil _ _, ?_, ?_⟩
    · exact List.forall_mem_cons.mpr ⟨by decide, plain.plain⟩
    · intro char isFirst
      cases isFirst
      decide

/-- Joined names contain a blank as soon as there are two. -/
theorem plainWord_joined_iff {names : List String} (some : names ≠ []) :
    PlainWord (" or ".intercalate names).toList ↔ PlainExpression names := by
  cases names with
  | nil => exact absurd rfl some
  | cons name rest =>
      cases rest with
      | nil => simp [PlainExpression]
      | cons other rest =>
          have blank :
              ' ' ∈ (" or ".intercalate (name :: other :: rest)).toList := by
            simp [String.intercalate_cons_cons]
          constructor
          · intro plain
            exact absurd (by decide) (plain.plain ' ' blank)
          · intro plain
            simp [PlainExpression] at plain

theorem forall_expressionArgs_iff
    {flag : String} (names : List String) (plain : PlainWord flag.toList) :
    (∀ arg ∈ expressionArgs flag names, PlainWord arg.toList) ↔
      PlainExpression names := by
  by_cases none : names = []
  · simp [expressionArgs, PlainExpression, none]
  · rw [expressionArgs, if_pos none, List.forall_mem_cons,
      List.forall_mem_singleton, plainWord_joined_iff none,
      and_iff_right plain]

/-- All words of the command are plain exactly when the suite's are. -/
theorem forall_argumentList_iff (suite : TestSuite) (verbose : Bool) :
    (∀ word ∈ suite.argumentList verbose, PlainWord word.toList) ↔
      suite.Plain := by
  have markerFlag : PlainWord "-m".toList := by decide
  have keywordFlag : PlainWord "-k".toList := by decide
  have markers := forall_expressionArgs_iff suite.markers markerFlag
  have keywords := forall_expressionArgs_iff suite.keywords keywordFlag
  have command : ∀ word ∈ ["uv", "run", "pytest"], PlainWord word.toList := by
    decide
  have timeout :
      ∀ word ∈ ["--timeout", toString suite.timeout],
        PlainWord word.toList :=
    List.forall_mem_cons.mpr
      ⟨by decide,
        List.forall_mem_singleton.mpr (plainWord_toString suite.timeout)⟩
  have flags :
      ∀ word ∈ if verbose then ["-v"] else [], PlainWord word.toList := by
    cases verbose <;> decide
  simp only [argumentList, runArgs, pytestArgs, List.forall_mem_append,
    markers, keywords]
  constructor
  · intro plain
    obtain ⟨_, ⟨⟨⟨⟨paths, markers⟩, keywords⟩, _⟩, extraArgs⟩, _⟩ := plain
    exact ⟨paths, markers, keywords, extraArgs⟩
  · intro plain
    exact
      ⟨command, ⟨⟨⟨⟨plain.paths, plain.markers⟩, plain.keywords⟩, timeout⟩,
        plain.extraArgs⟩, flags⟩

theorem pytestCmd_eq_joined (suite : TestSuite) (verbose : Bool) :
    suite.pytestCmd verbose =
      " ".intercalate (suite.argumentList verbose) := by
  have some : suite.runArgs verbose ≠ [] := by
    simp [runArgs, pytestArgs]
  rw [argumentList, String.intercalate_append_of_ne_nil (by simp) some]
  rfl

theorem readsBack_iff (suite : TestSuite) (verbose : Bool) :
    suite.ReadsBack verbose ↔ suite.Plain := by
  rw [ReadsBack, pytestCmd_eq_joined, shellWords_joined_iff,
    forall_argumentList_iff]

/-- A shell reads the arguments out of the commands exactly when none of them
needs quotes. -/
theorem pytestCmd_readsBack_iff (suite : TestSuite) :
    (∀ verbose, suite.ReadsBack verbose) ↔ suite.Plain := by
  constructor
  · intro reads
    exact (readsBack_iff suite true).mp (reads true)
  · intro plain verbose
    exact (readsBack_iff suite verbose).mpr plain

/-- Two markers, and the line that runs them. -/
def fastSuite : TestSuite :=
  { paths := ["tests"], markers := ["smoke", "functional"] }

theorem not_readsBack_fast :
    fastSuite.pytestArgs =
        ["tests", "-m", "smoke or functional", "--timeout", "60"] ∧
      shellWords (fastSuite.pytestCmd false) =
        some ["uv", "run", "pytest", "tests", "-m", "smoke", "or",
          "functional", "--timeout", "60"] ∧
      ¬ fastSuite.ReadsBack false := by
  have split :
      shellWords (fastSuite.pytestCmd false) =
        some ["uv", "run", "pytest", "tests", "-m", "smoke", "or",
          "functional", "--timeout", "60"] := by
    decide +kernel
  refine ⟨by decide, split, ?_⟩
  intro reads
  have same := split.symm.trans reads
  revert same
  decide

end KarstflowTests.Suites

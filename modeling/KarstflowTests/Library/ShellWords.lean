import Mathlib.Algebra.BigOperators.Group.List.Basic
import Mathlib.Algebra.GroupWithZero.Nat
import Mathlib.Data.List.Infix
import Mathlib.Tactic.Common

/-!
# The words of a shell command

`shellWords` splits a text into words as a POSIX shell does: token recognition
and quote removal.  It yields nothing where the text is more than the words of
one command: an operator, a newline, a quote that is not closed, or an
expansion.  What an expansion delivers is not in the text; for an unquoted
pattern character, or a tilde in front of a word, it depends on files and users.

Words that are joined by blanks come back exactly when each of them is plain
(`shellWords_joined_iff`).  No quoting can make up for a word that is not: a
quote, a comment and a second blank each cost a character that no word gets.
-/

namespace KarstflowTests.Library

/-! ## The scanner -/

abbrev isBlank (char : Char) : Bool := char = ' ' || char = '\t'

/-- The characters that begin an operator. -/
def operatorChars : List Char := ['|', '&', ';', '<', '>', '(', ')']

/-- The characters that begin an expansion, between double quotes as well. -/
def expansionChars : List Char := ['$', '\x60']

/-- The characters that make a word a pattern for pathname expansion. -/
def patternChars : List Char := ['*', '?', '[']

/-- The characters that begin a comment or a tilde expansion in front of a
word. -/
def frontChars : List Char := ['#', '~']

/-- The characters that a backslash escapes between double quotes. -/
def doubleEscapes : List Char := ['$', '\x60', '"', '\\']

/-- The characters that do not stand for themselves. -/
def specialChars : List Char :=
  ['\'', '"', '\\', ' ', '\t', '\n'] ++ operatorChars ++ expansionChars ++
    patternChars

inductive Quoting where
  | unquoted
  | escaped
  | single
  | double
  /-- after a backslash between double quotes -/
  | doubleEscaped
  | comment
  deriving DecidableEq

/-- The words that are complete, and the word under way. -/
structure Scan where
  words : List (List Char)
  word : Option (List Char)
  quoting : Quoting
  deriving DecidableEq

namespace Scan

def requote (scan : Scan) (quoting : Quoting) : Scan :=
  { scan with quoting }

def push (scan : Scan) (char : Char) : Scan :=
  { scan with word := some (scan.word.getD [] ++ [char]) }

/-- An opening quote begins a word, or goes on with it. -/
def openQuote (scan : Scan) (quoting : Quoting) : Scan :=
  { scan with word := some (scan.word.getD []), quoting }

/-- A blank ends a word. -/
def delimit (scan : Scan) : Scan :=
  { scan with words := scan.words ++ scan.word.toList, word := none }

def stepUnquoted (scan : Scan) (char : Char) : Option Scan :=
  if char = '\'' then
    some (scan.openQuote .single)
  else if char = '"' then
    some (scan.openQuote .double)
  else if char = '\\' then
    some (scan.requote .escaped)
  else if isBlank char then
    some scan.delimit
  else if char = '\n' ∨ char ∈ operatorChars ∨ char ∈ expansionChars ∨
      char ∈ patternChars then
    none
  else if char ∈ frontChars ∧ scan.word = none then
    if char = '#' then some (scan.requote .comment) else none
  else
    some (scan.push char)

/-- An escaped newline is a line continuation. -/
def stepEscaped (scan : Scan) (char : Char) : Option Scan :=
  if char = '\n' then
    some (scan.requote .unquoted)
  else
    some ((scan.push char).requote .unquoted)

def stepSingle (scan : Scan) (char : Char) : Option Scan :=
  if char = '\'' then
    some (scan.requote .unquoted)
  else
    some (scan.push char)

def stepDouble (scan : Scan) (char : Char) : Option Scan :=
  if char = '"' then
    some (scan.requote .unquoted)
  else if char = '\\' then
    some (scan.requote .doubleEscaped)
  else if char ∈ expansionChars then
    none
  else
    some (scan.push char)

/-- Between double quotes a backslash before any other character stays. -/
def stepDoubleEscaped (scan : Scan) (char : Char) : Option Scan :=
  if char = '\n' then
    some (scan.requote .double)
  else if char ∈ doubleEscapes then
    some ((scan.push char).requote .double)
  else
    some (((scan.push '\\').push char).requote .double)

def stepComment (scan : Scan) (char : Char) : Option Scan :=
  if char = '\n' then none else some scan

def step (scan : Scan) (char : Char) : Option Scan :=
  match scan.quoting with
  | .unquoted => scan.stepUnquoted char
  | .escaped => scan.stepEscaped char
  | .single => scan.stepSingle char
  | .double => scan.stepDouble char
  | .doubleEscaped => scan.stepDoubleEscaped char
  | .comment => scan.stepComment char

def finish (scan : Scan) : Option (List (List Char)) :=
  match scan.quoting with
  | .unquoted => some (scan.words ++ scan.word.toList)
  | .comment => some (scan.words ++ scan.word.toList)
  | _ => none

def run (scan : Scan) : List Char → Option (List (List Char))
  | [] => scan.finish
  | char :: rest => (scan.step char).bind fun next => next.run rest

end Scan

def shellWords (text : String) : Option (List String) :=
  (Scan.run ⟨[], none, .unquoted⟩ text.toList).map fun words =>
    words.map String.ofList

/-! ## Plain words -/

/-- A word of characters that stand for themselves, also the one in front. -/
structure PlainWord (word : List Char) : Prop where
  nonempty : word ≠ []
  plain : ∀ char ∈ word, char ∉ specialChars
  front : ∀ char, word.head? = some char → char ∉ frontChars

theorem plainWord_cons_iff {char : Char} {rest : List Char} :
    PlainWord (char :: rest) ↔
      char ∉ frontChars ∧
        (char :: rest).all fun other => !specialChars.contains other := by
  have allPlain :
      ((char :: rest).all fun other => !specialChars.contains other) = true ↔
        ∀ other ∈ char :: rest, other ∉ specialChars := by
    simp only [List.all_eq_true, Bool.not_eq_true', List.contains_eq_mem,
      decide_eq_false_iff_not]
  rw [allPlain]
  constructor
  · intro plain
    exact ⟨plain.front char rfl, plain.plain⟩
  · intro parts
    refine ⟨List.cons_ne_nil _ _, parts.2, ?_⟩
    intro other isFirst
    rw [← Option.some.inj isFirst]
    exact parts.1

instance : (word : List Char) → Decidable (PlainWord word)
  | [] => isFalse fun plain => plain.nonempty rfl
  | _ :: _ => decidable_of_iff _ plainWord_cons_iff.symm

/-! ## What a step does -/

namespace Scan

/-- The next scan, for each kind of character outside quotes. -/
inductive UnquotedStep (scan : Scan) (char : Char) : Scan → Prop
  | quote (quoting : Quoting) :
      quoting ≠ .doubleEscaped →
      UnquotedStep scan char (scan.openQuote quoting)
  | escape : UnquotedStep scan char (scan.requote .escaped)
  | blank :
      isBlank char → UnquotedStep scan char scan.delimit
  | comment :
      scan.word = none →
      UnquotedStep scan char (scan.requote .comment)
  | plain :
      char ∉ specialChars → (scan.word = none → char ∉ frontChars) →
      UnquotedStep scan char (scan.push char)

theorem unquotedStep
    {scan next : Scan} {char : Char}
    (taken : scan.stepUnquoted char = some next) :
    UnquotedStep scan char next := by
  unfold stepUnquoted at taken
  split at taken
  · cases taken
    exact .quote .single (by decide)
  split at taken
  · cases taken
    exact .quote .double (by decide)
  split at taken
  · cases taken
    exact .escape
  split at taken
  · next blank =>
      cases taken
      exact .blank blank
  split at taken
  · cases taken
  split at taken
  · next starts =>
      split at taken
      · cases taken
        exact .comment starts.2
      · cases taken
  · next noQuote noDouble noEscape noBlank noOperator noFront =>
      cases taken
      refine .plain ?_ ?_
      · simp only [isBlank, Bool.or_eq_true, decide_eq_true_eq, not_or]
          at noBlank noOperator
        simp only [specialChars, List.mem_append, List.mem_cons,
          List.not_mem_nil, or_false, not_or]
        exact ⟨⟨⟨⟨noQuote, noDouble, noEscape, noBlank.1, noBlank.2,
          noOperator.1⟩, noOperator.2.1⟩, noOperator.2.2.1⟩,
          noOperator.2.2.2⟩
      · intro fresh isFront
        exact noFront ⟨isFront, fresh⟩

/-! ## What a text can yield -/

/-- The length of the words, each with one separator. -/
def wordsSize (words : List (List Char)) : ℕ :=
  (words.map fun word => word.length + 1).sum

theorem wordsSize_append (front back : List (List Char)) :
    wordsSize (front ++ back) = wordsSize front + wordsSize back := by
  simp only [wordsSize, List.map_append, List.sum_append]

theorem wordsSize_singleton (word : List Char) :
    wordsSize [word] = word.length + 1 :=
  rfl

/-- The length of what a scan has read of its words. -/
def load (scan : Scan) : ℕ :=
  wordsSize scan.words + scan.word.elim 0 List.length

@[simp]
theorem load_push (scan : Scan) (char : Char) :
    (scan.push char).load = scan.load + 1 := by
  obtain ⟨words, word, quoting⟩ := scan
  cases word with
  | none => rfl
  | some word =>
      simp only [load, push, Option.getD_some, Option.elim_some,
        List.length_append, List.length_singleton, Nat.add_assoc]

@[simp]
theorem load_openQuote (scan : Scan) (quoting : Quoting) :
    (scan.openQuote quoting).load = scan.load := by
  obtain ⟨words, word, _⟩ := scan
  cases word <;> rfl

/-- A blank counts if it ends a word. -/
theorem load_delimit (scan : Scan) :
    scan.delimit.load = scan.load + if scan.word.isSome then 1 else 0 := by
  obtain ⟨words, word, quoting⟩ := scan
  cases word with
  | none => simp [load, delimit]
  | some word =>
      simp only [load, delimit, Option.toList_some, wordsSize_append,
        wordsSize_singleton, Option.elim_none, Option.elim_some,
        Option.isSome_some, if_true, Nat.add_zero, Nat.add_assoc]

/-- The load, and one for a backslash between double quotes, of which the next
character shows whether it stays. -/
def size (scan : Scan) : ℕ :=
  scan.load + if scan.quoting = .doubleEscaped then 1 else 0

theorem size_of_unquoted {scan : Scan} (unquoted : scan.quoting = .unquoted) :
    scan.size = scan.load := by
  rw [size, unquoted]
  rfl

@[simp]
theorem size_requote (scan : Scan) (quoting : Quoting) :
    (scan.requote quoting).size =
      scan.load + if quoting = .doubleEscaped then 1 else 0 :=
  rfl

@[simp]
theorem size_push (scan : Scan) (char : Char) :
    (scan.push char).size = scan.size + 1 := by
  rw [size, size, load_push]
  exact Nat.add_right_comm _ _ _

theorem load_le_size (scan : Scan) : scan.load ≤ scan.size :=
  Nat.le_add_right _ _

/-- Outside quotes only a plain character and a blank that ends a word
count. -/
theorem size_unquotedStep
    {scan next : Scan} {char : Char} (unquoted : scan.quoting = .unquoted)
    (taken : UnquotedStep scan char next) :
    next.size ≤ scan.size ∨
      (next.size = scan.size + 1 ∧
        ((char ∉ specialChars ∧ (scan.word = none → char ∉ frontChars) ∧
            next = scan.push char) ∨
          (isBlank char ∧ scan.word.isSome ∧ next = scan.delimit))) := by
  cases taken with
  | quote quoting noEscape =>
      left
      rw [size, load_openQuote]
      simp only [openQuote, noEscape, if_false]
      exact scan.load_le_size
  | escape =>
      left
      exact scan.load_le_size
  | blank blank =>
      have delimited : scan.delimit.size = scan.delimit.load :=
        size_of_unquoted unquoted
      rw [delimited, load_delimit, size_of_unquoted unquoted]
      by_cases under : scan.word.isSome
      · right
        rw [if_pos under]
        exact ⟨rfl, Or.inr ⟨blank, under, rfl⟩⟩
      · left
        rw [if_neg under]
        exact le_rfl
  | comment fresh =>
      left
      exact scan.load_le_size
  | plain noSpecial noFront =>
      right
      exact ⟨scan.size_push char, Or.inl ⟨noSpecial, noFront, rfl⟩⟩

/-- No character counts more than once. -/
theorem size_step
    {scan next : Scan} {char : Char} (taken : scan.step char = some next) :
    next.size ≤ scan.size + 1 := by
  have loaded := scan.load_le_size
  unfold step at taken
  split at taken
  · next unquoted =>
      rcases size_unquotedStep unquoted (unquotedStep taken) with
        slack | ⟨counted, _⟩
      · exact Nat.le_succ_of_le slack
      · exact counted.le
  · simp only [stepEscaped] at taken
    split at taken
    · cases taken
      exact Nat.le_succ_of_le loaded
    · cases taken
      rw [size_requote, load_push]
      exact Nat.succ_le_succ loaded
  · simp only [stepSingle] at taken
    split at taken
    · cases taken
      exact Nat.le_succ_of_le loaded
    · cases taken
      exact (scan.size_push char).le
  · simp only [stepDouble] at taken
    split at taken
    · cases taken
      exact Nat.le_succ_of_le loaded
    split at taken
    · cases taken
      exact Nat.succ_le_succ loaded
    split at taken
    · cases taken
    · cases taken
      exact (scan.size_push char).le
  · next escaped =>
      have pending : scan.size = scan.load + 1 := by
        rw [size, escaped]
        rfl
      simp only [stepDoubleEscaped] at taken
      split at taken
      · cases taken
        exact Nat.le_succ_of_le loaded
      split at taken
      · cases taken
        rw [size_requote, load_push, pending]
        exact Nat.le_succ _
      · cases taken
        rw [size_requote, load_push, load_push, pending]
        exact le_rfl
  · simp only [stepComment] at taken
    split at taken
    · cases taken
    · cases taken
      exact Nat.le_succ _

theorem size_finish
    {scan : Scan} {words : List (List Char)}
    (finished : scan.finish = some words) :
    wordsSize words ≤ scan.size + 1 := by
  have total : wordsSize (scan.words ++ scan.word.toList) ≤ scan.load + 1 := by
    obtain ⟨complete, word, quoting⟩ := scan
    cases word with
    | none => simp [load, wordsSize]
    | some word =>
        rw [wordsSize_append]
        exact le_rfl
  have loaded := scan.load_le_size
  unfold finish at finished
  split at finished <;> cases finished <;> omega

/-- A text yields no longer words than it is itself. -/
theorem size_run
    {scan : Scan} {text : List Char} {words : List (List Char)}
    (ran : scan.run text = some words) :
    wordsSize words ≤ scan.size + text.length + 1 := by
  induction text generalizing scan with
  | nil => exact size_finish ran
  | cons char rest inductionHypothesis =>
      obtain ⟨next, taken, ran⟩ := Option.bind_eq_some_iff.mp ran
      have later := inductionHypothesis ran
      have first := size_step taken
      rw [List.length_cons]
      omega

/-- Every character of the text counts. -/
structure Tight (scan : Scan) (text : List Char) (words : List (List Char)) :
    Prop where
  unquoted : scan.quoting = .unquoted
  ran : scan.run text = some words
  size : wordsSize words = scan.load + text.length + 1

/-- The next character of a tight text. -/
theorem Tight.cases_cons
    {scan : Scan} {char : Char} {rest : List Char} {words : List (List Char)}
    (tight : Tight scan (char :: rest) words) :
    (char ∉ specialChars ∧ (scan.word = none → char ∉ frontChars) ∧
        Tight (scan.push char) rest words) ∨
      (isBlank char ∧ scan.word.isSome ∧ Tight scan.delimit rest words) := by
  obtain ⟨next, taken, ran⟩ := Option.bind_eq_some_iff.mp tight.ran
  have later := size_run ran
  have full := tight.size
  rw [List.length_cons, ← size_of_unquoted tight.unquoted] at full
  rw [step, tight.unquoted] at taken
  rcases size_unquotedStep tight.unquoted (unquotedStep taken) with
    slack | ⟨counted, plain | blank⟩
  · omega
  · obtain ⟨noSpecial, noFront, rfl⟩ := plain
    refine Or.inl ⟨noSpecial, noFront, tight.unquoted, ran, ?_⟩
    have pushed : (scan.push char).quoting = .unquoted := tight.unquoted
    rw [← size_of_unquoted pushed]
    omega
  · obtain ⟨isBlank, under, rfl⟩ := blank
    refine Or.inr ⟨isBlank, under, tight.unquoted, ran, ?_⟩
    have ended : scan.delimit.quoting = .unquoted := tight.unquoted
    rw [← size_of_unquoted ended]
    omega

namespace Tight

variable {scan : Scan} {text : List Char} {words : List (List Char)}

theorem finishes (tight : Tight scan [] words) :
    words = scan.words ++ scan.word.toList := by
  have ran : scan.finish = some words := tight.ran
  rw [finish, tight.unquoted] at ran
  exact (Option.some.inj ran).symm

/-- The complete words stay. -/
theorem keepsWords (tight : Tight scan text words) :
    scan.words <+: words := by
  induction text generalizing scan with
  | nil =>
      rw [tight.finishes]
      exact List.prefix_append _ _
  | cons char rest inductionHypothesis =>
      rcases tight.cases_cons with ⟨_, _, later⟩ | ⟨_, _, later⟩
      · have kept := inductionHypothesis later
        exact kept
      · have kept := inductionHypothesis later
        exact (List.prefix_append _ _).trans kept

/-- The word under way is read to its end. -/
theorem goesOn
    {done others : List (List Char)} {begun more tail : List Char}
    (tight :
      Tight ⟨done, some begun, .unquoted⟩ (more ++ tail)
        (done ++ (begun ++ more) :: others)) :
    (∀ char ∈ more, char ∉ specialChars) ∧
      Tight ⟨done, some (begun ++ more), .unquoted⟩ tail
        (done ++ (begun ++ more) :: others) := by
  induction more generalizing begun with
  | nil =>
      rw [List.append_nil] at tight ⊢
      exact ⟨List.forall_mem_nil _, tight⟩
  | cons char more inductionHypothesis =>
      rcases tight.cases_cons with ⟨noSpecial, _, later⟩ | ⟨_, _, later⟩
      · have pushed :
            begun ++ char :: more = (begun ++ [char]) ++ more := by
          rw [List.append_assoc, List.singleton_append]
        rw [pushed] at later ⊢
        obtain ⟨plain, rest⟩ := inductionHypothesis later
        exact ⟨List.forall_mem_cons.mpr ⟨noSpecial, plain⟩, rest⟩
      · -- a word that ends here would be shorter
        have kept :
            done ++ [begun] <+: done ++ (begun ++ char :: more) :: others :=
          later.keepsWords
        rw [List.prefix_append_right_inj, List.cons_prefix_cons] at kept
        have lengths := congrArg List.length kept.1
        rw [List.length_append, List.length_cons] at lengths
        omega

/-- The next word is plain, and read to its end. -/
theorem plainWord
    {done others : List (List Char)} {word tail : List Char}
    (tight :
      Tight ⟨done, none, .unquoted⟩ (word ++ tail)
        (done ++ word :: others))
    (ends : ∀ char, tail.head? = some char → isBlank char) :
    PlainWord word ∧
      Tight ⟨done, some word, .unquoted⟩ tail (done ++ word :: others) := by
  cases word with
  | nil =>
      cases tail with
      | nil =>
          have finished := tight.finishes
          simp at finished
      | cons char tail =>
          have blank := ends char rfl
          rcases tight.cases_cons with ⟨noSpecial, _, _⟩ | ⟨_, under, _⟩
          · simp only [isBlank, Bool.or_eq_true, decide_eq_true_eq] at blank
            rcases blank with rfl | rfl <;> exact absurd (by decide) noSpecial
          · cases under
  | cons char word =>
      rcases tight.cases_cons with
        ⟨noSpecial, noFront, later⟩ | ⟨_, under, _⟩
      · have begun :
            Tight ⟨done, some [char], .unquoted⟩ (word ++ tail)
              (done ++ ([char] ++ word) :: others) :=
          later
        obtain ⟨plain, rest⟩ := goesOn begun
        refine ⟨⟨List.cons_ne_nil _ _, ?_, ?_⟩, rest⟩
        · exact List.forall_mem_cons.mpr ⟨noSpecial, plain⟩
        · intro first isFirst
          rw [← Option.some.inj isFirst]
          exact noFront rfl
      · cases under

/-- All words are plain. -/
theorem plainWords
    {done rest : List (List Char)}
    (tight :
      Tight ⟨done, none, .unquoted⟩ ([' '].intercalate rest) (done ++ rest)) :
    ∀ word ∈ rest, PlainWord word := by
  induction rest generalizing done with
  | nil => exact List.forall_mem_nil _
  | cons word rest inductionHypothesis =>
      cases rest with
      | nil =>
          have single :
              Tight ⟨done, none, .unquoted⟩ (word ++ []) (done ++ [word]) := by
            rw [List.append_nil]
            rw [List.intercalate_singleton] at tight
            exact tight
          obtain ⟨plain, _⟩ := single.plainWord (by simp)
          exact List.forall_mem_singleton.mpr plain
      | cons other rest =>
          rw [List.intercalate_cons_cons, List.append_assoc] at tight
          obtain ⟨plain, later⟩ := tight.plainWord (by simp)
          refine List.forall_mem_cons.mpr ⟨plain, ?_⟩
          rcases later.cases_cons with ⟨noSpecial, _, _⟩ | ⟨_, _, later⟩
          · exact absurd (by decide) noSpecial
          · have fromHere :
                Tight ⟨done ++ [word], none, .unquoted⟩
                  ([' '].intercalate (other :: rest))
                  ((done ++ [word]) ++ other :: rest) := by
              rw [List.append_assoc]
              exact later
            exact inductionHypothesis fromHere

end Tight

/-! ## Plain words are kept -/

theorem step_plain
    {scan : Scan} {char : Char} (unquoted : scan.quoting = .unquoted)
    (plain : char ∉ specialChars)
    (noFront : scan.word = none → char ∉ frontChars) :
    scan.step char = some (scan.push char) := by
  simp only [specialChars, List.mem_append, List.mem_cons, List.not_mem_nil,
    or_false, not_or] at plain
  obtain ⟨⟨⟨⟨quote, double, escape, space, tab, newline⟩, operator⟩,
    expansion⟩, pattern⟩ := plain
  have noBlank : ¬ isBlank char = true := by
    simp [isBlank, space, tab]
  have noEnd :
      ¬ (char = '\n' ∨ char ∈ operatorChars ∨ char ∈ expansionChars ∨
        char ∈ patternChars) := by
    simp [newline, operator, expansion, pattern]
  have noStart : ¬ (char ∈ frontChars ∧ scan.word = none) :=
    fun starts => noFront starts.2 starts.1
  rw [step, unquoted]
  simp only [stepUnquoted, if_neg quote, if_neg double, if_neg escape,
    if_neg noBlank, if_neg noEnd, if_neg noStart]

theorem run_more
    {done : List (List Char)} {begun more tail : List Char}
    (plain : ∀ char ∈ more, char ∉ specialChars) :
    run ⟨done, some begun, .unquoted⟩ (more ++ tail) =
      run ⟨done, some (begun ++ more), .unquoted⟩ tail := by
  induction more generalizing begun with
  | nil => rw [List.nil_append, List.append_nil]
  | cons char more inductionHypothesis =>
      obtain ⟨noSpecial, plain⟩ := List.forall_mem_cons.mp plain
      have taken :
          step ⟨done, some begun, .unquoted⟩ char =
            some ⟨done, some (begun ++ [char]), .unquoted⟩ :=
        step_plain rfl noSpecial (by simp)
      rw [List.cons_append, run, taken, Option.bind_some,
        inductionHypothesis plain, List.append_assoc, List.singleton_append]

theorem run_word
    {done : List (List Char)} {word tail : List Char}
    (plain : PlainWord word) :
    run ⟨done, none, .unquoted⟩ (word ++ tail) =
      run ⟨done, some word, .unquoted⟩ tail := by
  cases word with
  | nil => exact absurd rfl plain.nonempty
  | cons char word =>
      obtain ⟨noSpecial, rest⟩ := List.forall_mem_cons.mp plain.plain
      have taken :
          step ⟨done, none, .unquoted⟩ char =
            some ⟨done, some [char], .unquoted⟩ :=
        step_plain rfl noSpecial fun _ => plain.front char rfl
      rw [List.cons_append, run, taken, Option.bind_some, run_more rest,
        List.singleton_append]

theorem run_joined
    {done rest : List (List Char)} (plain : ∀ word ∈ rest, PlainWord word) :
    run ⟨done, none, .unquoted⟩ ([' '].intercalate rest) =
      some (done ++ rest) := by
  induction rest generalizing done with
  | nil => rfl
  | cons word rest inductionHypothesis =>
      obtain ⟨here, later⟩ := List.forall_mem_cons.mp plain
      cases rest with
      | nil =>
          rw [List.intercalate_singleton, ← List.append_nil word,
            run_word here, List.append_nil]
          rfl
      | cons other rest =>
          rw [List.intercalate_cons_cons, List.append_assoc, run_word here]
          have ran :
              run ⟨done ++ [word], none, .unquoted⟩
                  ([' '].intercalate (other :: rest)) =
                some ((done ++ [word]) ++ other :: rest) :=
            inductionHypothesis later
          rw [List.append_assoc] at ran
          exact ran

theorem wordsSize_cons (word : List Char) (rest : List (List Char)) :
    wordsSize (word :: rest) =
      ([' '].intercalate (word :: rest)).length + 1 := by
  induction rest generalizing word with
  | nil => rw [List.intercalate_singleton, wordsSize_singleton]
  | cons other rest inductionHypothesis =>
      have later := inductionHypothesis other
      rw [← List.singleton_append, wordsSize_append, wordsSize_singleton,
        later, List.singleton_append, List.intercalate_cons_cons,
        List.length_append, List.length_append, List.length_singleton]
      omega

theorem run_joined_iff (words : List (List Char)) :
    run ⟨[], none, .unquoted⟩ ([' '].intercalate words) = some words ↔
      ∀ word ∈ words, PlainWord word := by
  constructor
  · intro ran
    cases words with
    | nil => exact List.forall_mem_nil _
    | cons word rest =>
        have tight :
            Tight ⟨[], none, .unquoted⟩ ([' '].intercalate (word :: rest))
              ([] ++ word :: rest) := by
          refine ⟨rfl, ran, ?_⟩
          rw [List.nil_append, wordsSize_cons]
          exact congrArg Nat.succ (Nat.zero_add _).symm
        exact tight.plainWords
  · exact run_joined

end Scan

theorem shellWords_eq_some_iff {text : String} {words : List String} :
    shellWords text = some words ↔
      Scan.run ⟨[], none, .unquoted⟩ text.toList =
        some (words.map String.toList) := by
  rw [shellWords, Option.map_eq_some_iff]
  constructor
  · intro split
    obtain ⟨chars, ran, rfl⟩ := split
    have back : (chars.map String.ofList).map String.toList = chars := by
      simp [Function.comp_def]
    rw [ran, back]
  · intro ran
    refine ⟨_, ran, ?_⟩
    simp [Function.comp_def]

/-- Joined words come back exactly when all of them are plain. -/
theorem shellWords_joined_iff (words : List String) :
    shellWords (" ".intercalate words) = some words ↔
      ∀ word ∈ words, PlainWord word.toList := by
  rw [shellWords_eq_some_iff, String.toList_intercalate]
  have joined := Scan.run_joined_iff (words.map String.toList)
  rw [List.forall_mem_map] at joined
  exact joined

end KarstflowTests.Library

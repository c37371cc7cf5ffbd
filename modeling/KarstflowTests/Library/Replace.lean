import Mathlib.Algebra.BigOperators.Group.List.Basic
import Mathlib.Algebra.GroupWithZero.Nat
import Mathlib.Data.List.Infix
import Mathlib.Tactic.Common

/-!
# Replacing the occurrences of a pattern

`replaceAll` goes through a list from left to right and replaces each
occurrence of a pattern that does not overlap the one before.  It works on the
two sides of a letter that ends every occurrence apart, and it lowers the weight
of a list in which something is replaced by something lighter.
-/

namespace KarstflowTests.Library

universe u

variable {α : Type u} [DecidableEq α]

/-- `skip` letters belong to an occurrence that has been replaced. -/
def replaceFrom (pattern replacement : List α) : ℕ → List α → List α
  | _, [] => []
  | skip + 1, _ :: rest => replaceFrom pattern replacement skip rest
  | 0, letter :: rest =>
      if pattern <+: letter :: rest then
        replacement ++
          replaceFrom pattern replacement (pattern.length - 1) rest
      else
        letter :: replaceFrom pattern replacement 0 rest

/-- `text.replace(pattern, replacement)` for a pattern that is not empty -/
def replaceAll (pattern replacement text : List α) : List α :=
  replaceFrom pattern replacement 0 text

variable {pattern replacement text : List α}

theorem replaceFrom_eq_drop (skip : ℕ) (text : List α) :
    replaceFrom pattern replacement skip text =
      replaceAll pattern replacement (text.drop skip) := by
  induction text generalizing skip with
  | nil => simp [replaceAll, replaceFrom]
  | cons letter rest inductionHypothesis =>
      cases skip with
      | zero => rfl
      | succ skip => exact inductionHypothesis skip

@[simp]
theorem replaceAll_nil : replaceAll pattern replacement [] = [] :=
  rfl

theorem replaceAll_pattern_append
    (nonempty : pattern ≠ []) (rest : List α) :
    replaceAll pattern replacement (pattern ++ rest) =
      replacement ++ replaceAll pattern replacement rest := by
  obtain ⟨first, others, rfl⟩ := List.exists_cons_of_ne_nil nonempty
  have here : first :: others <+: first :: (others ++ rest) :=
    List.prefix_append (first :: others) rest
  rw [List.cons_append, replaceAll, replaceFrom, if_pos here,
    replaceFrom_eq_drop]
  simp

theorem replaceAll_cons
    {letter : α} {rest : List α} (differs : ¬ pattern <+: letter :: rest) :
    replaceAll pattern replacement (letter :: rest) =
      letter :: replaceAll pattern replacement rest := by
  rw [replaceAll, replaceFrom, if_neg differs]
  rfl

/-- One case for an occurrence at the front and one for any other letter. -/
theorem replaceInduction
    {motive : List α → Prop} (pattern text : List α)
    (nonempty : pattern ≠ [])
    (nil : motive [])
    (occurs : ∀ rest, motive rest → motive (pattern ++ rest))
    (passes :
      ∀ letter rest, ¬ pattern <+: letter :: rest → motive rest →
        motive (letter :: rest)) :
    motive text := by
  induction size : text.length using Nat.strong_induction_on
    generalizing text with
  | _ count inductionHypothesis =>
      cases text with
      | nil => exact nil
      | cons letter rest =>
          by_cases here : pattern <+: letter :: rest
          · obtain ⟨behind, same⟩ := here
            have positive : 0 < pattern.length :=
              List.length_pos_iff.mpr nonempty
            have lengths := congrArg List.length same
            rw [List.length_append] at lengths
            rw [← same]
            apply occurs
            exact inductionHypothesis behind.length (by omega) behind rfl
          · apply passes letter rest here
            apply inductionHypothesis rest.length _ rest rfl
            rw [← size, List.length_cons]
            exact Nat.lt_succ_self _

theorem replaceAll_of_not_infix
    (absent : ¬ pattern <:+: text) :
    replaceAll pattern replacement text = text := by
  induction text with
  | nil => rfl
  | cons letter rest inductionHypothesis =>
      rw [List.infix_cons_iff, not_or] at absent
      rw [replaceAll_cons absent.1, inductionHypothesis absent.2]

/-- A text without the first letter of the pattern is left alone. -/
theorem replaceAll_of_not_mem
    {first : α} {others : List α} (absent : first ∉ text) :
    replaceAll (first :: others) replacement text = text := by
  apply replaceAll_of_not_infix
  intro occurs
  exact absent (occurs.subset List.mem_cons_self)

omit [DecidableEq α] in
/-- An occurrence does not go across a letter that the pattern can only begin
with. -/
theorem prefix_of_prefix_append
    {first border : α} {others front rest : List α} (apart : border ∉ others)
    (nonempty : front ≠ [])
    (occurs : first :: others <+: front ++ border :: rest) :
    first :: others <+: front := by
  have inside := List.prefix_append front (border :: rest)
  rcases List.prefix_or_prefix_of_prefix occurs inside with here | crosses
  · exact here
  · obtain ⟨letter, behind, rfl⟩ := List.exists_cons_of_ne_nil nonempty
    obtain ⟨across, same⟩ := crosses
    rw [List.cons_append, List.cons.injEq] at same
    obtain ⟨rfl, rfl⟩ := same
    cases across with
    | nil => simp
    | cons next across =>
        obtain ⟨beyond, whole⟩ := occurs
        simp only [List.cons_append, List.append_assoc, List.cons.injEq,
          List.append_cancel_left_eq, true_and] at whole
        exact absurd (by simp [whole.1]) apart

theorem replaceAll_append
    {first border : α} {others : List α} (apart : border ∉ others)
    (front rest : List α) :
    replaceAll (first :: others) replacement (front ++ border :: rest) =
      replaceAll (first :: others) replacement front ++
        replaceAll (first :: others) replacement (border :: rest) := by
  have nonempty : first :: others ≠ [] := List.cons_ne_nil _ _
  induction front using replaceInduction (first :: others) _ nonempty with
  | nil => rfl
  | occurs behind inductionHypothesis =>
      rw [List.append_assoc, replaceAll_pattern_append nonempty,
        inductionHypothesis, replaceAll_pattern_append nonempty,
        List.append_assoc]
  | passes letter behind differs inductionHypothesis =>
      have differsStill :
          ¬ first :: others <+: letter :: (behind ++ border :: rest) := by
        intro crosses
        exact differs (prefix_of_prefix_append apart (List.cons_ne_nil _ _)
          crosses)
      rw [List.cons_append, replaceAll_cons differsStill, inductionHypothesis,
        replaceAll_cons differs, List.cons_append]

theorem length_replaceAll
    (nonempty : pattern ≠ [])
    (sameLength : replacement.length = pattern.length) (text : List α) :
    (replaceAll pattern replacement text).length = text.length := by
  induction text using replaceInduction pattern _ nonempty with
  | nil => rfl
  | occurs rest inductionHypothesis =>
      rw [replaceAll_pattern_append nonempty, List.length_append,
        List.length_append, inductionHypothesis, sameLength]
  | passes letter rest differs inductionHypothesis =>
      rw [replaceAll_cons differs, List.length_cons, List.length_cons,
        inductionHypothesis]

/-! ## Weights -/

section Weight

variable (weight : α → ℕ)

/-- The sum of the weights of the letters. -/
def totalWeight (text : List α) : ℕ :=
  (text.map weight).sum

variable {weight}

omit [DecidableEq α] in
theorem totalWeight_append (left right : List α) :
    totalWeight weight (left ++ right) =
      totalWeight weight left + totalWeight weight right := by
  simp [totalWeight]

theorem totalWeight_replaceAll_le
    (nonempty : pattern ≠ [])
    (lighter : totalWeight weight replacement < totalWeight weight pattern)
    (text : List α) :
    totalWeight weight (replaceAll pattern replacement text) ≤
      totalWeight weight text := by
  induction text using replaceInduction pattern _ nonempty with
  | nil => exact le_rfl
  | occurs rest inductionHypothesis =>
      rw [replaceAll_pattern_append nonempty, totalWeight_append,
        totalWeight_append]
      omega
  | passes letter rest differs inductionHypothesis =>
      rw [replaceAll_cons differs]
      simpa [totalWeight] using inductionHypothesis

/-- A replacement that is made is seen in the weight. -/
theorem totalWeight_replaceAll_lt
    (nonempty : pattern ≠ [])
    (lighter : totalWeight weight replacement < totalWeight weight pattern)
    (occurs : pattern <:+: text) :
    totalWeight weight (replaceAll pattern replacement text) <
      totalWeight weight text := by
  induction text using replaceInduction pattern _ nonempty with
  | nil => exact absurd (List.infix_nil.mp occurs) nonempty
  | occurs rest inductionHypothesis =>
      have behind := totalWeight_replaceAll_le nonempty lighter rest
      rw [replaceAll_pattern_append nonempty, totalWeight_append,
        totalWeight_append]
      omega
  | passes letter rest differs inductionHypothesis =>
      have later := (List.infix_cons_iff.mp occurs).resolve_left differs
      rw [replaceAll_cons differs]
      simpa [totalWeight] using inductionHypothesis later

end Weight

end KarstflowTests.Library

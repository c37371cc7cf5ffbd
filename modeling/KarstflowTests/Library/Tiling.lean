import Mathlib.Algebra.Order.Group.Nat
import Mathlib.Tactic.Common

/-!
# Consecutive ranges

Ranges that tile an interval follow each other without a gap: they lie in the
interval, no two of them meet, and every position belongs to one of them.
-/

namespace KarstflowTests.Library

universe u

/-- The positions from `start` on, as many as `length`. -/
structure Span where
  start : ℕ
  length : ℕ
  deriving DecidableEq

namespace Span

def Contains (span : Span) (position : ℕ) : Prop :=
  span.start ≤ position ∧ position < span.start + span.length

def Disjoint (first second : Span) : Prop :=
  ∀ position, ¬ (first.Contains position ∧ second.Contains position)

/-- The content of a range, if the data holds it. -/
def slice {α : Type u} (span : Span) (data : List α) : Option (List α) :=
  if span.start + span.length ≤ data.length then
    some ((data.drop span.start).take span.length)
  else
    none

theorem slice_append
    {α : Type u} {start length : ℕ} {front piece back : List α}
    (before : front.length = start) (exact : piece.length = length) :
    slice ⟨start, length⟩ (front ++ (piece ++ back)) = some piece := by
  have holds : start + length ≤ (front ++ (piece ++ back)).length := by
    rw [List.length_append, List.length_append, before, exact]
    omega
  rw [slice, if_pos holds, List.drop_left' before, List.take_left' exact]

end Span

/-- The ranges follow each other from the first position to the last. -/
def Tiles : ℕ → List Span → ℕ → Prop
  | first, [], last => first = last
  | first, span :: spans, last =>
      span.start = first ∧ Tiles (first + span.length) spans last

namespace Tiles

variable {first middle last : ℕ} {spans later : List Span}

theorem append
    (front : Tiles first spans middle) (back : Tiles middle later last) :
    Tiles first (spans ++ later) last := by
  induction spans generalizing first with
  | nil =>
      cases front
      exact back
  | cons span spans inductionHypothesis =>
      exact ⟨front.1, inductionHypothesis front.2⟩

theorem first_le_last (tiles : Tiles first spans last) : first ≤ last := by
  induction spans generalizing first with
  | nil => exact le_of_eq tiles
  | cons span spans inductionHypothesis =>
      exact (Nat.le_add_right _ _).trans (inductionHypothesis tiles.2)

theorem within (tiles : Tiles first spans last) :
    ∀ span ∈ spans, first ≤ span.start ∧ span.start + span.length ≤ last := by
  induction spans generalizing first with
  | nil => exact List.forall_mem_nil _
  | cons span spans inductionHypothesis =>
      obtain ⟨starts, rest⟩ := tiles
      refine List.forall_mem_cons.mpr ⟨?_, ?_⟩
      · rw [starts]
        exact ⟨le_rfl, rest.first_le_last⟩
      · intro later member
        have inside := inductionHypothesis rest later member
        exact ⟨(Nat.le_add_right _ _).trans inside.1, inside.2⟩

theorem pairwise_disjoint (tiles : Tiles first spans last) :
    spans.Pairwise Span.Disjoint := by
  induction spans generalizing first with
  | nil => exact List.Pairwise.nil
  | cons span spans inductionHypothesis =>
      obtain ⟨starts, rest⟩ := tiles
      refine List.Pairwise.cons ?_ (inductionHypothesis rest)
      intro later member position both
      have after := (rest.within later member).1
      have inFirst := both.1.2
      have inLater := both.2.1
      omega

theorem covers (tiles : Tiles first spans last) :
    ∀ position, first ≤ position → position < last →
      ∃ span ∈ spans, span.Contains position := by
  induction spans generalizing first with
  | nil =>
      intro position above below
      cases tiles
      omega
  | cons span spans inductionHypothesis =>
      intro position above below
      obtain ⟨starts, rest⟩ := tiles
      by_cases here : position < first + span.length
      · refine ⟨span, List.mem_cons_self, ?_⟩
        rw [Span.Contains, starts]
        exact ⟨above, here⟩
      · obtain ⟨later, member, contains⟩ :=
          inductionHypothesis rest position (Nat.le_of_not_lt here) below
        exact ⟨later, List.mem_cons_of_mem _ member, contains⟩

end Tiles

end KarstflowTests.Library

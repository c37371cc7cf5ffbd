import Mathlib.Data.List.Basic
import Mathlib.Data.List.TakeDrop

/-!
# Overwriting a range of a list

`splice data offset piece` stores `piece` at `offset`.  A piece agrees with a
target when it is the target's own content at its offset.  Storing such pieces
never destroys a position that already equals the target, so the order of the
writes does not matter: once they cover all positions, the data is the target.
-/

namespace KarstflowTests.Library

universe u

variable {α : Type u}

def splice (data : List α) (offset : ℕ) (piece : List α) : List α :=
  data.take offset ++ piece ++ data.drop (offset + piece.length)

theorem length_splice
    {data piece : List α} {offset : ℕ}
    (inRange : offset + piece.length ≤ data.length) :
    (splice data offset piece).length = data.length := by
  simp only [splice, List.length_append, List.length_take, List.length_drop]
  omega

theorem getElem?_splice
    {data piece : List α} {offset : ℕ}
    (inRange : offset + piece.length ≤ data.length) (index : ℕ) :
    (splice data offset piece)[index]? =
      if offset ≤ index ∧ index < offset + piece.length then
        piece[index - offset]?
      else
        data[index]? := by
  have takeLength : (data.take offset).length = offset := by
    rw [List.length_take]
    omega
  have frontLength :
      (data.take offset ++ piece).length = offset + piece.length := by
    rw [List.length_append, takeLength]
  by_cases inPiece : offset ≤ index ∧ index < offset + piece.length
  · rw [if_pos inPiece, splice,
      List.getElem?_append_left (by omega),
      List.getElem?_append_right (by omega), takeLength]
  · rw [if_neg inPiece, splice]
    by_cases before : index < offset
    · rw [List.getElem?_append_left (by omega),
        List.getElem?_append_left (by omega),
        List.getElem?_take_of_lt before]
    · have after : offset + piece.length ≤ index := by omega
      rw [List.getElem?_append_right (by omega), frontLength,
        List.getElem?_drop]
      congr 1
      omega

/-- The piece is the content of the target at its offset. -/
def Agrees (target : List α) (offset : ℕ) (piece : List α) : Prop :=
  offset + piece.length ≤ target.length ∧
    ∀ index, index < piece.length →
      piece[index]? = target[offset + index]?

/-- The chunk of a list that starts at an offset agrees with the list. -/
theorem agrees_chunk (target : List α) (offset width : ℕ)
    (inside : offset ≤ target.length) :
    Agrees target offset ((target.drop offset).take width) := by
  constructor
  · rw [List.length_take, List.length_drop]
    omega
  · intro index below
    rw [List.length_take] at below
    rw [List.getElem?_take_of_lt (by omega), List.getElem?_drop]

variable {target : List α}

theorem splice_of_agrees
    {data piece : List α} {offset : ℕ}
    (sameLength : data.length = target.length)
    (agrees : Agrees target offset piece) :
    (splice data offset piece).length = target.length ∧
      ∀ index,
        (splice data offset piece)[index]? = target[index]? ↔
          (offset ≤ index ∧ index < offset + piece.length) ∨
            data[index]? = target[index]? := by
  have inRange : offset + piece.length ≤ data.length := by
    rw [sameLength]
    exact agrees.1
  refine ⟨(length_splice inRange).trans sameLength, ?_⟩
  intro index
  rw [getElem?_splice inRange]
  by_cases inPiece : offset ≤ index ∧ index < offset + piece.length
  · have same := agrees.2 (index - offset) (by omega)
    rw [show offset + (index - offset) = index by omega] at same
    simp [inPiece, same]
  · simp [inPiece]

/-- Pieces that agree with the target and cover it rebuild it, in whatever
order they are stored. -/
theorem foldl_splice_eq
    (pieces : List (ℕ × List α)) :
    ∀ data : List α, data.length = target.length →
      (∀ entry ∈ pieces, Agrees target entry.1 entry.2) →
      (∀ index, index < target.length →
        data[index]? = target[index]? ∨
          ∃ entry ∈ pieces,
            entry.1 ≤ index ∧ index < entry.1 + entry.2.length) →
      pieces.foldl
        (fun current entry => splice current entry.1 entry.2) data =
          target := by
  induction pieces with
  | nil =>
      intro data sameLength _ covered
      rw [List.foldl_nil]
      apply List.ext_getElem?
      intro index
      by_cases inside : index < target.length
      · simpa using covered index inside
      · rw [List.getElem?_eq_none (by omega),
          List.getElem?_eq_none (by omega)]
  | cons entry rest inductionHypothesis =>
      intro data sameLength agree covered
      have stored :=
        splice_of_agrees sameLength (agree entry List.mem_cons_self)
      rw [List.foldl_cons]
      apply inductionHypothesis _ stored.1
      · intro later member
        exact agree later (List.mem_cons_of_mem entry member)
      · intro index inside
        rw [stored.2 index]
        rcases covered index inside with same | ⟨later, member, range⟩
        · exact Or.inl (Or.inr same)
        · rcases List.mem_cons.mp member with equal | member
          · subst later
            exact Or.inl (Or.inl range)
          · exact Or.inr ⟨later, member, range⟩

end KarstflowTests.Library

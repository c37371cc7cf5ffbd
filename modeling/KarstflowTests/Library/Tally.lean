import Mathlib.Data.List.Basic

/-!
# Tallies

A tag files every item of a list under a key, or under none.  The tally of a
key is the number of items filed there.

Where one tag files under a key only what another files there too, equal
tallies of the key mean that both file the same items there.
-/

namespace KarstflowTests.Library

universe u v

variable {α : Type u} {Key : Type v} [DecidableEq Key]

/-- The number of items filed under a key. -/
def tally (tag : α → Option Key) (items : List α) (key : Key) : ℕ :=
  items.countP fun item => tag item = some key

section Changes

variable {tag : α → Option Key} {items : List α} {key : Key}

theorem countP_append_singleton (predicate : α → Bool) (item : α) :
    (items ++ [item]).countP predicate =
      items.countP predicate + if predicate item then 1 else 0 := by
  rw [List.countP_append, List.countP_singleton]

/-- Replacing an item that does not count. -/
theorem countP_set_of_not
    {predicate : α → Bool} {index : ℕ} {old new : α}
    (found : items[index]? = some old) (uncounted : predicate old = false) :
    (items.set index new).countP predicate =
      items.countP predicate + if predicate new then 1 else 0 := by
  obtain ⟨inside, rfl⟩ := List.getElem?_eq_some_iff.mp found
  rw [List.countP_set inside, uncounted]
  simp

/-- An implication between two counted properties that count equally often is
an equivalence. -/
theorem of_countP_eq
    {stronger weaker : α → Bool}
    (implies : ∀ item ∈ items, stronger item → weaker item)
    (equal : items.countP stronger = items.countP weaker) :
    ∀ item ∈ items, weaker item → stronger item := by
  induction items with
  | nil => simp
  | cons item items inductionHypothesis =>
      obtain ⟨here, later⟩ := List.forall_mem_cons.mp implies
      have below := List.countP_mono_left later
      rw [List.countP_cons, List.countP_cons] at equal
      by_cases weak : weaker item
      · by_cases strong : stronger item
        · simp only [weak, strong, if_true, Nat.add_right_cancel_iff]
            at equal
          exact List.forall_mem_cons.mpr
            ⟨fun _ => strong, inductionHypothesis later equal⟩
        · -- the head is a witness that the counts differ
          simp only [weak, strong, if_true] at equal
          exact absurd equal (by simp; omega)
      · have notStrong : ¬ stronger item := fun strong => weak (here strong)
        simp only [weak, notStrong] at equal
        exact List.forall_mem_cons.mpr
          ⟨fun holds => absurd holds weak,
            inductionHypothesis later (by simpa using equal)⟩

theorem of_tally_eq
    {stronger weaker : α → Option Key}
    (implies :
      ∀ item ∈ items, stronger item = some key → weaker item = some key)
    (equal : tally stronger items key = tally weaker items key) :
    ∀ item ∈ items, weaker item = some key → stronger item = some key := by
  have kept := of_countP_eq (by simpa using implies) equal
  simpa using kept

end Changes

end KarstflowTests.Library

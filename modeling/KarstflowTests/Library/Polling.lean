import Mathlib.Order.Lattice
import Mathlib.Order.Monotone.Basic
import Mathlib.Data.Nat.Find

/-!
# Loops that poll until a deadline

`while clock() < deadline: body` leaves the loop from its body or because the
guard fails.  The body is given as a function of the iteration: `some result`
leaves the loop, `none` goes on.  The clock does not run backwards and passes
every deadline, so the loop terminates; `outcome` is its result, where `none`
says that the deadline passed first.
-/

namespace KarstflowTests.Library

universe u v

/-- The clock readings of the successive loop guards. -/
structure Clock (Time : Type u) [LinearOrder Time] where
  read : ℕ → Time
  monotone : Monotone read
  passes : ∀ deadline, ∃ index, deadline ≤ read index

namespace Polling

variable {Time : Type u} [LinearOrder Time] {Result : Type v}

/-- Run the loop from iteration `index`.  The outer `none` says that the fuel
was used up, the inner one that the deadline passed. -/
def iterate
    (deadline : Time) (read : ℕ → Time) (body : ℕ → Option Result) :
    ℕ → ℕ → Option (Option Result)
  | 0, _ => none
  | fuel + 1, index =>
      if read index < deadline then
        match body index with
        | some result => some (some result)
        | none => iterate deadline read body fuel (index + 1)
      else
        some none

variable {deadline : Time} {read : ℕ → Time} {body : ℕ → Option Result}

private theorem iterate_leaves
    {fuel index : ℕ} {result : Result}
    (early : read index < deadline) (leaves : body index = some result) :
    iterate deadline read body (fuel + 1) index = some (some result) := by
  rw [iterate, if_pos early, leaves]

private theorem iterate_passes
    {fuel index : ℕ} (passed : deadline ≤ read index) :
    iterate deadline read body (fuel + 1) index = some none := by
  rw [iterate, if_neg (not_lt.mpr passed)]

/-- Iterations that stay in the loop only use up fuel. -/
theorem iterate_skip
    (fuel index : ℕ) :
    ∀ count : ℕ,
      (∀ skipped, skipped < count →
        read (index + skipped) < deadline ∧
          body (index + skipped) = none) →
      iterate deadline read body (fuel + count) index =
        iterate deadline read body fuel (index + count)
  | 0, _ => rfl
  | count + 1, stays => by
      have first := stays 0 (Nat.succ_pos count)
      rw [Nat.add_zero] at first
      have rest :=
        iterate_skip fuel (index + 1) count (by
          intro skipped below
          have later := stays (skipped + 1) (by omega)
          rwa [show index + (skipped + 1) = index + 1 + skipped by omega]
            at later)
      rw [show fuel + (count + 1) = fuel + count + 1 by omega, iterate,
        if_pos first.1, first.2]
      simp only
      rw [rest, show index + 1 + count = index + (count + 1) by omega]

/-- Fuel that reaches an iteration with a failing guard is enough. -/
theorem iterate_isSome
    (index : ℕ) :
    ∀ count : ℕ, deadline ≤ read (index + count) →
      (iterate deadline read body (count + 1) index).isSome
  | 0, passed => by
      rw [Nat.add_zero] at passed
      rw [iterate_passes passed]
      rfl
  | count + 1, passed => by
      rw [iterate]
      by_cases early : read index < deadline
      · rw [if_pos early]
        cases body index with
        | some result =>
            rfl
        | none =>
            apply iterate_isSome (index + 1) count
            rwa [show index + 1 + count = index + (count + 1) by omega]
      · rw [if_neg early]
        rfl

/-- The result of the loop, `none` when the deadline passes first. -/
def outcome
    (clock : Clock Time) (deadline : Time) (body : ℕ → Option Result) :
    Option Result :=
  (iterate deadline clock.read body
      (Nat.find (clock.passes deadline) + 1) 0).get
    (iterate_isSome 0 _ (by
      rw [Nat.zero_add]
      exact Nat.find_spec (clock.passes deadline)))

variable (clock : Clock Time)

/-- The iterations before the first failing guard are those whose guard
holds. -/
private theorem lt_find_iff (index : ℕ) :
    index < Nat.find (clock.passes deadline) ↔
      clock.read index < deadline := by
  constructor
  · intro below
    exact not_le.mp (Nat.find_min (clock.passes deadline) below)
  · intro early
    by_contra notBelow
    have passed :=
      (Nat.find_spec (clock.passes deadline)).trans
        (clock.monotone (not_lt.mp notBelow))
    exact absurd early (not_lt.mpr passed)

/-- The loop ends in the first iteration that leaves it, if the deadline has
not passed by then. -/
theorem outcome_eq_some
    {index : ℕ} {result : Result}
    (early : clock.read index < deadline)
    (stays : ∀ earlier, earlier < index → body earlier = none)
    (leaves : body index = some result) :
    outcome clock deadline body = some result := by
  have below := (lt_find_iff clock index).mpr early
  have undecided :
      ∀ earlier, earlier < index →
        clock.read (0 + earlier) < deadline ∧ body (0 + earlier) = none := by
    intro earlier isEarlier
    rw [Nat.zero_add]
    exact
      ⟨(clock.monotone isEarlier.le).trans_lt early,
        stays earlier isEarlier⟩
  have skipped :=
    iterate_skip
      (Nat.find (clock.passes deadline) - index + 1) 0 index undecided
  rw [show Nat.find (clock.passes deadline) - index + 1 + index =
      Nat.find (clock.passes deadline) + 1 by omega, Nat.zero_add,
    iterate_leaves early leaves] at skipped
  simp only [outcome, skipped, Option.get_some]

/-- If no iteration before the deadline leaves the loop, the deadline
passes. -/
theorem outcome_eq_none
    (stays :
      ∀ index, clock.read index < deadline → body index = none) :
    outcome clock deadline body = none := by
  have undecided :
      ∀ earlier, earlier < Nat.find (clock.passes deadline) →
        clock.read (0 + earlier) < deadline ∧ body (0 + earlier) = none := by
    intro earlier isEarlier
    rw [Nat.zero_add]
    have early := (lt_find_iff clock earlier).mp isEarlier
    exact ⟨early, stays earlier early⟩
  have skipped :=
    iterate_skip 1 0 (Nat.find (clock.passes deadline)) undecided
  have passed := Nat.find_spec (clock.passes deadline)
  rw [Nat.add_comm, Nat.zero_add, iterate_passes passed] at skipped
  simp only [outcome, skipped, Option.get_some]

/-- The first iteration before the deadline that leaves the loop, if there is
one. -/
theorem exists_first_or_none
    (deadline : Time) (body : ℕ → Option Result) :
    (∃ index result, clock.read index < deadline ∧
        (∀ earlier, earlier < index → body earlier = none) ∧
        body index = some result) ∨
      ∀ index, clock.read index < deadline → body index = none := by
  by_cases leaves :
      ∃ index, clock.read index < deadline ∧ (body index).isSome
  · left
    classical
    have found := Nat.find_spec leaves
    obtain ⟨result, equality⟩ := Option.isSome_iff_exists.mp found.2
    refine ⟨Nat.find leaves, result, found.1, ?_, equality⟩
    intro earlier isEarlier
    have early :=
      (clock.monotone isEarlier.le).trans_lt found.1
    have stays := Nat.find_min leaves isEarlier
    rw [not_and] at stays
    simpa using stays early
  · right
    intro index early
    by_contra some
    exact leaves ⟨index, early, Option.isSome_iff_ne_none.mpr some⟩

theorem outcome_eq_some_iff {result : Result} :
    outcome clock deadline body = some result ↔
      ∃ index, clock.read index < deadline ∧
        (∀ earlier, earlier < index → body earlier = none) ∧
        body index = some result := by
  constructor
  · intro ends
    rcases exists_first_or_none clock deadline body with
      ⟨index, found, early, stays, leaves⟩ | stays
    · have same := outcome_eq_some clock early stays leaves
      rw [ends, Option.some.injEq] at same
      exact ⟨index, early, stays, same ▸ leaves⟩
    · rw [outcome_eq_none clock stays] at ends
      cases ends
  · intro holds
    rcases holds with ⟨index, early, stays, leaves⟩
    exact outcome_eq_some clock early stays leaves

end Polling

end KarstflowTests.Library

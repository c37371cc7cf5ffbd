import Mathlib.Algebra.Order.Field.Rat
import KarstflowTests.Library.Polling
import KarstflowTests.Scenarios.Run

/-!
# Waiting for slots

The `wait_slots` step of a scenario polls a number of times that is
proportional to the slots it waits for, and looks after each sleep.
`ValidatorClient.wait_slots` looks before each sleep until a deadline.  They
agree on every sequence of slots, unless there is no slot to wait for.
-/

namespace KarstflowTests.Scenarios

open KarstflowTests.Library

/-! ## The step of a scenario -/

/-- The slots that the node reports, and how many of them have been seen. -/
structure SlotFeed where
  slots : ℕ → ℕ
  observed : ℕ := 0

def SlotFeed.next (feed : SlotFeed) : SlotFeed :=
  { feed with observed := feed.observed + 1 }

def getSlot : Action SlotFeed ℕ := do
  let feed ← get
  modify SlotFeed.next
  return feed.slots feed.observed

def slotsDidNotAdvance (count : ℕ) : Exc :=
  .timeoutError [.text "Slots did not advance by ", .value (.int count)]

/-- The `for` loop with so many polls left; it sleeps before each of them. -/
def pollSlots (count target : ℕ) : ℕ → Action SlotFeed Unit
  | 0 => throw (slotsDidNotAdvance count)
  | polls + 1 => do
      let slot ← getSlot
      if target ≤ slot then
        return
      pollSlots count target polls

def waitSlots (count : ℕ) : Action SlotFeed Unit := do
  let startSlot ← getSlot
  pollSlots count (startSlot + count) (count * 10)

/-- Wait for N slots to pass. -/
def ScenarioBuilder.waitSlots (builder : ScenarioBuilder SlotFeed)
    (count : ℕ := 1) : ScenarioBuilder SlotFeed :=
  { builder with
    steps :=
      builder.steps ++
        [⟨"wait_slots:" ++ toString count, Scenarios.waitSlots count⟩] }

/-- The step on the slots that a node reports. -/
def waitSlotsRun (count : ℕ) (slots : ℕ → ℕ) :
    Except Exc Unit × SlotFeed :=
  (waitSlots count).run.run { slots }

/-! ## The client -/

def slotNotReached (target : ℕ) (timeout : ℚ) : Exc :=
  .timeoutError
    [.text "Slot did not reach ", .value (.int target), .text " within ",
      .value (.float (.finite timeout)), .text "s"]

/-- `ValidatorClient.wait_for_slot`, with the clock at its start and at its
guards. -/
def waitForSlot (target : ℕ) (timeout start : ℚ) (clock : Clock ℚ)
    (slots : ℕ → ℕ) : Except Exc ℕ :=
  let reached := Polling.outcome clock (start + timeout) fun poll =>
    if target ≤ slots poll then some (slots poll) else none
  match reached with
  | some slot => .ok slot
  | none => .error (slotNotReached target timeout)

/-- `ValidatorClient.wait_slots` on the same observations. -/
def clientWaitSlots (count : ℕ) (timeout start : ℚ) (clock : Clock ℚ)
    (slots : ℕ → ℕ) : Except Exc ℕ :=
  waitForSlot (slots 0 + count) timeout start clock fun poll =>
    slots (poll + 1)

/-! ## The agreement -/

/-- The first observation that reaches the target. -/
def FirstReaching (slots : ℕ → ℕ) (target index : ℕ) : Prop :=
  target ≤ slots index ∧ ∀ earlier < index, slots earlier < target

/-- What a waiter owes its caller. -/
structure WaitsForSlots (count : ℕ) (slots : ℕ → ℕ) : Prop where
  raises :
    ∀ exc feed, waitSlotsRun count slots = (.error exc, feed) →
      exc = slotsDidNotAdvance count ∧
        ∀ index < feed.observed, slots index < slots 0 + count
  finishes :
    ∀ feed, waitSlotsRun count slots = (.ok (), feed) →
      ∃ index, feed.observed = index + 1 ∧
        FirstReaching slots (slots 0 + count) index
  client :
    ∀ feed, waitSlotsRun count slots = (.ok (), feed) →
      ∃ poll, feed.observed = poll + 2 ∧
        ∀ (timeout start : ℚ) (clock : Clock ℚ),
          clock.read poll < start + timeout →
            clientWaitSlots count timeout start clock slots =
              .ok (slots (poll + 1))

/-- The first observation does not reach the target, so the first one that
does is the first of the others. -/
theorem FirstReaching.succ {slots : ℕ → ℕ} {target index : ℕ}
    (first : slots 0 < target)
    (later : FirstReaching (fun index => slots (index + 1)) target index) :
    FirstReaching slots target (index + 1) :=
  ⟨later.1, Nat.forall_lt_succ_left.mpr ⟨first, later.2⟩⟩

section Polls

variable (count target : ℕ)

theorem pollSlots_succ (polls : ℕ) (feed : SlotFeed) :
    (pollSlots count target (polls + 1)).run.run feed =
      if target ≤ feed.slots feed.observed then (.ok (), feed.next)
      else (pollSlots count target polls).run.run feed.next := by
  have polled :
      (pollSlots count target (polls + 1)).run.run feed =
        ((if target ≤ feed.slots feed.observed then pure ()
          else pollSlots count target polls) :
            Action SlotFeed Unit).run.run feed.next := rfl
  rw [polled]
  split <;> rfl

/-- The feed when so many more slots have been seen. -/
def SlotFeed.after (feed : SlotFeed) (seen : ℕ) : SlotFeed :=
  { feed with observed := feed.observed + seen }

/-- The loop ends at the first poll that reaches the target, or it uses up its
polls. -/
theorem pollSlots_ends (polls : ℕ) (feed : SlotFeed) :
    (∃ poll < polls,
      (pollSlots count target polls).run.run feed =
          (.ok (), feed.after (poll + 1)) ∧
        FirstReaching (fun index => feed.slots (feed.observed + index))
          target poll) ∨
      (pollSlots count target polls).run.run feed =
          (.error (slotsDidNotAdvance count), feed.after polls) ∧
        ∀ poll < polls, feed.slots (feed.observed + poll) < target := by
  induction polls generalizing feed with
  | zero =>
      right
      exact ⟨rfl, nofun⟩
  | succ polls inductionHypothesis =>
      rw [pollSlots_succ]
      by_cases reached : target ≤ feed.slots feed.observed
      · left
        refine ⟨0, Nat.succ_pos polls, ?_, reached, nofun⟩
        rw [if_pos reached]
        rfl
      · rw [if_neg reached]
        have first : feed.slots (feed.observed + 0) < target :=
          Nat.lt_of_not_le reached
        have shift : ∀ poll,
            feed.next.slots (feed.next.observed + poll) =
              feed.slots (feed.observed + (poll + 1)) := by
          intro poll
          rw [SlotFeed.next, Nat.add_assoc, Nat.add_comm 1 poll]
        have later : ∀ seen, feed.next.after seen = feed.after (seen + 1) := by
          intro seen
          simp only [SlotFeed.after, SlotFeed.next, Nat.add_assoc,
            Nat.add_comm 1 seen]
        rcases inductionHypothesis feed.next with
          ⟨poll, within, ends, atPoll⟩ | ⟨ends, below⟩
        · left
          refine ⟨poll + 1, Nat.succ_lt_succ within, ?_, ?_⟩
          · rw [ends, later]
          · apply FirstReaching.succ first
            simpa only [shift] using atPoll
        · right
          refine ⟨?_, ?_⟩
          · rw [ends, later]
          · rw [Nat.forall_lt_succ_left]
            refine ⟨first, ?_⟩
            simpa only [shift] using below

end Polls

section Waiting

variable (count : ℕ) (slots : ℕ → ℕ)

/-- The step finishes at the first poll that sees the target, or raises when
none of its polls does. -/
theorem waitSlotsRun_ends :
    (∃ poll,
      waitSlotsRun count slots = (.ok (), { slots, observed := poll + 2 }) ∧
        slots 0 + count ≤ slots (poll + 1) ∧
          ∀ earlier < poll, slots (earlier + 1) < slots 0 + count) ∨
      waitSlotsRun count slots =
          (.error (slotsDidNotAdvance count),
            { slots, observed := count * 10 + 1 }) ∧
        ∀ poll < count * 10, slots (poll + 1) < slots 0 + count := by
  have starts :
      waitSlotsRun count slots =
        (pollSlots count (slots 0 + count) (count * 10)).run.run
          { slots, observed := 1 } := rfl
  rw [starts]
  rcases pollSlots_ends count (slots 0 + count) (count * 10)
      { slots, observed := 1 } with
    ⟨poll, _, ends, atPoll, before⟩ | ⟨ends, below⟩
  · left
    refine ⟨poll, ?_, ?_, ?_⟩
    · have seen : 1 + (poll + 1) = poll + 2 := by omega
      simp only [ends, SlotFeed.after, seen]
    · rw [Nat.add_comm poll 1]
      exact atPoll
    · intro earlier isEarlier
      rw [Nat.add_comm earlier 1]
      exact before earlier isEarlier
  · right
    refine ⟨?_, ?_⟩
    · have seen : 1 + count * 10 = count * 10 + 1 := Nat.add_comm _ _
      simp only [ends, SlotFeed.after, seen]
    · intro poll within
      rw [Nat.add_comm poll 1]
      exact below poll within

theorem clientWaitSlots_eq
    {poll : ℕ} (reached : slots 0 + count ≤ slots (poll + 1))
    (before : ∀ earlier < poll, slots (earlier + 1) < slots 0 + count)
    {timeout start : ℚ} {clock : Clock ℚ}
    (early : clock.read poll < start + timeout) :
    clientWaitSlots count timeout start clock slots =
      .ok (slots (poll + 1)) := by
  have leaves :
      Polling.outcome clock (start + timeout)
          (fun poll =>
            if slots 0 + count ≤ slots (poll + 1) then
              some (slots (poll + 1))
            else none) =
        some (slots (poll + 1)) := by
    apply Polling.outcome_eq_some clock early
    · intro earlier isEarlier
      exact if_neg (Nat.not_le_of_lt (before earlier isEarlier))
    · exact if_pos reached
  rw [clientWaitSlots, waitForSlot, leaves]

theorem waitsForSlots_of_pos (positive : 0 < count) :
    WaitsForSlots count slots := by
  have startBelow : slots 0 < slots 0 + count :=
    Nat.lt_add_of_pos_right positive
  rcases waitSlotsRun_ends count slots with
    ⟨poll, ends, reached, before⟩ | ⟨ends, below⟩
  · refine ⟨?_, ?_, ?_⟩
    · intro exc feed raises
      cases ends.symm.trans raises
    · intro feed finishes
      cases ends.symm.trans finishes
      refine ⟨poll + 1, rfl, ?_⟩
      exact FirstReaching.succ startBelow ⟨reached, before⟩
    · intro feed finishes
      cases ends.symm.trans finishes
      refine ⟨poll, rfl, ?_⟩
      intro timeout start clock early
      exact clientWaitSlots_eq count slots reached before early
  · refine ⟨?_, ?_, ?_⟩
    · intro exc feed raises
      cases ends.symm.trans raises
      refine ⟨rfl, ?_⟩
      rw [Nat.forall_lt_succ_left]
      exact ⟨startBelow, below⟩
    · intro feed finishes
      cases ends.symm.trans finishes
    · intro feed finishes
      cases ends.symm.trans finishes

/-- The starting slot is already the target, but it is not looked at. -/
theorem not_waitsForSlots_of_zero : ¬ WaitsForSlots 0 slots := by
  intro waits
  have raised := waits.raises _ { slots, observed := 1 } rfl
  exact absurd (raised.2 0 Nat.one_pos) (lt_irrefl _)

/-- The step waits as it should exactly when there is a slot to wait for. -/
theorem waitsForSlots_iff : WaitsForSlots count slots ↔ count ≠ 0 := by
  constructor
  · intro waits zero
    subst zero
    exact not_waitsForSlots_of_zero slots waits
  · intro different
    exact waitsForSlots_of_pos count slots (Nat.pos_of_ne_zero different)

end Waiting

/-- With no slot to wait for the step raises, although it has seen its
target. -/
theorem waitSlots_zero_raises :
    ¬ WaitsForSlots 0 (fun _ => 100) ∧
      waitSlotsRun 0 (fun _ => 100) =
        (.error (slotsDidNotAdvance 0),
          { slots := fun _ => 100, observed := 1 }) :=
  ⟨not_waitsForSlots_of_zero _, rfl⟩

end KarstflowTests.Scenarios

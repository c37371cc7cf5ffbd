import Mathlib.Algebra.Order.Field.Rat
import KarstflowTests.Library.Polling
import KarstflowTests.Rpc.Retry

/-!
# Waiting for a node to respond

`waitForHealth` posts until a reply has status 200 or the deadline passes.  A
`HealthSchedule` is what one run meets.
-/

namespace KarstflowTests.Wait

open KarstflowTests.Library KarstflowTests.Rpc

/-- The clock readings of the guards and the outcome of each POST. -/
structure HealthSchedule (interval : ℚ) where
  /-- the clock when the deadline is computed -/
  start : ℚ
  clock : Clock ℚ
  answer : ℕ → PostOutcome
  start_le : start ≤ clock.read 0
  sleeps : ∀ index, clock.read index + interval ≤ clock.read (index + 1)

/-- One iteration: how it leaves the loop, if it does. -/
def healthStep : PostOutcome → Option (Except Exc Unit)
  | .reply status _ =>
      if status = 200 then
        some (.ok ())
      else
        none
  | .raised exc =>
      if isTransportError exc then
        none
      else
        some (.error exc)

/-- `last_error` after some iterations. -/
def lastError (answer : ℕ → PostOutcome) : ℕ → Option Exc
  | 0 => none
  | iterations + 1 =>
      match answer iterations with
      | .raised exc => some exc
      | .reply _ _ => lastError answer iterations

/-- `str` of the exceptions that `last_error` can be. -/
def transportText : Exc → String
  | .connectError text => text
  | .readError text => text
  | .timeoutException text => text
  | _ => ""

def notReady (rpcUrl : String) (timeout : ℚ) (lastError : Option Exc) :
    Exc :=
  .timeoutError
    ([.text "Node at ", .text rpcUrl, .text " not ready after ",
        .value (.float (.finite timeout)), .text "s"] ++
      match lastError with
      | some exc => [.text ": ", .text (transportText exc)]
      | none => [])

def waitForHealth (rpcUrl : String) (timeout : ℚ) {interval : ℚ}
    (schedule : HealthSchedule interval) : Except Exc Unit :=
  let deadline := schedule.start + timeout
  match Polling.outcome schedule.clock deadline
      (fun index => healthStep (schedule.answer index)) with
  | some result => result
  | none =>
      .error
        (notReady rpcUrl timeout
          (lastError schedule.answer
            (Nat.find (schedule.clock.passes deadline))))

/-! ## When it returns -/

/-- The outcomes after which the loop sleeps. -/
def Retried : PostOutcome → Prop
  | .reply status _ => status ≠ 200
  | .raised exc => isTransportError exc = true

/-- Some POST before the deadline is answered with status 200, and no earlier
one raises anything but a transport error. -/
def HealthSchedule.RespondsBefore {interval : ℚ}
    (schedule : HealthSchedule interval) (deadline : ℚ) : Prop :=
  ∃ index, schedule.clock.read index < deadline ∧
    (∀ earlier, earlier < index → Retried (schedule.answer earlier)) ∧
    ∃ body, schedule.answer index = .reply 200 body

theorem healthStep_eq_none_iff {outcome : PostOutcome} :
    healthStep outcome = none ↔ Retried outcome := by
  cases outcome with
  | raised exc =>
      by_cases transport : isTransportError exc
      · simp [healthStep, Retried, transport]
      · simp [healthStep, Retried, transport]
  | reply status body =>
      by_cases healthy : status = 200
      · simp [healthStep, Retried, healthy]
      · simp [healthStep, Retried, healthy]

theorem healthStep_eq_ok_iff {outcome : PostOutcome} :
    healthStep outcome = some (.ok ()) ↔
      ∃ body, outcome = .reply 200 body := by
  cases outcome with
  | raised exc =>
      by_cases transport : isTransportError exc
      · simp [healthStep, transport]
      · simp [healthStep, transport]
  | reply status body =>
      by_cases healthy : status = 200
      · simp [healthStep, healthy]
      · simp [healthStep, healthy]

theorem waitForHealth_ok_iff (rpcUrl : String) (timeout : ℚ)
    {interval : ℚ} (schedule : HealthSchedule interval) :
    waitForHealth rpcUrl timeout schedule = .ok () ↔
      schedule.RespondsBefore (schedule.start + timeout) := by
  have returns :
      waitForHealth rpcUrl timeout schedule = .ok () ↔
        Polling.outcome schedule.clock (schedule.start + timeout)
          (fun index => healthStep (schedule.answer index)) =
            some (.ok ()) := by
    rw [waitForHealth]
    rcases Polling.outcome schedule.clock (schedule.start + timeout)
        (fun index => healthStep (schedule.answer index)) with _ | result
    · simp
    · simp
  rw [returns, Polling.outcome_eq_some_iff]
  simp only [healthStep_eq_none_iff, healthStep_eq_ok_iff]
  rfl

end KarstflowTests.Wait

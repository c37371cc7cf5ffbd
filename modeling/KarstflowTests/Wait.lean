import Mathlib.Algebra.Order.Archimedean.Basic
import Mathlib.Tactic.Linarith
import KarstflowTests.Config
import KarstflowTests.Library.Polling
import KarstflowTests.Python.Exception

/-!
# Waiting for a transaction to be confirmed

`waitForConfirmation` polls `getSignatureStatuses` until the deadline.  A
`PollSchedule` is what one run meets: the clock readings of its guards and the
answer to each poll.  `Observation` says that the answers show one landed
transaction whose commitment level only advances; `NoticesFailure` is what a
caller needs of the wait on a failed transaction.

The loop body looks at the commitment level before it looks at the error, so
the failure is noticed only from a status that is still `processed`.
-/

namespace KarstflowTests.Wait

open KarstflowTests.Library

/-! ## The polls of one run -/

structure PollSchedule (interval : ℚ) where
  /-- the clock when the deadline is computed -/
  start : ℚ
  clock : Clock ℚ
  /-- the JSON body of the reply, or what `post` or `json()` raised -/
  answer : ℕ → Except Exc Json
  start_le : start ≤ clock.read 0
  sleeps : ∀ index, clock.read index + interval ≤ clock.read (index + 1)

/-! ## The loop -/

/-- The loop body on the JSON of a reply; `true` is the `return`. -/
def checkStatus (signature : String) (data : Json) : Except Exc Bool := do
  let result ← data.get "result" (.obj [])
  let statuses ← result.get "value" (.arr [])
  if statuses.truthy then
    let status ← statuses.first
    if status ≠ .null then
      let confirmationStatus ← status.get "confirmationStatus" .null
      if confirmationStatus.pyEq (.str "confirmed") ||
          confirmationStatus.pyEq (.str "finalized") then
        return true
      let err ← status.get "err" .null
      if err ≠ .null then
        throw (.transactionError
          [.text "Transaction ", .text signature, .text " failed: ",
            .value err])
  return false

/-- One iteration: how it leaves the loop, if it does. -/
def confirmationStep (signature : String) (answer : Except Exc Json) :
    Option (Except Exc Unit) :=
  match answer with
  | .error exc => some (.error exc)
  | .ok data =>
      match checkStatus signature data with
      | .error exc => some (.error exc)
      | .ok true => some (.ok ())
      | .ok false => none

def notConfirmed (signature : String) (timeout : ℚ) : Exc :=
  .timeoutError
    [.text "Transaction ", .text signature, .text " not confirmed after ",
      .value (.float (.finite timeout)), .text "s"]

def waitForConfirmation
    (signature : String) (timeout : ℚ)
    {interval : ℚ} (schedule : PollSchedule interval) :
    Except Exc Unit :=
  match Polling.outcome schedule.clock (schedule.start + timeout)
      (fun index => confirmationStep signature (schedule.answer index)) with
  | some result => result
  | none => .error (notConfirmed signature timeout)

/-! ## What the ledger shows of a transaction -/

/-- The error of a transaction that failed on chain. -/
structure OnChainError where
  json : Json
  ne_null : json ≠ .null

/-- The `err` member of the status of a landed transaction. -/
def errOf : Option OnChainError → Json
  | none => .null
  | some error => error.json

/-- `data` answers a poll for a transaction with the given `err`: an error
reply without a result, a null status, or the status at some level. -/
inductive StatusAnswer (err : Json) : Json → Option Commitment → Prop
  | errorReply {members : List (String × Json)} :
      members.lookup "result" = none →
      StatusAnswer err (.obj members) none
  | unseen {members result : List (String × Json)} :
      members.lookup "result" = some (.obj result) →
      result.lookup "value" = some (.arr [.null]) →
      StatusAnswer err (.obj members) none
  | seen {members result status : List (String × Json)}
      {level : Commitment} :
      members.lookup "result" = some (.obj result) →
      result.lookup "value" = some (.arr [.obj status]) →
      status.lookup "confirmationStatus" = some (.str level.value) →
      status.lookup "err" = some err →
      StatusAnswer err (.obj members) (some level)

/-- Every poll is answered, and the answers show one transaction whose level
only advances. -/
structure Observation
    (err : Json) {interval : ℚ} (schedule : PollSchedule interval) where
  level : ℕ → Option Commitment
  answered :
    ∀ index, ∃ data,
      schedule.answer index = .ok data ∧
        StatusAnswer err data (level index)
  advances :
    ∀ earlier later before after,
      earlier ≤ later →
      level earlier = some before →
      level later = some after →
        before.rank ≤ after.rank

/-- How an iteration leaves the loop, by the level its poll sees. -/
def verdict (signature : String) (err : Json) :
    Option Commitment → Option (Except Exc Unit)
  | none => none
  | some .processed =>
      if err = .null then
        none
      else
        some (.error (.transactionError
          [.text "Transaction ", .text signature, .text " failed: ",
            .value err]))
  | some .confirmed => some (.ok ())
  | some .finalized => some (.ok ())

theorem confirmationStep_of_answer
    {signature : String} {err data : Json} {level : Option Commitment}
    (answers : StatusAnswer err data level) :
    confirmationStep signature (.ok data) =
      verdict signature err level := by
  cases answers with
  | errorReply noResult =>
      simp [confirmationStep, checkStatus, noResult, verdict, Json.truthy,
        bind, Except.bind, pure, Except.pure]
  | unseen result value =>
      simp [confirmationStep, checkStatus, result, value, verdict,
        Json.truthy, Json.first, bind, Except.bind, pure, Except.pure]
  | @seen members resultMembers status level result value confirmation
      errMember =>
      simp only [confirmationStep, checkStatus, Json.get_obj, result, value,
        confirmation, errMember, Json.truthy, Json.first, Json.pyEq,
        Option.getD_some, bind, Except.bind, pure, Except.pure]
      cases level with
      | processed =>
          by_cases succeeded : err = .null
          · simp [verdict, succeeded, Commitment.value]
          · simp [verdict, succeeded, Commitment.value, throw,
              throwThe, MonadExceptOf.throw]
      | confirmed =>
          simp [verdict, Commitment.value]
      | finalized =>
          simp [verdict, Commitment.value]

namespace Observation

variable {signature : String} {timeout interval : ℚ} {err : Json}
variable {schedule : PollSchedule interval}

theorem step_eq (observation : Observation err schedule) (index : ℕ) :
    confirmationStep signature (schedule.answer index) =
      verdict signature err (observation.level index) := by
  obtain ⟨data, answer, answers⟩ := observation.answered index
  rw [answer]
  exact confirmationStep_of_answer answers

theorem wait_eq (observation : Observation err schedule) :
    waitForConfirmation signature timeout schedule =
      match Polling.outcome schedule.clock (schedule.start + timeout)
          (fun index => verdict signature err (observation.level index)) with
      | some result => result
      | none => .error (notConfirmed signature timeout) := by
  simp only [waitForConfirmation, observation.step_eq]

/-- Some poll before the deadline sees the status. -/
def SeenBefore
    (observation : Observation err schedule) (deadline : ℚ) : Prop :=
  ∃ index, schedule.clock.read index < deadline ∧
    observation.level index ≠ none

/-- If a poll before the deadline is the first to see the status, it sees it
at the level processed. -/
def FirstSeenProcessed
    (observation : Observation err schedule) (deadline : ℚ) : Prop :=
  ∀ index level, schedule.clock.read index < deadline →
    (∀ earlier, earlier < index → observation.level earlier = none) →
    observation.level index = some level →
      level = .processed

/-- The polls before the deadline reach a confirmed status, and none before it
shows the error of a failed transaction. -/
def ReportsConfirmed
    (observation : Observation err schedule) (deadline : ℚ) : Prop :=
  ∃ index level, schedule.clock.read index < deadline ∧
    observation.level index = some level ∧ level ≠ .processed ∧
    ∀ earlier, earlier < index →
      observation.level earlier = none ∨
        (observation.level earlier = some .processed ∧ err = .null)

end Observation

/-- What a caller relies on when the transaction failed: the wait raises
`TransactionError` once a poll sees the status, times out if no poll does, and
never returns. -/
structure NoticesFailure
    (signature : String) (timeout : ℚ) (seen : Prop)
    (result : Except Exc Unit) : Prop where
  raises : seen → ∃ message, result = .error (.transactionError message)
  timesOut : ¬ seen → result = .error (notConfirmed signature timeout)
  fails : result ≠ .ok ()

section Failed

variable {signature : String} {timeout interval : ℚ}
variable {schedule : PollSchedule interval} {err : Json}

theorem verdict_eq_none_iff {level : Option Commitment} :
    verdict signature err level = none ↔
      level = none ∨ (level = some .processed ∧ err = .null) := by
  rcases level with _ | level
  · simp [verdict]
  · cases level <;> simp [verdict]

theorem verdict_eq_ok_iff {level : Option Commitment} :
    verdict signature err level = some (.ok ()) ↔
      ∃ reached, level = some reached ∧ reached ≠ .processed := by
  rcases level with _ | level
  · simp [verdict]
  · cases level with
    | processed =>
        by_cases succeeded : err = .null <;> simp [verdict, succeeded]
    | confirmed => simp [verdict]
    | finalized => simp [verdict]

/-- The wait returns exactly when its polls report the transaction as
confirmed, whether or not it failed. -/
theorem waitForConfirmation_ok_iff
    (observation : Observation err schedule) :
    waitForConfirmation signature timeout schedule = .ok () ↔
      observation.ReportsConfirmed (schedule.start + timeout) := by
  have outcomeOk :
      waitForConfirmation signature timeout schedule = .ok () ↔
        Polling.outcome schedule.clock (schedule.start + timeout)
          (fun index =>
            verdict signature err (observation.level index)) =
          some (.ok ()) := by
    rw [observation.wait_eq]
    rcases Polling.outcome schedule.clock (schedule.start + timeout)
        (fun index => verdict signature err (observation.level index))
      with _ | result
    · simp
    · simp
  rw [outcomeOk, Polling.outcome_eq_some_iff]
  simp only [verdict_eq_none_iff, verdict_eq_ok_iff]
  constructor
  · intro holds
    rcases holds with ⟨index, early, stays, level, seen, notProcessed⟩
    exact ⟨index, level, early, seen, notProcessed, stays⟩
  · intro holds
    rcases holds with ⟨index, level, early, seen, notProcessed, stays⟩
    exact ⟨index, early, stays, level, seen, notProcessed⟩

/-- The first poll that sees the status of a failed transaction decides the
wait. -/
theorem waitForConfirmation_of_firstSeen
    (signature : String)
    (failed : err ≠ .null) (observation : Observation err schedule)
    {index : ℕ} {level : Commitment}
    (early : schedule.clock.read index < schedule.start + timeout)
    (unseen :
      ∀ earlier, earlier < index → observation.level earlier = none)
    (seen : observation.level index = some level) :
    some (waitForConfirmation signature timeout schedule) =
      verdict signature err (some level) := by
  have stays :
      ∀ earlier, earlier < index →
        verdict signature err (observation.level earlier) = none := by
    intro earlier isEarlier
    rw [unseen earlier isEarlier]
    rfl
  obtain ⟨result, leaves⟩ :
      ∃ result, verdict signature err (some level) = some result := by
    cases level <;> simp [verdict, failed]
  have ends :
      Polling.outcome schedule.clock (schedule.start + timeout)
          (fun index =>
            verdict signature err (observation.level index)) =
        some result :=
    Polling.outcome_eq_some schedule.clock early stays (seen ▸ leaves)
  rw [observation.wait_eq, ends, leaves]

theorem waitForConfirmation_of_unseen
    (observation : Observation err schedule)
    (unseen : ¬ observation.SeenBefore (schedule.start + timeout)) :
    waitForConfirmation signature timeout schedule =
      .error (notConfirmed signature timeout) := by
  have stays :
      ∀ index, schedule.clock.read index < schedule.start + timeout →
        verdict signature err (observation.level index) = none := by
    intro index early
    have notSeen : observation.level index = none := by
      by_contra seen
      exact unseen ⟨index, early, seen⟩
    rw [notSeen]
    rfl
  rw [observation.wait_eq, Polling.outcome_eq_none schedule.clock stays]

/-- The wait notices the failure of a transaction exactly when the first poll
to see its status, if one does before the deadline, sees it processed. -/
theorem waitForConfirmation_noticesFailure_iff
    (signature : String) (timeout : ℚ) {interval : ℚ}
    (schedule : PollSchedule interval) (error : OnChainError)
    (observation : Observation error.json schedule) :
    NoticesFailure signature timeout
        (observation.SeenBefore (schedule.start + timeout))
        (waitForConfirmation signature timeout schedule) ↔
      observation.FirstSeenProcessed (schedule.start + timeout) := by
  constructor
  · intro notices index level early unseen seen
    have decides :=
      waitForConfirmation_of_firstSeen signature error.ne_null observation
        early unseen seen
    cases level with
    | processed => rfl
    | confirmed =>
        exact absurd (Option.some.inj decides) notices.fails
    | finalized =>
        exact absurd (Option.some.inj decides) notices.fails
  · intro processed
    rcases Polling.exists_first_or_none schedule.clock
        (schedule.start + timeout) observation.level with
      ⟨index, level, early, unseen, seen⟩ | unseen
    · have level_eq := processed index level early unseen seen
      subst level_eq
      have decides :=
        waitForConfirmation_of_firstSeen signature error.ne_null
          observation early unseen seen
      simp only [verdict, if_neg error.ne_null, Option.some.injEq]
        at decides
      have isSeen :
          observation.SeenBefore (schedule.start + timeout) :=
        ⟨index, early, by simp [seen]⟩
      rw [decides]
      exact
        { raises := fun _ => ⟨_, rfl⟩
          timesOut := fun notSeen => absurd isSeen notSeen
          fails := by simp }
    · have notSeen :
          ¬ observation.SeenBefore (schedule.start + timeout) := by
        intro holds
        rcases holds with ⟨index, early, seen⟩
        exact seen (unseen index early)
      rw [waitForConfirmation_of_unseen observation notSeen]
      exact
        { raises := fun seen => absurd seen notSeen
          timesOut := fun _ => rfl
          fails := by simp }

end Failed

/-! ## A failure first seen when it is confirmed -/

/-- One guard each second. -/
def secondsClock : Clock ℚ where
  read index := index
  monotone := by
    intro earlier later ordered
    exact Nat.cast_le.mpr ordered
  passes deadline := exists_nat_ge deadline

theorem secondsClock_start : 0 ≤ secondsClock.read 0 := by
  simp [secondsClock]

theorem secondsClock_sleeps (index : ℕ) :
    secondsClock.read index + 1 / 2 ≤ secondsClock.read (index + 1) := by
  simp only [secondsClock, Nat.cast_add, Nat.cast_one]
  linarith

def customProgramError : OnChainError where
  json := .obj [("InstructionError",
    .arr [.int 0, .obj [("Custom", .int 1)]])]
  ne_null := by simp

/-- Every poll answers that the transaction is confirmed and failed. -/
def confirmedFailureReply : Json :=
  .obj
    [("jsonrpc", .str "2.0"),
      ("result", .obj
        [("context", .obj [("slot", .int 82)]),
          ("value", .arr
            [.obj
              [("slot", .int 72),
                ("confirmations", .int 10),
                ("err", customProgramError.json),
                ("confirmationStatus", .str "confirmed")]])]),
      ("id", .int 1)]

def confirmedFailure : PollSchedule (1 / 2) where
  start := 0
  clock := secondsClock
  answer _ := .ok confirmedFailureReply
  start_le := secondsClock_start
  sleeps := secondsClock_sleeps

def confirmedFailureObservation :
    Observation customProgramError.json confirmedFailure where
  level _ := some .confirmed
  answered _ := ⟨confirmedFailureReply, rfl, .seen rfl rfl rfl rfl⟩
  advances := by
    intro _ _ before after _ beforeEq afterEq
    cases beforeEq
    cases afterEq
    exact Nat.le_refl _

/-- The wait returns although every poll shows the error. -/
theorem waitForConfirmation_returns_on_confirmedFailure :
    waitForConfirmation "5VERv8NMvzbJMEkV8xnrLkEaWRtSz9Co" 30
        confirmedFailure = .ok () ∧
      ¬ NoticesFailure "5VERv8NMvzbJMEkV8xnrLkEaWRtSz9Co" 30
        (confirmedFailureObservation.SeenBefore
          (confirmedFailure.start + 30))
        (waitForConfirmation "5VERv8NMvzbJMEkV8xnrLkEaWRtSz9Co" 30
          confirmedFailure) := by
  have early :
      confirmedFailure.clock.read 0 < confirmedFailure.start + 30 := by
    simp [confirmedFailure, secondsClock]
  have returns :=
    waitForConfirmation_of_firstSeen "5VERv8NMvzbJMEkV8xnrLkEaWRtSz9Co"
      customProgramError.ne_null confirmedFailureObservation early
      (by simp) rfl
  simp only [verdict, Option.some.injEq] at returns
  exact ⟨returns, fun notices => notices.fails returns⟩

end KarstflowTests.Wait

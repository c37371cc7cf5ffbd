import KarstflowTests.Rpc.Overrides

/-!
# The retry loop and what it is for

`sendLoop` is the loop of `_send_with_retry` with its variable `last_error`,
which becomes the cause of the final `ConnectionError`; `sendOnWire` is what is
left of it when the cause is forgotten.  `ReferenceRun` says what the loop is
for: it posts until an outcome is neither a retryable error of the node nor a
transport error, or no attempt is left.
-/

namespace KarstflowTests.Rpc

open KarstflowTests.Library

/-! ## The loop with its last error -/

/-- How `_send_with_retry` ends; `raisedFrom` is a `raise ... from`. -/
inductive SendResult where
  | returned (data : Json)
  | raised (exc : Exc)
  | raisedFrom (exc : Exc) (cause : Option Exc)
  deriving DecidableEq

def SendResult.outcome : SendResult → Except Exc Json
  | .returned data => .ok data
  | .raised exc => .error exc
  | .raisedFrom exc _ => .error exc

/-- `await asyncio.sleep(delay)` -/
def sleepThen (seconds : ℚ) (later : Wire SendResult) : Wire SendResult :=
  .ask (.sleep seconds) fun (cancelled : Bool) =>
    if cancelled then
      .done (.raised .cancelledError)
    else
      later

/-- What follows a POST: the end of the loop, or another pass with the
`last_error` of then. -/
def afterPost (policy : RetryPolicy) (attempt : ℕ) (lastError : Option Exc)
    (again : Option Exc → Wire SendResult) (outcome : PostOutcome) :
    Wire SendResult :=
  match tryAttempt policy attempt outcome with
  | .ok (some data) => .done (.returned data)
  | .ok none => sleepThen (delay policy attempt) (again lastError)
  | .error exc =>
      if isTransportError exc then
        if (attempt : ℤ) < policy.maxRetries then
          sleepThen (delay policy attempt) (again (some exc))
        else
          again (some exc)
      else
        .done (.raised exc)

/-- The passes that are left of the loop, and what follows it. -/
def sendLoop (policy : RetryPolicy) (payload : Json) :
    ℕ → ℕ → Option Exc → Wire SendResult
  | 0, _, lastError => .done (.raisedFrom (exhausted policy) lastError)
  | left + 1, attempt, lastError =>
      .ask (.post payload)
        (afterPost policy attempt lastError fun error =>
          sendLoop policy payload left (attempt + 1) error)

/-- `_send_with_retry`, from `last_error = None` on. -/
def sendWithCause (policy : RetryPolicy) (payload : Json) :
    Wire SendResult :=
  sendLoop policy payload (policy.maxRetries + 1).toNat 0 none

section Forgetting

variable {policy : RetryPolicy} {payload : Json}

theorem sleepThen_outcome
    {seconds : ℚ} {later : Wire SendResult} {other : Wire (Except Exc Json)}
    (same : (later.andThen fun result => .done result.outcome) = other) :
    ((sleepThen seconds later).andThen fun result =>
        .done result.outcome) =
      afterPass (.sleeps seconds) other := by
  subst same
  rw [sleepThen, afterPass]
  refine congrArg (Dialogue.ask (WireQuery.sleep seconds)) ?_
  funext (cancelled : Bool)
  cases cancelled <;> rfl

theorem sendLoop_outcome (left attempt : ℕ) (lastError : Option Exc) :
    ((sendLoop policy payload left attempt lastError).andThen
        fun result => .done result.outcome) =
      sendPasses policy payload left attempt := by
  induction left generalizing attempt lastError with
  | zero => rfl
  | succ left inductionHypothesis =>
      rw [sendLoop, sendPasses]
      refine congrArg (Dialogue.ask (WireQuery.post payload)) ?_
      funext (outcome : PostOutcome)
      simp only [pass, afterPost]
      rcases tryAttempt policy attempt outcome with exc | _ | data
      · by_cases transport : isTransportError exc
        · by_cases again : (attempt : ℤ) < policy.maxRetries
          · simp only [transport, again, if_true]
            exact sleepThen_outcome (inductionHypothesis _ _)
          · simp only [transport, again, if_true, if_false]
            exact inductionHypothesis _ _
        · simp only [transport, if_false, Bool.false_eq_true]
          rfl
      · exact sleepThen_outcome (inductionHypothesis _ _)
      · rfl

/-- The cause aside, this is the loop that the clients send with. -/
theorem sendWithCause_outcome :
    ((sendWithCause policy payload).andThen fun result =>
        .done result.outcome) =
      sendOnWire policy payload :=
  sendLoop_outcome _ _ _

end Forgetting

/-! ## The reference -/

/-- A JSON-RPC error object with a retryable code. -/
def IsRetryableError (policy : RetryPolicy) (outcome : PostOutcome) : Prop :=
  ∃ members error,
    respond outcome = .ok (.obj members) ∧
      members.lookup "error" = some (.obj error) ∧
        retryable policy ((error.lookup "code").getD (.int 0))

/-- One of the three transport errors that are caught. -/
def IsCaughtError (outcome : PostOutcome) : Prop :=
  ∃ exc, respond outcome = .error exc ∧ isTransportError exc

/-- The outcome is returned or raised whatever attempts are left. -/
def Ends (policy : RetryPolicy) (outcome : PostOutcome) : Prop :=
  ¬ IsRetryableError policy outcome ∧ ¬ IsCaughtError outcome

/-- A JSON body is a JSON-RPC answer. -/
def PostOutcome.IsAnswer (outcome : PostOutcome) : Prop :=
  ∀ data, respond outcome = .ok data → Answer data

/-- What the last attempt leads to: its reply is returned and its exception
raised, a caught one as the cause of a `ConnectionError`. -/
def resultAt (policy : RetryPolicy) (outcome : PostOutcome) : SendResult :=
  match respond outcome with
  | .ok data => .returned data
  | .error exc =>
      if isTransportError exc then
        .raisedFrom (exhausted policy) (some exc)
      else
        .raised exc

/-- The POSTs of an attempt and so many more, with the sleeps in between. -/
def attempts (policy : RetryPolicy) (payload : Json)
    (outcomes : ℕ → PostOutcome) (first : ℕ) :
    ℕ → List (Dialogue.Exchange WireQuery WireQuery.Answer)
  | 0 => [⟨.post payload, outcomes first⟩]
  | more + 1 =>
      ⟨.post payload, outcomes first⟩ ::
        ⟨.sleep (delay policy first), false⟩ ::
          attempts policy payload outcomes (first + 1) more

/-- Surroundings in which the POSTs have the given outcomes in order and no
sleep is cancelled. -/
def serving (outcomes : ℕ → PostOutcome) (posts : ℕ) :
    (query : WireQuery) → query.Answer × ℕ
  | .post _ => (outcomes posts, posts + 1)
  | .sleep _ => (false, posts)
  | .clock => ((0 : ℚ), posts)
  | .pause => ((), posts)

/-- The run with these outcomes ends at the first one that is neither
retryable nor caught, or else at the last attempt, after one POST of the
payload for each outcome and one sleep between any two. -/
structure ReferenceRun (policy : RetryPolicy) (payload : Json)
    (outcomes : ℕ → PostOutcome) (retries last : ℕ) : Prop where
  bounded : last ≤ retries
  noneBefore : ∀ earlier < last, ¬ Ends policy (outcomes earlier)
  ends : Ends policy (outcomes last) ∨ last = retries
  run :
    Dialogue.against (serving outcomes) 0 (sendWithCause policy payload) =
      (attempts policy payload outcomes 0 last,
        resultAt policy (outcomes last))

/-! ## The loop runs like the reference -/

section Trying

variable (policy : RetryPolicy) (attempt : ℕ) {outcome : PostOutcome}

theorem tryAttempt_of_error
    {members error : List (String × Json)}
    (replied : respond outcome = .ok (.obj members))
    (present : members.lookup "error" = some (.obj error)) :
    tryAttempt policy attempt outcome =
      if (attempt : ℤ) < policy.maxRetries ∧
          retryable policy ((error.lookup "code").getD (.int 0)) then
        .ok none
      else
        .ok (some (.obj members)) := by
  by_cases again : (attempt : ℤ) < policy.maxRetries <;>
    by_cases isRetryable :
        retryable policy ((error.lookup "code").getD (.int 0)) = true <;>
      simp [tryAttempt, replied, present, Json.getItem, again, isRetryable,
        bind, Except.bind, pure, Except.pure]

/-- On an answer the `try` block asks for another attempt exactly when the
answer is a retryable error and an attempt is left. -/
theorem tryAttempt_of_answer
    {data : Json}
    (replied : respond outcome = .ok data) (answer : Answer data) :
    (IsRetryableError policy outcome ∧ (attempt : ℤ) < policy.maxRetries ∧
        tryAttempt policy attempt outcome = .ok none) ∨
      (¬ (IsRetryableError policy outcome ∧
          (attempt : ℤ) < policy.maxRetries) ∧
        tryAttempt policy attempt outcome = .ok (some data)) := by
  cases answer with
  | result absent =>
      refine Or.inr ⟨?_, tryAttempt_of_result policy attempt replied absent⟩
      rintro ⟨⟨members, error, sameReply, present, _⟩, _⟩
      cases replied.symm.trans sameReply
      cases absent.symm.trans present
  | @error members error present =>
      have tried := tryAttempt_of_error policy attempt replied present
      by_cases again :
          (attempt : ℤ) < policy.maxRetries ∧
            retryable policy ((error.lookup "code").getD (.int 0))
      · rw [if_pos again] at tried
        exact Or.inl
          ⟨⟨members, error, replied, present, again.2⟩, again.1, tried⟩
      · rw [if_neg again] at tried
        refine Or.inr ⟨?_, tried⟩
        rintro ⟨⟨others, otherError, sameReply, found, isRetryable⟩, isLeft⟩
        cases replied.symm.trans sameReply
        cases present.symm.trans found
        exact again ⟨isLeft, isRetryable⟩

end Trying

section Reference

variable {policy : RetryPolicy} {outcomes : ℕ → PostOutcome}
variable {attempt left : ℕ}

theorem against_pass
    (payload : Json) (lastError : Option Exc) :
    Dialogue.against (serving outcomes) attempt
        (sendLoop policy payload (left + 1) attempt lastError) =
      let rest :=
        Dialogue.against (serving outcomes) (attempt + 1)
          (afterPost policy attempt lastError
            (fun error => sendLoop policy payload left (attempt + 1) error)
            (outcomes attempt))
      (⟨.post payload, outcomes attempt⟩ :: rest.1, rest.2) :=
  rfl

theorem against_sleepThen
    (seconds : ℚ) (posts : ℕ) (later : Wire SendResult) :
    Dialogue.against (serving outcomes) posts (sleepThen seconds later) =
      let rest := Dialogue.against (serving outcomes) posts later
      (⟨.sleep seconds, false⟩ :: rest.1, rest.2) :=
  rfl

/-- The last pass: its outcome ends the call, or no attempt is left. -/
theorem against_lastPass
    (payload : Json) (lastError : Option Exc)
    (answers : (outcomes attempt).IsAnswer)
    (isLast :
      Ends policy (outcomes attempt) ∨ (attempt : ℤ) = policy.maxRetries)
    (noneLeft : (attempt : ℤ) = policy.maxRetries → left = 0) :
    Dialogue.against (serving outcomes) attempt
        (sendLoop policy payload (left + 1) attempt lastError) =
      (attempts policy payload outcomes attempt 0,
        resultAt policy (outcomes attempt)) := by
  rw [against_pass, attempts, resultAt, afterPost]
  cases replied : respond (outcomes attempt) with
  | ok data =>
      rcases tryAttempt_of_answer policy attempt replied
        (answers data replied) with
        ⟨isRetryable, isLeft, _⟩ | ⟨_, tried⟩
      · rcases isLast with ⟨notRetryable, _⟩ | isLast
        · exact absurd isRetryable notRetryable
        · omega
      · rw [tried]
        rfl
  | error exc =>
      rw [tryAttempt_of_raised policy attempt replied]
      by_cases caught : isTransportError exc
      · rcases isLast with ⟨_, notCaught⟩ | isLast
        · exact absurd ⟨exc, replied, caught⟩ notCaught
        · have notLeft : ¬ (attempt : ℤ) < policy.maxRetries := by omega
          obtain rfl := noneLeft isLast
          simp only [caught, notLeft, if_true, if_false]
          rfl
      · simp only [caught, if_false, Bool.false_eq_true]
        rfl

/-- A pass before the last one: it sleeps and another pass follows. -/
theorem against_earlierPass
    (payload : Json) (lastError : Option Exc) (left : ℕ)
    (answers : (outcomes attempt).IsAnswer)
    (goesOn : ¬ Ends policy (outcomes attempt))
    (isLeft : (attempt : ℤ) < policy.maxRetries) :
    ∃ nextError,
      Dialogue.against (serving outcomes) attempt
          (sendLoop policy payload (left + 1) attempt lastError) =
        (⟨.post payload, outcomes attempt⟩ ::
            ⟨.sleep (delay policy attempt), false⟩ ::
            (Dialogue.against (serving outcomes) (attempt + 1)
              (sendLoop policy payload left (attempt + 1) nextError)).1,
          (Dialogue.against (serving outcomes) (attempt + 1)
            (sendLoop policy payload left (attempt + 1) nextError)).2) := by
  rw [against_pass, afterPost]
  cases replied : respond (outcomes attempt) with
  | ok data =>
      rcases tryAttempt_of_answer policy attempt replied
        (answers data replied) with
        ⟨_, _, tried⟩ | ⟨notRetried, _⟩
      · rw [tried]
        exact ⟨lastError, by simp only [against_sleepThen]⟩
      · refine absurd ⟨fun isRetryable => notRetried ⟨isRetryable, isLeft⟩, ?_⟩
          goesOn
        rintro ⟨exc, raised, _⟩
        cases replied.symm.trans raised
  | error exc =>
      rw [tryAttempt_of_raised policy attempt replied]
      by_cases caught : isTransportError exc
      · simp only [caught, isLeft, if_true]
        exact ⟨some exc, by simp only [against_sleepThen]⟩
      · refine absurd ⟨?_, ?_⟩ goesOn
        · rintro ⟨members, error, returned, _⟩
          cases replied.symm.trans returned
        · rintro ⟨other, raised, isCaught⟩
          cases replied.symm.trans raised
          exact caught isCaught

/-- From any attempt on, by induction on the attempts that are left. -/
theorem against_sendLoop
    (payload : Json) (lastError : Option Exc)
    (answers : ∀ posts, (outcomes posts).IsAnswer)
    (budget : (left : ℤ) + attempt = policy.maxRetries) :
    ∃ more ≤ left,
      (∀ earlier < more, ¬ Ends policy (outcomes (attempt + earlier))) ∧
      (Ends policy (outcomes (attempt + more)) ∨ more = left) ∧
        Dialogue.against (serving outcomes) attempt
            (sendLoop policy payload (left + 1) attempt lastError) =
          (attempts policy payload outcomes attempt more,
            resultAt policy (outcomes (attempt + more))) := by
  induction left generalizing attempt lastError with
  | zero =>
      have isLast : (attempt : ℤ) = policy.maxRetries := by omega
      refine ⟨0, Nat.le_refl 0, fun _ earlier => absurd earlier (by omega),
        Or.inr rfl, ?_⟩
      exact against_lastPass payload lastError (answers attempt)
        (Or.inr isLast) fun _ => rfl
  | succ left inductionHypothesis =>
      by_cases ends : Ends policy (outcomes attempt)
      · refine ⟨0, Nat.zero_le _, fun _ earlier => absurd earlier (by omega),
          Or.inl ends, ?_⟩
        exact against_lastPass payload lastError (answers attempt) (Or.inl ends)
          fun isLast => absurd isLast (by omega)
      · obtain ⟨nextError, run⟩ :=
          against_earlierPass payload lastError (left + 1) (answers attempt)
            ends (by omega)
        have laterBudget :
            (left : ℤ) + (attempt + 1 : ℕ) = policy.maxRetries := by
          push_cast at budget ⊢
          omega
        obtain ⟨more, bounded, noneBefore, isEnd, rest⟩ :=
          inductionHypothesis nextError laterBudget
        have shift : attempt + 1 + more = attempt + (more + 1) := by omega
        refine ⟨more + 1, by omega, ?_, ?_, ?_⟩
        · rintro (_ | earlier) isEarlier
          · exact ends
          · have notEnds := noneBefore earlier (by omega)
            rwa [show attempt + 1 + earlier = attempt + (earlier + 1) by
              omega] at notEnds
        · rw [shift] at isEnd
          exact isEnd.imp_right (by omega)
        · rw [run, rest, attempts, shift]

/-- For every policy with a retry budget and every sequence of outcomes. -/
theorem sendWithCause_reference
    (policy : RetryPolicy) (payload : Json) (outcomes : ℕ → PostOutcome)
    (nonneg : 0 ≤ policy.maxRetries)
    (answers : ∀ posts, (outcomes posts).IsAnswer) :
    ∃ last,
      ReferenceRun policy payload outcomes policy.maxRetries.toNat last := by
  have budget :
      (policy.maxRetries.toNat : ℤ) + (0 : ℕ) = policy.maxRetries := by
    omega
  have passes :
      (policy.maxRetries + 1).toNat = policy.maxRetries.toNat + 1 := by
    omega
  obtain ⟨last, bounded, noneBefore, isEnd, run⟩ :=
    against_sendLoop payload none answers budget
  simp only [Nat.zero_add] at noneBefore isEnd run
  refine ⟨last, bounded, noneBefore, isEnd, ?_⟩
  rw [sendWithCause, passes]
  exact run

/-- One refused connection, then an answer. -/
def refusedOnce (posts : ℕ) : PostOutcome :=
  if posts = 0 then
    .raised (.connectError "All connection attempts failed")
  else
    .reply 200 (some (.obj [("result", .int 1)]))

theorem sendWithCause_reference_refusedOnce :
    ∃ last,
      ReferenceRun { maxRetries := 2 } (.obj [("id", .int 1)]) refusedOnce
        2 last := by
  have answers : ∀ posts, (refusedOnce posts).IsAnswer := by
    intro posts data replied
    rw [refusedOnce] at replied
    split at replied
    · cases replied
    · cases replied
      exact Answer.result rfl
  exact sendWithCause_reference { maxRetries := 2 } (.obj [("id", .int 1)])
    refusedOnce (by decide) answers

/-- The reference describes a run of the loop. -/
theorem ReferenceRun.runs
    {payload : Json} {retries last : ℕ}
    (reference : ReferenceRun policy payload outcomes retries last) :
    Dialogue.Runs (sendWithCause policy payload)
      (attempts policy payload outcomes 0 last)
      (resultAt policy (outcomes last)) := by
  have runs :=
    Dialogue.runs_against (serving outcomes) 0 (sendWithCause policy payload)
  rw [reference.run] at runs
  exact runs

end Reference

end KarstflowTests.Rpc

import Mathlib.Algebra.Order.Field.Rat
import KarstflowTests.Config
import KarstflowTests.Python.Exception

/-!
# One HTTP exchange and the retry loop

`respond` is `post`, `raise_for_status` and `json()` in a row.  The retry loop
is a small machine: `Sending.step` is one pass of the loop body, and a call is
sent by feeding it the attempts it meets, one after the other.
-/

namespace KarstflowTests.Rpc

/-! ## One exchange -/

/-- What a POST yields: an exception, or a status and a body (`none` when the
body is not JSON). -/
inductive PostOutcome where
  | raised (exc : Exc)
  | reply (status : ℕ) (body : Option Json)
  deriving DecidableEq

/-- The JSON of a successful response. -/
def respond : PostOutcome → Except Exc Json
  | .raised exc => .error exc
  | .reply status body =>
      if 200 ≤ status ∧ status < 300 then
        match body with
        | some data => .ok data
        | none => .error (.jsonDecodeError "Expecting value")
      else
        .error (.httpStatusError ("HTTP status " ++ toString status))

/-- The exceptions that lead to another attempt. -/
def isTransportError : Exc → Bool
  | .connectError _ => true
  | .readError _ => true
  | .timeoutException _ => true
  | _ => false

/-! ## One pass of the loop body -/

def delay (policy : RetryPolicy) (attempt : ℕ) : ℚ :=
  min (policy.backoffBase * 2 ^ attempt) policy.backoffMax

/-- `code in self._retry.retryable_codes` -/
def retryable (policy : RetryPolicy) (code : Json) : Bool :=
  policy.retryableCodes.any fun listed => code.pyEq (.int listed)

/-- The `try` block up to the sleep: the data to return, or `none` for a
retryable error. -/
def tryAttempt (policy : RetryPolicy) (attempt : ℕ)
    (outcome : PostOutcome) : Except Exc (Option Json) := do
  let data ← respond outcome
  let hasError ← data.contains "error"
  if hasError ∧ (attempt : ℤ) < policy.maxRetries then
    let error ← data.getItem "error"
    let code ← error.get "code" (.int 0)
    if retryable policy code then
      return none
  return some data

/-- How a pass ends: it leaves the loop, or goes on to the next attempt, after
a sleep unless it was the last one. -/
inductive Pass where
  | leaves (result : Except Exc Json)
  | sleeps (seconds : ℚ)
  | fallsThrough
  deriving DecidableEq

def pass (policy : RetryPolicy) (attempt : ℕ)
    (outcome : PostOutcome) : Pass :=
  match tryAttempt policy attempt outcome with
  | .ok (some data) => .leaves (.ok data)
  | .ok none => .sleeps (delay policy attempt)
  | .error exc =>
      if isTransportError exc then
        if (attempt : ℤ) < policy.maxRetries then
          .sleeps (delay policy attempt)
        else
          .fallsThrough
      else
        .leaves (.error exc)

/-! ## The loop -/

/-- What one pass meets: the outcome of its POST, and whether the call is
cancelled during its sleep. -/
structure Attempt where
  post : PostOutcome
  cancelled : Bool := false
  deriving DecidableEq

/-- Where a call stands: about to make an attempt, or out of the loop. -/
inductive Sending where
  | attempting (attempt : ℕ)
  | sent (result : Except Exc Json)
  deriving DecidableEq

def exhausted (policy : RetryPolicy) : Exc :=
  .connectionError
    ("RPC request failed after " ++ toString (policy.maxRetries + 1) ++
      " attempts")

namespace Sending

/-- `for attempt in range(max_retries + 1)`, at the given attempt. -/
def next (policy : RetryPolicy) (attempt : ℕ) : Sending :=
  if (attempt : ℤ) < policy.maxRetries + 1 then
    .attempting attempt
  else
    .sent (.error (exhausted policy))

def start (policy : RetryPolicy) : Sending := next policy 0

def step (policy : RetryPolicy) : Sending → Attempt → Sending
  | .attempting attempt, met =>
      match pass policy attempt met.post with
      | .leaves result => .sent result
      | .sleeps _ =>
          if met.cancelled then
            .sent (.error .cancelledError)
          else
            next policy (attempt + 1)
      | .fallsThrough => next policy (attempt + 1)
  | .sent result, _ => .sent result

end Sending

/-- `_send_with_retry` on the attempts that the call meets. -/
def sendWithRetry (policy : RetryPolicy) (attempts : List Attempt) :
    Sending :=
  attempts.foldl (Sending.step policy) (Sending.start policy)

/-! ## Outcomes -/

theorem respond_eq_ok_iff {outcome : PostOutcome} {data : Json} :
    respond outcome = .ok data ↔
      ∃ status, outcome = .reply status (some data) ∧
        200 ≤ status ∧ status < 300 := by
  cases outcome with
  | raised exc => simp [respond]
  | reply status body =>
      by_cases success : 200 ≤ status ∧ status < 300
      · cases body with
        | none => simp [respond, success]
        | some found => simp [respond, success]
      · simp only [respond, if_neg success, reduceCtorEq, false_iff]
        intro replied
        obtain ⟨other, same, inside⟩ := replied
        cases same
        exact success inside

section Trying

variable (policy : RetryPolicy) (attempt : ℕ) {outcome : PostOutcome}

theorem tryAttempt_of_raised
    {exc : Exc} (raised : respond outcome = .error exc) :
    tryAttempt policy attempt outcome = .error exc := by
  rw [tryAttempt, raised]
  rfl

theorem tryAttempt_of_result
    {members : List (String × Json)}
    (replied : respond outcome = .ok (.obj members))
    (absent : members.lookup "error" = none) :
    tryAttempt policy attempt outcome = .ok (some (.obj members)) := by
  simp [tryAttempt, replied, absent, bind, Except.bind, pure, Except.pure]

end Trying

/-! ## The attempts in a row -/

section Run

variable {policy : RetryPolicy}

theorem Sending.start_of_nonneg (enough : 0 ≤ policy.maxRetries) :
    Sending.start policy = .attempting 0 := by
  have inside : ((0 : ℕ) : ℤ) < policy.maxRetries + 1 := by
    push_cast
    omega
  rw [Sending.start, Sending.next, if_pos inside]

/-- Without an attempt the call fails. -/
theorem Sending.start_of_neg (negative : ¬ 0 ≤ policy.maxRetries) :
    Sending.start policy = .sent (.error (exhausted policy)) := by
  have outside : ¬ ((0 : ℕ) : ℤ) < policy.maxRetries + 1 := by
    push_cast
    omega
  rw [Sending.start, Sending.next, if_neg outside]

theorem foldl_step_sent
    (attempts : List Attempt) (result : Except Exc Json) :
    attempts.foldl (Sending.step policy) (.sent result) = .sent result := by
  induction attempts with
  | nil => rfl
  | cons met attempts inductionHypothesis =>
      rw [List.foldl_cons, Sending.step]
      exact inductionHypothesis

end Run

end KarstflowTests.Rpc

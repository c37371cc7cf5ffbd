import KarstflowTests.Library.Dialogue
import KarstflowTests.Rpc.Instrumented

/-!
# The two clients as programs

The methods of `RpcClient` and `InstrumentedRpcClient` as programs on the fields
of a client, which POST, sleep and read the clock.  A method that is called
through `self` is taken from `Methods`: the instrumented class puts its own
`request` and `request_raw` there, so that whatever goes through these two is
intercepted.

The hooks of an interceptor are arbitrary programs too.  They get the very
objects that are sent and returned, and may change them.
-/

namespace KarstflowTests.Rpc

open KarstflowTests.Library

/-! ## Programs -/

/-- What a client asks of its surroundings.  `pause` is whatever a hook awaits
on its own. -/
inductive WireQuery where
  | post (payload : Json)
  | sleep (seconds : ℚ)
  | clock
  | pause

/-- A sleep is answered by whether the call is cancelled meanwhile. -/
def WireQuery.Answer : WireQuery → Type
  | post _ => PostOutcome
  | sleep _ => Bool
  | clock => ℚ
  | pause => Unit

/-- The queries that do not concern the server. -/
def WireQuery.silent : WireQuery → Bool
  | clock => true
  | pause => true
  | _ => false

abbrev Wire := Dialogue WireQuery WireQuery.Answer

/-- The fields of a client that change; `middleware` is the state of its
interceptors. -/
structure ClientObject (σ : Type) where
  requestId : ℕ
  middleware : σ

abbrev Program (σ : Type) := ExceptT Exc (StateT (ClientObject σ) Wire)

section Primitives

variable {σ α : Type}

def Program.start (program : Program σ α) (object : ClientObject σ) :
    Wire (Except Exc α × ClientObject σ) :=
  program.run.run object

/-- A dialogue that leaves the fields alone. -/
def converse (dialogue : Wire (Except Exc α)) : Program σ α :=
  ExceptT.mk (StateT.lift dialogue)

/-- A change of the id counter. -/
def counting (build : StateM ℕ α) : Program σ α := do
  let object ← get
  let (value, requestId) := build.run object.requestId
  set { object with requestId }
  return value

/-- `time.perf_counter()` or `time.time()` -/
def readClock : Program σ ℚ :=
  converse (.ask .clock fun reading => .done (.ok reading))

/-- The outcome of a program, which is not raised. -/
def attempt (program : Program σ α) : Program σ (Except Exc α) :=
  ExceptT.lift program.run

def giveOutcome (outcome : Except Exc α) : Program σ α :=
  converse (.done outcome)

end Primitives

/-! ## Sending -/

/-- What follows a POST: the end of the loop, or another pass, after a sleep
unless it was the last one. -/
def afterPass (ended : Pass) (again : Wire (Except Exc Json)) :
    Wire (Except Exc Json) :=
  match ended with
  | .leaves result => .done result
  | .sleeps seconds =>
      .ask (.sleep seconds) fun (cancelled : Bool) =>
        if cancelled then
          .done (.error .cancelledError)
        else
          again
  | .fallsThrough => again

/-- The passes of the loop of `_send_with_retry` that are left. -/
def sendPasses (policy : RetryPolicy) (payload : Json) :
    ℕ → ℕ → Wire (Except Exc Json)
  | 0, _ => .done (.error (exhausted policy))
  | left + 1, attempt =>
      .ask (.post payload) fun (outcome : PostOutcome) =>
        afterPass (pass policy attempt outcome)
          (sendPasses policy payload left (attempt + 1))

/-- Send with exponential backoff retry on retryable errors. -/
def sendOnWire (policy : RetryPolicy) (payload : Json) :
    Wire (Except Exc Json) :=
  sendPasses policy payload (policy.maxRetries + 1).toNat 0

/-- `post`, `raise_for_status` and `json()` without a retry. -/
def postOnWire (payload : Json) : Wire (Except Exc Json) :=
  .ask (.post payload) fun outcome => .done (respond outcome)

section Sending

variable {policy : RetryPolicy} {payload : Json}

/-- The outcome of an exchange, if it is a POST. -/
def posted : Dialogue.Exchange WireQuery WireQuery.Answer → Option PostOutcome
  | ⟨.post _, outcome⟩ => some outcome
  | _ => none

/-- A pass on the wire is a step of `Sending`: the loop ends, or goes on with
what is left of the exchanges. -/
theorem step_of_runs_afterPass
    {attempt : ℕ} {outcome : PostOutcome} {again : Wire (Except Exc Json)}
    {exchanges : List (Dialogue.Exchange WireQuery WireQuery.Answer)}
    {result : Except Exc Json}
    (runs :
      Dialogue.Runs (afterPass (pass policy attempt outcome) again) exchanges
        result) :
    ∃ met : Attempt, met.post = outcome ∧
      ((exchanges.filterMap posted = [] ∧
          Sending.step policy (.attempting attempt) met = .sent result) ∨
        ∃ rest, exchanges.filterMap posted = rest.filterMap posted ∧
          Dialogue.Runs again rest result ∧
          Sending.step policy (.attempting attempt) met =
            Sending.next policy (attempt + 1)) := by
  simp only [Sending.step]
  rcases passes : pass policy attempt outcome with ended | seconds | _
  · rw [passes] at runs
    obtain ⟨rfl, rfl⟩ := Dialogue.runs_done_iff.mp runs
    refine ⟨⟨outcome, false⟩, rfl, Or.inl ⟨rfl, ?_⟩⟩
    rw [passes]
  · rw [passes] at runs
    obtain ⟨cancelled, rest, rfl, later⟩ := Dialogue.runs_ask_iff.mp runs
    refine ⟨⟨outcome, cancelled⟩, rfl, ?_⟩
    rw [passes]
    cases cancelled with
    | true =>
        obtain ⟨rfl, rfl⟩ := Dialogue.runs_done_iff.mp later
        exact Or.inl ⟨rfl, rfl⟩
    | false => exact Or.inr ⟨rest, rfl, later, rfl⟩
  · rw [passes] at runs
    refine ⟨⟨outcome, false⟩, rfl, Or.inr ⟨exchanges, rfl, runs, ?_⟩⟩
    rw [passes]

theorem foldl_step_of_runs_sendPasses
    {left attempt : ℕ}
    {exchanges : List (Dialogue.Exchange WireQuery WireQuery.Answer)}
    {result : Except Exc Json}
    (rest : left + attempt = (policy.maxRetries + 1).toNat)
    (runs :
      Dialogue.Runs (sendPasses policy payload left attempt) exchanges
        result) :
    ∃ attempts : List Attempt,
      attempts.map Attempt.post = exchanges.filterMap posted ∧
      attempts.foldl (Sending.step policy) (Sending.next policy attempt) =
        .sent result := by
  induction left generalizing attempt exchanges with
  | zero =>
      have out : ¬ (attempt : ℤ) < policy.maxRetries + 1 := by omega
      obtain ⟨rfl, rfl⟩ := Dialogue.runs_done_iff.mp runs
      exact ⟨[], rfl, if_neg out⟩
  | succ left inductionHypothesis =>
      have inside : (attempt : ℤ) < policy.maxRetries + 1 := by omega
      rw [Sending.next, if_pos inside]
      obtain ⟨outcome, exchanges, rfl, later⟩ := Dialogue.runs_ask_iff.mp runs
      obtain ⟨met, rfl, ⟨none, ends⟩ | ⟨others, same, again, goesOn⟩⟩ :=
        step_of_runs_afterPass later
      · refine ⟨[met], ?_, ends⟩
        exact congrArg (met.post :: ·) none.symm
      · obtain ⟨attempts, sameOutcomes, sent⟩ :=
          inductionHypothesis (by omega) again
        refine ⟨met :: attempts, ?_, ?_⟩
        · exact congrArg (met.post :: ·) (sameOutcomes.trans same.symm)
        · rw [List.foldl_cons, goesOn]
          exact sent

/-- Every run of the loop on the wire is one of `sendWithRetry`. -/
theorem sendWithRetry_of_runs
    {exchanges : List (Dialogue.Exchange WireQuery WireQuery.Answer)}
    {result : Except Exc Json}
    (runs : Dialogue.Runs (sendOnWire policy payload) exchanges result) :
    ∃ attempts : List Attempt,
      attempts.map Attempt.post = exchanges.filterMap posted ∧
      sendWithRetry policy attempts = .sent result :=
  foldl_step_of_runs_sendPasses (Nat.add_zero _) runs

end Sending

/-! ## The base class -/

/-- The methods that other methods call through `self`. -/
structure Methods (σ : Type) where
  request : Request → Bool → Program σ Returned
  requestRaw : Request → Program σ Returned
  batch : List Request → Program σ Returned

namespace RpcClient

section Class

variable {σ : Type} (policy : RetryPolicy) (default : Commitment)
variable (self : Methods σ)

/-- Send a JSON-RPC request. -/
def request (made : Request) (raw : Bool) : Program σ Returned := do
  let payload ← counting (buildPayload made)
  let data ← converse (sendOnWire policy payload)
  let response ← giveOutcome (parseResponse data)
  if raw then
    return .response response
  return .result (← giveOutcome response.unwrap)

/-- Send a request and return full typed response. -/
def requestRaw (made : Request) : Program σ Returned := do
  let payload ← counting (buildPayload made)
  let data ← converse (sendOnWire policy payload)
  return .response (← giveOutcome (parseResponse data))

/-- Send a batch of JSON-RPC requests. -/
def batch (requests : List Request) : Program σ Returned := do
  let payloads ← counting (requests.mapM buildPayload)
  let body ← converse (postOnWire (.arr payloads))
  return .responses (← giveOutcome (readBatch body))

def execute (spec : Request) : Program σ Returned :=
  self.request spec false

def executeRaw (spec : Request) : Program σ Returned :=
  self.requestRaw spec

def executeBatch (specs : List Request) : Program σ Returned :=
  self.batch specs

/-- Any of the typed wrappers. -/
def typed (call : TypedCall) : Program σ Returned :=
  self.request (call.request default) false

def methods : Methods σ where
  request := request policy
  requestRaw := requestRaw policy
  batch := batch

def call : Operation → Program σ Returned
  | .request made raw => (methods policy).request made raw
  | .requestRaw made => (methods policy).requestRaw made
  | .execute spec => execute (methods policy) spec
  | .executeRaw spec => executeRaw (methods policy) spec
  | .batch requests => (methods policy).batch requests
  | .executeBatch specs => executeBatch (methods policy) specs
  | .typed made => typed default (methods policy) made

end Class

end RpcClient

/-! ## The hooks -/

/-- An interceptor whose hooks are programs.  They give back what they make of
the objects they get: `before` the parameters, and `after` the parameters, the
result and the error dict. -/
structure ProgramInterceptor (σ : Type) where
  before : Request → Program σ (Option (List Json))
  after : CallReport → Program σ CallReport

section Hooks

variable {σ : Type}

/-- An action on the state of the interceptors. -/
def onMiddleware {α : Type} (action : Action σ α) : Program σ α := do
  let object ← get
  let (outcome, middleware) := action.run.run object.middleware
  set { object with middleware }
  giveOutcome outcome

/-- An interceptor whose hooks only act on that state. -/
def Interceptor.asProgram (interceptor : Interceptor σ) :
    ProgramInterceptor σ where
  before request := do
    onMiddleware (interceptor.before request)
    return request.params
  after report := do
    let now ← readClock
    onMiddleware (interceptor.after report now)
    return report

/-- The loop of `run_before`, and the request that is sent after it. -/
def runBeforePrograms (chain : List (ProgramInterceptor σ))
    (request : Request) : Program σ Request :=
  match chain with
  | [] => return request
  | interceptor :: rest => do
      let params ← interceptor.before request
      runBeforePrograms rest { request with params }

/-- The loop of `run_after`, and the result that is returned after it. -/
def runAfterPrograms (chain : List (ProgramInterceptor σ))
    (report : CallReport) : Program σ Returned :=
  match chain with
  | [] => return report.result
  | interceptor :: rest => do
      let left ← interceptor.after report
      runAfterPrograms rest
        { report with
          request.params := left.request.params
          result := left.result
          error := left.error }

end Hooks

/-! ## The instrumented class -/

namespace InstrumentedRpcClient

section Class

variable {σ : Type} (policy : RetryPolicy) (default : Commitment)
variable (rendering : Rendering) (chain : List (ProgramInterceptor σ))
variable (self : Methods σ)

/-- An overriding method around the inherited one: `run_before`, then the
`try`, `except` and `finally` clauses. -/
def intercepted (inherited : Request → Program σ Returned)
    (made : Request) : Program σ Returned := do
  let made ← runBeforePrograms chain made
  let start ← readClock
  let outcome ← attempt (inherited made)
  let elapsed := ((← readClock) - start) * 1000
  let result ←
    runAfterPrograms chain (reportOf rendering made outcome elapsed)
  match outcome with
  | .ok _ => return result
  | .error exc => throw exc

def request (made : Request) (raw : Bool) : Program σ Returned :=
  intercepted rendering chain (fun made => RpcClient.request policy made raw)
    made

def requestRaw (made : Request) : Program σ Returned :=
  intercepted rendering chain (RpcClient.requestRaw policy) made

def execute (spec : Request) : Program σ Returned :=
  self.request spec false

def executeRaw (spec : Request) : Program σ Returned :=
  self.requestRaw spec

def methods : Methods σ where
  request := request policy rendering chain
  requestRaw := requestRaw policy rendering chain
  batch := RpcClient.batch

def call : Operation → Program σ Returned
  | .request made raw => (methods policy rendering chain).request made raw
  | .requestRaw made => (methods policy rendering chain).requestRaw made
  | .execute spec => execute (methods policy rendering chain) spec
  | .executeRaw spec => executeRaw (methods policy rendering chain) spec
  | .batch requests => (methods policy rendering chain).batch requests
  | .executeBatch specs =>
      RpcClient.executeBatch (methods policy rendering chain) specs
  | .typed made =>
      RpcClient.typed default (methods policy rendering chain) made

end Class

end InstrumentedRpcClient

/-! ## Sequences of calls -/

/-- Make the calls one after the other, and collect their outcomes. -/
def callAll {σ : Type} (call : Operation → Program σ Returned) :
    List Operation → ClientObject σ → Wire (List (Except Exc Returned))
  | [], _ => .done []
  | operation :: rest, object => do
      let (outcome, object) ← (call operation).start object
      let outcomes ← callAll call rest object
      return outcome :: outcomes

end KarstflowTests.Rpc

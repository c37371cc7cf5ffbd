import KarstflowTests.Rpc.Wrappers

/-!
# How often the server executes a request

A POST may be executed by the server and still look to the client like one to
send again.  `request` then sends the same payload once more, so that the
server executes it once for every such POST, and at most once more.
-/

namespace KarstflowTests.Rpc

/-! ## The network -/

/-- What becomes of one POST on both sides. -/
inductive Delivery where
  | notReached (exc : Exc)
  | replyLost (exc : Exc)
  | timedOut (executed : Bool)
  | answered (executed : Bool) (status : ℕ) (body : Option Json)
  deriving DecidableEq

namespace Delivery

def executed : Delivery → Bool
  | notReached _ => false
  | replyLost _ => true
  | timedOut executed => executed
  | answered executed _ _ => executed

/-- What the client sees. -/
def post : Delivery → PostOutcome
  | notReached exc => .raised exc
  | replyLost exc => .raised exc
  | timedOut _ => .raised (.timeoutException "timed out")
  | answered _ status body => .reply status body

end Delivery

/-- One pass of the loop, with the delivery of its POST. -/
structure Exchange where
  delivery : Delivery
  cancelled : Bool := false
  deriving DecidableEq

def Exchange.met (exchange : Exchange) : Attempt where
  post := exchange.delivery.post
  cancelled := exchange.cancelled

/-- A JSON-RPC answer without an error. -/
def IsResult (data : Json) : Prop :=
  ∃ members, data = .obj members ∧ members.lookup "error" = none

/-- The server answers with a result only what it has executed. -/
def Exchange.Honest (exchange : Exchange) : Prop :=
  ∀ data, respond exchange.delivery.post = .ok data → IsResult data →
    exchange.delivery.executed = true

/-! ## The call -/

/-- The exchanges that a call makes of those that it would meet. -/
def exchangesMade (policy : RetryPolicy) :
    Sending → List Exchange → List Exchange
  | .sent _, _ => []
  | .attempting _, [] => []
  | .attempting attempt, exchange :: exchanges =>
      exchange ::
        exchangesMade policy
          (Sending.step policy (.attempting attempt) exchange.met) exchanges

structure RequestRun where
  payload : Json
  made : List Exchange
  /-- `none` while the call is still waiting -/
  returned : Option (Except Exc Returned)

/-- `request`, or `request_raw` when `raw` is set. -/
def requestRun
    (policy : RetryPolicy) (requestId : ℕ) (request : Request) (raw : Bool)
    (exchanges : List Exchange) : RequestRun where
  payload := ((buildPayload request).run requestId).1
  made := exchangesMade policy (Sending.start policy) exchanges
  returned :=
    match sendWithRetry policy (exchanges.map Exchange.met) with
    | .attempting _ => none
    | .sent result => some (readAnswer raw result)

/-- The code of the error in an answer, if it has one. -/
def errorCode (data : Json) : Except Exc (Option Json) := do
  if ← data.contains "error" then
    let error ← data.getItem "error"
    return some (← error.get "code" (.int 0))
  return none

/-- The outcome looks like one to send the payload again. -/
def looksLost (policy : RetryPolicy) (outcome : PostOutcome) : Bool :=
  match respond outcome with
  | .error exc => isTransportError exc
  | .ok data =>
      match errorCode data with
      | .ok (some code) => retryable policy code
      | _ => false

/-- The server executed the request and the client takes it for lost. -/
def Exchange.wasted (policy : RetryPolicy) (exchange : Exchange) : Bool :=
  exchange.delivery.executed && looksLost policy exchange.delivery.post

def countExecuted (exchanges : List Exchange) : ℕ :=
  exchanges.countP fun exchange => exchange.delivery.executed

def countWasted (policy : RetryPolicy) (exchanges : List Exchange) : ℕ :=
  exchanges.countP fun exchange => exchange.wasted policy

/-- A result came back, not an error. -/
def ReturnsResult : Except Exc Returned → Prop
  | .ok (.result _) => True
  | .ok (.response response) => response.error = none
  | _ => False

section

variable {policy : RetryPolicy}

/-! ## One pass -/

theorem not_transport_of_contains
    {value : Json} {key : String} {exc : Exc}
    (fails : value.contains key = .error exc) :
    isTransportError exc = false := by
  cases value with
  | obj members => cases fails
  | arr items => cases fails
  | str text => cases fails
  | _ => cases fails; rfl

theorem not_transport_of_getItem
    {value : Json} {key : String} {exc : Exc}
    (fails : value.getItem key = .error exc) :
    isTransportError exc = false := by
  cases value with
  | obj members =>
      rw [Json.getItem] at fails
      cases found : members.lookup key with
      | none =>
          rw [found] at fails
          cases fails
          rfl
      | some member =>
          rw [found] at fails
          cases fails
  | _ => cases fails; rfl

theorem not_transport_of_get
    {value default : Json} {key : String} {exc : Exc}
    (fails : value.get key default = .error exc) :
    isTransportError exc = false := by
  cases value with
  | obj members => cases fails
  | _ => cases fails; rfl

/-- What the `try` block makes of the JSON of a response. -/
theorem tryAttempt_cases
    (attempt : ℕ) {outcome : PostOutcome} {data : Json}
    (answered : respond outcome = .ok data) :
    tryAttempt policy attempt outcome = .ok (some data) ∨
    (∃ exc,
      tryAttempt policy attempt outcome = .error exc ∧
        isTransportError exc = false) ∨
    (tryAttempt policy attempt outcome = .ok none ∧
      (attempt : ℤ) < policy.maxRetries ∧
      looksLost policy outcome = true) := by
  simp only [tryAttempt, looksLost, errorCode, answered, bind, Except.bind]
  cases contains : data.contains "error" with
  | error exc =>
      exact Or.inr (Or.inl ⟨exc, rfl, not_transport_of_contains contains⟩)
  | ok hasError =>
      by_cases looks : hasError = true ∧ (attempt : ℤ) < policy.maxRetries
      · simp only [if_pos looks, if_pos looks.1]
        cases getItem : data.getItem "error" with
        | error exc =>
            exact
              Or.inr (Or.inl ⟨exc, rfl, not_transport_of_getItem getItem⟩)
        | ok error =>
            cases get : error.get "code" (.int 0) with
            | error exc =>
                simp only [get]
                exact Or.inr (Or.inl ⟨exc, rfl, not_transport_of_get get⟩)
            | ok code =>
                simp only [get]
                by_cases again : retryable policy code = true
                · exact Or.inr (Or.inr
                    ⟨by rw [if_pos again]; rfl, looks.2, again⟩)
                · exact Or.inl (by rw [if_neg again]; rfl)
      · simp only [if_neg looks]
        exact Or.inl rfl

theorem next_cases (policy : RetryPolicy) (attempt : ℕ) :
    (∃ exc, Sending.next policy attempt = .sent (.error exc)) ∨
    (Sending.next policy attempt = .attempting attempt ∧
      (attempt : ℤ) < policy.maxRetries + 1) := by
  rw [Sending.next]
  by_cases inside : (attempt : ℤ) < policy.maxRetries + 1
  · exact Or.inr ⟨if_pos inside, inside⟩
  · exact Or.inl ⟨_, if_neg inside⟩

theorem pass_of_error
    {attempt : ℕ} {outcome : PostOutcome} {exc : Exc}
    (fails : tryAttempt policy attempt outcome = .error exc) :
    pass policy attempt outcome =
      if isTransportError exc then
        if (attempt : ℤ) < policy.maxRetries then
          .sleeps (delay policy attempt)
        else
          .fallsThrough
      else
        .leaves (.error exc) := by
  rw [pass, fails]

theorem pass_cases
    (policy : RetryPolicy) (attempt : ℕ) (outcome : PostOutcome) :
    (∃ data,
      pass policy attempt outcome = .leaves (.ok data) ∧
        respond outcome = .ok data) ∨
    (∃ exc, pass policy attempt outcome = .leaves (.error exc)) ∨
    ((pass policy attempt outcome = .sleeps (delay policy attempt) ∨
        pass policy attempt outcome = .fallsThrough) ∧
      looksLost policy outcome = true) := by
  cases answered : respond outcome with
  | error exc =>
      have fails : tryAttempt policy attempt outcome = .error exc := by
        simp only [tryAttempt, answered, bind, Except.bind]
      rw [pass_of_error fails]
      by_cases transport : isTransportError exc = true
      · right
        right
        refine ⟨?_, by rw [looksLost, answered]; exact transport⟩
        rw [if_pos transport]
        by_cases again : (attempt : ℤ) < policy.maxRetries
        · exact Or.inl (if_pos again)
        · exact Or.inr (if_neg again)
      · exact Or.inr (Or.inl ⟨exc, if_neg transport⟩)
  | ok data =>
      rcases tryAttempt_cases attempt answered with
        returns | ⟨exc, fails, other⟩ | ⟨retries, _, lost⟩
      · exact Or.inl ⟨data, by rw [pass, returns], rfl⟩
      · have leaves := pass_of_error fails
        rw [other] at leaves
        exact Or.inr (Or.inl ⟨exc, leaves⟩)
      · exact Or.inr (Or.inr ⟨Or.inl (by rw [pass, retries]), lost⟩)

/-- A pass ends the call with an answer, with an exception, or leads to
another attempt because its outcome looks lost. -/
theorem step_cases
    (policy : RetryPolicy) (attempt : ℕ) (met : Attempt) :
    (∃ data,
      Sending.step policy (.attempting attempt) met = .sent (.ok data) ∧
        respond met.post = .ok data) ∨
    (∃ exc,
      Sending.step policy (.attempting attempt) met = .sent (.error exc)) ∨
    (Sending.step policy (.attempting attempt) met =
        .attempting (attempt + 1) ∧
      ((attempt + 1 : ℕ) : ℤ) < policy.maxRetries + 1 ∧
      looksLost policy met.post = true) := by
  rw [Sending.step]
  rcases pass_cases policy attempt met.post with
    ⟨data, leaves, answered⟩ | ⟨exc, leaves⟩ | ⟨continues, lost⟩
  · exact Or.inl ⟨data, by rw [leaves], answered⟩
  · exact Or.inr (Or.inl ⟨exc, by rw [leaves]⟩)
  · right
    have goesOn := next_cases policy (attempt + 1)
    rcases continues with sleeps | falls
    · rw [sleeps]
      by_cases cancelled : met.cancelled = true
      · exact Or.inl ⟨_, if_pos cancelled⟩
      · simp only [if_neg cancelled]
        exact goesOn.imp id fun inside => ⟨inside.1, inside.2, lost⟩
    · rw [falls]
      exact goesOn.imp id fun inside => ⟨inside.1, inside.2, lost⟩

/-! ## Whole calls -/

/-- The JSON that a call returns is the JSON of one of the responses. -/
theorem respond_of_sent {data : Json}
    (attempts : List Attempt) (attempt : ℕ)
    (sent :
      attempts.foldl (Sending.step policy) (.attempting attempt) =
        .sent (.ok data)) :
    ∃ met ∈ attempts, respond met.post = .ok data := by
  induction attempts generalizing attempt with
  | nil => cases sent
  | cons met attempts inductionHypothesis =>
      rw [List.foldl_cons] at sent
      rcases step_cases policy attempt met with
        ⟨answer, leaves, answered⟩ | ⟨exc, leaves⟩ | ⟨continues, _, _⟩
      · rw [leaves, foldl_step_sent] at sent
        cases sent
        exact ⟨met, List.mem_cons_self, answered⟩
      · rw [leaves, foldl_step_sent] at sent
        cases sent
      · rw [continues] at sent
        obtain ⟨later, member, answered⟩ :=
          inductionHypothesis (attempt + 1) sent
        exact ⟨later, List.mem_cons_of_mem met member, answered⟩

/-- An attempt that meets a result ends the call. -/
theorem sendWithRetry_of_result
    (enough : 0 ≤ policy.maxRetries) {met : Attempt} {data : Json}
    (answered : respond met.post = .ok data) (result : IsResult data)
    (later : List Attempt) :
    sendWithRetry policy (met :: later) = .sent (.ok data) := by
  have ends :
      Sending.step policy (.attempting 0) met = .sent (.ok data) := by
    obtain ⟨members, rfl, absent⟩ := result
    have tried := tryAttempt_of_result policy 0 answered absent
    rw [Sending.step, Rpc.pass, tried]
  rw [sendWithRetry, Sending.start_of_nonneg enough, List.foldl_cons, ends,
    foldl_step_sent]

theorem exchangesMade_cons
    (attempt : ℕ) (exchange : Exchange) (exchanges : List Exchange) :
    exchangesMade policy (.attempting attempt) (exchange :: exchanges) =
      exchange ::
        exchangesMade policy
          (Sending.step policy (.attempting attempt) exchange.met)
          exchanges :=
  rfl

theorem exchangesMade_sent
    (result : Except Exc Json) (exchanges : List Exchange) :
    exchangesMade policy (.sent result) exchanges = [] := by
  cases exchanges with
  | nil => rfl
  | cons exchange exchanges => rfl

/-- No more exchanges than the attempts that are left. -/
theorem length_exchangesMade
    (exchanges : List Exchange) (attempt : ℕ)
    (inside : (attempt : ℤ) < policy.maxRetries + 1) :
    ((exchangesMade policy (.attempting attempt) exchanges).length : ℤ) ≤
      policy.maxRetries + 1 - attempt := by
  induction exchanges generalizing attempt with
  | nil =>
      rw [exchangesMade, List.length_nil]
      push_cast
      omega
  | cons exchange exchanges inductionHypothesis =>
      rw [exchangesMade_cons, List.length_cons]
      rcases step_cases policy attempt exchange.met with
        ⟨data, ends, _⟩ | ⟨exc, ends⟩ | ⟨continues, insideNext, _⟩
      · rw [ends, exchangesMade_sent, List.length_nil]
        push_cast
        omega
      · rw [ends, exchangesMade_sent, List.length_nil]
        push_cast
        omega
      · rw [continues]
        have rest := inductionHypothesis (attempt + 1) insideNext
        push_cast at rest ⊢
        omega

theorem countExecuted_cons (exchange : Exchange) (exchanges : List Exchange) :
    countExecuted (exchange :: exchanges) =
      countExecuted exchanges +
        if exchange.delivery.executed then 1 else 0 :=
  List.countP_cons

/-- An exchange that looks lost is wasted when it was executed. -/
theorem countWasted_cons_of_lost
    {exchange : Exchange} (exchanges : List Exchange)
    (lost : looksLost policy exchange.delivery.post = true) :
    countWasted policy (exchange :: exchanges) =
      countWasted policy exchanges +
        if exchange.delivery.executed then 1 else 0 := by
  rw [countWasted, List.countP_cons, Exchange.wasted, lost, Bool.and_true]
  rfl

theorem countExecuted_exchangesMade_le
    (sending : Sending) (exchanges : List Exchange) :
    countExecuted (exchangesMade policy sending exchanges) ≤
      1 + countWasted policy (exchangesMade policy sending exchanges) := by
  induction exchanges generalizing sending with
  | nil =>
      cases sending <;> exact Nat.zero_le _
  | cons exchange exchanges inductionHypothesis =>
      cases sending with
      | sent result =>
          rw [exchangesMade_sent]
          exact Nat.zero_le _
      | attempting attempt =>
          rw [exchangesMade_cons]
          have single :
              countExecuted [exchange] ≤
                1 + countWasted policy [exchange] := by
            have atMost : countExecuted [exchange] ≤ 1 :=
              List.countP_le_length
            omega
          rcases step_cases policy attempt exchange.met with
            ⟨data, ends, _⟩ | ⟨exc, ends⟩ | ⟨continues, _, lost⟩
          · rw [ends, exchangesMade_sent]
            exact single
          · rw [ends, exchangesMade_sent]
            exact single
          · rw [continues, countExecuted_cons,
              countWasted_cons_of_lost _ lost]
            have rest := inductionHypothesis (.attempting (attempt + 1))
            omega

/-- A result is not something to send again. -/
theorem looksLost_of_isResult
    {outcome : PostOutcome} {data : Json}
    (answered : respond outcome = .ok data) (result : IsResult data) :
    looksLost policy outcome = false := by
  obtain ⟨members, same, noError⟩ := result
  rw [looksLost, answered, same]
  simp only [errorCode, Json.contains, noError, bind, Except.bind]
  rfl

/-- A call that ends with a result has one execution that is not wasted. -/
theorem countExecuted_exchangesMade_of_result
    {data : Json} (result : IsResult data)
    {exchanges : List Exchange} {attempt : ℕ}
    (honest : ∀ exchange ∈ exchanges, exchange.Honest)
    (ends :
      (exchanges.map Exchange.met).foldl (Sending.step policy)
        (.attempting attempt) = .sent (.ok data)) :
    countExecuted (exchangesMade policy (.attempting attempt) exchanges) =
      1 + countWasted policy
        (exchangesMade policy (.attempting attempt) exchanges) := by
  induction exchanges generalizing attempt with
  | nil => cases ends
  | cons exchange exchanges inductionHypothesis =>
      rw [List.map_cons, List.foldl_cons] at ends
      rw [exchangesMade_cons]
      rcases step_cases policy attempt exchange.met with
        ⟨answer, leaves, answered⟩ | ⟨exc, leaves⟩ | ⟨continues, _, lost⟩
      · rw [leaves, foldl_step_sent] at ends
        cases ends
        have executed : exchange.delivery.executed = true :=
          honest exchange List.mem_cons_self data answered result
        have notLost : looksLost policy exchange.delivery.post = false :=
          looksLost_of_isResult answered result
        rw [leaves, exchangesMade_sent, countExecuted_cons, executed,
          countWasted, List.countP_cons, Exchange.wasted, notLost,
          Bool.and_false]
        rfl
      · rw [leaves, foldl_step_sent] at ends
        cases ends
      · rw [continues] at ends
        have honestRest : ∀ exchange ∈ exchanges, exchange.Honest :=
          (List.forall_mem_cons.mp honest).2
        have rest := inductionHypothesis honestRest ends
        rw [continues, countExecuted_cons, countWasted_cons_of_lost _ lost]
        omega

theorem isResult_of_returnsResult
    {raw : Bool} {sent : Except Exc Json}
    (returns : ReturnsResult (readAnswer raw sent)) :
    ∃ data, sent = .ok data ∧ IsResult data := by
  cases sent with
  | error exc => cases returns
  | ok data =>
      refine ⟨data, rfl, ?_⟩
      cases parses : parseResponse data with
      | error exc =>
          rw [readAnswer] at returns
          simp only [bind, Except.bind, parses] at returns
          cases returns
      | ok response =>
          have noError : response.error = none := by
            simp only [readAnswer, bind, Except.bind, parses] at returns
            cases raw with
            | true => exact returns
            | false =>
                cases error : response.error with
                | none => rfl
                | some error =>
                    simp [RpcResponse.unwrap, error, ReturnsResult]
                      at returns
          obtain ⟨answer, same⟩ := parseResponse_eq_ok_iff.mp parses
          rw [same] at noError
          cases answer with
          | result absent => exact ⟨_, rfl, absent⟩
          | error present =>
              simp [parsed, present] at noError

theorem length_exchangesMade_start (exchanges : List Exchange) :
    ((exchangesMade policy (Sending.start policy) exchanges).length : ℤ) ≤
      max 0 (policy.maxRetries + 1) := by
  rw [Sending.start]
  rcases next_cases policy 0 with ⟨exc, ends⟩ | ⟨begins, inside⟩
  · rw [ends, exchangesMade_sent]
    exact le_max_left 0 _
  · rw [begins]
    have bound := length_exchangesMade exchanges 0 inside
    have tight := le_max_right 0 (policy.maxRetries + 1)
    push_cast at bound
    omega

/-- The server executes the operation once for every POST that it executed and
the client took for lost, and at most once more; exactly once more when the
call returns a result. -/
theorem executions_of_request
    {policy : RetryPolicy} {requestId : ℕ} {request : Request} {raw : Bool}
    {exchanges : List Exchange} :
    let run := requestRun policy requestId request raw exchanges
    countExecuted run.made ≤ 1 + countWasted policy run.made ∧
      (countExecuted run.made : ℤ) ≤ max 0 (policy.maxRetries + 1) ∧
      ((∀ exchange ∈ exchanges, exchange.Honest) →
        ∀ answer, run.returned = some answer → ReturnsResult answer →
          countExecuted run.made = 1 + countWasted policy run.made) := by
  intro run
  have atMost : countExecuted run.made ≤ run.made.length :=
    List.countP_le_length
  refine ⟨countExecuted_exchangesMade_le _ _, ?_, ?_⟩
  · have length : (run.made.length : ℤ) ≤ max 0 (policy.maxRetries + 1) :=
      length_exchangesMade_start exchanges
    omega
  · intro honest answer returned result
    cases ends : sendWithRetry policy (exchanges.map Exchange.met) with
    | attempting attempt =>
        simp only [run, requestRun, ends] at returned
        cases returned
    | sent sent =>
        simp only [run, requestRun, ends] at returned
        cases returned
        obtain ⟨data, same, isResult⟩ := isResult_of_returnsResult result
        rw [same, sendWithRetry, Sending.start] at ends
        simp only [run, requestRun, Sending.start]
        rcases next_cases policy 0 with ⟨exc, done⟩ | ⟨begins, _⟩
        · rw [done, foldl_step_sent] at ends
          cases ends
        · rw [begins] at ends ⊢
          exact countExecuted_exchangesMade_of_result isResult honest ends

end

/-! ## An airdrop whose reply is lost -/

def airdrop : Request :=
  (TypedCall.requestAirdrop "alice" 1000000000).request .confirmed

/-- The connection breaks before the first reply; the second arrives. -/
def lostAirdrop : List Exchange :=
  [{ delivery := .replyLost (.readError "connection reset") },
    { delivery :=
        .answered true 200
          (some (.obj
            [("jsonrpc", .str "2.0"), ("id", .int 1),
              ("result", .str "signature")])) }]

theorem honest_lostAirdrop :
    ∀ exchange ∈ lostAirdrop, exchange.Honest := by
  intro exchange member data answered result
  cases member with
  | head => rfl
  | tail _ member =>
      cases member with
      | head => rfl
      | tail _ member => cases member

theorem executions_of_lostAirdrop :
    let run := requestRun {} 0 airdrop false lostAirdrop
    run.returned = some (.ok (.result (.str "signature"))) ∧
      countExecuted run.made = 1 + countWasted {} run.made := by
  have executions := @executions_of_request {} 0 airdrop false lostAirdrop
  exact ⟨rfl, executions.2.2 honest_lostAirdrop
    (.ok (.result (.str "signature"))) rfl trivial⟩

/-- One call that returns a result, and two airdrops. -/
theorem airdrop_executed_twice :
    (∀ exchange ∈ lostAirdrop, exchange.Honest) ∧
      (requestRun {} 0 airdrop false lostAirdrop).returned =
        some (.ok (.result (.str "signature"))) ∧
      countExecuted (requestRun {} 0 airdrop false lostAirdrop).made = 2 :=
  ⟨honest_lostAirdrop, rfl, rfl⟩

end KarstflowTests.Rpc

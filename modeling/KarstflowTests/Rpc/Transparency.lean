import KarstflowTests.Rpc.InstrumentedRuns
import KarstflowTests.Rpc.Overrides

/-!
# The instrumented client against the plain one

An interceptor observes if its hooks return normally, ask the server nothing
and leave the id counter and the objects they get alone.  A client with
observers sends what `RpcClient` sends, with the same retries, and every call
has the same outcome: `refines_of_observers`.

Not to raise is not enough: a hook gets the very list of parameters that is
sent and the very result that is returned.
-/

namespace KarstflowTests.Rpc

open KarstflowTests.Library

/-! ## Simulation -/

section Simulation

variable {σ τ α β : Type}

/-- However the program is answered, it asks silent queries only, leaves the
counter alone, and its outcome satisfies `post`. -/
def Unobtrusive (program : Program σ α) (post : Except Exc α → Prop) : Prop :=
  ∀ object : ClientObject σ,
    Dialogue.Quiet WireQuery.silent
      (fun ended => post ended.1 ∧ ended.2.requestId = object.requestId)
      (program.start object)

/-- The same outcome, and the same counter. -/
def SameEnd (ended : Except Exc α × ClientObject σ)
    (other : Except Exc α × ClientObject τ) : Prop :=
  ended.1 = other.1 ∧ ended.2.requestId = other.2.requestId

/-- From equal counters the program follows the plain one to the same end. -/
def Simulates (program : Program σ α) (plain : Program τ α) : Prop :=
  ∀ (object : ClientObject σ) (other : ClientObject τ),
    object.requestId = other.requestId →
    Dialogue.Follows WireQuery.silent SameEnd
      (program.start object) (plain.start other)

/-- Where a block goes on from the end of its first part. -/
def goOn (continuation : α → Program σ β)
    (ended : Except Exc α × ClientObject σ) :
    Wire (Except Exc β × ClientObject σ) :=
  match ended.1 with
  | .ok value => (continuation value).start ended.2
  | .error exc => .done (.error exc, ended.2)

theorem start_bind
    (program : Program σ α) (continuation : α → Program σ β)
    (object : ClientObject σ) :
    (program >>= continuation).start object =
      (program.start object).andThen (goOn continuation) := by
  have continues :
      (fun ended : Except Exc α × ClientObject σ =>
        (ExceptT.bindCont continuation ended.1).run ended.2) =
        goOn continuation := by
    funext ended
    rcases ended with ⟨outcome, left⟩
    cases outcome <;> rfl
  rw [← continues]
  rfl

theorem start_attempt
    (program : Program σ α) (object : ClientObject σ) :
    (attempt program).start object =
      (program.start object).andThen fun ended =>
        .done (.ok ended.1, ended.2) :=
  rfl

theorem start_converse
    (dialogue : Wire (Except Exc α)) (object : ClientObject σ) :
    (converse dialogue).start object =
      dialogue.andThen fun outcome => .done (outcome, object) :=
  rfl

/-! ### Unobtrusive programs -/

theorem Unobtrusive.pure
    {value : α} {post : Except Exc α → Prop} (holds : post (.ok value)) :
    Unobtrusive (pure value : Program σ α) post :=
  fun _ => .done ⟨holds, rfl⟩

theorem Unobtrusive.throw
    {exc : Exc} {post : Except Exc α → Prop} (holds : post (.error exc)) :
    Unobtrusive (throw exc : Program σ α) post :=
  fun _ => .done ⟨holds, rfl⟩

theorem unobtrusive_readClock :
    Unobtrusive (readClock : Program σ ℚ)
      fun outcome => ∃ reading, outcome = .ok reading :=
  fun _ => .ask rfl fun reading => .done ⟨⟨reading, rfl⟩, rfl⟩

theorem Unobtrusive.bind
    {program : Program σ α} {continuation : α → Program σ β}
    {middle : Except Exc α → Prop} {post : Except Exc β → Prop}
    (first : Unobtrusive program middle)
    (rest :
      ∀ outcome, middle outcome →
        ∃ value, outcome = .ok value ∧
          Unobtrusive (continuation value) post) :
    Unobtrusive (program >>= continuation) post := by
  intro object
  rw [start_bind]
  apply (first object).andThen
  rintro ⟨outcome, left⟩ ⟨holds, sameId⟩
  obtain ⟨value, rfl, continues⟩ := rest outcome holds
  apply (continues left).mono
  rintro ended ⟨ends, keepsId⟩
  exact ⟨ends, keepsId.trans sameId⟩

/-! ### Programs that simulate -/

theorem Simulates.pure (value : α) :
    Simulates (pure value : Program σ α) (pure value : Program τ α) :=
  fun _ _ sameId => .done ⟨rfl, sameId⟩

theorem Simulates.bind
    {program : Program σ α} {plain : Program τ α}
    {continuation : α → Program σ β} {continued : α → Program τ β}
    (first : Simulates program plain)
    (rest : ∀ value, Simulates (continuation value) (continued value)) :
    Simulates (program >>= continuation) (plain >>= continued) := by
  intro object other sameId
  rw [start_bind, start_bind]
  apply (first object other sameId).andThen
  rintro ⟨outcome, left⟩ ⟨_, otherLeft⟩ ⟨rfl, agree⟩
  cases outcome with
  | ok value => exact rest value left otherLeft agree
  | error exc => exact .done ⟨rfl, agree⟩

/-- Before the rest of a block stands an unobtrusive program. -/
theorem Simulates.after_unobtrusive
    {program : Program σ α} {continuation : α → Program σ β}
    {plain : Program τ β} {middle : Except Exc α → Prop}
    (first : Unobtrusive program middle)
    (rest :
      ∀ outcome, middle outcome →
        ∃ value, outcome = .ok value ∧
          Simulates (continuation value) plain) :
    Simulates (program >>= continuation) plain := by
  intro object other sameId
  rw [start_bind]
  apply Dialogue.Follows.after_quiet (first object)
  rintro ⟨outcome, left⟩ ⟨holds, keepsId⟩
  obtain ⟨value, rfl, continues⟩ := rest outcome holds
  exact continues left other (keepsId.trans sameId)

/-- Behind an attempt stands an unobtrusive program that ends as the attempt
did. -/
theorem Simulates.before_unobtrusive
    {program : Program σ α} {plain : Program τ α}
    {continuation : Except Exc α → Program σ α}
    (first : Simulates program plain)
    (rest :
      ∀ outcome, Unobtrusive (continuation outcome) (· = outcome)) :
    Simulates (attempt program >>= continuation) plain := by
  intro object other sameId
  rw [start_bind, start_attempt, Dialogue.andThen_assoc]
  apply (first object other sameId).before_quiet
  rintro ⟨outcome, left⟩ ⟨_, otherLeft⟩ ⟨rfl, agree⟩
  apply (rest outcome left).mono
  rintro ended ⟨rfl, keepsId⟩
  exact ⟨rfl, keepsId.trans agree⟩

theorem simulates_converse
    {dialogue : Wire (Except Exc α)}
    (follows : Dialogue.Follows WireQuery.silent Eq dialogue dialogue) :
    Simulates (converse dialogue : Program σ α)
      (converse dialogue : Program τ α) := by
  intro object other sameId
  rw [start_converse, start_converse]
  apply follows.andThen
  rintro outcome _ rfl
  exact .done ⟨rfl, sameId⟩

theorem simulates_giveOutcome (outcome : Except Exc α) :
    Simulates (giveOutcome outcome : Program σ α)
      (giveOutcome outcome : Program τ α) :=
  simulates_converse (.done rfl)

theorem simulates_counting (build : StateM ℕ α) :
    Simulates (counting build : Program σ α)
      (counting build : Program τ α) := by
  rintro ⟨requestId, middleware⟩ ⟨_, otherMiddleware⟩ rfl
  exact .done ⟨rfl, rfl⟩

end Simulation

/-! ## The methods of the base class -/

section Base

variable {σ τ : Type} {policy : RetryPolicy}

theorem follows_sendPasses
    (payload : Json) (left attempt : ℕ) :
    Dialogue.Follows WireQuery.silent Eq
      (sendPasses policy payload left attempt)
      (sendPasses policy payload left attempt) := by
  induction left generalizing attempt with
  | zero => exact .done rfl
  | succ left inductionHypothesis =>
      refine .ask rfl fun outcome => ?_
      have again := inductionHypothesis (attempt + 1)
      rcases pass policy attempt outcome with result | seconds | _
      · exact .done rfl
      · refine .ask rfl fun cancelled => ?_
        cases cancelled with
        | true => exact .done rfl
        | false => exact again
      · exact again

theorem simulates_send (payload : Json) :
    Simulates (converse (sendOnWire policy payload) : Program σ Json)
      (converse (sendOnWire policy payload) : Program τ Json) :=
  simulates_converse (follows_sendPasses payload _ 0)

/-- The part that `request` and `request_raw` share. -/
theorem simulates_fetch
    (made : Request) {continuation : RpcResponse → Program σ Returned}
    {continued : RpcResponse → Program τ Returned}
    (rest :
      ∀ response, Simulates (continuation response) (continued response)) :
    Simulates
      (do
        let payload ← counting (buildPayload made)
        let data ← converse (sendOnWire policy payload)
        let response ← giveOutcome (parseResponse data)
        continuation response)
      (do
        let payload ← counting (buildPayload made)
        let data ← converse (sendOnWire policy payload)
        let response ← giveOutcome (parseResponse data)
        continued response) := by
  apply (simulates_counting (buildPayload made)).bind
  intro payload
  apply (simulates_send payload).bind
  intro data
  exact (simulates_giveOutcome (parseResponse data)).bind rest

theorem simulates_request (made : Request) (raw : Bool) :
    Simulates (RpcClient.request policy made raw : Program σ Returned)
      (RpcClient.request policy made raw : Program τ Returned) := by
  apply simulates_fetch made
  intro response
  cases raw with
  | true => exact Simulates.pure _
  | false =>
      apply (simulates_giveOutcome response.unwrap).bind
      intro value
      exact Simulates.pure _

theorem simulates_requestRaw (made : Request) :
    Simulates (RpcClient.requestRaw policy made : Program σ Returned)
      (RpcClient.requestRaw policy made : Program τ Returned) := by
  apply simulates_fetch made
  intro response
  exact Simulates.pure _

theorem simulates_batch (requests : List Request) :
    Simulates (RpcClient.batch requests : Program σ Returned)
      (RpcClient.batch requests : Program τ Returned) := by
  apply (simulates_counting (requests.mapM buildPayload)).bind
  intro payloads
  have posts :
      Dialogue.Follows WireQuery.silent Eq (postOnWire (.arr payloads))
        (postOnWire (.arr payloads)) :=
    .ask rfl fun outcome => .done rfl
  apply (simulates_converse posts).bind
  intro body
  apply (simulates_giveOutcome (readBatch body)).bind
  intro responses
  exact Simulates.pure _

end Base

/-! ## Observers -/

/-- Neither hook raises, uses the client or changes what it is given. -/
structure ProgramInterceptor.Observes {σ : Type}
    (interceptor : ProgramInterceptor σ) : Prop where
  before : ∀ request,
    Unobtrusive (interceptor.before request) (· = .ok request.params)
  after : ∀ report,
    Unobtrusive (interceptor.after report) (· = .ok report)

section Observers

variable {σ τ : Type} {policy : RetryPolicy} {default : Commitment}
variable {rendering : Rendering} {chain : List (ProgramInterceptor σ)}

theorem unobtrusive_runBefore
    (observers : ∀ interceptor ∈ chain, interceptor.Observes)
    (request : Request) :
    Unobtrusive (runBeforePrograms chain request) (· = .ok request) := by
  induction chain with
  | nil => exact Unobtrusive.pure rfl
  | cons interceptor rest inductionHypothesis =>
      obtain ⟨observes, others⟩ := List.forall_mem_cons.mp observers
      apply (observes.before request).bind
      rintro _ rfl
      exact ⟨_, rfl, inductionHypothesis others⟩

theorem unobtrusive_runAfter
    (observers : ∀ interceptor ∈ chain, interceptor.Observes)
    (report : CallReport) :
    Unobtrusive (runAfterPrograms chain report) (· = .ok report.result) := by
  induction chain with
  | nil => exact Unobtrusive.pure rfl
  | cons interceptor rest inductionHypothesis =>
      obtain ⟨observes, others⟩ := List.forall_mem_cons.mp observers
      apply (observes.after report).bind
      rintro _ rfl
      exact ⟨_, rfl, inductionHypothesis others⟩

/-- An overriding method simulates the inherited one. -/
theorem simulates_intercepted
    {inherited : Request → Program σ Returned}
    {made : Request} {plain : Program τ Returned}
    (observers : ∀ interceptor ∈ chain, interceptor.Observes)
    (simulates : Simulates (inherited made) plain) :
    Simulates
      (InstrumentedRpcClient.intercepted rendering chain inherited made)
      plain := by
  apply Simulates.after_unobtrusive (unobtrusive_runBefore observers made)
  rintro _ rfl
  refine ⟨made, rfl, ?_⟩
  apply Simulates.after_unobtrusive unobtrusive_readClock
  rintro _ ⟨start, rfl⟩
  refine ⟨start, rfl, ?_⟩
  apply simulates.before_unobtrusive
  intro outcome
  apply unobtrusive_readClock.bind
  rintro _ ⟨reading, rfl⟩
  refine ⟨reading, rfl, ?_⟩
  apply (unobtrusive_runAfter observers _).bind
  rintro _ rfl
  refine ⟨_, rfl, ?_⟩
  cases outcome with
  | ok returned => exact Unobtrusive.pure rfl
  | error exc => exact Unobtrusive.throw rfl

theorem simulates_call
    (observers : ∀ interceptor ∈ chain, interceptor.Observes)
    (operation : Operation) :
    Simulates
      (InstrumentedRpcClient.call policy default rendering chain operation)
      (RpcClient.call policy default operation : Program τ Returned) := by
  have request (made : Request) (raw : Bool) :
      Simulates
        (InstrumentedRpcClient.request policy rendering chain made raw)
        (RpcClient.request policy made raw : Program τ Returned) :=
    simulates_intercepted observers (simulates_request made raw)
  have requestRaw (made : Request) :
      Simulates
        (InstrumentedRpcClient.requestRaw policy rendering chain made)
        (RpcClient.requestRaw policy made : Program τ Returned) :=
    simulates_intercepted observers (simulates_requestRaw made)
  cases operation with
  | request made raw => exact request made raw
  | requestRaw made => exact requestRaw made
  | execute spec => exact request spec false
  | executeRaw spec => exact requestRaw spec
  | batch requests => exact simulates_batch requests
  | executeBatch specs => exact simulates_batch specs
  | typed made => exact request (made.request default) false

/-- Calls that simulate each other, one after the other. -/
theorem follows_callAll
    {call : Operation → Program σ Returned}
    {plain : Operation → Program τ Returned}
    (simulates : ∀ operation, Simulates (call operation) (plain operation))
    (operations : List Operation) {object : ClientObject σ}
    {other : ClientObject τ} (sameId : object.requestId = other.requestId) :
    Dialogue.Follows WireQuery.silent Eq (callAll call operations object)
      (callAll plain operations other) := by
  induction operations generalizing object other with
  | nil => exact .done rfl
  | cons operation rest inductionHypothesis =>
      apply (simulates operation object other sameId).andThen
      rintro ⟨outcome, left⟩ ⟨_, otherLeft⟩ ⟨rfl, agree⟩
      apply (inductionHypothesis agree).andThen
      rintro outcomes _ rfl
      exact .done rfl

end Observers

/-- Whatever calls are made, the two clients have the same runs: the same
payloads and sleeps in the same order, and the same outcomes. -/
def Refines {σ : Type} (policy : RetryPolicy) (default : Commitment)
    (rendering : Rendering) (chain : List (ProgramInterceptor σ))
    (middleware : σ) : Prop :=
  ∀ operations,
    Dialogue.SameRuns WireQuery.silent
      (callAll (InstrumentedRpcClient.call policy default rendering chain)
        operations ⟨0, middleware⟩)
      (callAll (RpcClient.call policy default) operations ⟨0, ()⟩)

theorem refines_of_observers
    {σ : Type} {policy : RetryPolicy} {default : Commitment}
    {rendering : Rendering} {chain : List (ProgramInterceptor σ)}
    (observers : ∀ interceptor ∈ chain, interceptor.Observes)
    (middleware : σ) :
    Refines policy default rendering chain middleware := by
  have answered (query : WireQuery) (isSilent : query.silent) :
      Nonempty query.Answer := by
    cases query with
    | clock => exact ⟨(0 : ℚ)⟩
    | pause => exact ⟨()⟩
    | post payload => exact absurd isSilent Bool.false_ne_true
    | sleep seconds => exact absurd isSilent Bool.false_ne_true
  intro operations
  apply Dialogue.sameRuns_of_follows answered
  exact follows_callAll (simulates_call observers) operations rfl

/-! ## Timing and recording -/

/-- Hooks that only act on their own state, and return, observe. -/
theorem observes_asProgram
    {σ : Type} {interceptor : Interceptor σ}
    (before :
      ∀ request state,
        ((interceptor.before request).run.run state).1 = .ok ())
    (after :
      ∀ report now state,
        ((interceptor.after report now).run.run state).1 = .ok ()) :
    interceptor.asProgram.Observes := by
  have acts {action : Action σ Unit}
      (returns : ∀ state, (action.run.run state).1 = .ok ()) :
      Unobtrusive (onMiddleware action) (· = .ok ()) :=
    fun object => .done ⟨returns object.middleware, rfl⟩
  constructor
  · intro request
    apply (acts (before request)).bind
    rintro _ rfl
    exact ⟨(), rfl, Unobtrusive.pure rfl⟩
  · intro report
    apply unobtrusive_readClock.bind
    rintro _ ⟨now, rfl⟩
    refine ⟨now, rfl, ?_⟩
    apply (acts (after report now)).bind
    rintro _ rfl
    exact ⟨(), rfl, Unobtrusive.pure rfl⟩

abbrev timingAndRecording : List (ProgramInterceptor DefaultMiddleware) :=
  [timingInterceptor.asProgram, recordingInterceptor.asProgram]

theorem observes_of_mem_timingAndRecording
    {interceptor : ProgramInterceptor DefaultMiddleware}
    (member : interceptor ∈ timingAndRecording) :
    interceptor.Observes := by
  rw [List.mem_pair] at member
  rcases member with rfl | rfl
  · exact observes_asProgram (fun _ _ => rfl) fun _ _ _ => rfl
  · exact observes_asProgram (fun _ _ => rfl) fun _ _ _ => rfl

theorem refines_timingAndRecording :
    Refines {} .confirmed plainRendering timingAndRecording {} :=
  refines_of_observers
    (fun _ member => observes_of_mem_timingAndRecording member) {}

/-! ## Hooks that do not raise -/

/-- No run of either hook ends with an exception. -/
structure ProgramInterceptor.NeverRaises {σ : Type}
    (interceptor : ProgramInterceptor σ) : Prop where
  before : ∀ request object exchanges ended,
    Dialogue.Runs ((interceptor.before request).start object) exchanges
      ended →
    ∃ params, ended.1 = .ok params
  after : ∀ report object exchanges ended,
    Dialogue.Runs ((interceptor.after report).start object) exchanges ended →
    ∃ left, ended.1 = .ok left

/-- `before` does `params.append("probe")` on a list of parameters. -/
def appendingInterceptor : ProgramInterceptor Unit where
  before request := return request.params.map (· ++ [.str "probe"])
  after report := return report

/-- `after` does `result.clear()` on a dict. -/
def clearingInterceptor : ProgramInterceptor Unit where
  before request := return request.params
  after report :=
    match report.result with
    | .result (.obj _) => return { report with result := .result (.obj []) }
    | _ => return report

/-- `before` makes a call of its own, with `batch`, and ignores how it ends. -/
def askingInterceptor : ProgramInterceptor Unit where
  before request := do
    let _ ← attempt (RpcClient.batch [⟨"getHealth", none⟩])
    return request.params
  after report := return report

theorem returned_of_runs_pure
    {σ α : Type} {value : α} {object : ClientObject σ}
    {exchanges : List (Dialogue.Exchange WireQuery WireQuery.Answer)}
    {ended : Except Exc α × ClientObject σ}
    (runs :
      Dialogue.Runs ((pure value : Program σ α).start object) exchanges
        ended) :
    ∃ returned, ended.1 = .ok returned := by
  obtain ⟨-, rfl⟩ := Dialogue.runs_done_iff.mp runs
  exact ⟨value, rfl⟩

theorem neverRaises_appendingInterceptor :
    appendingInterceptor.NeverRaises where
  before _ _ _ _ runs := returned_of_runs_pure runs
  after _ _ _ _ runs := returned_of_runs_pure runs

theorem neverRaises_clearingInterceptor :
    clearingInterceptor.NeverRaises where
  before _ _ _ _ runs := returned_of_runs_pure runs
  after report object exchanges ended runs := by
    simp only [clearingInterceptor] at runs
    split at runs
    · exact returned_of_runs_pure runs
    · exact returned_of_runs_pure runs

theorem neverRaises_askingInterceptor :
    askingInterceptor.NeverRaises where
  before request object exchanges ended runs := by
    simp only [askingInterceptor, start_bind, start_attempt,
      Dialogue.andThen_assoc] at runs
    obtain ⟨_, _, _, -, -, later⟩ := Dialogue.runs_of_andThen runs
    exact returned_of_runs_pure later
  after _ _ _ _ runs := returned_of_runs_pure runs

/-- An answer whose result is a dict. -/
def healthyAnswer : Json :=
  .obj [("jsonrpc", .str "2.0"), ("id", .int 1),
    ("result", .obj [("healthy", .bool true)])]

theorem refines_fails_of_appendingInterceptor :
    ¬ Refines {} .confirmed plainRendering [appendingInterceptor] () := by
  intro refines
  obtain ⟨full, sameVisible, runs⟩ :=
    (refines [.request ⟨"getSlot", some []⟩ false]
      [⟨.post (payload 1 ⟨"getSlot", some []⟩),
        PostOutcome.raised .cancelledError⟩]
      [.error .cancelledError]).mp (.ask (.done _))
  -- the clock is read, then the altered payload is sent
  obtain ⟨_, _, rfl, sends⟩ := Dialogue.runs_ask_iff.mp runs
  obtain ⟨_, _, rfl, _⟩ := Dialogue.runs_ask_iff.mp sends
  cases sameVisible

theorem refines_fails_of_askingInterceptor :
    ¬ Refines {} .confirmed plainRendering [askingInterceptor] () := by
  intro refines
  obtain ⟨full, sameVisible, runs⟩ :=
    (refines [.request ⟨"getSlot", none⟩ false]
      [⟨.post (payload 1 ⟨"getSlot", none⟩),
        PostOutcome.raised .cancelledError⟩]
      [.error .cancelledError]).mp (.ask (.done _))
  obtain ⟨_, _, rfl, _⟩ := Dialogue.runs_ask_iff.mp runs
  cases sameVisible

theorem refines_fails_of_clearingInterceptor :
    ¬ Refines {} .confirmed plainRendering [clearingInterceptor] () := by
  intro refines
  obtain ⟨full, sameVisible, runs⟩ :=
    (refines [.request ⟨"getHealth", none⟩ false]
      [⟨.post (payload 1 ⟨"getHealth", none⟩),
        PostOutcome.reply 200 (some healthyAnswer)⟩]
      [.ok (.result (.obj [("healthy", .bool true)]))]).mp (.ask (.done _))
  obtain ⟨_, _, rfl, sends⟩ := Dialogue.runs_ask_iff.mp runs
  obtain ⟨_, _, rfl, reads⟩ := Dialogue.runs_ask_iff.mp sends
  cases (List.cons.inj sameVisible).1
  -- the same payload is sent, and the answer is cleared
  obtain ⟨_, _, rfl, ends⟩ := Dialogue.runs_ask_iff.mp reads
  cases (Dialogue.runs_done_iff.mp ends).2

/-- Hooks that change the parameters, make a call or change the result show on
the wire, or to the caller. -/
theorem refines_fails :
    (appendingInterceptor.NeverRaises ∧
      ¬ Refines {} .confirmed plainRendering [appendingInterceptor] ()) ∧
    (askingInterceptor.NeverRaises ∧
      ¬ Refines {} .confirmed plainRendering [askingInterceptor] ()) ∧
    (clearingInterceptor.NeverRaises ∧
      ¬ Refines {} .confirmed plainRendering [clearingInterceptor] ()) :=
  ⟨⟨neverRaises_appendingInterceptor, refines_fails_of_appendingInterceptor⟩,
    ⟨neverRaises_askingInterceptor, refines_fails_of_askingInterceptor⟩,
    ⟨neverRaises_clearingInterceptor, refines_fails_of_clearingInterceptor⟩⟩

end KarstflowTests.Rpc

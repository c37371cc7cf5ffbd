import KarstflowTests.Library.Tally
import KarstflowTests.Rpc.Instrumented

/-!
# What the default chain has counted

In every run of the default chain the statistics count the finished calls that
were not batches, and the classifier files each of them under the key of its
report.

`errorsCounted_iff` derives from this when the counts are those of the final
answers: an error that `unwrap` raises is counted as `-1`, and neither a
cancelled call nor, on the raw path, an error whose code cannot be a dict key
is counted at all.
-/

namespace KarstflowTests.Rpc

open KarstflowTests.Library

/-! ## Counters in step with the calls -/

/-- The client with the default middleware. -/
abbrev defaultMachine (policy : RetryPolicy) (default : Commitment)
    (rendering : Rendering) :
    Machine (InstrumentedState DefaultMiddleware) InstrumentedLabel :=
  instrumentedMachine policy default rendering defaultMiddleware {}

/-- The chain has been given a report of the call. -/
def Call.reported (call : Call) : Bool :=
  match call.dispatch, call.progress with
  | .single _ _, .finished _ => true
  | _, _ => false

/-- The key under which the classifier counts the call. -/
def Call.countedKey (rendering : Rendering) (call : Call) : Option PyKey :=
  (call.report rendering 0).bind CallReport.countedKey

/-- The statistics count the reported calls, and the classifier counts each of
them under the key of its report. -/
structure CountersInvariant (rendering : Rendering)
    (state : InstrumentedState DefaultMiddleware) : Prop where
  totalCalls :
    state.middleware.stats.total MethodStats.callCount =
      state.client.calls.countP Call.reported
  byCode :
    ∀ key, (state.middleware.byCode.get? key).getD 0 =
      tally (Call.countedKey rendering) state.client.calls key

section Counters

variable {policy : RetryPolicy} {default : Commitment}
variable {rendering : Rendering} {clock : HookClock}
variable {state target : InstrumentedState DefaultMiddleware}

theorem report_of_sending
    {call : Call} {attempt : ℕ} {elapsedMs : ℚ}
    (underWay : call.progress = .sending attempt) :
    call.report rendering elapsedMs = none := by
  rw [Call.report, underWay]
  split <;> simp_all

/-- A step counts at most the call that it touches. -/
theorem DefaultStep.counts
    (step : DefaultStep rendering clock state target)
    {predicate : Call → Bool}
    (uncounted :
      ∀ (call : Call) (attempt : ℕ), call.progress = .sending attempt →
        predicate call = false) :
    ∃ call,
      target.middleware =
        observed rendering clock state.middleware call ∧
      target.client.calls.countP predicate =
        state.client.calls.countP predicate +
          if predicate call then 1 else 0 := by
  cases step with
  | started requestId call =>
      exact ⟨call, rfl, countP_append_singleton predicate call⟩
  | advanced requestId index attempt old call found underWay sameDispatch =>
      exact ⟨call, rfl,
        countP_set_of_not found (uncounted old attempt underWay)⟩

theorem step_defaultMachine
    {label : InstrumentedLabel}
    (taken :
      (defaultMachine policy default rendering).step state label =
        some target) :
    DefaultStep rendering label.clock state target ∧
      ∃ clientLabel,
        (callMachine policy default).step state.client clientLabel =
          some target.client := by
  cases label with
  | start operation clock =>
      cases taken
      have started :
          DefaultStep rendering clock state
              (startInstrumented policy default rendering defaultMiddleware
                state operation clock) ∧ _ :=
        startInstrumented_default operation
      exact ⟨started.1, .start operation, congrArg some started.2.symm⟩
  | post index met clock =>
      obtain ⟨step, client⟩ := postInstrumented_default taken
      exact ⟨step, .post index met, client⟩

/-- Underneath the instrumented client an ordinary client runs. -/
theorem client_reachable
    (reached : (defaultMachine policy default rendering).Reachable state) :
    (callMachine policy default).Reachable state.client := by
  induction reached with
  | initial =>
      exact Machine.ReachableUnder.initial
  | step _ _ taken inductionHypothesis =>
      obtain ⟨_, clientLabel, clientTaken⟩ := step_defaultMachine taken
      exact inductionHypothesis.step trivial clientTaken

theorem reported_eq (call : Call) (elapsedMs : ℚ) :
    call.reported = (call.report rendering elapsedMs).isSome := by
  obtain ⟨dispatch, payloads, progress⟩ := call
  cases dispatch <;> cases progress <;> rfl

theorem reported_of_sending (call : Call) (attempt : ℕ)
    (underWay : call.progress = .sending attempt) :
    call.reported = false := by
  rw [Call.reported, underWay]
  split <;> simp_all

theorem countedKey_eq (call : Call) (elapsedMs : ℚ) :
    call.countedKey rendering =
      (call.report rendering elapsedMs).bind CallReport.countedKey := by
  obtain ⟨dispatch, payloads, progress⟩ := call
  cases dispatch <;> cases progress <;> rfl

theorem countedKey_of_sending (key : PyKey) (call : Call) (attempt : ℕ)
    (underWay : call.progress = .sending attempt) :
    decide (call.countedKey rendering = some key) = false := by
  rw [Call.countedKey, report_of_sending underWay]
  rfl

theorem CountersInvariant.step
    (invariant : CountersInvariant rendering state)
    (step : DefaultStep rendering clock state target) :
    CountersInvariant rendering target := by
  constructor
  · obtain ⟨call, middleware, counted⟩ := step.counts reported_of_sending
    rw [middleware, counted, ← invariant.totalCalls, observed,
      reported_eq call clock.elapsedMs]
    cases call.report rendering clock.elapsedMs with
    | none => rfl
    | some report => exact totalCalls_observe
  · intro key
    obtain ⟨call, middleware, counted⟩ :=
      step.counts (countedKey_of_sending key)
    have tallied :
        tally (Call.countedKey rendering) target.client.calls key =
          tally (Call.countedKey rendering) state.client.calls key +
            if call.countedKey rendering = some key then 1 else 0 := by
      simpa only [tally, decide_eq_true_eq] using counted
    rw [middleware, tallied, ← invariant.byCode, observed,
      countedKey_eq call clock.elapsedMs]
    cases call.report rendering clock.elapsedMs with
    | none => rfl
    | some report =>
        simp only [byCode_observe, Option.bind_some]

theorem countersInvariant_of_reachable
    (reached : (defaultMachine policy default rendering).Reachable state) :
    CountersInvariant rendering state := by
  refine Machine.invariant_of_step ?_ ?_ reached
  · exact ⟨rfl, fun _ => rfl⟩
  · intro state target label _ invariant _ taken
    obtain ⟨step, _⟩ := step_defaultMachine taken
    exact invariant.step step

end Counters

/-! ## The codes of errors -/

def minusOne : PyKey := .number (.finite (-1))

/-- The key under which the report of an outcome is counted. -/
def countedAs (rendering : Rendering) (outcome : Except Exc Returned) :
    Option PyKey :=
  (errorData rendering outcome).bind fun error => error.code.asKey.toOption

/-- What the final answer of a call should be counted as: the code of its
error, or `-1` if there was no JSON-RPC answer.  A code that cannot be a dict
key is no code to be counted under. -/
def expectedKey (sent : Except Exc Json) : Option PyKey :=
  match sent >>= parseResponse with
  | .ok response =>
      response.error.bind fun error => error.code.asKey.toOption
  | .error _ => some minusOne

def Call.expectedKey (call : Call) : Option PyKey :=
  match call.dispatch, call.progress with
  | .single _ _, .finished sent => Rpc.expectedKey sent
  | _, _ => none

/-- The call is not a batch, and that is its final answer. -/
def Call.Answered (call : Call) (sent : Except Exc Json) : Prop :=
  ∃ request raw, call.dispatch = .single request raw ∧
    call.progress = .finished sent

/-- The counts of the classifier are those of the final answers, and each of
these is counted in the same way on the non-raising and on the raising path. -/
structure ErrorsCounted (rendering : Rendering)
    (state : InstrumentedState DefaultMiddleware) : Prop where
  byCode :
    ∀ key, (state.middleware.byCode.get? key).getD 0 =
      tally Call.expectedKey state.client.calls key
  samePath :
    ∀ call ∈ state.client.calls, ∀ sent, call.Answered sent →
      countedAs rendering (readAnswer true sent) =
        countedAs rendering (readAnswer false sent)

/-- The answers whose code does not reach the classifier on both paths: a
cancelled call, and an error with another code than `-1`. -/
inductive LosesCode (sent : Except Exc Json) : Prop
  | cancelled : sent = .error .cancelledError → LosesCode sent
  | coded {response : RpcResponse} {error : RpcErrorData} :
      sent >>= parseResponse = .ok response →
      response.error = some error → error.code.asKey ≠ .ok minusOne →
      LosesCode sent

section Codes

variable {rendering : Rendering} {request : Request} {raw : Bool}
variable {sent : Except Exc Json}

theorem readAnswer_eq :
    readAnswer raw sent =
      (sent >>= parseResponse) >>= fun response =>
        if raw then
          .ok (.response response)
        else
          response.unwrap >>= fun value => .ok (.result value) := by
  cases sent with
  | error exc => rfl
  | ok data =>
      cases parsed : parseResponse data with
      | error exc => simp [readAnswer, parsed, bind, Except.bind]
      | ok response =>
          cases raw <;>
            simp [readAnswer, parsed, bind, Except.bind, pure, Except.pure]

theorem countedKey_of_finished
    {call : Call}
    (single : call.dispatch = .single request raw)
    (finished : call.progress = .finished sent) :
    call.countedKey rendering =
      countedAs rendering (readAnswer raw sent) := by
  simp only [Call.countedKey, Call.report, single, finished,
    Option.bind_some, CallReport.countedKey, CallReport.errorKey, reportOf,
    countedAs]
  cases errorData rendering (readAnswer raw sent) with
  | none => rfl
  | some error =>
      rcases filed : error.code.asKey with exc | key <;>
        simp [filed, Except.toOption]

theorem expectedKey_of_finished
    {call : Call}
    (single : call.dispatch = .single request raw)
    (finished : call.progress = .finished sent) :
    call.expectedKey = expectedKey sent := by
  rw [Call.expectedKey, single, finished]

/-- A parse never fails with a cancellation. -/
theorem cancelled_of_answer
    (fails : sent >>= parseResponse = .error .cancelledError) :
    sent = .error .cancelledError := by
  cases sent with
  | error exc =>
      cases fails
      rfl
  | ok data =>
      obtain ⟨text, typeError | attributeError⟩ :=
        isTypeError_of_parseResponse fails
      · cases typeError
      · cases attributeError

theorem asKey_minusOne : (Json.int (-1)).asKey = .ok minusOne := rfl

/-- A call without an answer is counted as `-1`, unless it is cancelled. -/
theorem countedAs_of_error
    {exc : Exc} (fails : sent >>= parseResponse = .error exc) :
    countedAs rendering (readAnswer raw sent) =
      if exc.isException then some minusOne else none := by
  have raises : readAnswer raw sent = .error exc := by
    rw [readAnswer_eq, fails]
    rfl
  rw [raises, countedAs, errorData]
  by_cases isException : exc.isException
  · simp [isException, asKey_minusOne, Except.toOption]
  · simp [isException]

/-- An answer is counted under the code of its error if it is returned raw;
`unwrap` makes every error a `-1`. -/
theorem countedAs_of_response
    {response : RpcResponse}
    (answers : sent >>= parseResponse = .ok response) :
    countedAs rendering (readAnswer raw sent) =
      response.error.bind fun error =>
        if raw then error.code.asKey.toOption else some minusOne := by
  have reads :
      readAnswer raw sent =
        if raw then
          .ok (.response response)
        else
          response.unwrap >>= fun value => .ok (.result value) := by
    rw [readAnswer_eq, answers]
    rfl
  rw [reads]
  cases raw with
  | true =>
      simp only [if_true, countedAs, errorData]
      cases response.error <;> rfl
  | false =>
      rcases hasError : response.error with _ | error
      · simp [countedAs, RpcResponse.unwrap, hasError, errorData, bind,
          Except.bind]
      · simp [countedAs, RpcResponse.unwrap, hasError, errorData, bind,
          Except.bind, Exc.isException, asKey_minusOne, Except.toOption]

theorem toOption_asKey_eq_iff {code : Json} :
    code.asKey.toOption = some minusOne ↔ code.asKey = .ok minusOne := by
  cases code.asKey with
  | ok key => simp [Except.toOption]
  | error exc => simp [Except.toOption]

/-- The two paths count an answer in the same way exactly when its error, if
there is one, has the code `-1`. -/
theorem samePath_iff :
    countedAs rendering (readAnswer true sent) =
        countedAs rendering (readAnswer false sent) ↔
      ∀ response error, sent >>= parseResponse = .ok response →
        response.error = some error → error.code.asKey = .ok minusOne := by
  rcases answer : sent >>= parseResponse with exc | response
  · rw [countedAs_of_error answer, countedAs_of_error answer]
    apply iff_of_true rfl
    intro response error answers
    cases answers
  · rw [countedAs_of_response answer, countedAs_of_response answer]
    cases hasError : response.error with
    | none =>
        apply iff_of_true rfl
        intro other error answers otherError
        cases answers
        rw [hasError] at otherError
        cases otherError
    | some error =>
        simp only [Option.bind_some, if_true]
        change error.code.asKey.toOption = some minusOne ↔ _
        rw [toOption_asKey_eq_iff]
        constructor
        · intro isMinusOne other otherError answers errorOther
          cases answers
          rw [hasError] at errorOther
          cases errorOther
          exact isMinusOne
        · intro always
          exact always response error rfl hasError

/-- Where the two paths agree, a call is counted as expected unless it is
cancelled, and a cancelled call is dropped from `-1`. -/
theorem countedAs_cases
    (samePath :
      countedAs rendering (readAnswer true sent) =
        countedAs rendering (readAnswer false sent)) :
    (countedAs rendering (readAnswer raw sent) = expectedKey sent ∧
        sent ≠ .error .cancelledError) ∨
      (countedAs rendering (readAnswer raw sent) = none ∧
        expectedKey sent = some minusOne ∧
        sent = .error .cancelledError) := by
  rcases answer : sent >>= parseResponse with exc | response
  · rw [countedAs_of_error answer, expectedKey, answer]
    by_cases isCancelled : exc = .cancelledError
    · right
      rw [isCancelled] at answer ⊢
      exact ⟨rfl, rfl, cancelled_of_answer answer⟩
    · left
      refine ⟨?_, ?_⟩
      · cases exc <;> simp_all [Exc.isException]
      · intro cancelled
        rw [cancelled] at answer
        cases answer
        exact isCancelled rfl
  · left
    refine ⟨?_, ?_⟩
    · rw [countedAs_of_response answer, expectedKey, answer]
      cases hasError : response.error with
      | none => simp [hasError]
      | some error =>
          have isMinusOne :=
            samePath_iff.mp samePath response error answer hasError
          cases raw <;>
            simp [isMinusOne, hasError, Except.toOption]
    · intro cancelled
      rw [cancelled] at answer
      cases answer

theorem not_losesCode_iff :
    ¬ LosesCode sent ↔
      sent ≠ .error .cancelledError ∧
        countedAs rendering (readAnswer true sent) =
          countedAs rendering (readAnswer false sent) := by
  rw [samePath_iff]
  constructor
  · intro kept
    refine ⟨fun cancelled => kept (.cancelled cancelled), ?_⟩
    intro response error answers hasError
    by_contra other
    exact kept (.coded answers hasError other)
  · rintro ⟨notCancelled, always⟩ loses
    cases loses with
    | cancelled cancelled => exact notCancelled cancelled
    | coded answers hasError other =>
        exact other (always _ _ answers hasError)

end Codes

/-- The code of the call's final answer does not reach the classifier on both
paths. -/
def Call.LosesCode (call : Call) : Prop :=
  ∃ sent, call.Answered sent ∧ Rpc.LosesCode sent

section Classifier

variable {rendering : Rendering} {calls : List Call}

/-- A call that is not answered is not counted. -/
theorem unanswered_or_answered (call : Call) :
    (call.countedKey rendering = none ∧ call.expectedKey = none ∧
        ∀ sent, ¬ call.Answered sent) ∨
      ∃ request raw sent, call.dispatch = .single request raw ∧
        call.progress = .finished sent := by
  obtain ⟨dispatch, payloads, progress⟩ := call
  cases dispatch with
  | batch requests =>
      refine Or.inl ⟨rfl, rfl, ?_⟩
      rintro sent ⟨request, raw, single, -⟩
      cases single
  | single request raw =>
      cases progress with
      | sending attempt =>
          refine Or.inl ⟨rfl, rfl, ?_⟩
          rintro sent ⟨_, _, -, finished⟩
          cases finished
      | finished sent => exact Or.inr ⟨request, raw, sent, rfl, rfl⟩

/-- Where the two paths agree on its answer, a call is counted as expected or
it was cancelled. -/
theorem countedKey_cases {call : Call}
    (samePath :
      ∀ sent, call.Answered sent →
        countedAs rendering (readAnswer true sent) =
          countedAs rendering (readAnswer false sent)) :
    (call.countedKey rendering = call.expectedKey ∧
        ¬ call.Answered (.error .cancelledError)) ∨
      (call.countedKey rendering = none ∧
        call.expectedKey = some minusOne ∧
        call.Answered (.error .cancelledError)) := by
  obtain ⟨uncounted, unexpected, unanswered⟩ |
      ⟨request, raw, sent, single, finished⟩ :=
    unanswered_or_answered call
  · exact Or.inl ⟨uncounted.trans unexpected.symm, unanswered _⟩
  · rw [countedKey_of_finished single finished,
      expectedKey_of_finished single finished]
    rcases countedAs_cases (samePath sent ⟨request, raw, single, finished⟩)
      with ⟨same, notCancelled⟩ | ⟨dropped, expected, isCancelled⟩
    · refine Or.inl ⟨same, ?_⟩
      rintro ⟨_, _, -, cancelled⟩
      rw [finished] at cancelled
      cases cancelled
      exact notCancelled rfl
    · refine Or.inr ⟨dropped, expected, request, raw, single, ?_⟩
      rw [finished, isCancelled]

/-- Where the two paths agree, the counts are as expected exactly when no call
was cancelled. -/
theorem counts_eq_iff
    (samePath :
      ∀ call ∈ calls, ∀ sent, call.Answered sent →
        countedAs rendering (readAnswer true sent) =
          countedAs rendering (readAnswer false sent)) :
    (∀ key, tally (Call.countedKey rendering) calls key =
        tally Call.expectedKey calls key) ↔
      ∀ call ∈ calls, ¬ call.Answered (.error .cancelledError) := by
  constructor
  · intro equal call member cancelled
    rcases countedKey_cases (samePath call member) with
      ⟨-, notCancelled⟩ | ⟨dropped, expected, -⟩
    · exact notCancelled cancelled
    · have counted :=
        of_tally_eq
          (fun item itemMember itemCounted => by
            rcases countedKey_cases (samePath item itemMember) with
              ⟨same, -⟩ | ⟨-, itemExpected, -⟩
            · rw [← same, itemCounted]
            · exact itemExpected)
          (equal minusOne) call member expected
      rw [dropped] at counted
      cases counted
  · intro noneCancelled key
    apply List.countP_congr
    intro call member
    rcases countedKey_cases (samePath call member) with
      ⟨same, -⟩ | ⟨-, -, cancelled⟩
    · rw [same]
    · exact absurd cancelled (noneCancelled call member)

end Classifier

/-- In every run of the default chain the counts are those of the final
answers, the same on both paths, exactly when no answer loses its code. -/
theorem errorsCounted_iff
    {policy : RetryPolicy} {default : Commitment} {rendering : Rendering}
    {state : InstrumentedState DefaultMiddleware}
    (reached : (defaultMachine policy default rendering).Reachable state) :
    ErrorsCounted rendering state ↔
      ∀ call ∈ state.client.calls, ¬ call.LosesCode := by
  have counted := (countersInvariant_of_reachable reached).byCode
  constructor
  · intro holds call member
    have noneCancelled :
        ∀ call ∈ state.client.calls,
          ¬ call.Answered (.error .cancelledError) :=
      (counts_eq_iff holds.samePath).mp fun key =>
        (counted key).symm.trans (holds.byCode key)
    rintro ⟨sent, answered, loses⟩
    refine not_losesCode_iff.mpr ⟨?_, holds.samePath call member sent answered⟩
      loses
    intro cancelled
    rw [cancelled] at answered
    exact noneCancelled call member answered
  · intro kept
    have samePath :
        ∀ call ∈ state.client.calls, ∀ sent, call.Answered sent →
          countedAs rendering (readAnswer true sent) =
            countedAs rendering (readAnswer false sent) := by
      intro call member sent answered
      exact (not_losesCode_iff.mp fun loses =>
        kept call member ⟨sent, answered, loses⟩).2
    have noneCancelled :
        ∀ call ∈ state.client.calls,
          ¬ call.Answered (.error .cancelledError) := by
      intro call member cancelled
      exact kept call member ⟨_, cancelled, .cancelled rfl⟩
    refine ⟨fun key => (counted key).trans ?_, samePath⟩
    exact (counts_eq_iff samePath).mpr noneCancelled key

/-! Calls that the server answers with an error. -/

def unknownMethod : Request := ⟨"nonExistentMethod", none⟩

def refusal (code : Int) (message : String) : Json :=
  .obj [("jsonrpc", .str "2.0"), ("id", .int 1),
    ("error", .obj [("code", .int code), ("message", .str message)])]

def methodNotFound : Json := refusal (-32601) "Method not found"

def plainRendering : Rendering := ⟨fun _ => "", fun _ => ""⟩

/-- The client with the default configuration. -/
abbrev plainMachine :
    Machine (InstrumentedState DefaultMiddleware) InstrumentedLabel :=
  defaultMachine {} .confirmed plainRendering

/-- The call made through `operation`, and its answer. -/
def unknownMethodRun (operation : Operation) (answer : Json) :
    List InstrumentedLabel :=
  [.start operation ⟨0, 0⟩,
    .post 0 ⟨.reply 200 (some answer), false⟩ ⟨3, 0⟩]

/-- An error with code `-1` is counted on both paths. -/
theorem errorsCounted_refused :
    ∃ state,
      plainMachine.run plainMachine.initial
          (unknownMethodRun (.request unknownMethod)
            (refusal (-1) "Unknown method")) =
        some state ∧
      ErrorsCounted plainRendering state := by
  obtain ⟨state, ran, calls⟩ :
      ∃ state,
        plainMachine.run plainMachine.initial
            (unknownMethodRun (.request unknownMethod)
              (refusal (-1) "Unknown method")) =
          some state ∧
        state.client.calls =
          [{ dispatch := .single unknownMethod false
             payloads := [payload 1 unknownMethod]
             progress :=
               .finished (.ok (refusal (-1) "Unknown method")) }] :=
    ⟨_, rfl, rfl⟩
  refine ⟨state, ran, (errorsCounted_iff
    (Machine.reachable_of_run .initial ran)).mpr ?_⟩
  simp only [calls, List.mem_singleton, forall_eq]
  rintro ⟨sent, ⟨request, raw, -, finished⟩, loses⟩
  cases finished
  cases loses with
  | cancelled cancelled => cases cancelled
  | coded answers hasError other =>
      cases answers
      cases hasError
      exact other rfl

/-- Another code is counted as `-1` on the raising path. -/
theorem errorsCounted_fails_of_request :
    ∃ state,
      plainMachine.run plainMachine.initial
          (unknownMethodRun (.request unknownMethod) methodNotFound) =
        some state ∧
      ¬ ErrorsCounted plainRendering state := by
  refine ⟨_, rfl, fun holds => ?_⟩
  have counted := holds.byCode minusOne
  revert counted
  decide

end KarstflowTests.Rpc

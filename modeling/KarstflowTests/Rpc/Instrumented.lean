import KarstflowTests.Rpc.Calls
import KarstflowTests.Rpc.Middleware

/-!
# The instrumented client

`InstrumentedRpcClient` overrides `request` and `request_raw` and with them
whatever goes through these two: `run_before` stands before the inherited
call, `run_after` in its `finally` clause.  `batch` and `execute_batch` are
inherited unchanged.

`instrumentedMachine` runs all interleavings of calls on one such client and
keeps the history of its hooks.  The hooks of the default chain never suspend,
so that each run of the chain is part of one step.
-/

namespace KarstflowTests.Rpc

open KarstflowTests.Library

/-! ## The report of a call -/

/-- `error_data`, as the `try` and `except` clauses leave it. -/
def errorData (rendering : Rendering) :
    Except Exc Returned → Option ErrorRecord
  | .ok (.response response) =>
      response.error.map fun error =>
        { code := error.code
          message := error.message
          data := some error.data }
  | .ok _ => none
  | .error exc =>
      if exc.isException then
        some { code := .int (-1), message := .str (exc.str rendering) }
      else
        none

/-- `result`, which stays `None` when the call raises. -/
def resultData : Except Exc Returned → Returned
  | .ok returned => returned
  | .error _ => .result .null

def reportOf (rendering : Rendering) (request : Request)
    (outcome : Except Exc Returned) (elapsedMs : ℚ) : CallReport where
  request := request
  result := resultData outcome
  error := errorData rendering outcome
  elapsedMs := elapsedMs

/-- The report of a call that the chain sees, once the call is finished. -/
def Call.report (rendering : Rendering) (call : Call) (elapsedMs : ℚ) :
    Option CallReport :=
  match call.dispatch, call.progress with
  | .single request raw, .finished sent =>
      some (reportOf rendering request (readAnswer raw sent) elapsedMs)
  | _, _ => none

/-! ## The machine -/

/-- One run of the chain for the call with the given index, and how it
ended. -/
inductive HookEvent where
  | before (index : ℕ) (request : Request) (ended : Except Exc Unit)
  | after (index : ℕ) (report : CallReport) (ended : Except Exc Unit)

def HookEvent.index : HookEvent → ℕ
  | before index _ _ => index
  | after index _ _ => index

structure InstrumentedState (σ : Type) where
  client : ClientState
  middleware : σ
  events : List HookEvent

/-- The clock readings around a call: the elapsed milliseconds and the time of
the report. -/
structure HookClock where
  elapsedMs : ℚ
  now : ℚ

inductive InstrumentedLabel where
  | start (operation : Operation) (clock : HookClock)
  | post (index : ℕ) (met : Attempt) (clock : HookClock)

def InstrumentedLabel.clock : InstrumentedLabel → HookClock
  | start _ clock => clock
  | post _ _ clock => clock

section Machine

variable {σ : Type} (policy : RetryPolicy) (default : Commitment)
variable (rendering : Rendering) (chain : MiddlewareChain σ)

/-- The `finally` clause, if the call has come to it. -/
def finishCall (state : InstrumentedState σ) (index : ℕ)
    (clock : HookClock) : InstrumentedState σ :=
  match state.client.calls[index]?.bind
      fun call => call.report rendering clock.elapsedMs with
  | some report =>
      let (ended, middleware) :=
        (chain.runAfter report clock.now).run.run state.middleware
      { state with
        middleware
        events := state.events ++ [.after index report ended] }
  | none => state

/-- A call that is not overridden, or `run_before` and then the call. -/
def startInstrumented (state : InstrumentedState σ)
    (operation : Operation) (clock : HookClock) : InstrumentedState σ :=
  let client := startCall policy default state.client operation
  match operation.dispatch default with
  | .batch _ => { state with client }
  | .single request _ =>
      let index := state.client.calls.length
      let (ended, middleware) :=
        (chain.runBefore request).run.run state.middleware
      let events := state.events ++ [.before index request ended]
      match ended with
      | .ok () =>
          finishCall rendering chain { client, middleware, events } index
            clock
      | .error _ => { state with middleware, events }

def postInstrumented (state : InstrumentedState σ) (index : ℕ)
    (met : Attempt) (clock : HookClock) : Option (InstrumentedState σ) := do
  let client ← postCall policy state.client index met
  return finishCall rendering chain { state with client } index clock

def instrumentedMachine (initial : σ) :
    Machine (InstrumentedState σ) InstrumentedLabel where
  initial :=
    { client := { requestId := 0, calls := [] }
      middleware := initial
      events := [] }
  step state
    | .start operation clock =>
        some (startInstrumented policy default rendering chain state
          operation clock)
    | .post index met clock =>
        postInstrumented policy rendering chain state index met clock

end Machine

/-! ## One step with the default chain -/

/-- What the default chain makes of a call: nothing until it is finished. -/
def observed (rendering : Rendering) (clock : HookClock)
    (middleware : DefaultMiddleware) (call : Call) : DefaultMiddleware :=
  match call.report rendering clock.elapsedMs with
  | some report => middleware.observe report clock.now
  | none => middleware

/-- The hook event of a call that starts. -/
def startEvents (index : ℕ) (call : Call) : List HookEvent :=
  match call.dispatch with
  | .single request _ => [.before index request (.ok ())]
  | .batch _ => []

/-- The hook event of a call that is finished. -/
def finishEvents (rendering : Rendering) (clock : HookClock) (index : ℕ)
    (call : Call) : List HookEvent :=
  match call.report rendering clock.elapsedMs with
  | some report => [.after index report report.hookOutcome]
  | none => []

/-- A step appends a call, or takes a call that is under way one POST
further. -/
inductive DefaultStep (rendering : Rendering) (clock : HookClock)
    (state : InstrumentedState DefaultMiddleware) :
    InstrumentedState DefaultMiddleware → Prop
  | started (requestId : ℕ) (call : Call) :
      DefaultStep rendering clock state
        { client := ⟨requestId, state.client.calls ++ [call]⟩
          middleware := observed rendering clock state.middleware call
          events :=
            state.events ++ startEvents state.client.calls.length call ++
              finishEvents rendering clock state.client.calls.length call }
  | advanced (requestId index attempt : ℕ) (old call : Call) :
      state.client.calls[index]? = some old →
      old.progress = .sending attempt →
      call.dispatch = old.dispatch →
      DefaultStep rendering clock state
        { client := ⟨requestId, state.client.calls.set index call⟩
          middleware := observed rendering clock state.middleware call
          events :=
            state.events ++ finishEvents rendering clock index call }

section Step

variable {policy : RetryPolicy} {default : Commitment}
variable {rendering : Rendering} {clock : HookClock}
variable {state target : InstrumentedState DefaultMiddleware}

theorem finishCall_default
    {index : ℕ} {call : Call}
    (found : state.client.calls[index]? = some call) :
    finishCall rendering defaultMiddleware state index clock =
      { client := state.client
        middleware := observed rendering clock state.middleware call
        events :=
          state.events ++ finishEvents rendering clock index call } := by
  simp only [finishCall, found, Option.bind_some, observed, finishEvents]
  cases call.report rendering clock.elapsedMs with
  | none => simp only [List.append_nil]
  | some report => simp only [runAfter_default]

theorem report_of_batch
    {call : Call} {requests : List Request} {elapsedMs : ℚ}
    (isBatch : call.dispatch = .batch requests) :
    call.report rendering elapsedMs = none := by
  rw [Call.report, isBatch]

theorem startInstrumented_default (operation : Operation) :
    DefaultStep rendering clock state
        (startInstrumented policy default rendering defaultMiddleware state
          operation clock) ∧
      (startInstrumented policy default rendering defaultMiddleware state
        operation clock).client =
        startCall policy default state.client operation := by
  obtain ⟨requestId, call, started, dispatched⟩ :
      ∃ requestId call,
        startCall policy default state.client operation =
          ⟨requestId, state.client.calls ++ [call]⟩ ∧
        call.dispatch = operation.dispatch default := by
    rw [startCall_eq]
    exact ⟨_, _, rfl, rfl⟩
  simp only [startInstrumented, started]
  rcases dispatch : operation.dispatch default with ⟨request, raw⟩ | requests
  · have starts :
        startEvents state.client.calls.length call =
          [.before state.client.calls.length request (.ok ())] := by
      rw [startEvents, dispatched, dispatch]
    simp only [runBefore_default]
    rw [finishCall_default List.getElem?_concat_length, ← starts]
    exact ⟨DefaultStep.started requestId call, rfl⟩
  · have isBatch := dispatched.trans dispatch
    have step : DefaultStep rendering clock state _ :=
      DefaultStep.started requestId call
    refine ⟨?_, rfl⟩
    simpa only [observed, startEvents, finishEvents, isBatch,
      report_of_batch isBatch, List.append_nil] using step

theorem postInstrumented_default
    {index : ℕ} {met : Attempt}
    (taken :
      postInstrumented policy rendering defaultMiddleware state index met
        clock = some target) :
    DefaultStep rendering clock state target ∧
      postCall policy state.client index met = some target.client := by
  simp only [postInstrumented, bind, Option.bind_eq_some_iff] at taken
  obtain ⟨client, posts, taken⟩ := taken
  cases taken
  obtain ⟨old, progress, found, moves, rfl⟩ := postCall_eq_some posts
  obtain ⟨attempt, underWay⟩ : ∃ attempt, old.progress = .sending attempt := by
    rcases here : old.progress with attempt | sent
    · exact ⟨attempt, rfl⟩
    · simp [Call.post, here] at moves
  have inside : index < state.client.calls.length :=
    (List.getElem?_eq_some_iff.mp found).1
  rw [finishCall_default (List.getElem?_set_self inside)]
  exact ⟨DefaultStep.advanced _ index attempt old { old with progress }
    found underWay rfl, posts⟩

end Step

end KarstflowTests.Rpc

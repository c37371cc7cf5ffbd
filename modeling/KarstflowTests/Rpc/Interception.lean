import KarstflowTests.Rpc.InstrumentedRuns

/-!
# Which calls the chain intercepts

In every run of the default chain the history of the hooks holds one `before`
for each call that is not a batch, and once the call is finished one `after`
with its report.  Batches pass the chain by, and the report of a cancelled
call has neither a result nor an error.

`intercepted_iff` derives from this when every JSON-RPC call on the wire is
seen exactly once.
-/

namespace KarstflowTests.Rpc

open KarstflowTests.Library

/-! ## The hooks of one call -/

/-- The request of a `before` hook of the call with the given index. -/
def HookEvent.beforeOf (index : ℕ) : HookEvent → Option Request
  | .before owner request _ => if owner = index then some request else none
  | .after _ _ _ => none

/-- The report of an `after` hook of the call with the given index. -/
def HookEvent.afterOf (index : ℕ) : HookEvent → Option CallReport
  | .before _ _ _ => none
  | .after owner report _ => if owner = index then some report else none

namespace InstrumentedState

variable {σ : Type}

def befores (state : InstrumentedState σ) (index : ℕ) : List Request :=
  state.events.filterMap (HookEvent.beforeOf index)

def afters (state : InstrumentedState σ) (index : ℕ) : List CallReport :=
  state.events.filterMap (HookEvent.afterOf index)

end InstrumentedState

/-- The requests of a call that go through `request` or `request_raw`. -/
def Call.overridden (call : Call) : List Request :=
  match call.dispatch with
  | .single request _ => [request]
  | .batch _ => []

/-- The history of the hooks in step with the calls. -/
structure HooksInvariant (rendering : Rendering)
    (state : InstrumentedState DefaultMiddleware) : Prop where
  before :
    ∀ index call, state.client.calls[index]? = some call →
      state.befores index = call.overridden
  after :
    ∀ index call, state.client.calls[index]? = some call →
      ∃ elapsedMs,
        state.afters index = (call.report rendering elapsedMs).toList
  fresh :
    ∀ index, state.client.calls.length ≤ index →
      state.befores index = [] ∧ state.afters index = []

section Hooks

variable {rendering : Rendering} {clock : HookClock}
variable {state target : InstrumentedState DefaultMiddleware}

theorem filterMap_startEvents (owner index : ℕ) (call : Call) :
    (startEvents owner call).filterMap (HookEvent.beforeOf index) =
        (if owner = index then call.overridden else []) ∧
      (startEvents owner call).filterMap (HookEvent.afterOf index) = [] := by
  rw [startEvents, Call.overridden]
  cases call.dispatch with
  | single request raw =>
      by_cases same : owner = index <;>
        simp [HookEvent.beforeOf, HookEvent.afterOf, same]
  | batch requests => simp

theorem filterMap_finishEvents
    (rendering : Rendering) (clock : HookClock) (owner index : ℕ)
    (call : Call) :
    (finishEvents rendering clock owner call).filterMap
        (HookEvent.beforeOf index) = [] ∧
      (finishEvents rendering clock owner call).filterMap
          (HookEvent.afterOf index) =
        if owner = index then
          (call.report rendering clock.elapsedMs).toList
        else
          [] := by
  rw [finishEvents]
  cases call.report rendering clock.elapsedMs with
  | none => simp
  | some report =>
      by_cases same : owner = index <;>
        simp [HookEvent.beforeOf, HookEvent.afterOf, same]

/-- A call after a new one has started: an earlier call or the new one. -/
theorem found_of_started
    {calls : List Call} {call found : Call} {index : ℕ}
    (here : (calls ++ [call])[index]? = some found) :
    (index < calls.length ∧ calls[index]? = some found) ∨
      (index = calls.length ∧ found = call) := by
  rcases Nat.lt_trichotomy index calls.length with inside | last | outside
  · rw [List.getElem?_append_left inside] at here
    exact Or.inl ⟨inside, here⟩
  · rw [last, List.getElem?_concat_length] at here
    cases here
    exact Or.inr ⟨last, rfl⟩
  · rw [List.getElem?_eq_none (by rw [List.length_append]; exact outside)]
      at here
    cases here

/-- A new call adds the hooks at its own index. -/
theorem HooksInvariant.started
    (invariant : HooksInvariant rendering state)
    (requestId : ℕ) (call : Call) :
    HooksInvariant rendering
      { client := ⟨requestId, state.client.calls ++ [call]⟩
        middleware := observed rendering clock state.middleware call
        events :=
          state.events ++ startEvents state.client.calls.length call ++
            finishEvents rendering clock state.client.calls.length call } := by
  have started index :=
    filterMap_startEvents state.client.calls.length index call
  have finished index :=
    filterMap_finishEvents rendering clock state.client.calls.length index
      call
  have unseen := invariant.fresh state.client.calls.length le_rfl
  simp only [InstrumentedState.befores, InstrumentedState.afters] at unseen
  refine ⟨?_, ?_, ?_⟩
  · intro index found here
    simp only [InstrumentedState.befores, List.filterMap_append, started,
      finished, List.append_nil]
    obtain ⟨inside, earlier⟩ | ⟨rfl, rfl⟩ := found_of_started here
    · rw [if_neg inside.ne', List.append_nil]
      exact invariant.before index found earlier
    · rw [unseen.1, if_pos rfl, List.nil_append]
  · intro index found here
    simp only [InstrumentedState.afters, List.filterMap_append, started,
      finished, List.append_nil]
    obtain ⟨inside, earlier⟩ | ⟨rfl, rfl⟩ := found_of_started here
    · rw [if_neg inside.ne', List.append_nil]
      exact invariant.after index found earlier
    · exact ⟨clock.elapsedMs, by rw [unseen.2, if_pos rfl, List.nil_append]⟩
  · intro index outside
    have past : state.client.calls.length < index := by
      rw [List.length_append] at outside
      exact outside
    obtain ⟨unseen, unreported⟩ := invariant.fresh index past.le
    simp only [InstrumentedState.befores, InstrumentedState.afters]
      at unseen unreported ⊢
    simp [started, finished, unseen, unreported, past.ne]

/-- A call that goes on adds an `after` once it is finished. -/
theorem HooksInvariant.advanced
    (invariant : HooksInvariant rendering state)
    (requestId : ℕ) {index attempt : ℕ} {old call : Call}
    (found : state.client.calls[index]? = some old)
    (underWay : old.progress = .sending attempt)
    (sameDispatch : call.dispatch = old.dispatch) :
    HooksInvariant rendering
      { client := ⟨requestId, state.client.calls.set index call⟩
        middleware := observed rendering clock state.middleware call
        events :=
          state.events ++ finishEvents rendering clock index call } := by
  have finished other :=
    filterMap_finishEvents rendering clock index other call
  have inside := (List.getElem?_eq_some_iff.mp found).1
  refine ⟨?_, ?_, ?_⟩
  · intro other reached here
    simp only [InstrumentedState.befores, List.filterMap_append, finished,
      List.append_nil]
    by_cases same : index = other
    · subst same
      cases (List.getElem?_set_self inside).symm.trans here
      rw [Call.overridden, sameDispatch]
      exact invariant.before index old found
    · rw [List.getElem?_set_ne same] at here
      exact invariant.before other reached here
  · intro other reached here
    simp only [InstrumentedState.afters, List.filterMap_append, finished]
    by_cases same : index = other
    · subst same
      cases (List.getElem?_set_self inside).symm.trans here
      obtain ⟨elapsedMs, reported⟩ := invariant.after index old found
      rw [report_of_sending underWay, InstrumentedState.afters] at reported
      exact ⟨clock.elapsedMs, by rw [reported, if_pos rfl]; rfl⟩
    · rw [List.getElem?_set_ne same] at here
      rw [if_neg same, List.append_nil]
      exact invariant.after other reached here
  · intro other outside
    rw [List.length_set] at outside
    obtain ⟨unseen, unreported⟩ := invariant.fresh other outside
    simp only [InstrumentedState.befores, InstrumentedState.afters]
      at unseen unreported ⊢
    have elsewhere : index ≠ other := by omega
    simp [finished, unseen, unreported, elsewhere]

theorem HooksInvariant.step
    (invariant : HooksInvariant rendering state)
    (step : DefaultStep rendering clock state target) :
    HooksInvariant rendering target := by
  cases step with
  | started requestId call =>
      exact invariant.started requestId call
  | advanced requestId index attempt old call found underWay sameDispatch =>
      exact invariant.advanced requestId found underWay sameDispatch

theorem hooksInvariant_of_reachable
    {policy : RetryPolicy} {default : Commitment}
    (reached : (defaultMachine policy default rendering).Reachable state) :
    HooksInvariant rendering state := by
  refine Machine.invariant_of_step ?_ ?_ reached
  · refine ⟨?_, ?_, fun _ _ => ⟨rfl, rfl⟩⟩
    · intro index call found
      cases found
    · intro index call found
      cases found
  · intro state target label _ invariant _ taken
    obtain ⟨step, _⟩ := step_defaultMachine taken
    exact invariant.step step

end Hooks

/-! ## Interception -/

/-- The report carries what the call returned or that it raised. -/
def CarriesOutcome (outcome : Except Exc Returned) (report : CallReport) :
    Prop :=
  match outcome with
  | .ok returned =>
      report.result = returned ∧
        (report.error.isSome ↔
          ∃ response, returned = .response response ∧
            response.error.isSome)
  | .error _ => report.result = .result .null ∧ report.error.isSome

/-- The chain has seen each request of the call exactly once before it, and,
if the call is finished, exactly once after it with its outcome. -/
structure SeenOnce (state : InstrumentedState DefaultMiddleware)
    (index : ℕ) (call : Call) : Prop where
  before : (state.befores index).Perm call.dispatch.requests
  after :
    ∀ sent, call.progress = .finished sent →
      ((state.afters index).map CallReport.request).Perm
        call.dispatch.requests
  outcome :
    ∀ request raw sent, call.dispatch = .single request raw →
      call.progress = .finished sent →
        ∀ report ∈ state.afters index,
          CarriesOutcome (readAnswer raw sent) report

def Call.isFinished (call : Call) : Bool :=
  match call.progress with
  | .finished _ => true
  | .sending _ => false

/-- Every JSON-RPC call is seen once, and the statistics count as many calls
as the finished operations have issued. -/
structure Intercepted (state : InstrumentedState DefaultMiddleware) :
    Prop where
  seenOnce :
    ∀ index call, state.client.calls[index]? = some call →
      SeenOnce state index call
  totalCalls :
    state.middleware.stats.total MethodStats.callCount =
      ((state.client.calls.filter Call.isFinished).flatMap Call.ids).length

/-- A batch, or a call that is cancelled. -/
inductive Call.Escapes (call : Call) : Prop
  | batch {requests : List Request} :
      call.dispatch = .batch requests → requests ≠ [] → Escapes call
  | cancelled {request : Request} {raw : Bool} :
      call.dispatch = .single request raw →
      call.progress = .finished (.error .cancelledError) → Escapes call

section Interception

variable {rendering : Rendering}
variable {state : InstrumentedState DefaultMiddleware}

theorem carriesOutcome_reportOf
    {request : Request} {outcome : Except Exc Returned} {elapsedMs : ℚ} :
    CarriesOutcome outcome (reportOf rendering request outcome elapsedMs) ↔
      outcome ≠ .error .cancelledError := by
  cases outcome with
  | ok returned =>
      cases returned <;>
        simp [CarriesOutcome, reportOf, resultData, errorData]
  | error exc =>
      cases exc <;>
        simp [CarriesOutcome, reportOf, resultData, errorData,
          Exc.isException]

/-- Only the call itself can be cancelled, not the reading of its answer. -/
theorem readAnswer_eq_cancelled_iff {raw : Bool} {sent : Except Exc Json} :
    readAnswer raw sent = .error .cancelledError ↔
      sent = .error .cancelledError := by
  constructor
  · intro cancelled
    rw [readAnswer_eq] at cancelled
    rcases answer : sent >>= parseResponse with exc | response
    · rw [answer] at cancelled
      cases cancelled
      exact cancelled_of_answer answer
    · rw [answer] at cancelled
      cases raw with
      | true => cases cancelled
      | false =>
          rcases hasError : response.error with _ | error <;>
            simp [RpcResponse.unwrap, hasError, bind, Except.bind]
              at cancelled
  · rintro rfl
    rfl

theorem overridden_perm_requests_iff (call : Call) :
    call.overridden.Perm call.dispatch.requests ↔
      ∀ requests, call.dispatch = .batch requests → requests = [] := by
  rw [Call.overridden]
  cases call.dispatch with
  | single request raw => simp [Dispatch.requests]
  | batch requests => simp [Dispatch.requests]

/-- The chain sees a call once exactly when the call does not escape it. -/
theorem seenOnce_iff
    (invariant : HooksInvariant rendering state)
    {index : ℕ} {call : Call}
    (found : state.client.calls[index]? = some call) :
    SeenOnce state index call ↔ ¬ call.Escapes := by
  have begun := invariant.before index call found
  obtain ⟨elapsedMs, ended⟩ := invariant.after index call found
  constructor
  · rintro ⟨before, _, outcome⟩ escapes
    cases escapes with
    | batch isBatch nonempty =>
        rw [begun, overridden_perm_requests_iff] at before
        exact nonempty (before _ isBatch)
    | @cancelled request raw single finished =>
        have reported :
            reportOf rendering request
                (readAnswer raw (.error .cancelledError)) elapsedMs ∈
              state.afters index := by
          rw [ended, Call.report, single, finished]
          simp
        have carries := outcome request raw _ single finished _ reported
        exact carriesOutcome_reportOf.mp carries rfl
  · intro stays
    have noBatch :
        ∀ requests, call.dispatch = .batch requests → requests = [] := by
      intro requests isBatch
      by_contra nonempty
      exact stays (.batch isBatch nonempty)
    refine ⟨?_, ?_, ?_⟩
    · rw [begun]
      exact (overridden_perm_requests_iff call).mpr noBatch
    · intro sent finished
      rw [ended, Call.report, finished]
      rcases dispatch : call.dispatch with ⟨request, raw⟩ | requests
      · exact List.Perm.refl _
      · rw [noBatch requests dispatch]
        exact List.Perm.refl _
    · intro request raw sent single finished report member
      rw [ended, Call.report, single, finished] at member
      simp only [Option.toList_some, List.mem_singleton] at member
      rw [member, carriesOutcome_reportOf, Ne, readAnswer_eq_cancelled_iff]
      rintro rfl
      exact stays (.cancelled single finished)

theorem length_ids {call : Call} (consecutive : ConsecutiveIds call) :
    call.ids.length = call.dispatch.requests.length := by
  obtain ⟨before, ids⟩ := consecutive
  rw [ids, List.length_map, nextIds, List.length_range']

/-- Calls that do not escape issue as many ids as reports. -/
theorem length_finishedIds
    {calls : List Call}
    (consecutive : ∀ call ∈ calls, ConsecutiveIds call)
    (stay : ∀ call ∈ calls, ¬ call.Escapes) :
    ((calls.filter Call.isFinished).flatMap Call.ids).length =
      calls.countP Call.reported := by
  induction calls with
  | nil => rfl
  | cons call calls inductionHypothesis =>
      obtain ⟨idsHere, idsLater⟩ := List.forall_mem_cons.mp consecutive
      obtain ⟨staysHere, stayLater⟩ := List.forall_mem_cons.mp stay
      have later := inductionHypothesis idsLater stayLater
      have here :
          (if call.isFinished then call.ids.length else 0) =
            if call.reported then 1 else 0 := by
        rw [length_ids idsHere]
        obtain ⟨dispatch, payloads, progress⟩ := call
        cases progress with
        | sending attempt => cases dispatch <;> rfl
        | finished sent =>
            cases dispatch with
            | single request raw => rfl
            | batch requests =>
                cases requests with
                | nil => rfl
                | cons request requests =>
                    exact absurd (.batch rfl (List.cons_ne_nil _ _))
                      staysHere
      rw [List.countP_cons, ← later, ← here, List.filter_cons]
      by_cases finished : call.isFinished
      · simp only [finished, if_true, List.flatMap_cons, List.length_append]
        omega
      · simp only [finished]
        rfl

end Interception

/-- In every run of the default chain each JSON-RPC call is seen once, and the
statistics are complete, exactly when there is no batch and no cancelled
call. -/
theorem intercepted_iff
    {policy : RetryPolicy} {default : Commitment} {rendering : Rendering}
    {state : InstrumentedState DefaultMiddleware}
    (reached : (defaultMachine policy default rendering).Reachable state) :
    Intercepted state ↔ ∀ call ∈ state.client.calls, ¬ call.Escapes := by
  have hooks := hooksInvariant_of_reachable reached
  have issued := idsInvariant_of_reachable (client_reachable reached)
  constructor
  · intro holds call member
    obtain ⟨index, found⟩ := List.mem_iff_getElem?.mp member
    exact (seenOnce_iff hooks found).mp (holds.seenOnce index call found)
  · intro stay
    refine ⟨?_, ?_⟩
    · intro index call found
      exact (seenOnce_iff hooks found).mpr
        (stay call (List.mem_of_getElem? found))
    · rw [(countersInvariant_of_reachable reached).totalCalls]
      exact (length_finishedIds
        (fun _ member => consecutiveIds issued member) stay).symm

/-! Two slots, asked for one by one and in a batch. -/

def slotRequest : Request := ⟨"getSlot", none⟩

def confirmedSlotRequest : Request :=
  ⟨"getSlot", some [.obj [("commitment", .str "confirmed")]]⟩

def slotAnswer (id : ℤ) : Json :=
  .obj [("jsonrpc", .str "2.0"), ("id", .int id), ("result", .int 7)]

/-- Two requests that overlap: the second is answered first. -/
def overlappingRequests : List InstrumentedLabel :=
  [.start (.execute slotRequest) ⟨0, 0⟩,
    .start (.typed (.getSlot)) ⟨0, 0⟩,
    .post 1 ⟨.reply 200 (some (slotAnswer 2)), false⟩ ⟨3, 0⟩,
    .post 0 ⟨.reply 200 (some (slotAnswer 1)), false⟩ ⟨5, 0⟩]

def batchOfSlots : List InstrumentedLabel :=
  [.start (.executeBatch [slotRequest, slotRequest]) ⟨0, 0⟩,
    .post 0 ⟨.reply 200 (some (.arr [slotAnswer 1, slotAnswer 2])), false⟩
      ⟨3, 0⟩]

theorem intercepted_overlapping :
    ∃ state,
      plainMachine.run plainMachine.initial overlappingRequests =
        some state ∧
      Intercepted state := by
  obtain ⟨state, ran, calls⟩ :
      ∃ state,
        plainMachine.run plainMachine.initial overlappingRequests =
          some state ∧
        state.client.calls =
          [{ dispatch := .single slotRequest false
             payloads := [payload 1 slotRequest]
             progress := .finished (.ok (slotAnswer 1)) },
            { dispatch := .single confirmedSlotRequest false
              payloads := [payload 2 confirmedSlotRequest]
              progress := .finished (.ok (slotAnswer 2)) }] :=
    ⟨_, rfl, rfl⟩
  refine ⟨state, ran, (intercepted_iff
    (Machine.reachable_of_run .initial ran)).mpr ?_⟩
  simp only [calls, List.forall_mem_cons]
  refine ⟨?_, ?_, by simp⟩
  · rintro (⟨⟨⟩⟩ | ⟨_, ⟨⟩⟩)
  · rintro (⟨⟨⟩⟩ | ⟨_, ⟨⟩⟩)

/-- A batch of two answered requests of which the chain sees nothing. -/
theorem intercepted_fails_of_batch :
    ∃ state,
      plainMachine.run plainMachine.initial batchOfSlots = some state ∧
      ¬ Intercepted state := by
  refine ⟨_, rfl, fun holds => ?_⟩
  have counted := holds.totalCalls
  revert counted
  decide

end KarstflowTests.Rpc

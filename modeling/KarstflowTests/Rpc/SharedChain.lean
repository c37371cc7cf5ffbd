import Mathlib.Logic.Function.Basic
import KarstflowTests.Rpc.InstrumentedRuns

/-!
# Several clients on one default chain

`sharedMachine` interleaves the calls of any number of clients whose hooks all
act on one default chain, and keeps every report in the order in which the
calls were completed.  `Tallied` says what the state of the chain is in terms of
these reports; what the three interceptors say about each other follows.
-/

namespace KarstflowTests.Rpc

open KarstflowTests.Library

/-! ## The machine -/

structure SharedState where
  clients : ℕ → ClientState
  middleware : DefaultMiddleware
  /-- the completed calls, in the order of their reports -/
  completed : List CallRecord

structure SharedLabel where
  client : ℕ
  action : InstrumentedLabel

/-- The completed call that a hook event reports. -/
def HookEvent.completed (now : ℚ) : HookEvent → Option CallRecord
  | before _ _ _ => none
  | after _ report _ => some ⟨report, now⟩

/-- Each client has its own retry policy and default commitment. -/
def sharedMachine (policy : ℕ → RetryPolicy) (default : ℕ → Commitment)
    (rendering : Rendering) (maxRecords : ℕ) :
    Machine SharedState SharedLabel where
  initial :=
    { clients := fun _ => { requestId := 0, calls := [] }
      middleware := { maxRecords }
      completed := [] }
  step state label :=
    let machine :=
      defaultMachine (policy label.client) (default label.client) rendering
    let own : InstrumentedState DefaultMiddleware :=
      { client := state.clients label.client
        middleware := state.middleware
        events := [] }
    (machine.step own label.action).map fun next =>
      { clients := Function.update state.clients label.client next.client
        middleware := next.middleware
        completed :=
          state.completed ++
            next.events.filterMap
              (HookEvent.completed label.action.clock.now) }

/-! ## The property -/

namespace DefaultMiddleware

/-- `stats[method]` -/
def statsOf (state : DefaultMiddleware) (method : String) : MethodStats :=
  (state.stats.get? method).getD {}

/-- `by_method[method]` -/
def codesOf (state : DefaultMiddleware) (method : String) :
    OrderedDict PyKey ℕ :=
  (state.byMethod.get? method).getD .empty

/-- `calls_for(method)` -/
def callsFor (state : DefaultMiddleware) (method : String) :
    List CallRecord :=
  state.records.filter fun record => record.report.request.method = method

end DefaultMiddleware

def CallRecord.isFor (method : String) (record : CallRecord) : Bool :=
  record.report.request.method = method

def CallRecord.failed (record : CallRecord) : Bool :=
  record.report.error.isSome

/-- The classifier raises on the report: its error code is a list or an
object. -/
def CallRecord.unhashable (record : CallRecord) : Bool :=
  match record.report.errorKey with
  | some (.error _) => true
  | _ => false

/-- The completed calls of a method whose error the classifier cannot file. -/
def unfiled (completed : List CallRecord) (method : String) : ℕ :=
  completed.countP fun record => record.isFor method && record.unhashable

/-- What the three interceptors say about each other, up to `slack` errors of a
method that the classifier lacks. -/
structure InterceptorsAgree
    (slack : String → ℕ) (maxRecords : ℕ) (state : DefaultMiddleware)
    (completed : List CallRecord) : Prop where
  errors :
    ∀ method, (state.statsOf method).errorCount =
      (state.codesOf method).total id + slack method
  codes :
    ∀ key, (state.byCode.get? key).getD 0 =
      state.byMethod.total fun codes => (codes.get? key).getD 0
  records : state.records = completed.take maxRecords
  callsFor :
    completed.length ≤ maxRecords →
      ∀ method,
        (state.callsFor method).length = (state.statsOf method).callCount ∧
          (state.callsFor method).countP CallRecord.failed =
            (state.statsOf method).errorCount

/-! ## One report -/

section Observe

variable {state : DefaultMiddleware} {report : CallReport} {now : ℚ}

theorem statsOf_observe (method : String) :
    (state.observe report now).statsOf method =
      if report.request.method = method then
        (state.statsOf method).record report.elapsedMs report.error.isSome
      else
        state.statsOf method := by
  rw [DefaultMiddleware.statsOf, observe_stats, DefaultMiddleware.time,
    OrderedDict.get?_set]
  by_cases isIt : report.request.method = method
  · rw [if_pos isIt.symm, if_pos isIt, isIt]
    rfl
  · rw [if_neg (Ne.symm isIt), if_neg isIt]
    rfl

theorem observe_maxRecords :
    (state.observe report now).maxRecords = state.maxRecords := by
  simp only [DefaultMiddleware.observe, DefaultMiddleware.record,
    DefaultMiddleware.classify]
  split <;> split <;> rfl

theorem observe_records :
    (state.observe report now).records =
      if state.records.length < state.maxRecords then
        state.records ++ [⟨report, now⟩]
      else
        state.records := by
  have recorded :
      (state.observe report now).records =
        ((state.time report).record report now).records := by
    simp only [DefaultMiddleware.observe, DefaultMiddleware.classify]
    split <;> rfl
  rw [recorded, DefaultMiddleware.record]
  split
  · next below => exact (if_pos below).symm
  · next full => exact (if_neg full).symm

/-- The classifier's counts by method after a report. -/
theorem observe_byMethod :
    (state.observe report now).byMethod =
      match report.countedKey with
      | some key =>
          state.byMethod.set report.request.method
            (bump (state.codesOf report.request.method) key)
      | none => state.byMethod := by
  have untouched :
      ((state.time report).record report now).byMethod = state.byMethod := by
    simp only [DefaultMiddleware.record]
    split <;> rfl
  rcases filed : report.errorKey with _ | exc | key
  · simp only [DefaultMiddleware.observe, CallReport.countedKey, filed,
      untouched]
  · simp only [DefaultMiddleware.observe, CallReport.countedKey, filed,
      untouched]
  · simp only [DefaultMiddleware.observe, CallReport.countedKey, filed,
      DefaultMiddleware.classify, DefaultMiddleware.codesOf, untouched]

theorem total_bump (counts : OrderedDict PyKey ℕ) (key : PyKey) :
    (bump counts key).total id = counts.total id + 1 := by
  have changed :=
    counts.total_set key ((counts.get? key).getD 0 + 1) id
  rw [bump]
  cases found : counts.get? key with
  | none =>
      simp only [found, Option.elim_none, Option.getD_none, id] at changed ⊢
      omega
  | some count =>
      simp only [found, Option.elim_some, Option.getD_some, id] at changed ⊢
      omega

/-- A report that is counted adds one to the codes of its method. -/
theorem codesOf_observe (method : String) :
    ((state.observe report now).codesOf method).total id =
      (state.codesOf method).total id +
        if report.request.method = method ∧ report.countedKey.isSome then 1
        else 0 := by
  rw [DefaultMiddleware.codesOf, observe_byMethod]
  cases report.countedKey with
  | none => simp [DefaultMiddleware.codesOf]
  | some key =>
      simp only [OrderedDict.get?_set]
      by_cases isIt : report.request.method = method
      · simp [isIt, total_bump]
      · simp [isIt, Ne.symm isIt, DefaultMiddleware.codesOf]

/-- A report that is counted under a key adds one to the counts of that key
over all methods. -/
theorem byMethod_observe (key : PyKey) :
    (state.observe report now).byMethod.total
        (fun codes => (codes.get? key).getD 0) =
      state.byMethod.total (fun codes => (codes.get? key).getD 0) +
        if report.countedKey = some key then 1 else 0 := by
  rw [observe_byMethod]
  cases counted : report.countedKey with
  | none => simp
  | some filed =>
      have changed :=
        state.byMethod.total_set report.request.method
          (bump (state.codesOf report.request.method) filed)
          fun codes => (codes.get? key).getD 0
      have old :
          (state.byMethod.get? report.request.method).elim 0
              (fun codes => (codes.get? key).getD 0) =
            ((state.codesOf report.request.method).get? key).getD 0 := by
        rw [DefaultMiddleware.codesOf]
        cases state.byMethod.get? report.request.method <;> rfl
      rw [old, get?_bump] at changed
      simp only [Option.some.injEq, eq_comm] at changed ⊢
      omega

end Observe

/-! ## All reports -/

/-- The classifier files the report. -/
def CallRecord.counted (record : CallRecord) : Bool :=
  record.report.countedKey.isSome

/-- The state of the chain after the completed calls. -/
structure Tallied
    (maxRecords : ℕ) (state : DefaultMiddleware)
    (completed : List CallRecord) : Prop where
  callCount :
    ∀ method, (state.statsOf method).callCount =
      completed.countP (CallRecord.isFor method)
  errorCount :
    ∀ method, (state.statsOf method).errorCount =
      completed.countP fun record => record.isFor method && record.failed
  filed :
    ∀ method, (state.codesOf method).total id =
      completed.countP fun record => record.isFor method && record.counted
  byCode :
    ∀ key, (state.byCode.get? key).getD 0 =
      tally (fun record => record.report.countedKey) completed key
  byMethod :
    ∀ key, (state.byMethod.total fun codes => (codes.get? key).getD 0) =
      tally (fun record => record.report.countedKey) completed key
  limit : state.maxRecords = maxRecords
  records : state.records = completed.take maxRecords

section Tallied

variable {maxRecords : ℕ} {state : DefaultMiddleware}
variable {completed : List CallRecord}
variable {report : CallReport} {now : ℚ}

theorem tallied_initial : Tallied maxRecords { maxRecords } [] where
  callCount _ := rfl
  errorCount _ := rfl
  filed _ := rfl
  byCode _ := rfl
  byMethod _ := rfl
  limit := rfl
  records := List.take_nil.symm

theorem take_append_singleton
    (limit : ℕ) (record : CallRecord) :
    (completed ++ [record]).take limit =
      if (completed.take limit).length < limit then
        completed.take limit ++ [record]
      else
        completed.take limit := by
  rw [List.length_take]
  by_cases below : completed.length < limit
  · have room : min limit completed.length < limit := by omega
    have fits : (completed ++ [record]).length ≤ limit := by
      rw [List.length_append, List.length_singleton]
      omega
    rw [if_pos room, List.take_of_length_le fits,
      List.take_of_length_le below.le]
  · have full : ¬ min limit completed.length < limit := by omega
    rw [if_neg full, List.take_append_of_le_length (not_lt.mp below)]

theorem Tallied.observe (tallied : Tallied maxRecords state completed) :
    Tallied maxRecords (state.observe report now)
      (completed ++ [⟨report, now⟩]) where
  callCount method := by
    rw [statsOf_observe, countP_append_singleton, ← tallied.callCount]
    by_cases isIt : report.request.method = method <;>
      simp [CallRecord.isFor, MethodStats.record, isIt]
  errorCount method := by
    rw [statsOf_observe, countP_append_singleton, ← tallied.errorCount]
    by_cases isIt : report.request.method = method <;>
      simp [CallRecord.isFor, CallRecord.failed, MethodStats.record, isIt]
  filed method := by
    rw [codesOf_observe, countP_append_singleton, ← tallied.filed]
    simp only [CallRecord.isFor, CallRecord.counted, Bool.and_eq_true,
      decide_eq_true_eq]
  byCode key := by
    rw [byCode_observe, tally, countP_append_singleton, tallied.byCode, tally]
    simp only [decide_eq_true_eq]
  byMethod key := by
    rw [byMethod_observe, tally, countP_append_singleton, tallied.byMethod,
      tally]
    simp only [decide_eq_true_eq]
  limit := by
    rw [observe_maxRecords, tallied.limit]
  records := by
    rw [observe_records, tallied.limit, take_append_singleton,
      tallied.records]

/-- An error is filed, or its code cannot be a key. -/
theorem failed_eq (record : CallRecord) :
    (if record.failed then 1 else 0) =
      (if record.counted then 1 else 0) +
        if record.unhashable then 1 else 0 := by
  obtain ⟨⟨request, result, error, elapsedMs⟩, timestamp⟩ := record
  cases error with
  | none => rfl
  | some error =>
      rcases filed : error.code.asKey with exc | key <;>
        simp [CallRecord.failed, CallRecord.counted, CallRecord.unhashable,
          CallReport.countedKey, CallReport.errorKey, filed]

theorem countP_failed (method : String) :
    (completed.countP fun record => record.isFor method && record.failed) =
      (completed.countP fun record =>
        record.isFor method && record.counted) +
          unfiled completed method := by
  rw [unfiled]
  induction completed with
  | nil => rfl
  | cons record completed inductionHypothesis =>
      have here := failed_eq record
      rw [List.countP_cons, List.countP_cons, List.countP_cons,
        inductionHypothesis]
      cases isIt : record.isFor method with
      | false => simp
      | true =>
          simp only [Bool.true_and]
          omega

theorem Tallied.agree (tallied : Tallied maxRecords state completed) :
    InterceptorsAgree (unfiled completed) maxRecords state completed where
  errors method := by
    rw [tallied.errorCount, tallied.filed]
    exact countP_failed method
  codes key := by
    rw [tallied.byCode, tallied.byMethod]
  records := tallied.records
  callsFor within method := by
    have all : state.records = completed := by
      rw [tallied.records]
      exact List.take_of_length_le within
    constructor
    · rw [DefaultMiddleware.callsFor, all, tallied.callCount,
        List.countP_eq_length_filter]
      rfl
    · rw [DefaultMiddleware.callsFor, all, tallied.errorCount,
        List.countP_filter]
      apply List.countP_congr
      intro record _
      simp [CallRecord.isFor, and_comm]

end Tallied

/-! ## Runs -/

section Runs

variable {policy : ℕ → RetryPolicy} {default : ℕ → Commitment}
variable {rendering : Rendering} {maxRecords : ℕ}

theorem completed_startEvents
    (now : ℚ) (index : ℕ) (call : Call) :
    (startEvents index call).filterMap (HookEvent.completed now) = [] := by
  rw [startEvents]
  cases call.dispatch <;> rfl

theorem completed_finishEvents
    (rendering : Rendering) (clock : HookClock) (index : ℕ) (call : Call) :
    (finishEvents rendering clock index call).filterMap
        (HookEvent.completed clock.now) =
      ((call.report rendering clock.elapsedMs).map fun report =>
        (⟨report, clock.now⟩ : CallRecord)).toList := by
  rw [finishEvents]
  cases call.report rendering clock.elapsedMs <;> rfl

/-- A step of one client completes at most one call. -/
theorem DefaultStep.completes
    {clock : HookClock} {middleware : DefaultMiddleware}
    {client : ClientState} {target : InstrumentedState DefaultMiddleware}
    (step : DefaultStep rendering clock ⟨client, middleware, []⟩ target) :
    ∃ call : Call,
      target.middleware = observed rendering clock middleware call ∧
        target.events.filterMap (HookEvent.completed clock.now) =
          ((call.report rendering clock.elapsedMs).map fun report =>
            (⟨report, clock.now⟩ : CallRecord)).toList := by
  cases step with
  | started requestId call =>
      refine ⟨call, rfl, ?_⟩
      rw [List.filterMap_append, List.filterMap_append,
        completed_startEvents, completed_finishEvents]
      rfl
  | advanced requestId index attempt old call found underWay sameDispatch =>
      refine ⟨call, rfl, ?_⟩
      rw [List.filterMap_append, completed_finishEvents]
      rfl

theorem tallied_observed
    {clock : HookClock} {middleware : DefaultMiddleware}
    {completed : List CallRecord}
    (tallied : Tallied maxRecords middleware completed) (call : Call) :
    Tallied maxRecords (observed rendering clock middleware call)
      (completed ++
        ((call.report rendering clock.elapsedMs).map fun report =>
          (⟨report, clock.now⟩ : CallRecord)).toList) := by
  rw [observed]
  cases call.report rendering clock.elapsedMs with
  | none =>
      simp only [Option.map_none, Option.toList_none, List.append_nil]
      exact tallied
  | some report => exact tallied.observe

theorem tallied_step
    {state target : SharedState} {label : SharedLabel}
    (tallied : Tallied maxRecords state.middleware state.completed)
    (taken :
      (sharedMachine policy default rendering maxRecords).step state label =
        some target) :
    Tallied maxRecords target.middleware target.completed := by
  obtain ⟨next, stepped, rfl⟩ := Option.map_eq_some_iff.mp taken
  obtain ⟨step, _⟩ := step_defaultMachine stepped
  obtain ⟨call, middleware, completes⟩ := step.completes
  simp only [middleware, completes]
  exact tallied_observed tallied call

end Runs

/-- At every moment between two steps of any clients on one default chain, the
three interceptors agree up to the errors whose code cannot be filed. -/
theorem interceptorsAgree_of_reachable
    {policy : ℕ → RetryPolicy} {default : ℕ → Commitment}
    {rendering : Rendering} {maxRecords : ℕ} {state : SharedState}
    (reached :
      (sharedMachine policy default rendering maxRecords).Reachable state) :
    InterceptorsAgree (unfiled state.completed) maxRecords state.middleware
      state.completed := by
  have tallied : Tallied maxRecords state.middleware state.completed := by
    apply Machine.invariant_of_step _ _ reached
    · exact tallied_initial
    · intro source target label _ tallied _ taken
      exact tallied_step tallied taken
  exact tallied.agree

/-! Two clients with the default configuration. -/

abbrev plainSharedMachine : Machine SharedState SharedLabel :=
  sharedMachine (fun _ => {}) (fun _ => .confirmed) plainRendering 10000

/-- The second client's call overtakes the first client's. -/
def overtakingRun : List SharedLabel :=
  [⟨0, .start (.requestRaw unknownMethod) ⟨0, 0⟩⟩,
    ⟨1, .start (.request unknownMethod) ⟨0, 0⟩⟩,
    ⟨1, .post 0 ⟨.reply 200 (some methodNotFound), false⟩ ⟨3, 1⟩⟩,
    ⟨0, .post 0 ⟨.reply 200 (some methodNotFound), false⟩ ⟨5, 2⟩⟩]

/-- An error whose code is a list. -/
def listCode : Json :=
  .obj [("jsonrpc", .str "2.0"), ("id", .int 1),
    ("error", .obj [("code", .arr []), ("message", .str "Internal error")])]

def listCodeRun : List SharedLabel :=
  [⟨0, .start (.requestRaw unknownMethod) ⟨0, 0⟩⟩,
    ⟨0, .post 0 ⟨.reply 200 (some listCode), false⟩ ⟨3, 1⟩⟩]

theorem interceptorsAgree_overtakingRun :
    ∃ state,
      plainSharedMachine.run plainSharedMachine.initial overtakingRun =
        some state ∧
      state.completed.map CallRecord.timestamp = [1, 2] ∧
      InterceptorsAgree (unfiled state.completed) 10000 state.middleware
        state.completed := by
  obtain ⟨state, ran, inOrder⟩ :
      ∃ state,
        plainSharedMachine.run plainSharedMachine.initial overtakingRun =
          some state ∧
        state.completed.map CallRecord.timestamp = [1, 2] :=
    ⟨_, rfl, rfl⟩
  have reached : plainSharedMachine.Reachable state :=
    Machine.reachable_of_run .initial ran
  exact ⟨state, ran, inOrder, interceptorsAgree_of_reachable reached⟩

/-- The statistics count the error, the classifier raises on it. -/
theorem interceptorsAgree_fails_of_listCode :
    ∃ state,
      plainSharedMachine.run plainSharedMachine.initial listCodeRun =
        some state ∧
      ¬ InterceptorsAgree (fun _ => 0) 10000 state.middleware
        state.completed := by
  refine ⟨_, rfl, fun agree => ?_⟩
  have errors := agree.errors "nonExistentMethod"
  revert errors
  decide

end KarstflowTests.Rpc

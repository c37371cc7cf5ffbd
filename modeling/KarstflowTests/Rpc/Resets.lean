import KarstflowTests.Rpc.MethodStats

/-!
# Resetting the interceptors of a shared chain

The timing and the recording interceptor can be reset at any moment, the
classifier cannot.  `SinceReset` says what the default chain holds then: the
statistics and the records of the calls completed since the last reset, and the
counts of all errors.
-/

namespace KarstflowTests.Rpc

open KarstflowTests.Library

/-! ## The machine -/

namespace DefaultMiddleware

/-- `TimingInterceptor.reset` -/
def resetTiming (state : DefaultMiddleware) : DefaultMiddleware :=
  { state with stats := .empty }

/-- `RecordingInterceptor.reset` -/
def resetRecording (state : DefaultMiddleware) : DefaultMiddleware :=
  { state with records := [] }

end DefaultMiddleware

/-- The clients on one chain, and what was completed since the resets. -/
structure ResettableState where
  shared : SharedState
  sinceTiming : List CallRecord
  sinceRecording : List CallRecord

inductive ResettableLabel where
  | work (label : SharedLabel)
  | resetTiming
  | resetRecording

def SharedState.onMiddleware (state : SharedState)
    (change : DefaultMiddleware → DefaultMiddleware) : SharedState :=
  { state with middleware := change state.middleware }

/-- The calls of any clients, and resets between any two of their steps. -/
def resettableMachine (policy : ℕ → RetryPolicy) (default : ℕ → Commitment)
    (rendering : Rendering) (maxRecords : ℕ) :
    Machine ResettableState ResettableLabel where
  initial :=
    { shared := (sharedMachine policy default rendering maxRecords).initial
      sinceTiming := []
      sinceRecording := [] }
  step state label :=
    match label with
    | .work label =>
        ((sharedMachine policy default rendering maxRecords).step
            state.shared label).map fun next =>
          let fresh := next.completed.drop state.shared.completed.length
          { shared := next
            sinceTiming := state.sinceTiming ++ fresh
            sinceRecording := state.sinceRecording ++ fresh }
    | .resetTiming =>
        some
          { state with
            shared := state.shared.onMiddleware .resetTiming
            sinceTiming := [] }
    | .resetRecording =>
        some
          { state with
            shared := state.shared.onMiddleware .resetRecording
            sinceRecording := [] }

/-! ## The property -/

def CallRecord.method (record : CallRecord) : String :=
  record.report.request.method

/-- A count that is kept only if it is not zero. -/
def kept (count : ℕ) : Option ℕ :=
  if count = 0 then none else some count

/-- The key under which an error of the method is filed. -/
def CallRecord.filedFor (method : String) (record : CallRecord) :
    Option PyKey :=
  if record.method = method then record.report.countedKey else none

/-- What the three interceptors hold. -/
structure SinceReset (maxRecords : ℕ) (state : DefaultMiddleware)
    (timed recorded completed : List CallRecord) : Prop where
  stats : Timed state timed
  methods : state.stats.keys = (timed.map CallRecord.method).eraseDups
  limit : state.maxRecords = maxRecords
  records : state.records = recorded.take maxRecords
  byCode :
    ∀ key, state.byCode.get? key =
      kept (tally (fun record => record.report.countedKey) completed key)
  byMethod :
    ∀ method key, (state.codesOf method).get? key =
      kept (tally (CallRecord.filedFor method) completed key)
  failing :
    ∀ method, (state.byMethod.get? method).isSome ↔
      ∃ record ∈ completed, record.method = method ∧ record.counted

/-! ## One report -/

section Observe

variable {maxRecords : ℕ} {state : DefaultMiddleware}
variable {timed recorded completed : List CallRecord}
variable {report : CallReport} {now : ℚ}

theorem kept_succ (count : ℕ) : kept (count + 1) = some (count + 1) :=
  if_neg (Nat.succ_ne_zero count)

theorem kept_getD (count : ℕ) : (kept count).getD 0 = count := by
  rw [kept]
  split
  · next isZero => exact isZero.symm
  · rfl

/-- Counting one more item. -/
theorem get?_bump_kept {Key : Type} [DecidableEq Key]
    {counts : OrderedDict Key ℕ} {key other : Key} {count : ℕ}
    (before : counts.get? other = kept count) :
    (bump counts key).get? other =
      kept (count + if key = other then 1 else 0) := by
  rw [bump, OrderedDict.get?_set]
  by_cases same : other = key
  · subst same
    rw [if_pos rfl, if_pos rfl, before, kept_getD, kept_succ]
  · rw [if_neg same, if_neg (Ne.symm same), before, Nat.add_zero]

theorem eraseDups_append_singleton {α : Type} [DecidableEq α]
    (items : List α) (item : α) :
    (items ++ [item]).eraseDups =
      if item ∈ items.eraseDups then items.eraseDups
      else items.eraseDups ++ [item] := by
  rw [List.eraseDups_append, List.removeAll]
  by_cases member : item ∈ items
  · simp [member]
  · simp [member, List.eraseDups_cons]

theorem byCode_observe_kept {key : PyKey} {count : ℕ}
    (before : state.byCode.get? key = kept count) :
    (state.observe report now).byCode.get? key =
      kept (count + if report.countedKey = some key then 1 else 0) := by
  have untouched :
      ((state.time report).record report now).byCode = state.byCode := by
    simp only [DefaultMiddleware.record]
    split <;> rfl
  rcases filed : report.errorKey with _ | exc | counted
  · simp [DefaultMiddleware.observe, CallReport.countedKey, filed, untouched,
      before]
  · simp [DefaultMiddleware.observe, CallReport.countedKey, filed, untouched,
      before]
  · simp only [DefaultMiddleware.observe, CallReport.countedKey, filed,
      DefaultMiddleware.classify, untouched, Option.some.injEq]
    exact get?_bump_kept before

theorem codesOf_observe_kept {method : String} {key : PyKey} {count : ℕ}
    (before : (state.codesOf method).get? key = kept count) :
    ((state.observe report now).codesOf method).get? key =
      kept (count +
        if CallRecord.filedFor method ⟨report, now⟩ = some key then 1
        else 0) := by
  have filed : CallRecord.filedFor method ⟨report, now⟩ =
      if report.request.method = method then report.countedKey
      else none := rfl
  rw [DefaultMiddleware.codesOf, observe_byMethod, filed]
  cases report.countedKey with
  | none => simpa [DefaultMiddleware.codesOf] using before
  | some counted =>
      simp only [OrderedDict.get?_set]
      by_cases isIt : report.request.method = method
      · subst isIt
        simp only [if_true, Option.getD_some, Option.some.injEq]
        exact get?_bump_kept before
      · simp only [isIt, Ne.symm isIt, if_false, reduceCtorEq, Nat.add_zero]
        exact before

theorem SinceReset.observe
    (holds : SinceReset maxRecords state timed recorded completed) :
    SinceReset maxRecords (state.observe report now)
      (timed ++ [⟨report, now⟩]) (recorded ++ [⟨report, now⟩])
      (completed ++ [⟨report, now⟩]) where
  stats := holds.stats.observe report now
  methods := by
    rw [observe_stats, DefaultMiddleware.time, OrderedDict.keys_set,
      List.map_append, List.map_singleton, eraseDups_append_singleton,
      holds.methods]
    rfl
  limit := by
    rw [observe_maxRecords, holds.limit]
  records := by
    rw [observe_records, holds.limit, take_append_singleton, holds.records]
  byCode key := by
    rw [byCode_observe_kept (holds.byCode key), tally, tally,
      countP_append_singleton]
    simp only [decide_eq_true_eq]
  byMethod method key := by
    rw [codesOf_observe_kept (holds.byMethod method key), tally, tally,
      countP_append_singleton]
    simp only [decide_eq_true_eq]
  failing method := by
    have counted : CallRecord.counted ⟨report, now⟩ =
        report.countedKey.isSome := rfl
    have isFor : CallRecord.method ⟨report, now⟩ =
        report.request.method := rfl
    have before := holds.failing method
    rw [observe_byMethod]
    simp only [List.mem_append, List.mem_singleton, or_and_right,
      exists_or, exists_eq_left, counted, isFor]
    cases report.countedKey with
    | none => simpa using before
    | some key =>
        simp only [OrderedDict.get?_set]
        by_cases isIt : method = report.request.method
        · simp [isIt]
        · simpa [isIt, Ne.symm isIt] using before

theorem SinceReset.observed
    (holds : SinceReset maxRecords state timed recorded completed)
    (rendering : Rendering) (clock : HookClock) (call : Call) :
    let fresh :=
      ((call.report rendering clock.elapsedMs).map fun report =>
        (⟨report, clock.now⟩ : CallRecord)).toList
    SinceReset maxRecords (Rpc.observed rendering clock state call)
      (timed ++ fresh) (recorded ++ fresh) (completed ++ fresh) := by
  rw [Rpc.observed]
  cases call.report rendering clock.elapsedMs with
  | none =>
      simp only [Option.map_none, Option.toList_none, List.append_nil]
      exact holds
  | some report => exact holds.observe

end Observe

/-! ## Runs -/

section Runs

variable {policy : ℕ → RetryPolicy} {default : ℕ → Commitment}
variable {rendering : Rendering} {maxRecords : ℕ}

/-- A step of the shared chain reports at most one call to it. -/
theorem step_sharedMachine
    {state target : SharedState} {label : SharedLabel}
    (taken :
      (sharedMachine policy default rendering maxRecords).step state label =
        some target) :
    ∃ (clock : HookClock) (call : Call),
      target.middleware =
          observed rendering clock state.middleware call ∧
        target.completed =
          state.completed ++
            ((call.report rendering clock.elapsedMs).map fun report =>
              (⟨report, clock.now⟩ : CallRecord)).toList := by
  obtain ⟨next, stepped, rfl⟩ := Option.map_eq_some_iff.mp taken
  obtain ⟨step, _⟩ := step_defaultMachine stepped
  obtain ⟨call, middleware, completes⟩ := step.completes
  exact ⟨label.action.clock, call, middleware, congrArg _ completes⟩

theorem sinceReset_step
    {state target : ResettableState} {label : ResettableLabel}
    (holds :
      SinceReset maxRecords state.shared.middleware state.sinceTiming
        state.sinceRecording state.shared.completed)
    (taken :
      (resettableMachine policy default rendering maxRecords).step state
        label = some target) :
    SinceReset maxRecords target.shared.middleware target.sinceTiming
      target.sinceRecording target.shared.completed := by
  cases label with
  | work label =>
      obtain ⟨next, stepped, rfl⟩ := Option.map_eq_some_iff.mp taken
      obtain ⟨clock, call, middleware, completes⟩ :=
        step_sharedMachine stepped
      simp only [middleware, completes, List.drop_left]
      exact holds.observed rendering clock call
  | resetTiming =>
      cases taken
      exact
        ⟨fun _ => MethodStats.Summarizes.empty, rfl, holds.limit,
          holds.records, holds.byCode, holds.byMethod, holds.failing⟩
  | resetRecording =>
      cases taken
      exact
        ⟨holds.stats, holds.methods, holds.limit, List.take_nil.symm,
          holds.byCode, holds.byMethod, holds.failing⟩

theorem sinceReset_initial : SinceReset maxRecords { maxRecords } [] [] [] :=
  ⟨timed_initial maxRecords, rfl, rfl, List.take_nil.symm, fun _ => rfl,
    fun _ _ => rfl, by simp⟩

/-- Whatever the clients interleave, and whenever the interceptors are
reset. -/
theorem sinceReset_of_reachable {state : ResettableState}
    (reached :
      (resettableMachine policy default rendering maxRecords).Reachable
        state) :
    SinceReset maxRecords state.shared.middleware state.sinceTiming
      state.sinceRecording state.shared.completed := by
  apply Machine.invariant_of_step _ _ reached
  · exact sinceReset_initial
  · intro source target label _ holds _ taken
    exact sinceReset_step holds taken

end Runs

end KarstflowTests.Rpc

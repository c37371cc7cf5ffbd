import Mathlib.Order.WithBot
import KarstflowTests.Library.OrderedDict
import KarstflowTests.Python.Action
import KarstflowTests.Rpc.Wrappers

/-!
# Middleware

A chain of interceptors sees every call twice: `run_before` with the method
and its parameters, `run_after` with a report of the outcome.  The hooks act
on the state of all interceptors and may raise; an exception ends the chain.

The default chain times, records and classifies.  Its state after a report is
`DefaultMiddleware.observe`, whether or not the classifier raised.
-/

namespace KarstflowTests.Rpc

open KarstflowTests.Library

/-! ## Chains -/

/-- The error dict handed to `after`; the `data` key may be absent. -/
structure ErrorRecord where
  code : Json
  message : Json
  data : Option Json := none
  deriving DecidableEq

/-- The arguments of `after`; `None` as a result is `.result .null`. -/
structure CallReport where
  request : Request
  result : Returned
  error : Option ErrorRecord
  elapsedMs : ℚ
  deriving DecidableEq

/-- The hooks of an interceptor, on the state `σ` of all interceptors.  `after`
also gets the reading of `time.time()`. -/
structure Interceptor (σ : Type) where
  before : Request → Action σ Unit
  after : CallReport → ℚ → Action σ Unit

abbrev MiddlewareChain (σ : Type) := List (Interceptor σ)

namespace MiddlewareChain

variable {σ : Type}

def add (chain : MiddlewareChain σ) (interceptor : Interceptor σ) :
    MiddlewareChain σ :=
  chain ++ [interceptor]

def runBefore (chain : MiddlewareChain σ) (request : Request) :
    Action σ Unit :=
  chain.forM fun interceptor => interceptor.before request

def runAfter (chain : MiddlewareChain σ) (report : CallReport) (now : ℚ) :
    Action σ Unit :=
  chain.forM fun interceptor => interceptor.after report now

end MiddlewareChain

/-! ## Timing -/

/-- Aggregated statistics for a single RPC method. -/
structure MethodStats where
  callCount : ℕ := 0
  errorCount : ℕ := 0
  totalMs : ℚ := 0
  /-- `inf` before the first call -/
  minMs : WithTop ℚ := ⊤
  maxMs : ℚ := 0

namespace MethodStats

def avgMs (stats : MethodStats) : ℚ :=
  if stats.callCount = 0 then 0 else stats.totalMs / stats.callCount

def record (stats : MethodStats) (elapsedMs : ℚ) (isError : Bool) :
    MethodStats where
  callCount := stats.callCount + 1
  errorCount := stats.errorCount + if isError then 1 else 0
  totalMs := stats.totalMs + elapsedMs
  minMs := min stats.minMs elapsedMs
  maxMs := max stats.maxMs elapsedMs

end MethodStats

/-! ## The default chain -/

/-- Single recorded RPC call. -/
structure CallRecord where
  report : CallReport
  timestamp : ℚ

/-- The state of `TimingInterceptor`, `RecordingInterceptor` and
`ErrorClassifier` together. -/
structure DefaultMiddleware where
  stats : OrderedDict String MethodStats := .empty
  records : List CallRecord := []
  maxRecords : ℕ := 10000
  byCode : OrderedDict PyKey ℕ := .empty
  byMethod : OrderedDict String (OrderedDict PyKey ℕ) := .empty

/-- `counts[key] += 1` on a `defaultdict(int)`. -/
def bump {Key : Type} [DecidableEq Key] (counts : OrderedDict Key ℕ)
    (key : Key) : OrderedDict Key ℕ :=
  counts.set key ((counts.get? key).getD 0 + 1)

namespace DefaultMiddleware

def time (state : DefaultMiddleware) (report : CallReport) :
    DefaultMiddleware :=
  let method := report.request.method
  let stats := (state.stats.get? method).getD {}
  { state with
    stats :=
      state.stats.set method
        (stats.record report.elapsedMs report.error.isSome) }

def record (state : DefaultMiddleware) (report : CallReport) (now : ℚ) :
    DefaultMiddleware :=
  if state.records.length < state.maxRecords then
    { state with records := state.records ++ [⟨report, now⟩] }
  else
    state

def classify (state : DefaultMiddleware) (method : String) (key : PyKey) :
    DefaultMiddleware :=
  let codes := (state.byMethod.get? method).getD .empty
  { state with
    byCode := bump state.byCode key
    byMethod := state.byMethod.set method (bump codes key) }

end DefaultMiddleware

def timingInterceptor : Interceptor DefaultMiddleware where
  before _ := pure ()
  after report _ := modify fun state => state.time report

def recordingInterceptor : Interceptor DefaultMiddleware where
  before _ := pure ()
  after report now := modify fun state => state.record report now

def errorClassifier : Interceptor DefaultMiddleware where
  before _ := pure ()
  after report _ :=
    match report.error with
    | none => pure ()
    | some error => do
        let key ← Action.ofExcept error.code.asKey
        modify fun state => state.classify report.request.method key

/-- Create the default middleware chain with timing + recording. -/
def defaultMiddleware : MiddlewareChain DefaultMiddleware :=
  [timingInterceptor, recordingInterceptor, errorClassifier]

/-! ## What the default chain does with a report -/

/-- The key under which a report's error is counted. -/
def CallReport.errorKey (report : CallReport) : Option (Except Exc PyKey) :=
  report.error.map fun error => error.code.asKey

/-- The key under which the classifier counts a report. -/
def CallReport.countedKey (report : CallReport) : Option PyKey :=
  match report.errorKey with
  | some (.ok key) => some key
  | _ => none

/-- The state after a report: timed and recorded, and classified if it has an
error whose code can be a dict key. -/
def DefaultMiddleware.observe (state : DefaultMiddleware)
    (report : CallReport) (now : ℚ) : DefaultMiddleware :=
  let seen := (state.time report).record report now
  match report.errorKey with
  | some (.ok key) => seen.classify report.request.method key
  | _ => seen

/-- What the chain raises: the classifier's failure to file the code. -/
def CallReport.hookOutcome (report : CallReport) : Except Exc Unit :=
  match report.errorKey with
  | some (.error exc) => .error exc
  | _ => .ok ()

theorem runBefore_default (request : Request) (state : DefaultMiddleware) :
    (defaultMiddleware.runBefore request).run.run state = (.ok (), state) :=
  rfl

theorem errorClassifier_after
    (report : CallReport) (now : ℚ) (state : DefaultMiddleware) :
    (errorClassifier.after report now).run.run state =
      (report.hookOutcome,
        match report.errorKey with
        | some (.ok key) => state.classify report.request.method key
        | _ => state) := by
  obtain ⟨request, result, error, elapsedMs⟩ := report
  cases error with
  | none => rfl
  | some error =>
      rcases filed : error.code.asKey with exc | key
      · simp only [errorClassifier, CallReport.hookOutcome,
          CallReport.errorKey, Option.map_some, filed]
        rfl
      · simp only [errorClassifier, CallReport.hookOutcome,
          CallReport.errorKey, Option.map_some, filed]
        rfl

theorem runAfter_default
    (report : CallReport) (now : ℚ) (state : DefaultMiddleware) :
    (defaultMiddleware.runAfter report now).run.run state =
      (report.hookOutcome, state.observe report now) := by
  -- timing and recording never raise, so the classifier always runs
  have reaches :
      (defaultMiddleware.runAfter report now).run.run state =
        (errorClassifier.after report now >>= fun _ => pure ()).run.run
          ((state.time report).record report now) :=
    rfl
  rw [reaches, bind_pure_unit, errorClassifier_after]
  rfl

/-! ## The counters after a report -/

section Counters

variable {state : DefaultMiddleware} {report : CallReport} {now : ℚ}

theorem get?_bump {Key : Type} [DecidableEq Key]
    (counts : OrderedDict Key ℕ) (key other : Key) :
    ((bump counts key).get? other).getD 0 =
      (counts.get? other).getD 0 + if other = key then 1 else 0 := by
  rw [bump, OrderedDict.get?_set]
  by_cases same : other = key <;> simp [same]

theorem observe_stats :
    (state.observe report now).stats = (state.time report).stats := by
  simp only [DefaultMiddleware.observe, DefaultMiddleware.record,
    DefaultMiddleware.classify]
  split <;> split <;> rfl

/-- A report adds one call to the statistics. -/
theorem totalCalls_observe :
    (state.observe report now).stats.total MethodStats.callCount =
      state.stats.total MethodStats.callCount + 1 := by
  rw [observe_stats, DefaultMiddleware.time]
  have changed :=
    state.stats.total_set report.request.method
      (((state.stats.get? report.request.method).getD {}).record
        report.elapsedMs report.error.isSome)
      MethodStats.callCount
  rcases before : state.stats.get? report.request.method with _ | stats
  · simp only [before, Option.elim_none, Option.getD_none,
      MethodStats.record] at changed ⊢
    omega
  · simp only [before, Option.elim_some, Option.getD_some,
      MethodStats.record] at changed ⊢
    omega

/-- A report adds one to the count of its error's key. -/
theorem byCode_observe (key : PyKey) :
    ((state.observe report now).byCode.get? key).getD 0 =
      (state.byCode.get? key).getD 0 +
        if report.countedKey = some key then 1 else 0 := by
  have untouched :
      ((state.time report).record report now).byCode = state.byCode := by
    simp only [DefaultMiddleware.record]
    split <;> rfl
  rcases filed : report.errorKey with _ | exc | counted
  · simp [DefaultMiddleware.observe, CallReport.countedKey, filed, untouched]
  · simp [DefaultMiddleware.observe, CallReport.countedKey, filed, untouched]
  · simp only [DefaultMiddleware.observe, CallReport.countedKey, filed,
      DefaultMiddleware.classify, untouched, get?_bump, Option.some.injEq,
      eq_comm]

end Counters

end KarstflowTests.Rpc

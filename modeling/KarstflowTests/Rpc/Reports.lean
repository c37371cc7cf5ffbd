import KarstflowTests.Library.Grouping
import KarstflowTests.Library.KeySort
import KarstflowTests.Python.Format
import KarstflowTests.Python.KeyOrder
import KarstflowTests.Rpc.Resets

/-!
# The reports of the interceptors

The timing report is a table of the methods, the slowest in total first; the
error report lists codes, and methods with their codes, in ascending order.
Codes that cannot be compared with each other make the error report raise.

The dict of error codes keeps the first of several equal keys (`1`, `1.0` and
`True` are equal), so that the text of a code depends on the dict it is in;
`KeyText` gives it.
-/

namespace KarstflowTests.Rpc

open KarstflowTests.Library

/-! ## The reports -/

/-- The time by which the rows are sorted. -/
def rowTotal (row : String × MethodStats) : ℚ := row.2.totalMs

namespace DefaultMiddleware

/-- The rows of the timing report. -/
def timingRows (state : DefaultMiddleware) : List (String × MethodStats) :=
  sortDescending rowTotal state.stats.entries

end DefaultMiddleware

/-- One line of the timing report, in the widths of its columns. -/
def timingLine (method calls errors average least most total : String) :
    String :=
  alignLeft 40 method ++ " " ++ alignRight 6 calls ++ " " ++
    alignRight 5 errors ++ " " ++ alignRight 8 average ++ " " ++
    alignRight 8 least ++ " " ++ alignRight 8 most ++ " " ++
    alignRight 10 total

def timingRow (row : String × MethodStats) : String :=
  timingLine row.1 (toString row.2.callCount) (toString row.2.errorCount)
    (fixed 1 row.2.avgMs) (fixedOrInf 1 row.2.minMs) (fixed 1 row.2.maxMs)
    (fixed 1 row.2.totalMs)

/-- The numbers of the last line. -/
structure TimingTotals where
  calls : ℕ
  errors : ℕ
  totalMs : ℚ

def timingTable (rows : List (String × MethodStats)) (totals : TimingTotals) :
    String :=
  "\n".intercalate
    ([timingLine "Method" "Calls" "Errs" "Avg ms" "Min ms" "Max ms"
        "Total ms",
      repeated '-' 95] ++
    rows.map timingRow ++
    [repeated '-' 95,
      timingLine "TOTAL" (toString totals.calls) (toString totals.errors) ""
        "" "" (fixed 1 totals.totalMs)])

namespace DefaultMiddleware

def timingTotals (state : DefaultMiddleware) : TimingTotals where
  calls := (state.stats.entries.map fun row => row.2.callCount).sum
  errors := (state.stats.entries.map fun row => row.2.errorCount).sum
  totalMs := (state.stats.entries.map fun row => row.2.totalMs).sum

/-- `TimingInterceptor.report` -/
def timingReport (state : DefaultMiddleware) : String :=
  if state.stats.entries.isEmpty then
    "No RPC calls recorded."
  else
    timingTable state.timingRows state.timingTotals

/-- `RecordingInterceptor.errors` -/
def errors (state : DefaultMiddleware) : List CallRecord :=
  state.records.filter CallRecord.failed

/-- `RecordingInterceptor.methods_called` -/
def methodsCalled (state : DefaultMiddleware) : List String :=
  (state.records.map CallRecord.method).eraseDups

end DefaultMiddleware

/-- The text of a code in `by_code`, or in `by_method[method]`. -/
abbrev KeyText := Option String → PyKey → String

/-- The codes with their counts, and the methods with theirs. -/
structure ErrorDistribution where
  byCode : List (PyKey × ℕ)
  byMethod : List (String × List (PyKey × ℕ))

namespace ErrorDistribution

def render (text : KeyText) (distribution : ErrorDistribution) : String :=
  "\n".intercalate
    (["Error distribution by code:"] ++
    (distribution.byCode.map fun entry =>
      "  " ++ text none entry.1 ++ ": " ++ toString entry.2 ++
        " occurrences") ++
    ["\nError distribution by method:"] ++
    distribution.byMethod.map fun row =>
      "  " ++ row.1 ++ ": " ++
        ", ".intercalate
          (row.2.map fun entry =>
            text (some row.1) entry.1 ++ ":" ++ toString entry.2))

end ErrorDistribution

namespace DefaultMiddleware

/-- `sorted(self.by_method.items())` -/
def sortedMethods (state : DefaultMiddleware) :
    List (String × OrderedDict PyKey ℕ) :=
  state.byMethod.entries.insertionSort fun first second =>
    first.1 ≤ second.1

def errorDistribution (state : DefaultMiddleware) :
    Except Exc ErrorDistribution := do
  let byCode ← sortedItems state.byCode
  let byMethod ← state.sortedMethods.mapM fun row =>
    (sortedItems row.2).map fun codes => (row.1, codes)
  return { byCode, byMethod }

/-- `ErrorClassifier.report` -/
def errorReport (text : KeyText) (state : DefaultMiddleware) :
    Except Exc String := do
  if state.byCode.entries.isEmpty then
    return "No RPC errors recorded."
  let distribution ← state.errorDistribution
  return distribution.render text

end DefaultMiddleware

/-! ## The properties -/

/-- The rows are the methods of the calls with their statistics, the slowest
in total first and ties in the order of the first calls. -/
structure ListsMethods (timed : List CallRecord)
    (rows : List (String × MethodStats)) : Prop where
  methods :
    (rows.map Prod.fst).Perm (timed.map CallRecord.method).eraseDups
  stats : ∀ row ∈ rows, row.2.Summarizes (samplesOf row.1 timed)
  descending :
    rows.Pairwise fun first second => rowTotal second ≤ rowTotal first
  ties :
    ∀ total,
      ((rows.filter fun row => rowTotal row = total).map
        Prod.fst).Sublist (timed.map CallRecord.method).eraseDups

/-- The last line of the report. -/
def totalsOf (timed : List CallRecord) : TimingTotals where
  calls := timed.length
  errors := timed.countP CallRecord.failed
  totalMs := (timed.map fun record => record.report.elapsedMs).sum

/-- The codes are those of the filed errors in ascending order, each with the
number of its errors. -/
structure ListsCodes (tag : CallRecord → Option PyKey)
    (completed : List CallRecord) (codes : List (PyKey × ℕ)) : Prop where
  listed :
    ∀ key count, (key, count) ∈ codes ↔
      count = tally tag completed key ∧ count ≠ 0
  ascending :
    codes.Pairwise fun first second => first.1.less second.1 = some true

/-- The methods with a filed error in ascending order, each with its codes. -/
structure ListsErrors (completed : List CallRecord)
    (distribution : ErrorDistribution) : Prop where
  byCode :
    ListsCodes (fun record => record.report.countedKey) completed
      distribution.byCode
  methods :
    ∀ method, method ∈ distribution.byMethod.map Prod.fst ↔
      ∃ record ∈ completed, record.method = method ∧ record.counted
  ascending :
    distribution.byMethod.Pairwise fun first second => first.1 < second.1
  codes :
    ∀ row ∈ distribution.byMethod,
      ListsCodes (CallRecord.filedFor row.1) completed row.2

/-- Two filed errors have codes of different kinds. -/
def MixedCodes (completed : List CallRecord) : Prop :=
  ∃ first ∈ completed, ∃ second ∈ completed, ∃ key other,
    first.report.countedKey = some key ∧
      second.report.countedKey = some other ∧ key.kind ≠ other.kind

/-- What `ErrorClassifier.report` does after the calls. -/
structure ErrorsReported (text : KeyText) (completed : List CallRecord)
    (outcome : Except Exc String) : Prop where
  raises : MixedCodes completed → outcome = .error unorderedKeys
  quiet :
    (∀ record ∈ completed, ¬ record.counted) →
      outcome = .ok "No RPC errors recorded."
  lists :
    ¬ MixedCodes completed → (∃ record ∈ completed, record.counted) →
      ∃ distribution, ListsErrors completed distribution ∧
        outcome = .ok (distribution.render text)

/-- What the timing and the recording interceptor report. -/
structure CallsReported (maxRecords : ℕ) (state : DefaultMiddleware)
    (timed recorded : List CallRecord) : Prop where
  timing :
    ∃ rows, ListsMethods timed rows ∧
      state.timingReport =
        if timed.isEmpty then "No RPC calls recorded."
        else timingTable rows (totalsOf timed)
  records : state.records = recorded.take maxRecords
  agree :
    timed = recorded → recorded.length ≤ maxRecords →
      state.methodsCalled.Perm (state.timingRows.map Prod.fst) ∧
        state.errors.length = (totalsOf timed).errors

/-! ## The timing report -/

section Timing

variable {maxRecords : ℕ} {state : DefaultMiddleware}
variable {timed recorded completed : List CallRecord}

theorem SinceReset.stats_of_mem
    (holds : SinceReset maxRecords state timed recorded completed)
    {row : String × MethodStats} (member : row ∈ state.stats.entries) :
    row.2.Summarizes (samplesOf row.1 timed) := by
  have found : state.stats.get? row.1 = some row.2 :=
    OrderedDict.get?_eq_some_iff.mpr member
  have summarizes := holds.stats row.1
  rw [DefaultMiddleware.statsOf, found] at summarizes
  exact summarizes

theorem listsMethods
    (holds : SinceReset maxRecords state timed recorded completed) :
    ListsMethods timed state.timingRows := by
  have keys : state.stats.entries.map Prod.fst =
      (timed.map CallRecord.method).eraseDups :=
    holds.methods
  have perm : state.timingRows.Perm state.stats.entries :=
    perm_sortDescending
  refine ⟨?_, ?_, pairwise_sortDescending, ?_⟩
  · rw [← keys]
    exact perm.map Prod.fst
  · intro row member
    exact holds.stats_of_mem (perm.mem_iff.mp member)
  · intro total
    rw [DefaultMiddleware.timingRows, filter_sortDescending, ← keys]
    exact List.filter_sublist.map Prod.fst

theorem SinceReset.sum_stats
    (holds : SinceReset maxRecords state timed recorded completed)
    {Number : Type} [AddCommMonoid Number] (field : MethodStats → Number)
    (value : CallRecord → Number)
    (summed :
      ∀ (stats : MethodStats) (records : List CallRecord),
        stats.Summarizes (records.map CallRecord.sample) →
          field stats = (records.map value).sum) :
    (state.stats.entries.map fun row => field row.2).sum =
      (timed.map value).sum := by
  have covered : ∀ record ∈ timed, record.method ∈ state.stats.keys := by
    intro record member
    rw [holds.methods, List.mem_eraseDups]
    exact List.mem_map_of_mem member
  rw [← sum_groups state.stats.distinct covered, List.map_map]
  congr 1
  apply List.map_congr_left
  intro row member
  exact summed row.2 _ (holds.stats_of_mem member)

/-- The timing report of the calls since the last reset. -/
theorem timingReport_eq
    (holds : SinceReset maxRecords state timed recorded completed) :
    state.timingReport =
      if timed.isEmpty then "No RPC calls recorded."
      else timingTable state.timingRows (totalsOf timed) := by
  have unused : state.stats.entries.isEmpty = timed.isEmpty := by
    rw [Bool.eq_iff_iff, List.isEmpty_iff, List.isEmpty_iff]
    have keys : state.stats.entries.map Prod.fst =
        (timed.map CallRecord.method).eraseDups :=
      holds.methods
    constructor
    · intro none
      rw [none] at keys
      cases timed with
      | nil => rfl
      | cons record rest => simp [List.eraseDups_cons] at keys
    · intro none
      rw [none] at keys
      exact List.map_eq_nil_iff.mp keys
  have totals : state.timingTotals = totalsOf timed := by
    have calls := holds.sum_stats MethodStats.callCount (fun _ => 1)
      fun stats records summarizes => by
        simp [summarizes.calls]
    have errors := holds.sum_stats MethodStats.errorCount
      (fun record => if record.failed then 1 else 0)
      fun stats records summarizes => by
        rw [summarizes.errors, List.countP_map, countP_eq_sum]
        rfl
    have total := holds.sum_stats MethodStats.totalMs
      (fun record => record.report.elapsedMs)
      fun stats records summarizes => by
        rw [summarizes.total, List.map_map]
        rfl
    rw [DefaultMiddleware.timingTotals, totalsOf, calls, errors, total,
      ← countP_eq_sum]
    simp
  rw [DefaultMiddleware.timingReport, unused, totals]

theorem SinceReset.callsReported
    (holds : SinceReset maxRecords state timed recorded completed) :
    CallsReported maxRecords state timed recorded where
  timing := ⟨state.timingRows, listsMethods holds, timingReport_eq holds⟩
  records := holds.records
  agree same few := by
    have all : state.records = timed := by
      rw [holds.records, same, List.take_of_length_le few]
    constructor
    · rw [DefaultMiddleware.methodsCalled, all]
      exact (listsMethods holds).methods.symm
    · rw [DefaultMiddleware.errors, all, ← List.countP_eq_length_filter]
      rfl

end Timing

/-! ## The error report -/

section Codes

variable {tag : CallRecord → Option PyKey} {completed : List CallRecord}
variable {dict : OrderedDict PyKey ℕ} {codes : List (PyKey × ℕ)}

theorem kept_eq_some_iff {count value : ℕ} :
    kept count = some value ↔ value = count ∧ value ≠ 0 := by
  rw [kept]
  split
  · next isZero =>
      constructor
      · intro same
        cases same
      · rintro ⟨same, nonzero⟩
        exact absurd (same.trans isZero) nonzero
  · next nonzero =>
      constructor
      · intro same
        cases same
        exact ⟨rfl, nonzero⟩
      · rintro ⟨rfl, _⟩
        rfl

/-- A dict of counts has the keys that occur. -/
theorem mem_keys_of_counts
    (counts : ∀ key, dict.get? key = kept (tally tag completed key))
    (key : PyKey) :
    key ∈ dict.keys ↔ ∃ record ∈ completed, tag record = some key := by
  have occurs :
      0 < tally tag completed key ↔
        ∃ record ∈ completed, tag record = some key := by
    simp [tally, List.countP_pos_iff]
  rw [OrderedDict.mem_keys_iff_isSome, counts, ← occurs, kept]
  split
  · next isZero => simp [isZero]
  · next nonzero => simpa using Nat.pos_of_ne_zero nonzero

theorem listsCodes
    (counts : ∀ key, dict.get? key = kept (tally tag completed key))
    (sorts : sortedItems dict = .ok codes) :
    ListsCodes tag completed codes := by
  obtain ⟨perm, ascending⟩ := sortedItems_ok sorts
  refine ⟨?_, ascending⟩
  intro key count
  rw [← perm.mem_iff, ← OrderedDict.get?_eq_some_iff, counts,
    kept_eq_some_iff]

end Codes

section Errors

variable {maxRecords : ℕ} {state : DefaultMiddleware}
variable {timed recorded completed : List CallRecord}

theorem countedKey_of_filedFor {record : CallRecord} {method : String}
    {key : PyKey} (filed : record.filedFor method = some key) :
    record.report.countedKey = some key := by
  rw [CallRecord.filedFor] at filed
  split at filed
  · exact filed
  · cases filed

theorem SinceReset.mixedCodes_iff
    (holds : SinceReset maxRecords state timed recorded completed) :
    (∃ exc, sortedItems state.byCode = .error exc) ↔
      MixedCodes completed := by
  rw [sortedItems_error_iff]
  simp only [mem_keys_of_counts holds.byCode, MixedCodes]
  constructor
  · rintro ⟨key, ⟨first, isFirst, keyed⟩, other, ⟨second, isSecond, coded⟩,
      mixed⟩
    exact ⟨first, isFirst, second, isSecond, key, other, keyed, coded, mixed⟩
  · rintro ⟨first, isFirst, second, isSecond, key, other, keyed, coded,
      mixed⟩
    exact ⟨key, ⟨first, isFirst, keyed⟩, other, ⟨second, isSecond, coded⟩,
      mixed⟩

theorem SinceReset.codes_of_mem
    (holds : SinceReset maxRecords state timed recorded completed)
    {row : String × OrderedDict PyKey ℕ}
    (member : row ∈ state.byMethod.entries) (key : PyKey) :
    row.2.get? key =
      kept (tally (CallRecord.filedFor row.1) completed key) := by
  have found : state.byMethod.get? row.1 = some row.2 :=
    OrderedDict.get?_eq_some_iff.mpr member
  have counts := holds.byMethod row.1 key
  rw [DefaultMiddleware.codesOf, found] at counts
  exact counts

/-- The codes of a method can be sorted if all codes can. -/
theorem SinceReset.sorts_of_mem
    (holds : SinceReset maxRecords state timed recorded completed)
    (comparable : ¬ MixedCodes completed)
    {row : String × OrderedDict PyKey ℕ}
    (member : row ∈ state.byMethod.entries) :
    ∃ codes, sortedItems row.2 = .ok codes := by
  rcases sorts : sortedItems row.2 with exc | codes
  · obtain ⟨key, isKey, other, isOther, mixed⟩ :=
      sortedItems_error_iff.mp ⟨exc, sorts⟩
    rw [mem_keys_of_counts (holds.codes_of_mem member)] at isKey isOther
    obtain ⟨first, isFirst, keyed⟩ := isKey
    obtain ⟨second, isSecond, coded⟩ := isOther
    exact absurd
      ⟨first, isFirst, second, isSecond, key, other,
        countedKey_of_filedFor keyed, countedKey_of_filedFor coded, mixed⟩
      comparable
  · exact ⟨codes, rfl⟩

theorem sortedMethods_perm :
    state.sortedMethods.Perm state.byMethod.entries :=
  List.perm_insertionSort _ _

theorem sortedMethods_ascending :
    state.sortedMethods.Pairwise fun first second => first.1 < second.1 := by
  have ordered :
      state.sortedMethods.Pairwise fun first second =>
        first.1 ≤ second.1 :=
    pairwise_insertionSort_of_agrees fun _ _ _ _ => Iff.rfl
  have distinct :
      state.sortedMethods.Pairwise fun first second =>
        first.1 ≠ second.1 := by
    have nodup :=
      (sortedMethods_perm.map Prod.fst).nodup_iff.mpr
        state.byMethod.distinct
    rw [List.nodup_iff_pairwise_ne, List.pairwise_map] at nodup
    exact nodup
  refine (ordered.and distinct).imp ?_
  intro first second both
  exact lt_of_le_of_ne both.1 both.2

theorem SinceReset.lists
    (holds : SinceReset maxRecords state timed recorded completed)
    (comparable : ¬ MixedCodes completed) :
    ∃ distribution, state.errorDistribution = .ok distribution ∧
      ListsErrors completed distribution := by
  rcases sorts : sortedItems state.byCode with exc | codes
  · exact absurd (holds.mixedCodes_iff.mp ⟨exc, sorts⟩) comparable
  let sortRow : String × OrderedDict PyKey ℕ →
      Except Exc (String × List (PyKey × ℕ)) :=
    fun row => (sortedItems row.2).map fun codes => (row.1, codes)
  rcases rowsSort : state.sortedMethods.mapM sortRow with exc | rows
  · obtain ⟨row, member, fails⟩ := exists_error_of_mapM rowsSort
    obtain ⟨rowCodes, rowSorts⟩ :=
      holds.sorts_of_mem comparable (sortedMethods_perm.mem_iff.mp member)
    simp only [sortRow, rowSorts] at fails
    cases fails
  have sorted := mapM_eq_ok_iff.mp rowsSort
  have names : rows.map Prod.fst = state.sortedMethods.map Prod.fst := by
    have same :
        List.Forall₂ (· = ·) (state.sortedMethods.map Prod.fst)
          (rows.map Prod.fst) := by
      rw [List.forall₂_map_left_iff, List.forall₂_map_right_iff]
      refine sorted.imp ?_
      intro row out outOf
      obtain ⟨rowCodes, _, rfl⟩ := map_eq_ok_iff.mp outOf
      rfl
    rw [List.forall₂_eq_eq_eq] at same
    exact same.symm
  refine ⟨⟨codes, rows⟩, ?_, listsCodes holds.byCode sorts, ?_, ?_, ?_⟩
  · simp only [DefaultMiddleware.errorDistribution, sorts, bind, Except.bind]
    simp only [sortRow] at rowsSort
    rw [rowsSort]
    rfl
  · intro method
    rw [names, (sortedMethods_perm.map Prod.fst).mem_iff, ← holds.failing]
    exact OrderedDict.mem_keys_iff_isSome
  · have ascending :
        (state.sortedMethods.map Prod.fst).Pairwise (· < ·) :=
      List.pairwise_map.mpr sortedMethods_ascending
    rw [← names] at ascending
    exact List.pairwise_map.mp ascending
  · intro row member
    obtain ⟨source, isSource, outOf⟩ :=
      exists_of_mem_mapM rowsSort member
    obtain ⟨rowCodes, rowSorts, rfl⟩ := map_eq_ok_iff.mp outOf
    have inDict := sortedMethods_perm.mem_iff.mp isSource
    exact listsCodes (holds.codes_of_mem inDict) rowSorts

/-- Nothing is filed exactly when no error was. -/
theorem SinceReset.unfiled_iff
    (holds : SinceReset maxRecords state timed recorded completed) :
    state.byCode.entries.isEmpty ↔
      ∀ record ∈ completed, ¬ record.counted := by
  have filed : (∃ key, key ∈ state.byCode.keys) ↔
      ∃ record ∈ completed, record.counted := by
    simp only [mem_keys_of_counts holds.byCode, CallRecord.counted,
      Option.isSome_iff_exists]
    constructor
    · rintro ⟨key, record, member, keyed⟩
      exact ⟨record, member, key, keyed⟩
    · rintro ⟨record, member, key, keyed⟩
      exact ⟨key, record, member, keyed⟩
  rw [← not_iff_not]
  push Not
  rw [← filed, ne_eq, List.isEmpty_iff, ← List.map_eq_nil_iff (f := Prod.fst)]
  constructor
  · exact List.exists_mem_of_ne_nil _
  · rintro ⟨key, isKey⟩
    exact List.ne_nil_of_mem isKey

theorem SinceReset.errorsReported
    (holds : SinceReset maxRecords state timed recorded completed)
    (text : KeyText) :
    ErrorsReported text completed (state.errorReport text) := by
  have filedOf (mixed : MixedCodes completed) :
      ∃ record ∈ completed, record.counted := by
    obtain ⟨first, isFirst, _, _, key, _, keyed, _⟩ := mixed
    exact ⟨first, isFirst, Option.isSome_iff_exists.mpr ⟨key, keyed⟩⟩
  have nonempty (filed : ∃ record ∈ completed, record.counted) :
      state.byCode.entries.isEmpty = false := by
    rw [← Bool.not_eq_true, holds.unfiled_iff]
    push Not
    exact filed
  refine ⟨?_, ?_, ?_⟩
  · intro mixed
    obtain ⟨exc, raises⟩ := holds.mixedCodes_iff.mpr mixed
    rw [sortedItems_error raises] at raises
    simp only [DefaultMiddleware.errorReport, nonempty (filedOf mixed),
      DefaultMiddleware.errorDistribution, raises]
    rfl
  · intro unfiled
    have isEmpty := holds.unfiled_iff.mpr unfiled
    simp only [DefaultMiddleware.errorReport, isEmpty]
    rfl
  · intro comparable filed
    obtain ⟨distribution, sorts, lists⟩ := holds.lists comparable
    refine ⟨distribution, lists, ?_⟩
    simp only [DefaultMiddleware.errorReport, nonempty filed, sorts]
    rfl

end Errors

/-! ## Runs -/

section Runs

variable {policy : ℕ → RetryPolicy} {default : ℕ → Commitment}
variable {rendering : Rendering} {maxRecords : ℕ} {state : ResettableState}

/-- Whatever the clients interleave and whenever the interceptors are reset,
the report and the records are those of the calls since then. -/
theorem callsReported_of_reachable
    (reached :
      (resettableMachine policy default rendering maxRecords).Reachable
        state) :
    CallsReported maxRecords state.shared.middleware state.sinceTiming
      state.sinceRecording :=
  (sinceReset_of_reachable reached).callsReported

/-- The error report raises exactly after errors with incomparable codes. -/
theorem errorsReported_of_reachable
    (reached :
      (resettableMachine policy default rendering maxRecords).Reachable state)
    (text : KeyText) :
    ErrorsReported text state.shared.completed
      (state.shared.middleware.errorReport text) :=
  (sinceReset_of_reachable reached).errorsReported text

end Runs

/-! Two clients, and a reset between their calls. -/

abbrev plainResettableMachine : Machine ResettableState ResettableLabel :=
  resettableMachine (fun _ => {}) (fun _ => .confirmed) plainRendering 10000

/-- An error whose code is a string. -/
def stringCode : Json :=
  .obj [("jsonrpc", .str "2.0"), ("id", .int 1),
    ("error", .obj [("code", .str "E"), ("message", .str "Internal error")])]

def mixedRun : List ResettableLabel :=
  [.work ⟨0, .start (.requestRaw unknownMethod) ⟨0, 0⟩⟩,
    .work ⟨1, .start (.requestRaw unknownMethod) ⟨0, 0⟩⟩,
    .work ⟨1, .post 0 ⟨.reply 200 (some methodNotFound), false⟩ ⟨3, 1⟩⟩,
    .resetTiming,
    .work ⟨0, .post 0 ⟨.reply 200 (some stringCode), false⟩ ⟨5, 2⟩⟩]

theorem callsReported_mixedRun :
    ∃ state,
      plainResettableMachine.run plainResettableMachine.initial mixedRun =
        some state ∧
      state.sinceTiming.map CallRecord.timestamp = [2] ∧
      state.sinceRecording.map CallRecord.timestamp = [1, 2] ∧
      CallsReported 10000 state.shared.middleware state.sinceTiming
        state.sinceRecording := by
  obtain ⟨state, ran, timed, recorded⟩ :
      ∃ state,
        plainResettableMachine.run plainResettableMachine.initial mixedRun =
          some state ∧
        state.sinceTiming.map CallRecord.timestamp = [2] ∧
        state.sinceRecording.map CallRecord.timestamp = [1, 2] :=
    ⟨_, rfl, rfl, rfl⟩
  have reached : plainResettableMachine.Reachable state :=
    Machine.reachable_of_run .initial ran
  exact ⟨state, ran, timed, recorded, callsReported_of_reachable reached⟩

theorem errorsReported_mixedRun :
    ∃ state,
      plainResettableMachine.run plainResettableMachine.initial mixedRun =
        some state ∧
      ErrorsReported (fun _ _ => "code") state.shared.completed
        (state.shared.middleware.errorReport fun _ _ => "code") ∧
      state.shared.middleware.errorReport (fun _ _ => "code") =
        .error unorderedKeys := by
  obtain ⟨state, ran, raises⟩ :
      ∃ state,
        plainResettableMachine.run plainResettableMachine.initial mixedRun =
          some state ∧
        state.shared.middleware.errorReport (fun _ _ => "code") =
          .error unorderedKeys :=
    ⟨_, rfl, rfl⟩
  have reached : plainResettableMachine.Reachable state :=
    Machine.reachable_of_run .initial ran
  exact ⟨state, ran, errorsReported_of_reachable reached _, raises⟩

end KarstflowTests.Rpc

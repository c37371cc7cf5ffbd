import Mathlib.Algebra.Order.BigOperators.Group.List
import Mathlib.Algebra.Order.Field.Rat
import Mathlib.Data.Finset.Max
import KarstflowTests.Rpc.SharedChain

/-!
# The statistics of a method

`MethodStats.record` folds the calls of a method into five numbers.
`Summarizes` says what they are, the two bounds by what lies below and above
them: the minimum starts at infinity and the maximum at zero, so that neither
is a sample before the first call.  The statistics are then determined by the
samples without their order, and those of two parts add up; on a default chain
they are those of the completed calls, whatever its clients interleave.
-/

namespace KarstflowTests.Rpc

open KarstflowTests.Library

/-! ## Recording samples -/

/-- The arguments of `record`. -/
structure Sample where
  elapsedMs : ℚ
  isError : Bool
  deriving DecidableEq

namespace MethodStats

def recordAll (stats : MethodStats) (samples : List Sample) : MethodStats :=
  samples.foldl
    (fun stats sample => stats.record sample.elapsedMs sample.isError) stats

/-- The statistics of a list of samples. -/
def ofSamples (samples : List Sample) : MethodStats :=
  recordAll {} samples

/-- Counts, totals, minima and maxima of two parts. -/
def merge (first second : MethodStats) : MethodStats where
  callCount := first.callCount + second.callCount
  errorCount := first.errorCount + second.errorCount
  totalMs := first.totalMs + second.totalMs
  minMs := min first.minMs second.minMs
  maxMs := max first.maxMs second.maxMs

/-! ## What the numbers are -/

/-- The statistics are those of the samples. -/
structure Summarizes (stats : MethodStats) (samples : List Sample) :
    Prop where
  calls : stats.callCount = samples.length
  errors : stats.errorCount = samples.countP Sample.isError
  total : stats.totalMs = (samples.map Sample.elapsedMs).sum
  below : ∀ bound : WithTop ℚ,
    bound ≤ stats.minMs ↔ ∀ sample ∈ samples, bound ≤ sample.elapsedMs
  above : ∀ bound : ℚ,
    stats.maxMs ≤ bound ↔
      0 ≤ bound ∧ ∀ sample ∈ samples, sample.elapsedMs ≤ bound

namespace Summarizes

variable {stats other : MethodStats} {samples others : List Sample}

theorem empty : Summarizes {} [] where
  calls := rfl
  errors := rfl
  total := rfl
  below bound := by simp
  above bound := by simp

theorem record
    (summarizes : stats.Summarizes samples) (sample : Sample) :
    (stats.record sample.elapsedMs sample.isError).Summarizes
      (samples ++ [sample]) where
  calls := by
    rw [List.length_append, ← summarizes.calls]
    rfl
  errors := by
    rw [List.countP_append, ← summarizes.errors, List.countP_singleton]
    rfl
  total := by
    rw [List.map_append, List.sum_append, ← summarizes.total,
      List.map_singleton, List.sum_singleton]
    rfl
  below bound := by
    rw [List.forall_mem_append, List.forall_mem_singleton,
      ← summarizes.below]
    exact le_min_iff
  above bound := by
    rw [List.forall_mem_append, List.forall_mem_singleton, ← and_assoc,
      ← summarizes.above]
    exact max_le_iff

theorem recordAll
    (summarizes : stats.Summarizes samples) (later : List Sample) :
    (stats.recordAll later).Summarizes (samples ++ later) := by
  induction later generalizing stats samples with
  | nil =>
      rw [List.append_nil]
      exact summarizes
  | cons sample later inductionHypothesis =>
      have recorded := inductionHypothesis (summarizes.record sample)
      rw [List.append_assoc, List.singleton_append] at recorded
      exact recorded

theorem merge
    (first : stats.Summarizes samples) (second : other.Summarizes others) :
    (stats.merge other).Summarizes (samples ++ others) where
  calls := by
    rw [List.length_append, ← first.calls, ← second.calls]
    rfl
  errors := by
    rw [List.countP_append, ← first.errors, ← second.errors]
    rfl
  total := by
    rw [List.map_append, List.sum_append, ← first.total, ← second.total]
    rfl
  below bound := by
    rw [List.forall_mem_append, ← first.below, ← second.below]
    exact le_min_iff
  above bound := by
    have both :
        (stats.merge other).maxMs ≤ bound ↔
          stats.maxMs ≤ bound ∧ other.maxMs ≤ bound :=
      max_le_iff
    rw [both, first.above, second.above, List.forall_mem_append,
      and_and_and_comm, and_self]

/-- The samples determine the statistics, in whatever order they came. -/
theorem eq_of_perm
    (first : stats.Summarizes samples) (second : other.Summarizes others)
    (perm : samples.Perm others) : stats = other := by
  have calls : stats.callCount = other.callCount := by
    rw [first.calls, second.calls, perm.length_eq]
  have errors : stats.errorCount = other.errorCount := by
    rw [first.errors, second.errors, perm.countP_eq]
  have total : stats.totalMs = other.totalMs := by
    rw [first.total, second.total, (perm.map _).sum_eq]
  have least : stats.minMs = other.minMs := by
    apply eq_of_forall_le_iff
    intro bound
    rw [first.below, second.below]
    exact forall_congr' fun sample => imp_congr_left perm.mem_iff
  have greatest : stats.maxMs = other.maxMs := by
    apply eq_of_forall_ge_iff
    intro bound
    rw [first.above, second.above]
    exact and_congr_right' <|
      forall_congr' fun sample => imp_congr_left perm.mem_iff
  cases stats
  cases other
  simp only [mk.injEq]
  exact ⟨calls, errors, total, least, greatest⟩

end Summarizes

theorem summarizes_ofSamples (samples : List Sample) :
    (ofSamples samples).Summarizes samples :=
  Summarizes.empty.recordAll samples

/-! ## Least, greatest and average -/

/-- The elapsed times of the samples. -/
def elapsedSet (samples : List Sample) : Set ℚ :=
  {ms | ms ∈ samples.map Sample.elapsedMs}

namespace Summarizes

variable {stats : MethodStats} {samples : List Sample}

/-- Any least time is the minimum. -/
theorem minMs_eq
    (summarizes : stats.Summarizes samples) {least : ℚ}
    (isLeast : IsLeast (elapsedSet samples) least) : stats.minMs = least := by
  apply eq_of_forall_le_iff
  intro bound
  rw [summarizes.below]
  constructor
  · intro below
    obtain ⟨sample, member, same⟩ := List.mem_map.mp isLeast.1
    rw [← same]
    exact below sample member
  · intro below sample member
    have atLeast := isLeast.2 (List.mem_map_of_mem member)
    exact below.trans (WithTop.coe_le_coe.mpr atLeast)

/-- Any greatest time is the maximum, unless it is negative. -/
theorem maxMs_eq
    (summarizes : stats.Summarizes samples) {greatest : ℚ}
    (isGreatest : IsGreatest (elapsedSet samples) greatest)
    (nonneg : 0 ≤ greatest) : stats.maxMs = greatest := by
  apply eq_of_forall_ge_iff
  intro bound
  rw [summarizes.above]
  constructor
  · intro above
    obtain ⟨sample, member, same⟩ := List.mem_map.mp isGreatest.1
    rw [← same]
    exact above.2 sample member
  · intro above
    refine ⟨nonneg.trans above, ?_⟩
    intro sample member
    exact (isGreatest.2 (List.mem_map_of_mem member)).trans above

theorem avgMs_eq
    (summarizes : stats.Summarizes samples) (some : samples ≠ []) :
    stats.avgMs =
      (samples.map Sample.elapsedMs).sum / samples.length := by
  have counted : samples.length ≠ 0 :=
    fun none => some (List.length_eq_zero_iff.mp none)
  rw [avgMs, summarizes.calls, summarizes.total, if_neg counted]

theorem le_avgMs
    (summarizes : stats.Summarizes samples) (some : samples ≠ []) {least : ℚ}
    (isLeast : IsLeast (elapsedSet samples) least) :
    least ≤ stats.avgMs := by
  have positive : (0 : ℚ) < samples.length :=
    Nat.cast_pos.mpr (List.length_pos_iff.mpr some)
  have summed :=
    List.card_nsmul_le_sum (samples.map Sample.elapsedMs) least isLeast.2
  rw [List.length_map, nsmul_eq_mul, mul_comm] at summed
  rw [summarizes.avgMs_eq some, le_div_iff₀ positive]
  exact summed

theorem avgMs_le
    (summarizes : stats.Summarizes samples) (some : samples ≠ [])
    {greatest : ℚ} (isGreatest : IsGreatest (elapsedSet samples) greatest) :
    stats.avgMs ≤ greatest := by
  have positive : (0 : ℚ) < samples.length :=
    Nat.cast_pos.mpr (List.length_pos_iff.mpr some)
  have summed :=
    List.sum_le_card_nsmul (samples.map Sample.elapsedMs) greatest
      isGreatest.2
  rw [List.length_map, nsmul_eq_mul, mul_comm] at summed
  rw [summarizes.avgMs_eq some, div_le_iff₀ positive]
  exact summed

end Summarizes

theorem nonempty_elapsed {samples : List Sample} (some : samples ≠ []) :
    (samples.map Sample.elapsedMs).toFinset.Nonempty := by
  rw [List.toFinset_nonempty_iff]
  exact fun none => some (List.map_eq_nil_iff.mp none)

theorem exists_isLeast {samples : List Sample} (some : samples ≠ []) :
    ∃ least, IsLeast (elapsedSet samples) least := by
  have isLeast := Finset.isLeast_min' _ (nonempty_elapsed some)
  rw [List.coe_toFinset] at isLeast
  exact ⟨_, isLeast⟩

theorem exists_isGreatest {samples : List Sample} (some : samples ≠ []) :
    ∃ greatest, IsGreatest (elapsedSet samples) greatest := by
  have isGreatest := Finset.isGreatest_max' _ (nonempty_elapsed some)
  rw [List.coe_toFinset] at isGreatest
  exact ⟨_, isGreatest⟩

/-! ## The statistics of a run -/

/-- The statistics of some samples are what they are called, and neither the
order of the samples nor a split of them matters. -/
structure Aggregates (samples : List Sample) (stats : MethodStats) :
    Prop where
  callCount : stats.callCount = samples.length
  errorCount : stats.errorCount = samples.countP Sample.isError
  extremes :
    ∃ least, IsLeast (elapsedSet samples) least ∧ stats.minMs = least ∧
      IsGreatest (elapsedSet samples) stats.maxMs ∧
      least ≤ stats.avgMs ∧ stats.avgMs ≤ stats.maxMs
  permuted : ∀ others, samples.Perm others → ofSamples others = stats
  halves : ∀ front back, samples = front ++ back →
    (ofSamples front).merge (ofSamples back) = stats

theorem aggregates_ofSamples
    (samples : List Sample) (some : samples ≠ [])
    (nonneg : ∀ sample ∈ samples, 0 ≤ sample.elapsedMs) :
    Aggregates samples (ofSamples samples) := by
  have summarizes := summarizes_ofSamples samples
  obtain ⟨least, isLeast⟩ := exists_isLeast some
  obtain ⟨greatest, isGreatest⟩ := exists_isGreatest some
  have greatestNonneg : 0 ≤ greatest := by
    obtain ⟨sample, member, same⟩ := List.mem_map.mp isGreatest.1
    rw [← same]
    exact nonneg sample member
  have isMax := summarizes.maxMs_eq isGreatest greatestNonneg
  refine ⟨summarizes.calls, summarizes.errors, ⟨least, isLeast, ?_, ?_⟩, ?_,
    ?_⟩
  · exact summarizes.minMs_eq isLeast
  · rw [isMax]
    exact ⟨isGreatest, summarizes.le_avgMs some isLeast,
      summarizes.avgMs_le some isGreatest⟩
  · intro others perm
    exact (summarizes_ofSamples others).eq_of_perm summarizes perm.symm
  · intro front back split
    have merged :=
      (summarizes_ofSamples front).merge (summarizes_ofSamples back)
    exact merged.eq_of_perm summarizes (by rw [split])

theorem aggregates_threeCalls :
    Aggregates [⟨12, false⟩, ⟨3, true⟩, ⟨30, false⟩]
      (ofSamples [⟨12, false⟩, ⟨3, true⟩, ⟨30, false⟩]) :=
  aggregates_ofSamples _ (by decide) (by decide)

end MethodStats

/-! ## The statistics of a default chain -/

def CallRecord.sample (record : CallRecord) : Sample where
  elapsedMs := record.report.elapsedMs
  isError := record.failed

/-- The samples of a method, in the order of the reports. -/
def samplesOf (method : String) (completed : List CallRecord) : List Sample :=
  (completed.filter (CallRecord.isFor method)).map CallRecord.sample

/-- The timing interceptor has the statistics of every method. -/
def Timed (state : DefaultMiddleware) (completed : List CallRecord) : Prop :=
  ∀ method, (state.statsOf method).Summarizes (samplesOf method completed)

section Timed

variable {state : DefaultMiddleware} {completed : List CallRecord}

theorem timed_initial (maxRecords : ℕ) : Timed { maxRecords } [] :=
  fun _ => MethodStats.Summarizes.empty

theorem Timed.observe
    (timed : Timed state completed) (report : CallReport) (now : ℚ) :
    Timed (state.observe report now) (completed ++ [⟨report, now⟩]) := by
  intro method
  rw [statsOf_observe, samplesOf, List.filter_append, List.map_append]
  by_cases isIt : report.request.method = method
  · have kept :
        [(⟨report, now⟩ : CallRecord)].filter (CallRecord.isFor method) =
          [⟨report, now⟩] := by
      simp [CallRecord.isFor, isIt]
    rw [if_pos isIt, kept]
    exact (timed method).record (CallRecord.sample ⟨report, now⟩)
  · have dropped :
        [(⟨report, now⟩ : CallRecord)].filter (CallRecord.isFor method) =
          [] := by
      simp [CallRecord.isFor, isIt]
    rw [if_neg isIt, dropped, List.map_nil, List.append_nil]
    exact timed method

theorem Timed.observed
    (timed : Timed state completed)
    (rendering : Rendering) (clock : HookClock) (call : Call) :
    Timed (observed rendering clock state call)
      (completed ++
        ((call.report rendering clock.elapsedMs).map fun report =>
          (⟨report, clock.now⟩ : CallRecord)).toList) := by
  rw [Rpc.observed]
  cases call.report rendering clock.elapsedMs with
  | none =>
      rw [Option.map_none, Option.toList_none, List.append_nil]
      exact timed
  | some report => exact timed.observe report clock.now

end Timed

end KarstflowTests.Rpc

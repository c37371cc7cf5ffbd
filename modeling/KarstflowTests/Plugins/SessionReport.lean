import Mathlib.Algebra.Order.Ring.Rat
import KarstflowTests.Library.KeySort
import KarstflowTests.Plugins.TimingReport
import KarstflowTests.Python.Format

/-!
# The timing report of a session

`TimingCollector.report` prints what the collector has: its tests with their
outcomes, the slowest of them, and a line for each marker.  The tests are those
that ran, whatever was skipped.  The marker lines name the markers of these
tests and never count too few of them.
-/

namespace KarstflowTests.Plugins

open KarstflowTests.Library

/-! ## The report -/

/-- `"PASS" if outcome == "passed" else outcome.upper()[:4]` -/
def Outcome.status : Outcome → String
  | passed => "PASS"
  | failed => "FAIL"
  | skipped => "SKIP"

/-- The number of tests with a marker, and their seconds. -/
abbrev MarkerRow := String × (ℕ × ℚ)

/-- The numbers of the report. -/
structure SessionNumbers where
  tests : ℕ
  seconds : ℚ
  markers : List MarkerRow
  passed : ℕ
  failed : ℕ
  skipped : ℕ
  slowest : List TestTiming

namespace TimingCollector

/-- `slowest(n)` -/
def slowest (collector : TimingCollector) (count : ℕ) : List TestTiming :=
  (sortDescending TestTiming.duration collector.tests).take count

def byOutcome (collector : TimingCollector) (outcome : Outcome) :
    List TestTiming :=
  collector.tests.filter fun timing => timing.outcome = outcome

def totalDuration (collector : TimingCollector) : ℚ :=
  (collector.tests.map TestTiming.duration).sum

/-- The summary by marker, the longest in total first. -/
def markerRows (collector : TimingCollector) : List MarkerRow :=
  sortDescending (fun row : MarkerRow => row.2.2)
    collector.markerSummary.entries

def numbers (collector : TimingCollector) (topN : ℕ) : SessionNumbers where
  tests := collector.tests.length
  seconds := collector.totalDuration
  markers := collector.markerRows
  passed := (collector.byOutcome .passed).length
  failed := (collector.byOutcome .failed).length
  skipped := (collector.byOutcome .skipped).length
  slowest := collector.slowest topN

end TimingCollector

def markerLine (row : MarkerRow) : String :=
  let avg := if row.2.1 = 0 then 0 else row.2.2 / row.2.1
  "  " ++ alignLeft 20 row.1 ++ " " ++ alignRight 4 (toString row.2.1) ++
    " tests  " ++ alignRight 7 (fixed 1 row.2.2) ++ "s total  " ++
    alignRight 5 (fixed 1 avg) ++ "s avg"

def slowLine (timing : TestTiming) : String :=
  "  [" ++ timing.outcome.status ++ "] " ++
    alignRight 6 (fixed 2 timing.duration) ++ "s  " ++ timing.nodeid

namespace SessionNumbers

def markerLines (numbers : SessionNumbers) : List String :=
  if numbers.markers.isEmpty then []
  else ["By marker:"] ++ numbers.markers.map markerLine ++ [""]

def slowLines (numbers : SessionNumbers) (topN : ℕ) : List String :=
  if numbers.slowest.isEmpty then []
  else
    ["Top " ++ toString (min topN numbers.slowest.length) ++
      " slowest tests:"] ++ numbers.slowest.map slowLine

def render (numbers : SessionNumbers) (topN : ℕ) : String :=
  "\n".intercalate
    (["Test Timing Report (" ++ toString numbers.tests ++ " tests, " ++
        fixed 1 numbers.seconds ++ "s total)",
      repeated '=' 80, ""] ++
    numbers.markerLines ++
    ["Outcomes: " ++ toString numbers.passed ++ " passed, " ++
        toString numbers.failed ++ " failed, " ++
        toString numbers.skipped ++ " skipped",
      ""] ++
    numbers.slowLines topN)

end SessionNumbers

namespace TimingCollector

def report (collector : TimingCollector) (topN : ℕ := 20) : String :=
  (collector.numbers topN).render topN

/-- What `pytest_sessionfinish` prints, given the `--timing-report` option. -/
def pytestSessionfinish (collector : TimingCollector) (timingReport : Bool) :
    Option String :=
  if !timingReport then none
  else if collector.tests.isEmpty then none
  else some ("\n" ++ collector.report)

end TimingCollector

/-! ## The property -/

/-- The slowest tests of those that ran. -/
structure Slowest (topN : ℕ) (ran slowest : List TestTiming) : Prop where
  chosen :
    ∃ others, (slowest ++ others).Perm ran ∧
      ∀ timing ∈ slowest, ∀ other ∈ others, other.duration ≤ timing.duration
  length : slowest.length = min topN ran.length
  descending :
    slowest.Pairwise fun first second => second.duration ≤ first.duration

/-- The marker lines name the markers of the tests that ran. -/
structure MarkersNamed (ran : List TestTiming) (rows : List MarkerRow) :
    Prop where
  once : (rows.map Prod.fst).Nodup
  named : ∀ marker, marker ∈ rows.map Prod.fst ↔ carriers ran marker ≠ []
  enough : ∀ row ∈ rows, (carriers ran row.1).length ≤ row.2.1
  descending : rows.Pairwise fun first second => second.2.2 ≤ first.2.2

/-- They count the tests with the marker and add up their durations. -/
def MarkersExact (ran : List TestTiming) (rows : List MarkerRow) : Prop :=
  ∀ row ∈ rows,
    row.2 =
      ((carriers ran row.1).length,
        ((carriers ran row.1).map TestTiming.duration).sum)

/-- The numbers are those of the tests that ran. -/
structure NumbersOf (topN : ℕ) (ran : List TestTiming)
    (numbers : SessionNumbers) : Prop where
  tests : numbers.tests = ran.length
  seconds : numbers.seconds = (ran.map TestTiming.duration).sum
  passed :
    numbers.passed = ran.countP fun timing => timing.outcome = .passed
  failed :
    numbers.failed = ran.countP fun timing => timing.outcome = .failed
  skipped :
    numbers.skipped = ran.countP fun timing => timing.outcome = .skipped
  outcomes :
    numbers.passed + numbers.failed + numbers.skipped = numbers.tests
  slowest : Slowest topN ran numbers.slowest
  markers : MarkersNamed ran numbers.markers

/-! ## The tests -/

section Tests

variable {session : Session}

theorem length_byOutcome (kept : ListKept session) (outcome : Outcome) :
    (session.collector.byOutcome outcome).length =
      session.ran.countP fun timing => timing.outcome = outcome := by
  rw [TimingCollector.byOutcome, ← List.countP_eq_length_filter]
  exact kept.tests.countP_eq _

/-- Every test has one of the three outcomes. -/
theorem length_eq_outcomes (tests : List TestTiming) :
    (tests.countP fun timing => timing.outcome = .passed) +
        (tests.countP fun timing => timing.outcome = .failed) +
        (tests.countP fun timing => timing.outcome = .skipped) =
      tests.length := by
  induction tests with
  | nil => rfl
  | cons timing tests inductionHypothesis =>
      simp only [List.countP_cons, List.length_cons]
      cases timing.outcome <;> simp <;> omega

theorem slowest_of_kept (kept : ListKept session) (topN : ℕ) :
    Slowest topN session.ran (session.collector.slowest topN) := by
  have sorted :
      (sortDescending TestTiming.duration session.collector.tests).Perm
        session.ran :=
    perm_sortDescending.trans kept.tests
  refine ⟨⟨(sortDescending TestTiming.duration
    session.collector.tests).drop topN, ?_, ?_⟩, ?_, ?_⟩
  · rw [TimingCollector.slowest, List.take_append_drop]
    exact sorted
  · intro timing isChosen other isOther
    exact le_of_mem_take_sortDescending isChosen isOther
  · rw [TimingCollector.slowest, List.length_take, sorted.length_eq]
  · have ordered :
        (sortDescending TestTiming.duration
          session.collector.tests).Pairwise fun first second =>
            second.duration ≤ first.duration :=
      pairwise_sortDescending
    exact ordered.sublist (List.take_sublist _ _)

end Tests

/-! ## The markers -/

/-- A marker in the index is on a test that ran. -/
def IndexNamed (session : Session) : Prop :=
  ∀ marker, session.collector.filedUnder marker ≠ [] →
    carriers session.ran marker ≠ []

section Markers

variable {session next : Session} {event : PytestEvent}

theorem IndexNamed.step (named : IndexNamed session)
    (effect : Effect session event next) : IndexNamed next := by
  intro marker filed
  cases effect with
  | idle regular => exact named marker filed
  | ran timing regular =>
      rw [filedUnder_record] at filed
      rw [carriers_cons]
      by_cases carried : marker ∈ timing.markers
      · simp [carried]
      · rw [List.count_eq_zero.mpr carried, List.replicate_zero,
          List.append_nil] at filed
        rw [if_neg carried, List.nil_append]
        exact named marker filed
  | skipped timing found regular =>
      have before : carriers session.ran marker ≠ [] := by
        rw [filedUnder_rerecord] at filed
        by_cases carried : marker ∈ timing.markers
        · have isCarrier : timing ∈ carriers session.ran marker :=
            List.mem_filter.mpr
              ⟨List.mem_of_find?_eq_some found, decide_eq_true carried⟩
          exact List.ne_nil_of_mem isCarrier
        · have none : timing.asSkipped.markers.count marker = 0 :=
            List.count_eq_zero.mpr carried
          rw [none, List.replicate_zero, List.append_nil] at filed
          exact named marker filed
      rw [← List.length_pos_iff, length_carriers_skipLatest found,
        List.length_pos_iff]
      exact before

theorem markersNamed (kept : ListKept session) (covers : IndexCovers session)
    (named : IndexNamed session) :
    MarkersNamed session.ran session.collector.markerRows := by
  have perm :
      session.collector.markerRows.Perm
        session.collector.markerSummary.entries :=
    perm_sortDescending
  have names := perm.map Prod.fst
  refine ⟨?_, ?_, ?_, pairwise_sortDescending⟩
  · exact names.nodup_iff.mpr session.collector.markerSummary.distinct
  · intro marker
    have inIndex :
        marker ∈ session.collector.markerSummary.keys ↔
          session.collector.filedUnder marker ≠ [] := by
      rw [OrderedDict.mem_keys_iff_isSome, TimingCollector.markerSummary,
        OrderedDict.get?_mapValues, TimingCollector.filedUnder]
      cases filed : session.collector.byMarker.get? marker with
      | none => simp
      | some timings =>
          have some : timings ≠ [] := fun none =>
            kept.filled marker (by rw [filed, none])
          simp [some]
    rw [names.mem_iff]
    refine inIndex.trans ⟨named marker, ?_⟩
    intro carried
    have asMany := covers marker
    have counted := List.length_pos_iff.mpr carried
    exact List.length_pos_iff.mp (by omega)
  · intro row member
    have found :
        session.collector.markerSummary.get? row.1 = some row.2 :=
      OrderedDict.get?_eq_some_iff.mpr (perm.mem_iff.mp member)
    rw [TimingCollector.markerSummary, OrderedDict.get?_mapValues] at found
    obtain ⟨timings, filed, summed⟩ := Option.map_eq_some_iff.mp found
    have asMany := covers row.1
    rw [TimingCollector.filedUnder, filed] at asMany
    rw [← summed]
    exact asMany

/-- A collector in step with the tests has exact marker lines. -/
theorem markersExact (inStep : InStep session) :
    MarkersExact session.ran session.collector.markerRows := by
  intro row member
  have perm :
      session.collector.markerRows.Perm
        session.collector.markerSummary.entries :=
    perm_sortDescending
  have found :
      session.collector.markerSummary.get? row.1 = some row.2 :=
    OrderedDict.get?_eq_some_iff.mpr (perm.mem_iff.mp member)
  rw [inStep.summary] at found
  split at found
  · cases found
  · exact (Option.some.inj found).symm

end Markers

/-! ## Whole sessions -/

section Runs

variable {session final : Session} {events : List PytestEvent}

theorem numbersOf (kept : ListKept session) (covers : IndexCovers session)
    (named : IndexNamed session) (topN : ℕ) :
    NumbersOf topN session.ran (session.collector.numbers topN) where
  tests := kept.tests.length_eq
  seconds := (kept.tests.map _).sum_eq
  passed := length_byOutcome kept .passed
  failed := length_byOutcome kept .failed
  skipped := length_byOutcome kept .skipped
  outcomes := by
    simp only [TimingCollector.numbers, length_byOutcome kept]
    rw [length_eq_outcomes]
    exact kept.tests.length_eq.symm
  slowest := slowest_of_kept kept topN
  markers := markersNamed kept covers named

/-- What the session keeps. -/
structure ReportKept (session : Session) : Prop where
  list : ListKept session
  covers : IndexCovers session
  named : IndexNamed session

theorem reportKept_of_reachable
    (reached : sessionMachine.Reachable session) : ReportKept session := by
  apply Machine.invariant_of_step _ _ reached
  · refine ⟨⟨List.Perm.refl _, fun _ => rfl,
      fun _ => by simp [sessionMachine]⟩, ?_, ?_⟩
    · exact fun marker => Nat.zero_le _
    · exact fun marker filed => absurd rfl filed
  · intro source target event _ kept _ taken
    have effect := effect_of_step kept.list taken
    exact ⟨kept.list.step effect, kept.covers.step effect,
      kept.named.step effect⟩

theorem prints_iff (kept : ListKept session) (timingReport : Bool) :
    (session.collector.pytestSessionfinish timingReport).isSome ↔
      timingReport = true ∧ session.ran ≠ [] := by
  have nothing : session.collector.tests = [] ↔ session.ran = [] := by
    rw [← List.length_eq_zero_iff, kept.tests.length_eq,
      List.length_eq_zero_iff]
  rw [TimingCollector.pytestSessionfinish]
  cases timingReport with
  | false => simp
  | true => by_cases empty : session.ran = [] <;> simp [nothing, empty]

/-- The report of a session has the numbers of its tests; the marker lines are
exact if no marker occurred twice on a test and no test with markers was
skipped. -/
theorem report_of_session
    (evaluates :
      sessionMachine.run sessionMachine.initial events = some final)
    (topN : ℕ) (timingReport : Bool) :
    ∃ numbers, NumbersOf topN final.ran numbers ∧
      final.collector.report topN = numbers.render topN ∧
      (sessionMachine.AllowedAlong Regular sessionMachine.initial events →
        MarkersExact final.ran numbers.markers) ∧
      ((final.collector.pytestSessionfinish timingReport).isSome ↔
        timingReport = true ∧ final.ran ≠ []) := by
  have kept :=
    reportKept_of_reachable (Machine.reachable_of_run .initial evaluates)
  refine ⟨final.collector.numbers topN,
    numbersOf kept.list kept.covers kept.named topN, rfl, ?_,
    prints_iff kept.list timingReport⟩
  intro regular
  have start : ListKept sessionMachine.initial :=
    (reportKept_of_reachable .initial).list
  have index : IndexKept sessionMachine.initial :=
    fun marker => List.Perm.refl _
  exact markersExact ((inStep_iff_of_run start index evaluates).mpr regular)

end Runs

theorem report_skippedUnmarked :
    ∃ final,
      sessionMachine.run sessionMachine.initial skippedUnmarkedTest =
          some final ∧
        ∃ numbers, NumbersOf 1 final.ran numbers ∧
          final.collector.report 1 = numbers.render 1 ∧
          (sessionMachine.AllowedAlong Regular sessionMachine.initial
              skippedUnmarkedTest →
            MarkersExact final.ran numbers.markers) ∧
          ((final.collector.pytestSessionfinish true).isSome ↔
            true = true ∧ final.ran ≠ []) := by
  obtain ⟨final, evaluates⟩ :
      ∃ final,
        sessionMachine.run sessionMachine.initial skippedUnmarkedTest =
          some final :=
    ⟨_, rfl⟩
  exact ⟨final, evaluates, report_of_session evaluates 1 true⟩

end KarstflowTests.Plugins

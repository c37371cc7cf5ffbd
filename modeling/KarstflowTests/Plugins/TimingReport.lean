import Mathlib.Algebra.BigOperators.Group.List.Basic
import Mathlib.Algebra.Ring.Rat
import KarstflowTests.Library.Machine
import KarstflowTests.Library.OrderedDict

/-!
# The timing collector and the tests that ran

The collector files every test in a list and, for each of its markers, in an
index.  `sessionMachine` runs it beside `ran`, which has each test that ran
with its outcome of now.  The list keeps up with `ran` whatever happens; the
index does not after a skip of a test with markers, or when a marker occurs
twice on one test.
-/

namespace KarstflowTests.Plugins

open KarstflowTests.Library

/-! ## The collector -/

inductive Outcome where
  | passed
  | failed
  | skipped
  deriving DecidableEq

/-- Timing data for a single test. -/
structure TestTiming where
  nodeid : String
  duration : ℚ
  outcome : Outcome
  markers : List String := []
  deriving DecidableEq

/-- Collects timing data across the test session. -/
structure TimingCollector where
  tests : List TestTiming := []
  byMarker : OrderedDict String (List TestTiming) := .empty

/-- `by_marker[marker].append(timing)` on a `defaultdict(list)` -/
def appendTo (timing : TestTiming)
    (byMarker : OrderedDict String (List TestTiming)) (marker : String) :
    OrderedDict String (List TestTiming) :=
  byMarker.set marker ((byMarker.get? marker).getD [] ++ [timing])

namespace TimingCollector

def record (collector : TimingCollector) (timing : TestTiming) :
    TimingCollector where
  tests := collector.tests ++ [timing]
  byMarker := timing.markers.foldl (appendTo timing) collector.byMarker

/-- Return {marker: (count, total_seconds)} for each marker. -/
def markerSummary (collector : TimingCollector) :
    OrderedDict String (ℕ × ℚ) :=
  collector.byMarker.mapValues fun timings =>
    (timings.length, (timings.map TestTiming.duration).sum)

end TimingCollector

/-! ## The hooks -/

/-- `call.when`, and `report.when` -/
inductive TestPhase where
  | setup
  | call
  | teardown
  deriving DecidableEq

/-- The pytest events that reach the plugin; `raised` is whether there is an
`excinfo`. -/
inductive PytestEvent where
  | makereport (nodeid : String) (phase : TestPhase) (duration : ℚ)
      (raised : Bool) (markers : List String)
  | logreport (nodeid : String) (phase : TestPhase) (skipped : Bool)

/-- The timing that `pytest_runtest_makereport` records. -/
def timingOf (nodeid : String) (duration : ℚ) (raised : Bool)
    (markers : List String) : TestTiming where
  nodeid := nodeid
  duration := duration
  outcome := if raised then .failed else .passed
  markers := markers

def TestTiming.asSkipped (timing : TestTiming) : TestTiming :=
  { timing with outcome := .skipped }

/-- Whether a timing is of the test with that id. -/
def isOf (nodeid : String) (timing : TestTiming) : Bool :=
  timing.nodeid == nodeid

namespace TimingCollector

def pytestRuntestMakereport (collector : TimingCollector) (nodeid : String)
    (phase : TestPhase) (duration : ℚ) (raised : Bool)
    (markers : List String) : TimingCollector :=
  if phase ≠ .call then
    collector
  else
    collector.record (timingOf nodeid duration raised markers)

def pytestRuntestLogreport (collector : TimingCollector) (nodeid : String)
    (phase : TestPhase) (skipped : Bool) : TimingCollector :=
  if phase = .call ∧ skipped then
    -- Update last recorded test outcome to skipped
    match collector.tests.reverse.find? (isOf nodeid) with
    | some timing =>
        { collector with tests := collector.tests.erase timing }.record
          timing.asSkipped
    | none => collector
  else
    collector

def handle (collector : TimingCollector) : PytestEvent → TimingCollector
  | .makereport nodeid phase duration raised markers =>
      collector.pytestRuntestMakereport nodeid phase duration raised markers
  | .logreport nodeid phase skipped =>
      collector.pytestRuntestLogreport nodeid phase skipped

end TimingCollector

/-! ## The tests that ran -/

/-- A skip concerns the test with that id that ran last. -/
def skipLatest (nodeid : String) : List TestTiming → List TestTiming
  | [] => []
  | timing :: earlier =>
      if isOf nodeid timing then
        timing.asSkipped :: earlier
      else
        timing :: skipLatest nodeid earlier

/-- The collector, and the tests that ran with their outcomes, the latest
first. -/
structure Session where
  collector : TimingCollector
  ran : List TestTiming

def ranAfter (ran : List TestTiming) : PytestEvent → List TestTiming
  | .makereport nodeid .call duration raised markers =>
      timingOf nodeid duration raised markers :: ran
  | .logreport nodeid .call true => skipLatest nodeid ran
  | _ => ran

def sessionMachine : Machine Session PytestEvent where
  initial := ⟨{}, []⟩
  step session event :=
    some
      { collector := session.collector.handle event
        ran := ranAfter session.ran event }

/-- The tests that ran and carry the marker. -/
def carriers (ran : List TestTiming) (marker : String) : List TestTiming :=
  ran.filter fun timing => marker ∈ timing.markers

/-- The list, the index and the summary show the tests that ran. -/
structure InStep (session : Session) : Prop where
  tests : session.collector.tests.Perm session.ran
  byMarker :
    ∀ marker, ((session.collector.byMarker.get? marker).getD []).Perm
      (carriers session.ran marker)
  summary :
    ∀ marker, session.collector.markerSummary.get? marker =
      if carriers session.ran marker = [] then
        none
      else
        some
          ((carriers session.ran marker).length,
            ((carriers session.ran marker).map TestTiming.duration).sum)

/-- No marker occurs twice on the test that ran, and a test that is reported
as skipped has no marker. -/
def Regular (session : Session) : PytestEvent → Prop
  | .makereport _ .call _ _ markers => markers.Nodup
  | .logreport nodeid .call true =>
      ∀ timing, session.ran.find? (isOf nodeid) = some timing →
        timing.markers = []
  | _ => True

/-! ## What recording does to the index -/

section Record

variable {collector : TimingCollector} {timing : TestTiming}
variable {byMarker : OrderedDict String (List TestTiming)}
variable {marker : String}

theorem get?_appendTo (other : String) :
    ((appendTo timing byMarker other).get? marker).getD [] =
      (byMarker.get? marker).getD [] ++
        List.replicate ([other].count marker) timing := by
  rw [appendTo, OrderedDict.get?_set]
  by_cases same : marker = other
  · rw [if_pos same, same, Option.getD_some, List.count_singleton_self,
      List.replicate_one]
  · have absent : [other].count marker = 0 :=
      List.count_eq_zero.mpr (by simpa using same)
    rw [if_neg same, absent, List.replicate_zero, List.append_nil]

theorem get?_foldl_appendTo (markers : List String) :
    ((markers.foldl (appendTo timing) byMarker).get? marker).getD [] =
      (byMarker.get? marker).getD [] ++
        List.replicate (markers.count marker) timing := by
  induction markers generalizing byMarker with
  | nil =>
      rw [List.foldl_nil, List.count_nil, List.replicate_zero,
        List.append_nil]
  | cons other markers inductionHypothesis =>
      have counted :
          (other :: markers).count marker =
            [other].count marker + markers.count marker := by
        rw [← List.count_append]
        rfl
      rw [List.foldl_cons, inductionHypothesis, get?_appendTo, counted,
        List.replicate_add, List.append_assoc]

/-- Recording files a timing once for each occurrence of the marker. -/
theorem get?_byMarker_record :
    ((collector.record timing).byMarker.get? marker).getD [] =
      (collector.byMarker.get? marker).getD [] ++
        List.replicate (timing.markers.count marker) timing :=
  get?_foldl_appendTo timing.markers

/-- A marker is in the index only with a timing filed under it. -/
theorem get?_byMarker_record_ne
    (filled : ∀ marker, collector.byMarker.get? marker ≠ some []) :
    (collector.record timing).byMarker.get? marker ≠ some [] := by
  have holds (markers : List String)
      (index : OrderedDict String (List TestTiming))
      (filledIndex : ∀ marker, index.get? marker ≠ some []) :
      ∀ marker,
        (markers.foldl (appendTo timing) index).get? marker ≠ some [] := by
    induction markers generalizing index with
    | nil => exact filledIndex
    | cons other markers inductionHypothesis =>
        apply inductionHypothesis
        intro marker
        rw [appendTo, OrderedDict.get?_set]
        by_cases same : marker = other
        · simp [same]
        · rw [if_neg same]
          exact filledIndex marker
  exact holds timing.markers collector.byMarker filled marker

end Record

/-! ## A skip among the tests that ran -/

section Skip

variable {nodeid : String} {ran : List TestTiming} {timing : TestTiming}

theorem skipLatest_of_none (absent : ran.find? (isOf nodeid) = none) :
    skipLatest nodeid ran = ran := by
  induction ran with
  | nil => rfl
  | cons first earlier inductionHypothesis =>
      rw [List.find?_cons] at absent
      cases isFirst : isOf nodeid first with
      | true =>
          rw [isFirst] at absent
          cases absent
      | false =>
          rw [isFirst] at absent
          rw [skipLatest, if_neg (by simp [isFirst]),
            inductionHypothesis absent]

/-- The skipped test takes the place of the one that was found. -/
theorem skipLatest_perm (found : ran.find? (isOf nodeid) = some timing) :
    (skipLatest nodeid ran).Perm (timing.asSkipped :: ran.erase timing) := by
  induction ran with
  | nil => cases found
  | cons first earlier inductionHypothesis =>
      rw [List.find?_cons] at found
      cases isFirst : isOf nodeid first with
      | true =>
          rw [isFirst] at found
          cases found
          rw [skipLatest, if_pos isFirst, List.erase_cons_head]
      | false =>
          rw [isFirst] at found
          have isTiming : isOf nodeid timing = true := List.find?_some found
          have other : first ≠ timing := by
            rintro rfl
            rw [isFirst] at isTiming
            cases isTiming
          rw [skipLatest, if_neg (by simp [isFirst]),
            List.erase_cons_tail (by simpa using other)]
          exact ((inductionHypothesis found).cons first).trans
            (List.Perm.swap _ _ _)

theorem find?_skipLatest (other : String) :
    (skipLatest nodeid ran).find? (isOf other) =
      if other = nodeid then
        (ran.find? (isOf nodeid)).map TestTiming.asSkipped
      else
        ran.find? (isOf other) := by
  induction ran with
  | nil => simp [skipLatest]
  | cons first earlier inductionHypothesis =>
      rw [skipLatest]
      by_cases isFirst : first.nodeid = nodeid
      · by_cases same : other = nodeid
        · simp [isOf, isFirst, same, TestTiming.asSkipped]
        · have different : nodeid ≠ other := Ne.symm same
          simp [isOf, isFirst, same, TestTiming.asSkipped, different]
      · by_cases isOther : first.nodeid = other
        · have different : other ≠ nodeid := isOther ▸ isFirst
          simp [isOf, isOther, different]
        · simpa [isOf, isFirst, isOther] using inductionHypothesis

/-- What the marker's carriers lose and get when a test is skipped. -/
theorem carriers_skipLatest
    (found : ran.find? (isOf nodeid) = some timing) (marker : String) :
    ∃ others,
      (carriers ran marker).Perm (carriers [timing] marker ++ others) ∧
        (carriers (skipLatest nodeid ran) marker).Perm
          (carriers [timing.asSkipped] marker ++ others) := by
  have member : timing ∈ ran := List.mem_of_find?_eq_some found
  refine ⟨carriers (ran.erase timing) marker, ?_, ?_⟩
  · have before : ran.Perm ([timing] ++ ran.erase timing) :=
      List.perm_cons_erase member
    have filtered := before.filter fun timing => marker ∈ timing.markers
    rwa [List.filter_append] at filtered
  · have after :
        (skipLatest nodeid ran).Perm
          ([timing.asSkipped] ++ ran.erase timing) :=
      skipLatest_perm found
    have filtered := after.filter fun timing => marker ∈ timing.markers
    rwa [List.filter_append] at filtered

theorem carriers_singleton (marker : String) :
    carriers [timing] marker =
      if marker ∈ timing.markers then [timing] else [] := by
  by_cases carried : marker ∈ timing.markers
  · simp [carriers, carried]
  · simp [carriers, carried]

/-- Skipping a test leaves as many carriers of each marker. -/
theorem length_carriers_skipLatest
    (found : ran.find? (isOf nodeid) = some timing) (marker : String) :
    (carriers (skipLatest nodeid ran) marker).length =
      (carriers ran marker).length := by
  obtain ⟨others, before, after⟩ := carriers_skipLatest found marker
  have asMany :
      (carriers [timing.asSkipped] marker).length =
        (carriers [timing] marker).length := by
    rw [carriers_singleton, carriers_singleton]
    by_cases carried : marker ∈ timing.markers
    · simp [TestTiming.asSkipped, carried]
    · simp [TestTiming.asSkipped, carried]
  rw [before.length_eq, after.length_eq, List.length_append,
    List.length_append, asMany]

/-- Skipping a test without markers leaves the carriers as they are. -/
theorem carriers_skipLatest_of_unmarked
    (found : ran.find? (isOf nodeid) = some timing)
    (unmarked : timing.markers = []) (marker : String) :
    (carriers (skipLatest nodeid ran) marker).Perm
      (carriers ran marker) := by
  obtain ⟨others, before, after⟩ := carriers_skipLatest found marker
  have none : carriers [timing] marker = [] := by
    simp [carriers_singleton, unmarked]
  have noneSkipped : carriers [timing.asSkipped] marker = [] := by
    simp [carriers_singleton, TestTiming.asSkipped, unmarked]
  rw [none] at before
  rw [noneSkipped] at after
  exact after.trans before.symm

end Skip

/-! ## What every run keeps -/

/-- The list has the tests that ran, and the last one with an id is the latest
with that id. -/
structure ListKept (session : Session) : Prop where
  tests : session.collector.tests.Perm session.ran
  latest :
    ∀ nodeid, session.collector.tests.reverse.find? (isOf nodeid) =
      session.ran.find? (isOf nodeid)
  filled :
    ∀ marker, session.collector.byMarker.get? marker ≠ some []

/-- What one event does. -/
inductive Effect (session : Session) (event : PytestEvent) :
    Session → Prop where
  | idle (regular : Regular session event) : Effect session event session
  | ran (timing : TestTiming)
      (regular : Regular session event ↔ timing.markers.Nodup) :
      Effect session event
        ⟨session.collector.record timing, timing :: session.ran⟩
  | skipped (timing : TestTiming)
      (found :
        session.ran.find? (isOf timing.nodeid) = some timing)
      (regular : Regular session event ↔ timing.markers = []) :
      Effect session event
        ⟨{ session.collector with
            tests := session.collector.tests.erase timing }.record
              timing.asSkipped,
          skipLatest timing.nodeid session.ran⟩

section Steps

variable {session next : Session} {event : PytestEvent}

theorem effect_of_skip (kept : ListKept session) (nodeid : String) :
    Effect session (.logreport nodeid .call true)
      ⟨session.collector.pytestRuntestLogreport nodeid .call true,
        skipLatest nodeid session.ran⟩ := by
  have looked := kept.latest nodeid
  cases found : session.ran.find? (isOf nodeid) with
  | none =>
      rw [found] at looked
      have unchanged :
          session.collector.pytestRuntestLogreport nodeid .call true =
            session.collector := by
        simp [TimingCollector.pytestRuntestLogreport, looked]
      have regular : Regular session (.logreport nodeid .call true) := by
        intro timing foundTiming
        rw [found] at foundTiming
        cases foundTiming
      rw [unchanged, skipLatest_of_none found]
      exact .idle regular
  | some timing =>
      rw [found] at looked
      have rerecorded :
          session.collector.pytestRuntestLogreport nodeid .call true =
            { session.collector with
              tests := session.collector.tests.erase timing }.record
                timing.asSkipped := by
        simp [TimingCollector.pytestRuntestLogreport, looked]
      have regular :
          Regular session (.logreport nodeid .call true) ↔
            timing.markers = [] := by
        constructor
        · intro holds
          exact holds timing found
        · intro unmarked other foundOther
          rw [found] at foundOther
          cases foundOther
          exact unmarked
      have isTiming : isOf nodeid timing = true := List.find?_some found
      have named : timing.nodeid = nodeid := eq_of_beq isTiming
      subst named
      rw [rerecorded]
      exact .skipped timing found regular

theorem effect_of_step (kept : ListKept session)
    (taken : sessionMachine.step session event = some next) :
    Effect session event next := by
  cases taken
  cases event with
  | makereport nodeid phase duration raised markers =>
      cases phase with
      | setup => exact .idle trivial
      | teardown => exact .idle trivial
      | call => exact .ran (timingOf nodeid duration raised markers) Iff.rfl
  | logreport nodeid phase skipped =>
      cases phase with
      | setup =>
          cases skipped <;> exact .idle trivial
      | teardown =>
          cases skipped <;> exact .idle trivial
      | call =>
          cases skipped with
          | false => exact .idle trivial
          | true => exact effect_of_skip kept nodeid

/-- Another test's removal does not change which test is the last one. -/
theorem find?_reverse_erase {tests : List TestTiming} {timing : TestTiming}
    {nodeid : String} (other : timing.nodeid ≠ nodeid) :
    (tests.erase timing).reverse.find? (isOf nodeid) =
      tests.reverse.find? (isOf nodeid) := by
  by_cases member : timing ∈ tests
  · obtain ⟨front, back, -, split, erased⟩ := List.exists_erase_eq member
    rw [erased, split]
    simp [isOf, other]
  · rw [List.erase_of_not_mem member]

theorem ListKept.step (kept : ListKept session)
    (effect : Effect session event next) : ListKept next := by
  cases effect with
  | idle regular => exact kept
  | ran timing regular =>
      constructor
      · exact (List.perm_append_singleton _ _).trans (kept.tests.cons _)
      · intro nodeid
        change (session.collector.tests ++ [timing]).reverse.find?
          (isOf nodeid) = _
        rw [List.reverse_append, List.reverse_singleton,
          List.singleton_append, List.find?_cons, List.find?_cons,
          kept.latest]
      · intro marker
        exact get?_byMarker_record_ne kept.filled
  | skipped timing found regular =>
      constructor
      · have erased :
            (session.collector.tests.erase timing).Perm
              (session.ran.erase timing) :=
          kept.tests.erase timing
        exact (List.perm_append_singleton _ _).trans
          ((erased.cons _).trans (skipLatest_perm found).symm)
      · intro nodeid
        change (session.collector.tests.erase timing ++
          [timing.asSkipped]).reverse.find? (isOf nodeid) = _
        rw [List.reverse_append, List.reverse_singleton,
          List.singleton_append, find?_skipLatest, found]
        by_cases same : nodeid = timing.nodeid
        · simp [same, isOf, TestTiming.asSkipped]
        · have other : timing.nodeid ≠ nodeid := Ne.symm same
          have isOther : isOf nodeid timing.asSkipped = false := by
            simp [isOf, TestTiming.asSkipped, other]
          rw [List.find?_cons, isOther, if_neg same,
            find?_reverse_erase other, kept.latest]
      · intro marker
        exact get?_byMarker_record_ne kept.filled

end Steps

/-! ## What the index keeps -/

/-- The timings in the index under a marker. -/
def TimingCollector.filedUnder (collector : TimingCollector)
    (marker : String) : List TestTiming :=
  (collector.byMarker.get? marker).getD []

/-- The index has each marker's carriers, each once. -/
def IndexKept (session : Session) : Prop :=
  ∀ marker, (session.collector.filedUnder marker).Perm
    (carriers session.ran marker)

/-- The index has at least as many timings as each marker has carriers. -/
def IndexCovers (session : Session) : Prop :=
  ∀ marker, (carriers session.ran marker).length ≤
    (session.collector.filedUnder marker).length

/-- The index has more timings than some marker has carriers. -/
def IndexExceeds (session : Session) : Prop :=
  ∃ marker, (carriers session.ran marker).length <
    (session.collector.filedUnder marker).length

section Index

variable {session next : Session} {event : PytestEvent}

theorem filedUnder_record (collector : TimingCollector)
    (timing : TestTiming) (marker : String) :
    (collector.record timing).filedUnder marker =
      collector.filedUnder marker ++
        List.replicate (timing.markers.count marker) timing :=
  get?_byMarker_record

theorem filedUnder_rerecord (collector : TimingCollector)
    (tests : List TestTiming) (timing : TestTiming) (marker : String) :
    ({ collector with tests := tests }.record timing).filedUnder marker =
      collector.filedUnder marker ++
        List.replicate (timing.markers.count marker) timing :=
  get?_byMarker_record

theorem carriers_cons (timing : TestTiming) (ran : List TestTiming)
    (marker : String) :
    carriers (timing :: ran) marker =
      (if marker ∈ timing.markers then [timing] else []) ++
        carriers ran marker := by
  rw [← carriers_singleton, carriers, carriers, carriers,
    ← List.filter_append, List.singleton_append]

/-- A marker that does not occur twice is filed exactly for a carrier. -/
theorem replicate_count_of_nodup {timing : TestTiming}
    (distinct : timing.markers.Nodup) (marker : String) :
    List.replicate (timing.markers.count marker) timing =
      if marker ∈ timing.markers then [timing] else [] := by
  by_cases carried : marker ∈ timing.markers
  · rw [List.count_eq_one_of_mem distinct carried, if_pos carried,
      List.replicate_one]
  · rw [List.count_eq_zero.mpr carried, if_neg carried,
      List.replicate_zero]

theorem IndexKept.step (kept : IndexKept session)
    (permitted : Regular session event)
    (effect : Effect session event next) : IndexKept next := by
  intro marker
  cases effect with
  | idle regular => exact kept marker
  | ran timing regular =>
      have distinct : timing.markers.Nodup := regular.mp permitted
      rw [filedUnder_record, carriers_cons,
        replicate_count_of_nodup distinct]
      exact List.perm_append_comm.trans ((kept marker).append_left _)
  | skipped timing found regular =>
      have unmarked : timing.markers = [] := regular.mp permitted
      have nothing : timing.asSkipped.markers.count marker = 0 := by
        simp [TestTiming.asSkipped, unmarked]
      rw [filedUnder_rerecord, nothing, List.replicate_zero, List.append_nil]
      exact (kept marker).trans
        (carriers_skipLatest_of_unmarked found unmarked marker).symm

/-- A run files a timing at least once for each of its markers, and a skip
files it again. -/
theorem Effect.lengths (effect : Effect session event next)
    (marker : String) :
    (carriers next.ran marker).length +
        (session.collector.filedUnder marker).length ≤
      (next.collector.filedUnder marker).length +
        (carriers session.ran marker).length := by
  cases effect with
  | idle regular => exact (Nat.add_comm _ _).le
  | ran timing regular =>
      rw [filedUnder_record, carriers_cons, List.length_append,
        List.length_append, List.length_replicate]
      by_cases carried : marker ∈ timing.markers
      · have counted : 0 < timing.markers.count marker :=
          List.count_pos_iff.mpr carried
        rw [if_pos carried, List.length_singleton]
        omega
      · rw [if_neg carried, List.length_nil]
        omega
  | skipped timing found regular =>
      rw [filedUnder_rerecord, length_carriers_skipLatest found,
        List.length_append]
      omega

theorem IndexCovers.step (covers : IndexCovers session)
    (effect : Effect session event next) : IndexCovers next := by
  intro marker
  have before := covers marker
  have lengths := effect.lengths marker
  omega

/-- What the index has too much, it never loses. -/
theorem IndexExceeds.step (exceeds : IndexExceeds session)
    (effect : Effect session event next) : IndexExceeds next := by
  obtain ⟨marker, before⟩ := exceeds
  have lengths := effect.lengths marker
  exact ⟨marker, by omega⟩

/-- The other steps give the index too much. -/
theorem IndexCovers.exceeds (covers : IndexCovers session)
    (irregular : ¬ Regular session event)
    (effect : Effect session event next) : IndexExceeds next := by
  cases effect with
  | idle regular => exact absurd regular irregular
  | ran timing regular =>
      have repeated : ¬ timing.markers.Nodup :=
        fun distinct => irregular (regular.mpr distinct)
      obtain ⟨marker, twice⟩ :
          ∃ marker, 1 < timing.markers.count marker := by
        rw [List.nodup_iff_count_le_one] at repeated
        push Not at repeated
        exact repeated
      have carried : marker ∈ timing.markers :=
        List.count_pos_iff.mp (by omega)
      have before := covers marker
      refine ⟨marker, ?_⟩
      rw [filedUnder_record, carriers_cons, if_pos carried,
        List.length_append, List.length_append, List.length_replicate,
        List.length_singleton]
      omega
  | skipped timing found regular =>
      have marked : timing.markers ≠ [] :=
        fun unmarked => irregular (regular.mpr unmarked)
      obtain ⟨marker, carried⟩ := List.exists_mem_of_ne_nil _ marked
      have counted : 0 < timing.asSkipped.markers.count marker :=
        List.count_pos_iff.mpr carried
      have before := covers marker
      refine ⟨marker, ?_⟩
      rw [filedUnder_rerecord, length_carriers_skipLatest found,
        List.length_append, List.length_replicate]
      omega

end Index

/-! ## Whole sessions -/

section Runs

variable {session final : Session} {events : List PytestEvent}

/-- The summary counts and adds up what the index has. -/
theorem inStep_of_kept (kept : ListKept session)
    (index : IndexKept session) : InStep session := by
  refine ⟨kept.tests, index, ?_⟩
  intro marker
  have same := index marker
  have filled := kept.filled marker
  rw [TimingCollector.filedUnder] at same
  rw [TimingCollector.markerSummary, OrderedDict.get?_mapValues]
  cases filed : session.collector.byMarker.get? marker with
  | none =>
      rw [filed, Option.getD_none] at same
      have nothing : carriers session.ran marker = [] :=
        same.symm.eq_nil
      rw [if_pos nothing, Option.map_none]
  | some timings =>
      rw [filed, Option.getD_some] at same
      have some : carriers session.ran marker ≠ [] := by
        intro nothing
        rw [nothing] at same
        exact filled (by rw [filed, same.eq_nil])
      have total :
          (timings.map TestTiming.duration).sum =
            ((carriers session.ran marker).map
              TestTiming.duration).sum :=
        (same.map TestTiming.duration).sum_eq
      rw [if_neg some, Option.map_some, same.length_eq, total]

theorem exceeds_of_run (kept : ListKept session)
    (exceeds : IndexExceeds session)
    (evaluates : sessionMachine.run session events = some final) :
    IndexExceeds final := by
  induction events generalizing session with
  | nil =>
      cases evaluates
      exact exceeds
  | cons event rest inductionHypothesis =>
      obtain ⟨next, taken, continues⟩ :=
        Option.bind_eq_some_iff.mp evaluates
      have effect := effect_of_step kept taken
      exact inductionHypothesis (kept.step effect) (exceeds.step effect)
        continues

theorem inStep_iff_of_run (kept : ListKept session)
    (index : IndexKept session)
    (evaluates : sessionMachine.run session events = some final) :
    InStep final ↔ sessionMachine.AllowedAlong Regular session events := by
  induction events generalizing session with
  | nil =>
      cases evaluates
      exact iff_of_true (inStep_of_kept kept index) trivial
  | cons event rest inductionHypothesis =>
      obtain ⟨next, taken, continues⟩ :=
        Option.bind_eq_some_iff.mp evaluates
      have effect := effect_of_step kept taken
      by_cases permitted : Regular session event
      · rw [inductionHypothesis (kept.step effect)
          (index.step permitted effect) continues]
        constructor
        · intro later
          exact Machine.AllowedAlong.cons permitted taken later
        · intro allowed
          exact allowed.2 next taken
      · have covers : IndexCovers session :=
          fun marker => (index marker).length_eq.ge
        have exceeds : IndexExceeds next :=
          covers.exceeds permitted effect
        obtain ⟨marker, more⟩ :=
          exceeds_of_run (kept.step effect) exceeds continues
        constructor
        · intro inStep
          have asMany := (inStep.byMarker marker).length_eq
          rw [← TimingCollector.filedUnder] at asMany
          omega
        · intro allowed
          exact absurd allowed.1 permitted

end Runs

/-- The two views are in step after a session exactly when no marker occurred
twice on a test and no test with markers was reported as skipped. -/
theorem timingCollector_inStep_iff
    (events : List PytestEvent) (final : Session)
    (evaluates :
      sessionMachine.run sessionMachine.initial events = some final) :
    InStep final ↔
      sessionMachine.AllowedAlong Regular sessionMachine.initial events := by
  apply inStep_iff_of_run _ _ evaluates
  · exact ⟨List.Perm.refl _, fun _ => rfl, fun _ => by simp [sessionMachine]⟩
  · exact fun marker => List.Perm.refl _

/-- A test with two markers fails, and one without markers is skipped. -/
def skippedUnmarkedTest : List PytestEvent :=
  [.makereport "test_rpc" .call 3 true ["rpc", "slow"],
    .logreport "test_rpc" .call false,
    .makereport "test_ws" .call 1 true [],
    .logreport "test_ws" .call true]

theorem timingCollector_inStep_skippedUnmarked :
    ∃ final,
      sessionMachine.run sessionMachine.initial skippedUnmarkedTest =
          some final ∧
        InStep final := by
  obtain ⟨final, evaluates⟩ :
      ∃ final,
        sessionMachine.run sessionMachine.initial skippedUnmarkedTest =
          some final :=
    ⟨_, rfl⟩
  refine ⟨final, evaluates, ?_⟩
  apply (timingCollector_inStep_iff _ final evaluates).mpr
  apply Machine.AllowedAlong.cons (by simp [Regular]) rfl
  apply Machine.AllowedAlong.cons trivial rfl
  apply Machine.AllowedAlong.cons (by simp [Regular]) rfl
  refine Machine.AllowedAlong.cons ?_ rfl trivial
  intro timing found
  cases found
  rfl

def skippedSlowTest : List PytestEvent :=
  [.makereport "test_rpc" .call 3 true ["slow"],
    .logreport "test_rpc" .call true]

def twiceMarkedTest : List PytestEvent :=
  [.makereport "test_rpc" .call 3 false ["slow", "slow"],
    .logreport "test_rpc" .call false]

theorem not_inStep_of_length {session : Session} (marker : String)
    (different :
      (session.collector.filedUnder marker).length ≠
        (carriers session.ran marker).length) :
    ¬ InStep session :=
  fun inStep => different (inStep.byMarker marker).length_eq

/-- One test ran, and the summary of its marker counts it twice. -/
def CountsTwice (events : List PytestEvent) : Prop :=
  ∃ final,
    sessionMachine.run sessionMachine.initial events = some final ∧
      final.collector.tests.length = 1 ∧
      final.collector.markerSummary.get? "slow" = some (2, 6) ∧
      ¬ InStep final

/-- The test was reported as skipped, or the marker is on its class and on its
function. -/
theorem timingCollector_counts_twice :
    CountsTwice skippedSlowTest ∧ CountsTwice twiceMarkedTest := by
  constructor
  · refine ⟨_, rfl, rfl, by decide +kernel, ?_⟩
    exact not_inStep_of_length "slow" (by decide +kernel)
  · refine ⟨_, rfl, rfl, by decide +kernel, ?_⟩
    exact not_inStep_of_length "slow" (by decide +kernel)

end KarstflowTests.Plugins

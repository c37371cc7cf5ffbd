import KarstflowTests.Library.Machine
import KarstflowTests.Python.Action

/-!
# Running a scenario

`Scenario.run` executes the steps in order on a fresh context and keeps its
record on the scenario.  Nothing resets the record: completed steps pile up from
run to run, and a failure stays until an `Exception` of another step replaces
it.
-/

namespace KarstflowTests.Scenarios

open KarstflowTests.Library

/-! ## Scenarios -/

/-- A single step in a scenario. -/
structure ScenarioStep (σ : Type) where
  name : String
  action : Action σ Unit

/-- Executable test scenario with step tracking. -/
structure Scenario (σ : Type) where
  name : String
  steps : List (ScenarioStep σ)
  completedSteps : List String := []
  failedStep : Option String := none

structure ScenarioBuilder (σ : Type) where
  name : String
  steps : List (ScenarioStep σ) := []

/-- How a run ended, the scenario after it, and what the steps left of the
context and of everything else that they act on. -/
structure RunEnd (σ : Type) where
  outcome : Except Exc Unit
  scenario : Scenario σ
  state : σ

variable {σ : Type}

/-- Add a custom step. -/
def ScenarioBuilder.custom (builder : ScenarioBuilder σ) (name : String)
    (action : Action σ Unit) : ScenarioBuilder σ :=
  { builder with steps := builder.steps ++ [⟨name, action⟩] }

def ScenarioBuilder.build (builder : ScenarioBuilder σ) : Scenario σ where
  name := builder.name
  steps := builder.steps

namespace Scenario

def complete (scenario : Scenario σ) (name : String) : Scenario σ :=
  { scenario with completedSteps := scenario.completedSteps ++ [name] }

/-- The `except Exception` clause. -/
def noteFailure (scenario : Scenario σ) (name : String) (exc : Exc) :
    Scenario σ :=
  if exc.isException then { scenario with failedStep := some name }
  else scenario

/-- The loop of `run`. -/
def runSteps (scenario : Scenario σ) :
    List (ScenarioStep σ) → σ → RunEnd σ
  | [], state => ⟨.ok (), scenario, state⟩
  | step :: rest, state =>
      match step.action.run.run state with
      | (.ok _, next) => (scenario.complete step.name).runSteps rest next
      | (.error exc, next) =>
          ⟨.error exc, scenario.noteFailure step.name exc, next⟩

/-- Execute all steps in order, from a fresh context. -/
def run (scenario : Scenario σ) (start : σ) : RunEnd σ :=
  scenario.runSteps scenario.steps start

end Scenario

/-! ## What a run does -/

/-- The steps act one after the other: the names of those that complete, the
step that raises, if any does, and what they leave. -/
inductive Execution :
    List (ScenarioStep σ) → σ → List String → Option (String × Exc) → σ →
      Prop
  | finished {state : σ} : Execution [] state [] none state
  | completed {step : ScenarioStep σ} {rest : List (ScenarioStep σ)}
      {state next final : σ} {names : List String}
      {failure : Option (String × Exc)}
      (acts : step.action.run.run state = (.ok (), next))
      (later : Execution rest next names failure final) :
      Execution (step :: rest) state (step.name :: names) failure final
  | raised {step : ScenarioStep σ} {rest : List (ScenarioStep σ)}
      {state final : σ} {exc : Exc}
      (acts : step.action.run.run state = (.error exc, final)) :
      Execution (step :: rest) state [] (some (step.name, exc)) final

/-- What the caller should see of such an execution. -/
structure Reports (scenario : Scenario σ) (ended : RunEnd σ)
    (names : List String) (failure : Option (String × Exc)) (final : σ) :
    Prop where
  completed : ended.scenario.completedSteps = names
  inOrder : names <+: scenario.steps.map ScenarioStep.name
  failed : ended.scenario.failedStep = failure.map Prod.fst
  propagated :
    ended.outcome = failure.elim (.ok ()) fun raised => .error raised.2
  stopped : ended.state = final

/-- The run reports what it did. -/
def Reported (scenario : Scenario σ) (start : σ) : Prop :=
  ∃ names failure final,
    Execution scenario.steps start names failure final ∧
      Reports scenario (scenario.run start) names failure final

/-- Before the run nothing is recorded as completed, and the recorded failure is
the one that the run should report, unless the run records it. -/
structure Unmarked (scenario : Scenario σ) (start : σ) : Prop where
  completed : scenario.completedSteps = []
  finishes :
    ∀ names final, Execution scenario.steps start names none final →
      scenario.failedStep = none
  escapes :
    ∀ names name exc final,
      Execution scenario.steps start names (some (name, exc)) final →
        exc.isException = false → scenario.failedStep = some name

/-! ## One run -/

theorem Execution.names_prefix
    {steps : List (ScenarioStep σ)} {state final : σ} {names : List String}
    {failure : Option (String × Exc)}
    (execution : Execution steps state names failure final) :
    names <+: steps.map ScenarioStep.name := by
  induction execution with
  | finished => exact List.prefix_refl _
  | completed acts later inductionHypothesis =>
      exact List.cons_prefix_cons.mpr ⟨rfl, inductionHypothesis⟩
  | raised acts => exact List.nil_prefix

/-- Steps and state determine the execution. -/
theorem Execution.unique
    {steps : List (ScenarioStep σ)} {state final otherFinal : σ}
    {names otherNames : List String}
    {failure otherFailure : Option (String × Exc)}
    (execution : Execution steps state names failure final)
    (other : Execution steps state otherNames otherFailure otherFinal) :
    names = otherNames ∧ failure = otherFailure ∧ final = otherFinal := by
  induction execution generalizing otherNames otherFailure otherFinal with
  | finished =>
      cases other
      exact ⟨rfl, rfl, rfl⟩
  | completed acts later inductionHypothesis =>
      cases other with
      | completed otherActs otherLater =>
          cases acts.symm.trans otherActs
          obtain ⟨sameNames, sameFailure, sameFinal⟩ :=
            inductionHypothesis otherLater
          exact ⟨congrArg _ sameNames, sameFailure, sameFinal⟩
      | raised otherActs => cases acts.symm.trans otherActs
  | raised acts =>
      cases other with
      | completed otherActs otherLater => cases acts.symm.trans otherActs
      | raised otherActs =>
          cases acts.symm.trans otherActs
          exact ⟨rfl, rfl, rfl⟩

/-- The record of a failure after a run. -/
def recorded (old : Option String) : Option (String × Exc) → Option String
  | some (name, exc) => if exc.isException then some name else old
  | none => old

theorem runSteps_execution
    (scenario : Scenario σ) (steps : List (ScenarioStep σ)) (state : σ) :
    ∃ names failure final, Execution steps state names failure final ∧
      scenario.runSteps steps state =
        ⟨failure.elim (.ok ()) fun raised => .error raised.2,
          { scenario with
            completedSteps := scenario.completedSteps ++ names
            failedStep := recorded scenario.failedStep failure },
          final⟩ := by
  induction steps generalizing scenario state with
  | nil =>
      refine ⟨[], none, state, .finished, ?_⟩
      rw [Scenario.runSteps, List.append_nil]
      rfl
  | cons step rest inductionHypothesis =>
      rcases acts : step.action.run.run state with ⟨exc | done, next⟩
      · refine ⟨[], some (step.name, exc), next, .raised acts, ?_⟩
        rw [Scenario.runSteps, acts]
        simp only [Scenario.noteFailure, recorded, List.append_nil]
        by_cases caught : exc.isException
        · simp [caught]
        · simp [caught]
      · obtain ⟨names, failure, final, later, ends⟩ :=
          inductionHypothesis (scenario.complete step.name) next
        refine ⟨step.name :: names, failure, final, .completed acts later, ?_⟩
        rw [Scenario.runSteps, acts]
        refine ends.trans ?_
        simp [Scenario.complete]

/-- The record after a run is right unless the run leaves a wrong one. -/
theorem recorded_eq_iff
    (old : Option String) (failure : Option (String × Exc)) :
    recorded old failure = failure.map Prod.fst ↔
      (failure = none → old = none) ∧
        ∀ name exc, failure = some (name, exc) →
          exc.isException = false → old = some name := by
  rcases failure with _ | ⟨name, exc⟩
  · simp [recorded]
  · by_cases caught : exc.isException
    · simp only [recorded, caught, if_true, Option.map_some, true_iff]
      refine ⟨nofun, ?_⟩
      intro other raised same escapes
      cases same
      rw [caught] at escapes
      cases escapes
    · rw [Bool.not_eq_true] at caught
      simp only [recorded, caught, Bool.false_eq_true, if_false,
        Option.map_some]
      constructor
      · intro same
        refine ⟨nofun, ?_⟩
        intro other raised isThis _
        cases isThis
        exact same
      · intro record
        exact record.2 name exc rfl caught

theorem reported_iff (scenario : Scenario σ) (start : σ) :
    Reported scenario start ↔ Unmarked scenario start := by
  obtain ⟨names, failure, final, execution, ends⟩ :=
    runSteps_execution scenario scenario.steps start
  have record := recorded_eq_iff scenario.failedStep failure
  constructor
  · intro reported
    obtain ⟨others, raised, left, other, reports⟩ := reported
    obtain ⟨rfl, rfl, rfl⟩ := execution.unique other
    have failed := reports.failed
    have completed := reports.completed
    rw [Scenario.run, ends] at failed completed
    obtain ⟨finishes, escapes⟩ := record.mp failed
    refine ⟨List.append_left_eq_self.mp completed, ?_, ?_⟩
    · intro _ _ another
      exact finishes (execution.unique another).2.1
    · intro _ name exc _ another
      exact escapes name exc (execution.unique another).2.1
  · intro unmarked
    refine ⟨names, failure, final, execution, ?_, execution.names_prefix, ?_,
      ?_, ?_⟩
    · rw [Scenario.run, ends, unmarked.completed]
      rfl
    · rw [Scenario.run, ends]
      apply record.mpr
      constructor
      · intro finished
        subst finished
        exact unmarked.finishes names final execution
      · intro name exc raised
        subst raised
        exact unmarked.escapes names name exc final execution
    · rw [Scenario.run, ends]
    · rw [Scenario.run, ends]

/-! ## Histories -/

/-- The runs of one scenario, each with its start. -/
def scenarioMachine (scenario : Scenario σ) : Machine (Scenario σ) σ where
  initial := scenario
  step current start := some (current.run start).scenario

/-- Every run of a history reports what it did exactly when every run finds the
scenario unmarked. -/
theorem runs_reported_iff
    (builder : ScenarioBuilder σ) (starts : List σ) :
    (scenarioMachine builder.build).AllowedAlong Reported
        builder.build starts ↔
      (scenarioMachine builder.build).AllowedAlong Unmarked
        builder.build starts :=
  Machine.allowedAlong_congr reported_iff builder.build starts

/-- A step that raises what its surroundings hold, if they hold anything. -/
def flakyStep : Action (Option Exc) Unit := do
  match ← get with
  | some exc => throw exc
  | none => pure ()

def flakyScenario : Scenario (Option Exc) :=
  (ScenarioBuilder.custom { name := "flaky" } "probe" flakyStep).build

/-- A second run doubles the completed steps, a failure outlives the run that it
belongs to, and an exception that is no `Exception` is not recorded. -/
theorem runs_misreported :
    ¬ (scenarioMachine flakyScenario).AllowedAlong Reported flakyScenario
        [none, none] ∧
      ¬ (scenarioMachine flakyScenario).AllowedAlong Reported flakyScenario
        [some (.other "AssertionError" "balance 0"), none] ∧
      ¬ (scenarioMachine flakyScenario).AllowedAlong Reported flakyScenario
        [some .cancelledError] := by
  refine ⟨?_, ?_, ?_⟩
  · intro along
    have second := (along.2 _ rfl).1
    rw [reported_iff] at second
    have completed := second.completed
    revert completed
    decide
  · intro along
    have second := (along.2 _ rfl).1
    rw [reported_iff] at second
    have record := second.finishes _ _ (.completed rfl .finished)
    revert record
    decide
  · intro along
    have first := along.1
    rw [reported_iff] at first
    have record := first.escapes _ _ _ _ (.raised rfl) rfl
    revert record
    decide

end KarstflowTests.Scenarios

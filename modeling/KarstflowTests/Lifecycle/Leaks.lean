import KarstflowTests.Lifecycle.Knowledge

/-!
# Containers that calls side by side lose

`ValidatorLifecycle.stop` forgets whatever `_process` is at its end.  A run
keeps its container in reach exactly if no step slips: forgets a container that
another call has started in the meantime.
-/

namespace KarstflowTests.Lifecycle

open KarstflowTests.Library

/-! ## The container in reach -/

/-- The container of `_process`. -/
def ValidatorWorld.current (world : ValidatorWorld) : Option ℕ :=
  world.process.bind world.containerAt

namespace LifecycleState

/-- No call is under way. -/
def Idle (state : LifecycleState) : Prop :=
  ∀ call, state.calls call = none

/-- Each call begins when no other is under way. -/
def OneAtATime (state : LifecycleState) (label : ℕ × CallStep) : Prop :=
  state.calls label.1 = none → state.Idle

end LifecycleState

/-- A step of a call of the lifecycle itself. -/
def CallStep.Own (step : CallStep) : Prop :=
  ∀ index, step ≠ .processStop index

/-! ## Losing the container -/

section Losing

variable {state : LifecycleState} {call : ℕ} {step : CallStep}
variable {next : ValidatorWorld} {after : Option Waiting}

end Losing

/-! ## Whole runs -/

section Runs

variable {state next : LifecycleState} {label : ℕ × CallStep}
variable {labels : List (ℕ × CallStep)}

theorem acts_of_step (taken : lifecycleMachine.step state label = some next) :
    ∃ world waiting,
      Acts state.world label.2 (state.calls label.1) world waiting ∧
        next = state.advance label.1 world waiting := by
  obtain ⟨result, acted, rfl⟩ := Option.map_eq_some_iff.mp taken
  exact ⟨result.1, result.2, acts_of_act acted, rfl⟩

theorem Truthful.step (truthful : Truthful state)
    (taken : lifecycleMachine.step state label = some next) :
    Truthful next := by
  obtain ⟨world, waiting, acts, rfl⟩ := acts_of_step taken
  exact truthful.acts acts

/-- The process object that a call of the lifecycle is stopping. -/
def Waiting.forgets : Waiting → Option ℕ
  | .stop index after => if after = .nothing then none else some index
  | .remove index after => if after = .nothing then none else some index
  | .removed index after => if after = .nothing then none else some index
  | .run => none
  | .ran _ => none
  | .refused _ => none

/-- At most one call is under way, and what it stops is `_process`. -/
structure Sequential (state : LifecycleState) : Prop where
  truthful : Truthful state
  single :
    ∀ call other first second, state.calls call = some first →
      state.calls other = some second → call = other
  current :
    ∀ call waiting index, state.calls call = some waiting →
      waiting.forgets = some index → state.world.process = some index

theorem Acts.current {world next : ValidatorWorld} {step : CallStep}
    {before after : Option Waiting} (acts : Acts world step before next after)
    (earlier :
      ∀ waiting index, before = some waiting →
        waiting.forgets = some index → world.process = some index)
    {waiting : Waiting} {index : ℕ} (waits : after = some waiting)
    (forgets : waiting.forgets = some index) :
    next.process = some index := by
  cases acts with
  | skips afterStop stopped =>
      rw [waiting_next waits] at forgets
      cases forgets
  | launches =>
      cases waits
      cases forgets
  | stops target afterStop found direct current =>
      cases waits
      rw [Waiting.forgets] at forgets
      split at forgets
      · cases forgets
      · next isOwn =>
          cases forgets
          exact current isOwn
  | removes target afterStop =>
      cases waits
      exact earlier _ index rfl forgets
  | removed target afterStop =>
      cases waits
      rw [process_removeContainerOf]
      exact earlier _ index rfl forgets
  | finishes target afterStop =>
      rw [waiting_next waits] at forgets
      cases forgets
  | creates free =>
      cases waits
      cases forgets
  | fails stderr noneCreated =>
      cases waits
      cases forgets
  | leaves stderr free =>
      cases waits
      cases forgets
  | assigns containerId => cases waits
  | raises stderr => cases waits

theorem Sequential.step (sequential : Sequential state)
    (permitted : state.OneAtATime label)
    (taken : lifecycleMachine.step state label = some next) :
    Sequential next := by
  have truthful := sequential.truthful.step taken
  obtain ⟨world, waiting, acts, rfl⟩ := acts_of_step taken
  have others {other : ℕ} {found : Waiting}
      (waits : (state.advance label.1 world waiting).calls other =
        some found) : other = label.1 := by
    by_contra isOther
    rw [state.calls_advance_of_ne _ _ isOther] at waits
    cases pending : state.calls label.1 with
    | none =>
        rw [permitted pending other] at waits
        cases waits
    | some first =>
        exact isOther (sequential.single _ _ _ _ waits pending)
  refine ⟨truthful, ?_, ?_⟩
  · intro call other first second waits waitsOther
    rw [others waits, others waitsOther]
  · intro call found index waits forgets
    rw [others waits, state.calls_advance_self] at waits
    exact acts.current (sequential.current label.1) waits forgets

end Runs

/-! ## The property -/

end KarstflowTests.Lifecycle

import Mathlib.Logic.Function.Basic
import KarstflowTests.Library.Machine
import KarstflowTests.Lifecycle.Validator

/-!
# Calls of a lifecycle side by side

A call of `start`, `stop` or `restart` waits for docker in between, and other
calls of the same lifecycle go on meanwhile.  `Waiting` is where a call stands,
and a step of `lifecycleMachine` takes one call from one `await` to the next.
`Acts` lists what a step can do.  A call that runs alone is the call of
`ValidatorWorld`.
-/

namespace KarstflowTests.Lifecycle

open KarstflowTests.Library

/-! ## Calls -/

/-- What a call does when the process object has stopped. -/
inductive AfterStop where
  | nothing
  | forget
  | start
  deriving DecidableEq

/-- What a call waits for. -/
inductive Waiting where
  | stop (index : ℕ) (after : AfterStop)
  | remove (index : ℕ) (after : AfterStop)
  | removed (index : ℕ) (after : AfterStop)
  | run
  | ran (containerId : ℕ)
  | refused (stderr : String)
  deriving DecidableEq

inductive CallStep where
  | processStop (index : ℕ)
  | stop
  | start
  | restart
  | docker (outcome : RunOutcome)
  | resume
  deriving DecidableEq

/-- The calls are numbered; a number without a call is free. -/
structure LifecycleState where
  world : ValidatorWorld := {}
  calls : ℕ → Option Waiting := fun _ => none

namespace LifecycleState

/-- One call has come further. -/
def advance (state : LifecycleState) (call : ℕ) (world : ValidatorWorld)
    (waiting : Option Waiting) : LifecycleState where
  world := world
  calls := Function.update state.calls call waiting

section Advance

variable (state : LifecycleState) (call : ℕ) (world : ValidatorWorld)
variable (waiting : Option Waiting)

@[simp]
theorem calls_advance_self :
    (state.advance call world waiting).calls call = waiting := by
  simp only [advance, Function.update_self]

variable {call} in
theorem calls_advance_of_ne {other : ℕ} (isOther : other ≠ call) :
    (state.advance call world waiting).calls other = state.calls other := by
  simp only [advance, Function.update_of_ne isOther]

end Advance

end LifecycleState

namespace ValidatorWorld

def forget (world : ValidatorWorld) : ValidatorWorld :=
  { world with process := none }

def markStopped (world : ValidatorWorld) (index : ℕ) : ValidatorWorld :=
  { world with
    processes := world.processes.modify index fun process =>
      { process with stopped := true } }

/-- `docker rm -f` for a process object. -/
def removeContainerOf (world : ValidatorWorld) (index : ℕ) :
    ValidatorWorld :=
  match world.processes[index]? with
  | some process => world.dockerRemove process.containerId
  | none => world

/-- The container of a process object. -/
def containerAt (world : ValidatorWorld) (index : ℕ) : Option ℕ :=
  world.processes[index]?.map ValidatorProcess.containerId

/-- A process object for a container that was started. -/
def assign (world : ValidatorWorld) (containerId : ℕ) : ValidatorWorld :=
  { world with
    processes := world.processes ++ [⟨containerId, false⟩]
    process := some world.processes.length }

end ValidatorWorld

/-- On to the next `await`, or to the end of the call. -/
def AfterStop.next (world : ValidatorWorld) :
    AfterStop → ValidatorWorld × Option Waiting
  | .nothing => (world, none)
  | .forget => (world.forget, none)
  | .start => (world.forget, some .run)

/-- `ValidatorProcess.stop` up to its first `await`. -/
def beginProcessStop (world : ValidatorWorld) (index : ℕ)
    (after : AfterStop) : ValidatorWorld × Option Waiting :=
  match world.processes[index]? with
  | none => after.next world
  | some process =>
      if process.stopped then after.next world
      else (world, some (.stop index after))

/-- `ValidatorLifecycle.stop` up to its first `await`. -/
def beginStop (world : ValidatorWorld) (after : AfterStop) :
    ValidatorWorld × Option Waiting :=
  match world.process with
  | some index => beginProcessStop world index after
  | none => after.next world

/-- Docker carries out the command that a call waits for. -/
def Waiting.docker (world : ValidatorWorld) (outcome : RunOutcome) :
    Waiting → Option (ValidatorWorld × Option Waiting)
  | .remove index after =>
      some (world.removeContainerOf index, some (.removed index after))
  | .run =>
      match world.dockerRun outcome with
      | (none, next) => some (next, some (.ran world.created))
      | (some stderr, next) => some (next, some (.refused stderr))
  | _ => none

/-- The call goes on after its `await`. -/
def Waiting.resume (world : ValidatorWorld) :
    Waiting → Option (ValidatorWorld × Option Waiting)
  | .stop index after => some (world, some (.remove index after))
  | .removed index after => some (after.next (world.markStopped index))
  | .ran containerId => some (world.assign containerId, none)
  | .refused _ => some (world, none)
  | .remove _ _ => none
  | .run => none

def CallStep.act (world : ValidatorWorld) :
    CallStep → Option Waiting → Option (ValidatorWorld × Option Waiting)
  | .processStop index, none => some (beginProcessStop world index .nothing)
  | .stop, none => some (beginStop world .forget)
  | .start, none => some (world, some .run)
  | .restart, none => some (beginStop world .start)
  | .docker outcome, some waiting => waiting.docker world outcome
  | .resume, some waiting => waiting.resume world
  | _, _ => none

def lifecycleMachine : Machine LifecycleState (ℕ × CallStep) where
  initial := {}
  step state label :=
    (label.2.act state.world (state.calls label.1)).map
      fun (world, waiting) => state.advance label.1 world waiting

/-! ## What a step does -/

/-- The step of one call. -/
inductive Acts (world : ValidatorWorld) :
    CallStep → Option Waiting → ValidatorWorld → Option Waiting → Prop where
  | skips {step : CallStep} (after : AfterStop)
      (stopped :
        after ≠ .nothing → ∀ index process, world.process = some index →
          world.processes[index]? = some process → process.stopped = true) :
      Acts world step none (after.next world).1 (after.next world).2
  | launches : Acts world .start none world (some .run)
  | stops {step : CallStep} (index : ℕ) (after : AfterStop)
      (found : world.containerAt index ≠ none)
      (direct : after = .nothing → step = .processStop index)
      (current : after ≠ .nothing → world.process = some index) :
      Acts world step none world (some (.stop index after))
  | removes (index : ℕ) (after : AfterStop) :
      Acts world .resume (some (.stop index after)) world
        (some (.remove index after))
  | removed {outcome : RunOutcome} (index : ℕ) (after : AfterStop) :
      Acts world (.docker outcome) (some (.remove index after))
        (world.removeContainerOf index) (some (.removed index after))
  | finishes (index : ℕ) (after : AfterStop) :
      Acts world .resume (some (.removed index after))
        (after.next (world.markStopped index)).1
        (after.next (world.markStopped index)).2
  | creates (free : world.container = none) :
      Acts world (.docker .started) (some .run) world.withContainer
        (some (.ran world.created))
  | fails {outcome : RunOutcome} (stderr : String)
      (noneLeft :
        world.container = none → ∀ text, outcome ≠ .failed text true) :
      Acts world (.docker outcome) (some .run) world
        (some (.refused stderr))
  | leaves (stderr : String) (free : world.container = none) :
      Acts world (.docker (.failed stderr true)) (some .run)
        world.withContainer (some (.refused stderr))
  | assigns (containerId : ℕ) :
      Acts world .resume (some (.ran containerId)) (world.assign containerId)
        none
  | raises (stderr : String) :
      Acts world .resume (some (.refused stderr)) world none

section Acting

variable {world : ValidatorWorld} {step : CallStep} {index : ℕ}
variable {before : Option Waiting} {after : AfterStop}
variable {result : ValidatorWorld × Option Waiting}

theorem acts_beginProcessStop
    (direct : after = .nothing → step = .processStop index)
    (current : after ≠ .nothing → world.process = some index) :
    Acts world step none (beginProcessStop world index after).1
      (beginProcessStop world index after).2 := by
  unfold beginProcessStop
  have ofFound {other : ℕ} (forgets : after ≠ .nothing)
      (isCurrent : world.process = some other) : index = other := by
    rw [current forgets, Option.some.injEq] at isCurrent
    exact isCurrent
  cases found : world.processes[index]? with
  | none =>
      apply Acts.skips
      intro forgets other process isCurrent foundOther
      rw [← ofFound forgets isCurrent, found] at foundOther
      cases foundOther
  | some process =>
      by_cases stopped : process.stopped = true
      · simp only [stopped, if_true]
        apply Acts.skips
        intro forgets other stoppedProcess isCurrent foundOther
        rw [← ofFound forgets isCurrent, found,
          Option.some.injEq] at foundOther
        rw [← foundOther]
        exact stopped
      · simp only [stopped]
        refine Acts.stops index after ?_ direct current
        rw [ValidatorWorld.containerAt, found]
        exact Option.some_ne_none _

theorem acts_beginStop (forgets : after ≠ .nothing) :
    Acts world step none (beginStop world after).1
      (beginStop world after).2 := by
  unfold beginStop
  cases isCurrent : world.process with
  | none =>
      apply Acts.skips
      intro _ index process current _
      rw [isCurrent] at current
      cases current
  | some index =>
      apply acts_beginProcessStop
      · intro nothing
        exact absurd nothing forgets
      · intro _
        exact isCurrent

theorem acts_docker {outcome : RunOutcome} {waiting : Waiting}
    (acted : waiting.docker world outcome = some result) :
    Acts world (.docker outcome) (some waiting) result.1 result.2 := by
  cases waiting with
  | remove index after =>
      cases acted
      exact Acts.removed index after
  | run =>
      unfold Waiting.docker ValidatorWorld.dockerRun at acted
      cases occupied : world.container with
      | some containerId =>
          rw [occupied] at acted
          cases acted
          apply Acts.fails
          intro free
          rw [occupied] at free
          cases free
      | none =>
          rw [occupied] at acted
          cases outcome with
          | started =>
              cases acted
              exact Acts.creates occupied
          | failed stderr creates =>
              cases creates with
              | true =>
                  cases acted
                  exact Acts.leaves stderr occupied
              | false =>
                  cases acted
                  apply Acts.fails
                  intro _ text same
                  cases same
  | stop index after => cases acted
  | removed index after => cases acted
  | ran containerId => cases acted
  | refused stderr => cases acted

theorem acts_resume {waiting : Waiting}
    (acted : waiting.resume world = some result) :
    Acts world .resume (some waiting) result.1 result.2 := by
  cases waiting with
  | stop index after =>
      cases acted
      exact Acts.removes index after
  | removed index after =>
      cases acted
      exact Acts.finishes index after
  | ran containerId =>
      cases acted
      exact Acts.assigns containerId
  | refused stderr =>
      cases acted
      exact Acts.raises stderr
  | remove index after => cases acted
  | run => cases acted

theorem acts_of_act (acted : step.act world before = some result) :
    Acts world step before result.1 result.2 := by
  cases before with
  | none =>
      cases step with
      | processStop index =>
          cases acted
          apply acts_beginProcessStop
          · intro _
            rfl
          · intro forgets
            exact absurd rfl forgets
      | stop =>
          cases acted
          exact acts_beginStop (by decide)
      | start =>
          cases acted
          exact Acts.launches
      | restart =>
          cases acted
          exact acts_beginStop (by decide)
      | docker outcome => cases acted
      | resume => cases acted
  | some waiting =>
      cases step with
      | processStop index => cases acted
      | stop => cases acted
      | start => cases acted
      | restart => cases acted
      | docker outcome => exact acts_docker acted
      | resume => exact acts_resume acted

end Acting

/-! ## What a step does to the containers -/

section Worlds

variable {world next : ValidatorWorld} {after : AfterStop}

@[simp]
theorem container_next : (after.next world).1.container = world.container := by
  cases after <;> rfl

@[simp]
theorem created_next : (after.next world).1.created = world.created := by
  cases after <;> rfl

@[simp]
theorem processes_next : (after.next world).1.processes = world.processes := by
  cases after <;> rfl

@[simp]
theorem containerAt_next (index : ℕ) :
    (after.next world).1.containerAt index = world.containerAt index := by
  cases after <;> rfl

theorem waiting_next {waiting : Waiting}
    (waits : (after.next world).2 = some waiting) : waiting = .run := by
  cases after with
  | nothing => cases waits
  | forget => cases waits
  | start =>
      cases waits
      rfl

@[simp]
theorem containerAt_markStopped (index other : ℕ) :
    (world.markStopped index).containerAt other =
      world.containerAt other := by
  rw [ValidatorWorld.containerAt, ValidatorWorld.markStopped,
    List.getElem?_modify, ValidatorWorld.containerAt]
  cases world.processes[other]? with
  | none => rfl
  | some process => by_cases same : index = other <;> simp [same]

theorem containerAt_of_found {index : ℕ} {process : ValidatorProcess}
    (found : world.processes[index]? = some process) :
    world.containerAt index = some process.containerId := by
  rw [ValidatorWorld.containerAt, found]
  rfl

theorem processes_removeContainerOf (index : ℕ) :
    (world.removeContainerOf index).processes = world.processes := by
  unfold ValidatorWorld.removeContainerOf
  cases world.processes[index]? <;> rfl

@[simp]
theorem containerAt_removeContainerOf (index other : ℕ) :
    (world.removeContainerOf index).containerAt other =
      world.containerAt other := by
  unfold ValidatorWorld.removeContainerOf
  cases world.processes[index]? <;> rfl

theorem container_removeContainerOf_iff {index containerId : ℕ} :
    (world.removeContainerOf index).container = some containerId ↔
      world.container = some containerId ∧
        world.containerAt index ≠ some containerId := by
  unfold ValidatorWorld.removeContainerOf ValidatorWorld.containerAt
  cases world.processes[index]? with
  | none => simp
  | some process =>
      simp only [ValidatorWorld.dockerRemove, Option.filter_eq_some_iff,
        Option.map_some, ne_eq, Option.some.injEq, decide_eq_true_eq]
      exact and_congr_right fun _ => not_congr eq_comm

theorem process_removeContainerOf (index : ℕ) :
    (world.removeContainerOf index).process = world.process := by
  unfold ValidatorWorld.removeContainerOf
  cases world.processes[index]? <;> rfl

@[simp]
theorem created_removeContainerOf (index : ℕ) :
    (world.removeContainerOf index).created = world.created := by
  unfold ValidatorWorld.removeContainerOf
  cases world.processes[index]? <;> rfl

theorem containerAt_assign (containerId index : ℕ) :
    (world.assign containerId).containerAt index =
      if index = world.processes.length then
        some containerId
      else
        world.containerAt index := by
  simp only [ValidatorWorld.containerAt, ValidatorWorld.assign]
  split
  · next atEnd =>
      rw [atEnd, List.getElem?_concat_length]
      rfl
  · next notEnd =>
      rcases Nat.lt_or_gt_of_ne notEnd with before | beyond
      · rw [List.getElem?_append_left before]
      · have outside : world.processes.length + 1 ≤ index := beyond
        rw [List.getElem?_eq_none, List.getElem?_eq_none (by omega)]
        simpa using outside

theorem found_assign {containerId index : ℕ} {process : ValidatorProcess}
    (found : (world.assign containerId).processes[index]? = some process) :
    world.processes[index]? = some process ∨
      process = ⟨containerId, false⟩ := by
  rw [ValidatorWorld.assign] at found
  by_cases before : index < world.processes.length
  · rw [List.getElem?_append_left before] at found
    exact Or.inl found
  · rw [List.getElem?_append_right (Nat.le_of_not_lt before),
      List.getElem?_singleton] at found
    split at found
    · exact Or.inr (Option.some.inj found).symm
    · cases found

end Worlds

/-! ## A call that runs alone -/

section Alone

variable {world : ValidatorWorld} {pending : Option Waiting}
variable {result : ValidatorWorld × Option Waiting}

end Alone

end KarstflowTests.Lifecycle

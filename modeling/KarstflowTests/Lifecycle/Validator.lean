import KarstflowTests.HealthWait
import KarstflowTests.Library.ContextManager

/-!
# One validator container

`ValidatorWorld` is a lifecycle object with its process objects, beside the
container that docker has under its name.  A `ValidatorUse` is one
`async with` statement with everything that its steps meet.

The exit hook does not run when the enter hook raises, and a container that
`docker run` creates but does not start has no process object; every other
container is gone after the statement.
-/

namespace KarstflowTests.Lifecycle

open KarstflowTests.Library KarstflowTests.Wait

/-! ## Objects and docker -/

/-- Configuration for starting a validator node. -/
structure ValidatorConfig where
  rpcPort : ℕ := 8899
  wsPort : ℕ := 8900
  healthTimeout : ℚ := 60
  deriving DecidableEq

namespace ValidatorConfig

def rpcUrl (config : ValidatorConfig) : String :=
  "http://localhost:" ++ toString config.rpcPort

def wsUrl (config : ValidatorConfig) : String :=
  "ws://localhost:" ++ toString config.wsPort

end ValidatorConfig

/-- Running validator process handle. -/
structure ValidatorProcess where
  containerId : ℕ
  stopped : Bool := false
  deriving DecidableEq

/-- Docker keeps one container under the name of the lifecycle and numbers
the containers that it creates; `process` is the index of `_process` among
the process objects. -/
structure ValidatorWorld where
  container : Option ℕ := none
  created : ℕ := 0
  processes : List ValidatorProcess := []
  process : Option ℕ := none
  deriving DecidableEq

/-- What `docker run` does when the name is free.  It can fail after it has
created the container. -/
inductive RunOutcome where
  | started
  | failed (stderr : String) (creates : Bool)
  deriving DecidableEq

def nameInUse : String :=
  "Conflict. The container name is already in use"

namespace ValidatorWorld

/-- A container that docker creates. -/
def withContainer (world : ValidatorWorld) : ValidatorWorld :=
  { world with
    container := some world.created
    created := world.created + 1 }

/-- `docker run`: the text on stderr when it fails, and the world after
it. -/
def dockerRun (world : ValidatorWorld) (outcome : RunOutcome) :
    Option String × ValidatorWorld :=
  match world.container, outcome with
  | some _, _ => (some nameInUse, world)
  | none, .started => (none, world.withContainer)
  | none, .failed stderr true => (some stderr, world.withContainer)
  | none, .failed stderr false => (some stderr, world)

/-- `docker stop` and `docker rm -f` -/
def dockerRemove (world : ValidatorWorld) (containerId : ℕ) :
    ValidatorWorld :=
  { world with container := world.container.filter (· ≠ containerId) }

/-- `ValidatorProcess.stop` of the process object with that index. -/
def processStop (world : ValidatorWorld) (index : ℕ) : ValidatorWorld :=
  match world.processes[index]? with
  | none => world
  | some process =>
      if process.stopped then
        world
      else
        { world.dockerRemove process.containerId with
          processes :=
            world.processes.set index { process with stopped := true } }

/-- `ValidatorLifecycle.start`; it returns the index of its process object. -/
def start (world : ValidatorWorld) (outcome : RunOutcome) :
    Except Exc ℕ × ValidatorWorld :=
  match world.dockerRun outcome with
  | (some stderr, after) =>
      (.error (.other "RuntimeError"
        ("Failed to start validator: " ++ stderr)), after)
  | (none, after) =>
      (.ok after.processes.length,
        { after with
          processes := after.processes ++ [⟨world.created, false⟩]
          process := some after.processes.length })

/-- `ValidatorLifecycle.stop` -/
def stop (world : ValidatorWorld) : ValidatorWorld :=
  match world.process with
  | some index => { world.processStop index with process := none }
  | none => world

def restart (world : ValidatorWorld) (outcome : RunOutcome) :
    Except Exc ℕ × ValidatorWorld :=
  world.stop.start outcome

/-- `ValidatorLifecycle.__aenter__` -/
def aenter (config : ValidatorConfig) (outcome : RunOutcome)
    (health : HealthSchedule (1 / 2)) (world : ValidatorWorld) :
    Except Exc ℕ × ValidatorWorld :=
  match world.start outcome with
  | (.error exc, after) => (.error exc, after)
  | (.ok validator, after) =>
      match waitForHealth config.rpcUrl config.healthTimeout health with
      | .error exc => (.error exc, after)
      | .ok () => (.ok validator, after)

end ValidatorWorld

/-! ## The `async with` statement -/

/-- What a body does to the lifecycle and its process objects. -/
inductive ValidatorStep where
  | processStop (index : ℕ)
  | stop
  | start (outcome : RunOutcome)
  | restart (outcome : RunOutcome)

def ValidatorStep.apply (world : ValidatorWorld) :
    ValidatorStep → ValidatorWorld
  | .processStop index => world.processStop index
  | .stop => world.stop
  | .start outcome => (world.start outcome).2
  | .restart outcome => (world.restart outcome).2

/-- One use: what the enter hook meets, the steps that the body takes, and
how the body ends. -/
structure ValidatorUse where
  config : ValidatorConfig
  run : RunOutcome
  health : HealthSchedule (1 / 2)
  body : List ValidatorStep
  ending : Except Exc Unit

namespace ValidatorUse

def lifecycle (use : ValidatorUse) :
    ContextManager ValidatorWorld Exc ℕ where
  enter world := world.aenter use.config use.run use.health
  exit world := world.stop

/-- How the statement ends, and what is there after it. -/
def left (use : ValidatorUse) : Except Exc Unit × ValidatorWorld :=
  use.lifecycle.within
    (fun _ world => (use.ending, use.body.foldl ValidatorStep.apply world))
    {}

/-- The statement leaves no container behind. -/
def Clean (use : ValidatorUse) : Prop :=
  use.left.2.container = none

end ValidatorUse

/-! ## When it is clean -/

/-- A `docker run` that fails leaves the container it has created. -/
def ValidatorStep.LeavesBehind (world : ValidatorWorld) :
    ValidatorStep → Prop
  | .start (.failed _ true) => world.container = none
  | .restart (.failed _ true) => world.stop.container = none
  | _ => False

/-- No step of the body leaves a container behind. -/
def NothingLeft : List ValidatorStep → ValidatorWorld → Prop
  | [], _ => True
  | step :: rest, world =>
      ¬ step.LeavesBehind world ∧ NothingLeft rest (step.apply world)

/-- Docker starts the container or leaves none, a started validator responds
in time, and no step of the body leaves a container behind. -/
def ValidatorUse.Regular (use : ValidatorUse) : Prop :=
  match use.run with
  | .failed _ creates => creates = false
  | .started =>
      use.health.RespondsBefore
          (use.health.start + use.config.healthTimeout) ∧
        NothingLeft use.body (ValidatorWorld.start {} .started).2

/-! ## What the steps keep -/

/-- The container belongs to `_process`, which was not stopped. -/
def Held (world : ValidatorWorld) : Prop :=
  ∀ containerId, world.container = some containerId →
    ∃ index, world.process = some index ∧
      world.processes[index]? = some ⟨containerId, false⟩

/-- No process object is of the container. -/
def Stranded (world : ValidatorWorld) : Prop :=
  ∃ containerId, world.container = some containerId ∧
    ∀ process ∈ world.processes, process.containerId ≠ containerId

/-- The process objects are of containers that were created. -/
def Numbered (world : ValidatorWorld) : Prop :=
  ∀ process ∈ world.processes, process.containerId < world.created

/-- What the stop of a process object does. -/
inductive Stopping (world : ValidatorWorld) (index : ℕ) :
    ValidatorWorld → Prop where
  | idle
      (stopped :
        ∀ process, world.processes[index]? = some process →
          process.stopped = true) :
      Stopping world index world
  | removed (process : ValidatorProcess)
      (found : world.processes[index]? = some process) :
      Stopping world index
        { world with
          container :=
            world.container.filter (· ≠ process.containerId)
          processes :=
            world.processes.set index { process with stopped := true } }

section Steps

variable {world : ValidatorWorld} {index : ℕ} {outcome : RunOutcome}

theorem stopping_processStop (world : ValidatorWorld) (index : ℕ) :
    Stopping world index (world.processStop index) := by
  unfold ValidatorWorld.processStop
  split
  · rename_i absent
    apply Stopping.idle
    intro process found
    rw [absent] at found
    cases found
  · rename_i process found
    split
    · rename_i stopped
      apply Stopping.idle
      intro other foundOther
      rw [found] at foundOther
      cases foundOther
      exact stopped
    · exact Stopping.removed process found

theorem Held.stopping {after : ValidatorWorld} (held : Held world)
    (stopping : Stopping world index after) : Held after := by
  cases stopping with
  | idle stopped => exact held
  | removed process found =>
      intro containerId kept
      obtain ⟨isContainer, notRemoved⟩ :=
        Option.filter_eq_some_iff.mp kept
      obtain ⟨current, isCurrent, foundCurrent⟩ :=
        held containerId isContainer
      refine ⟨current, isCurrent, ?_⟩
      have other : index ≠ current := by
        rintro rfl
        rw [found, Option.some.injEq] at foundCurrent
        rw [foundCurrent] at notRemoved
        simp at notRemoved
      change (world.processes.set index _)[current]? = _
      rw [List.getElem?_set_ne other]
      exact foundCurrent

theorem Stranded.stopping {after : ValidatorWorld}
    (stranded : Stranded world) (stopping : Stopping world index after) :
    Stranded after := by
  cases stopping with
  | idle stopped => exact stranded
  | removed process found =>
      obtain ⟨containerId, isContainer, foreign⟩ := stranded
      have member : process ∈ world.processes :=
        List.mem_of_getElem? found
      have other : containerId ≠ process.containerId :=
        Ne.symm (foreign process member)
      refine ⟨containerId, ?_, ?_⟩
      · change world.container.filter _ = _
        rw [isContainer]
        simp [Option.filter, other]
      · intro kept keptMember
        rcases List.mem_or_eq_of_mem_set keptMember with earlier | rfl
        · exact foreign kept earlier
        · exact foreign process member

theorem Numbered.stopping {after : ValidatorWorld}
    (numbered : Numbered world) (stopping : Stopping world index after) :
    Numbered after := by
  cases stopping with
  | idle stopped => exact numbered
  | removed process found =>
      intro kept keptMember
      rcases List.mem_or_eq_of_mem_set keptMember with earlier | rfl
      · exact numbered kept earlier
      · exact numbered process (List.mem_of_getElem? found)

theorem Stopping.process_eq {after : ValidatorWorld}
    (stopping : Stopping world index after) :
    after.process = world.process := by
  cases stopping <;> rfl

theorem Stopping.stopped {after : ValidatorWorld}
    (stopping : Stopping world index after) {process : ValidatorProcess}
    (found : after.processes[index]? = some process) :
    process.stopped = true := by
  cases stopping with
  | idle stopped => exact stopped process found
  | removed earlier foundEarlier =>
      have inRange : index < world.processes.length :=
        (List.getElem?_eq_some_iff.mp foundEarlier).1
      change (world.processes.set index _)[index]? = _ at found
      rw [List.getElem?_set_self inRange] at found
      cases found
      rfl

/-- Stopping the lifecycle removes the container it holds. -/
theorem Held.container_stop (held : Held world) :
    world.stop.container = none := by
  rw [Option.eq_none_iff_forall_ne_some]
  intro containerId kept
  unfold ValidatorWorld.stop at kept
  cases current : world.process with
  | none =>
      rw [current] at kept
      obtain ⟨index, isCurrent, -⟩ := held containerId kept
      rw [current] at isCurrent
      cases isCurrent
  | some index =>
      rw [current] at kept
      have stopping := stopping_processStop world index
      obtain ⟨index', isCurrent, running⟩ :=
        held.stopping stopping containerId kept
      rw [stopping.process_eq, current, Option.some.injEq] at isCurrent
      subst isCurrent
      cases stopping.stopped running

theorem Held.of_container_none (absent : world.container = none) :
    Held world := by
  intro containerId isContainer
  rw [absent] at isContainer
  cases isContainer

theorem Stranded.stop (stranded : Stranded world) :
    Stranded world.stop := by
  unfold ValidatorWorld.stop
  cases world.process with
  | none => exact stranded
  | some index =>
      have kept : Stranded (world.processStop index) :=
        stranded.stopping (stopping_processStop world index)
      exact kept

theorem Numbered.stop (numbered : Numbered world) :
    Numbered world.stop := by
  unfold ValidatorWorld.stop
  cases world.process with
  | none => exact numbered
  | some index =>
      have kept : Numbered (world.processStop index) :=
        numbered.stopping (stopping_processStop world index)
      exact kept

/-! ### Starting -/

/-- What a start does. -/
inductive Starting (world : ValidatorWorld) :
    RunOutcome → ValidatorWorld → Prop where
  | conflict {outcome : RunOutcome} (containerId : ℕ)
      (occupied : world.container = some containerId) :
      Starting world outcome world
  | refused (stderr : String) (free : world.container = none) :
      Starting world (.failed stderr false) world
  | leftBehind (stderr : String) (free : world.container = none) :
      Starting world (.failed stderr true) world.withContainer
  | started (free : world.container = none) :
      Starting world .started
        { world.withContainer with
          processes := world.processes ++ [⟨world.created, false⟩]
          process := some world.processes.length }

theorem starting_start (world : ValidatorWorld) (outcome : RunOutcome) :
    Starting world outcome (world.start outcome).2 := by
  unfold ValidatorWorld.start ValidatorWorld.dockerRun
  cases occupied : world.container with
  | some containerId => exact .conflict containerId occupied
  | none =>
      cases outcome with
      | started => exact .started occupied
      | failed stderr creates =>
          cases creates with
          | false => exact .refused stderr occupied
          | true => exact .leftBehind stderr occupied

theorem Held.starting {after : ValidatorWorld} (held : Held world)
    (starting : Starting world outcome after)
    (nothingLeft :
      ¬ (ValidatorStep.start outcome).LeavesBehind world) :
    Held after := by
  cases starting with
  | conflict containerId occupied => exact held
  | refused stderr free => exact held
  | leftBehind stderr free => exact absurd free nothingLeft
  | started free =>
      intro containerId isContainer
      cases isContainer
      refine ⟨world.processes.length, rfl, ?_⟩
      exact List.getElem?_concat_length

theorem Stranded.starting {after : ValidatorWorld}
    (stranded : Stranded world)
    (starting : Starting world outcome after) : Stranded after := by
  obtain ⟨containerId, isContainer, foreign⟩ := stranded
  cases starting with
  | conflict _ occupied => exact ⟨containerId, isContainer, foreign⟩
  | refused stderr free => exact ⟨containerId, isContainer, foreign⟩
  | leftBehind stderr free =>
      rw [free] at isContainer
      cases isContainer
  | started free =>
      rw [free] at isContainer
      cases isContainer

theorem Numbered.starting {after : ValidatorWorld}
    (numbered : Numbered world)
    (starting : Starting world outcome after) : Numbered after := by
  cases starting with
  | conflict containerId occupied => exact numbered
  | refused stderr free => exact numbered
  | leftBehind stderr free =>
      intro process member
      exact (numbered process member).trans (Nat.lt_succ_self _)
  | started free =>
      intro process member
      change process ∈ world.processes ++ [⟨world.created, false⟩] at member
      rcases List.mem_append.mp member with earlier | isNew
      · exact (numbered process earlier).trans (Nat.lt_succ_self _)
      · rw [List.mem_singleton] at isNew
        rw [isNew]
        exact Nat.lt_succ_self _

theorem container_of_leavesBehind
    (leaves : (ValidatorStep.start outcome).LeavesBehind world) :
    world.container = none := by
  cases outcome with
  | started => cases leaves
  | failed stderr creates =>
      cases creates with
      | false => cases leaves
      | true => exact leaves

/-- A container that docker leaves has no process object. -/
theorem Numbered.stranded {after : ValidatorWorld}
    (numbered : Numbered world)
    (starting : Starting world outcome after)
    (leaves : (ValidatorStep.start outcome).LeavesBehind world) :
    Stranded after := by
  cases starting with
  | conflict containerId occupied =>
      rw [container_of_leavesBehind leaves] at occupied
      cases occupied
  | refused stderr free => cases leaves
  | leftBehind stderr free =>
      exact ⟨world.created, rfl,
        fun process member => (numbered process member).ne⟩
  | started free => cases leaves

/-! ### The steps of a body -/

/-- A restart is a start in the world after the stop. -/
theorem leavesBehind_restart :
    (ValidatorStep.restart outcome).LeavesBehind world ↔
      (ValidatorStep.start outcome).LeavesBehind world.stop := by
  cases outcome with
  | started => exact Iff.rfl
  | failed stderr creates => cases creates <;> exact Iff.rfl

theorem Held.apply (held : Held world) {step : ValidatorStep}
    (nothingLeft : ¬ step.LeavesBehind world) :
    Held (step.apply world) := by
  cases step with
  | processStop index =>
      exact held.stopping (stopping_processStop world index)
  | stop => exact .of_container_none held.container_stop
  | start outcome =>
      exact held.starting (starting_start world outcome) nothingLeft
  | restart outcome =>
      have stopped : Held world.stop :=
        .of_container_none held.container_stop
      rw [leavesBehind_restart] at nothingLeft
      exact stopped.starting (starting_start world.stop outcome) nothingLeft

theorem Stranded.apply (stranded : Stranded world) (step : ValidatorStep) :
    Stranded (step.apply world) := by
  cases step with
  | processStop index =>
      exact stranded.stopping (stopping_processStop world index)
  | stop => exact stranded.stop
  | start outcome =>
      exact stranded.starting (starting_start world outcome)
  | restart outcome =>
      exact stranded.stop.starting (starting_start world.stop outcome)

theorem Numbered.apply (numbered : Numbered world) (step : ValidatorStep) :
    Numbered (step.apply world) := by
  cases step with
  | processStop index =>
      exact numbered.stopping (stopping_processStop world index)
  | stop => exact numbered.stop
  | start outcome =>
      exact numbered.starting (starting_start world outcome)
  | restart outcome =>
      exact numbered.stop.starting (starting_start world.stop outcome)

theorem Numbered.stranded_apply (numbered : Numbered world)
    {step : ValidatorStep} (leaves : step.LeavesBehind world) :
    Stranded (step.apply world) := by
  cases step with
  | processStop index => cases leaves
  | stop => cases leaves
  | start outcome =>
      exact numbered.stranded (starting_start world outcome) leaves
  | restart outcome =>
      rw [leavesBehind_restart] at leaves
      exact numbered.stop.stranded (starting_start world.stop outcome)
        leaves

theorem Stranded.foldl (stranded : Stranded world)
    (body : List ValidatorStep) :
    Stranded (body.foldl ValidatorStep.apply world) := by
  induction body generalizing world with
  | nil => exact stranded
  | cons step rest inductionHypothesis =>
      exact inductionHypothesis (stranded.apply step)

/-- The exit removes the container exactly if no step left one behind. -/
theorem container_stop_foldl_iff (held : Held world)
    (numbered : Numbered world) (body : List ValidatorStep) :
    (body.foldl ValidatorStep.apply world).stop.container = none ↔
      NothingLeft body world := by
  induction body generalizing world with
  | nil => exact iff_of_true held.container_stop trivial
  | cons step rest inductionHypothesis =>
      rw [List.foldl_cons, NothingLeft]
      by_cases leaves : step.LeavesBehind world
      · obtain ⟨containerId, kept, -⟩ :=
          ((numbered.stranded_apply leaves).foldl rest).stop
        simp [kept, leaves]
      · rw [inductionHypothesis (held.apply leaves) (numbered.apply step)]
        simp [leaves]

end Steps

/-! ## The whole statement -/

/-- The world in which the body begins. -/
def startedWorld : ValidatorWorld :=
  (ValidatorWorld.start {} .started).2

theorem held_startedWorld : Held startedWorld := by
  intro containerId isContainer
  cases isContainer
  exact ⟨0, rfl, rfl⟩

theorem numbered_startedWorld : Numbered startedWorld := by
  intro process member
  have isFirst : process = ⟨0, false⟩ := List.mem_singleton.mp member
  rw [isFirst]
  exact Nat.lt_succ_self 0

section Use

variable {config : ValidatorConfig} {health : HealthSchedule (1 / 2)}
variable {body : List ValidatorStep} {ending : Except Exc Unit}

theorem left_of_failed (stderr : String) (creates : Bool) :
    (ValidatorUse.left
      ⟨config, .failed stderr creates, health, body, ending⟩).2.container =
        if creates then some 0 else none := by
  cases creates <;> rfl

/-- A started validator that does not respond keeps its container. -/
theorem left_of_notReady {exc : Exc}
    (waits :
      waitForHealth config.rpcUrl config.healthTimeout health =
        .error exc) :
    ValidatorUse.left ⟨config, .started, health, body, ending⟩ =
      (.error exc, startedWorld) := by
  apply ContextManager.within_of_error
  change ValidatorWorld.aenter config .started health {} = _
  rw [ValidatorWorld.aenter]
  simp only [ValidatorWorld.start, ValidatorWorld.dockerRun, waits]
  rfl

theorem left_of_ready
    (waits :
      waitForHealth config.rpcUrl config.healthTimeout health =
        .ok ()) :
    ValidatorUse.left ⟨config, .started, health, body, ending⟩ =
      (ending, (body.foldl ValidatorStep.apply startedWorld).stop) := by
  have enters :
      ValidatorWorld.aenter config .started health {} =
        (.ok 0, startedWorld) := by
    rw [ValidatorWorld.aenter]
    simp only [ValidatorWorld.start, ValidatorWorld.dockerRun, waits]
    rfl
  exact ContextManager.within_of_ok enters

end Use

theorem ValidatorUse.clean_iff (use : ValidatorUse) :
    use.Clean ↔ use.Regular := by
  obtain ⟨config, run, health, body, ending⟩ := use
  cases run with
  | failed stderr creates =>
      rw [Clean, left_of_failed, Regular]
      cases creates <;> simp
  | started =>
      have responds :=
        waitForHealth_ok_iff config.rpcUrl config.healthTimeout health
      cases waits :
          waitForHealth config.rpcUrl config.healthTimeout health with
      | error exc =>
          rw [waits] at responds
          rw [Clean, left_of_notReady waits, Regular]
          simp only [← responds, reduceCtorEq, false_and, iff_false]
          exact fun removed => Option.some_ne_none _ removed
      | ok value =>
          rw [waits] at responds
          rw [Clean, left_of_ready waits,
            container_stop_foldl_iff held_startedWorld
              numbered_startedWorld]
          simp only [Regular, ← responds, true_and]
          rfl

end KarstflowTests.Lifecycle

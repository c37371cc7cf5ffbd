import Mathlib.Data.List.Basic
import KarstflowTests.Library.Fallible
import KarstflowTests.Lifecycle.Validator
import KarstflowTests.Wait

/-!
# A cluster under docker compose

`ComposeWorld` is a lifecycle object beside the containers that its project
has.  `docker compose up` may fail after it has created some of them; `_started`
says whether the exit takes them down.
-/

namespace KarstflowTests.Lifecycle

open KarstflowTests.Library KarstflowTests.Wait

/-! ## The lifecycle -/

structure ComposeWorld where
  containers : List String := []
  started : Bool := false
  deriving DecidableEq

/-- What `docker compose up -d` does: it brings up at least one container, or
fails and leaves some. -/
inductive UpOutcome where
  | started (container : String) (others : List String)
  | failed (stderr : String) (containers : List String)
  deriving DecidableEq

/-- What one start meets: the outcome of `up`, what the nodes answer, and the
order in which their waits end. -/
structure ComposeStart (nodes : ℕ) where
  up : UpOutcome
  health : ℕ → HealthSchedule (1 / 2)
  finishing : List ℕ
  complete : finishing.Perm (List.range nodes)

/-- `asyncio.gather`: the first exception, or none. -/
def gather (finishing : List ℕ) (wait : ℕ → Except Exc Unit) :
    Except Exc Unit :=
  finishing.forM wait

def nodeConfig (index : ℕ) : ValidatorConfig where
  rpcPort := 8899 + index * 10
  wsPort := 8900 + index * 10

namespace ComposeWorld

variable {nodes : ℕ}

/-- `docker compose up -d`: the text on stderr when it fails, and the world
after it. -/
def composeUp (world : ComposeWorld) :
    UpOutcome → Option String × ComposeWorld
  | .started container others =>
      (none,
        { world with containers := world.containers ∪ container :: others })
  | .failed stderr containers =>
      (some stderr,
        { world with containers := world.containers ∪ containers })

/-- `ComposeLifecycle.start` -/
def start (healthTimeout : ℚ) (world : ComposeWorld)
    (met : ComposeStart nodes) :
    Except Exc (List ValidatorConfig) × ComposeWorld :=
  match world.composeUp met.up with
  | (some stderr, after) =>
      (.error (.other "RuntimeError"
        ("docker-compose up failed: " ++ stderr)), after)
  | (none, after) =>
      let configs := (List.range nodes).map nodeConfig
      -- Wait for all nodes
      let waits := gather met.finishing fun index =>
        waitForHealth (nodeConfig index).rpcUrl healthTimeout
          (met.health index)
      (waits.map fun _ => configs, { after with started := true })

/-- `ComposeLifecycle.stop`, with `docker compose down -v` -/
def stop (world : ComposeWorld) : ComposeWorld :=
  if world.started then
    { containers := [], started := false }
  else
    world

end ComposeWorld

/-! ## The `async with` statement -/

/-- What a body does to the lifecycle. -/
inductive ComposeStep (nodes : ℕ) where
  | start (met : ComposeStart nodes)
  | stop

/-- One use: what the enter hook meets, the steps that the body takes, and
how the body ends. -/
structure ComposeUse where
  nodes : ℕ
  healthTimeout : ℚ
  enter : ComposeStart nodes
  body : List (ComposeStep nodes)
  ending : Except Exc Unit

def ComposeStep.apply (healthTimeout : ℚ) {nodes : ℕ}
    (world : ComposeWorld) : ComposeStep nodes → ComposeWorld
  | .start met => (world.start healthTimeout met).2
  | .stop => world.stop

namespace ComposeUse

def lifecycle (use : ComposeUse) :
    ContextManager ComposeWorld Exc (List ValidatorConfig) where
  enter world := world.start use.healthTimeout use.enter
  exit world := world.stop

/-- How the statement ends, and what is there after it. -/
def left (use : ComposeUse) : Except Exc Unit × ComposeWorld :=
  use.lifecycle.within
    (fun _ world =>
      (use.ending,
        use.body.foldl (ComposeStep.apply use.healthTimeout) world))
    {}

/-- The statement leaves no container behind. -/
def Clean (use : ComposeUse) : Prop :=
  use.left.2.containers = []

end ComposeUse

/-! ## When it is clean -/

section Conditions

variable {nodes : ℕ}

def ComposeStep.Succeeds : ComposeStep nodes → Prop
  | .start met => ∃ container others, met.up = .started container others
  | .stop => False

/-- A failed `up` leaves containers while the lifecycle is not started. -/
def ComposeStep.LeavesBehind (world : ComposeWorld) :
    ComposeStep nodes → Prop
  | .start met =>
      world.started = false ∧
        ∃ stderr containers, met.up = .failed stderr containers ∧
          containers ≠ []
  | .stop => False

/-- After a step that leaves containers behind, a later `up` succeeds. -/
def Recovers (healthTimeout : ℚ) :
    List (ComposeStep nodes) → ComposeWorld → Prop
  | [], _ => True
  | step :: rest, world =>
      (step.LeavesBehind world → ∃ later ∈ rest, later.Succeeds) ∧
        Recovers healthTimeout rest (step.apply healthTimeout world)

end Conditions

/-- The world in which the body begins. -/
def ComposeUse.enteredWorld (use : ComposeUse) : ComposeWorld :=
  (ComposeWorld.start use.healthTimeout {} use.enter).2

/-- An `up` that fails leaves no container, after one that succeeds every node
responds in time, and the body recovers what its own starts leave. -/
def ComposeUse.Regular (use : ComposeUse) : Prop :=
  match use.enter.up with
  | .failed _ containers => containers = []
  | .started _ _ =>
      (∀ index < use.nodes,
        (use.enter.health index).RespondsBefore
          ((use.enter.health index).start + use.healthTimeout)) ∧
        Recovers use.healthTimeout use.body use.enteredWorld

/-! ## What the exit finds -/

/-- The exit leaves no container. -/
def TakenDown (world : ComposeWorld) : Prop :=
  world.containers = [] ∨ world.started = true

section Steps

variable {nodes : ℕ} {healthTimeout : ℚ} {world : ComposeWorld}

theorem containers_stop_iff :
    world.stop.containers = [] ↔ TakenDown world := by
  by_cases started : world.started
  · simp [ComposeWorld.stop, TakenDown, started]
  · simp [ComposeWorld.stop, TakenDown, started]

theorem gather_ok_iff {finishing : List ℕ} {wait : ℕ → Except Exc Unit} :
    gather finishing wait = .ok () ↔
      ∀ index ∈ finishing, wait index = .ok () := by
  induction finishing with
  | nil => simp [gather, pure, Except.pure]
  | cons first rest inductionHypothesis =>
      change (wait first >>= fun _ => gather rest wait) = .ok () ↔ _
      rw [bind_eq_ok_iff, inductionHypothesis, List.forall_mem_cons]
      constructor
      · rintro ⟨value, returns, later⟩
        exact ⟨returns, later⟩
      · rintro ⟨returns, later⟩
        exact ⟨(), returns, later⟩

/-- What a start does to the world. -/
theorem start_world (met : ComposeStart nodes) :
    (world.start healthTimeout met).2 =
      match met.up with
      | .started container others =>
          ⟨world.containers ∪ container :: others, true⟩
      | .failed _ containers =>
          ⟨world.containers ∪ containers, world.started⟩ := by
  unfold ComposeWorld.start ComposeWorld.composeUp
  cases met.up <;> rfl

theorem union_eq_nil {first second : List String} :
    first ∪ second = [] ↔ first = [] ∧ second = [] := by
  constructor
  · intro empty
    have member (name : String) : name ∉ first ∪ second := by
      rw [empty]
      exact List.not_mem_nil
    simp only [List.mem_union_iff, not_or] at member
    exact ⟨List.eq_nil_iff_forall_not_mem.mpr fun name => (member name).1,
      List.eq_nil_iff_forall_not_mem.mpr fun name => (member name).2⟩
  · rintro ⟨rfl, rfl⟩
    rfl

/-- What is taken down after one step and a body that goes on with it. -/
theorem takenDown_apply_iff (step : ComposeStep nodes)
    {recovered : Prop} :
    TakenDown (step.apply healthTimeout world) ∨ recovered ↔
      (TakenDown world ∨ step.Succeeds ∨ recovered) ∧
        (step.LeavesBehind world → recovered) := by
  cases step with
  | stop =>
      by_cases started : world.started
      · simp [ComposeStep.apply, ComposeWorld.stop, TakenDown,
          ComposeStep.Succeeds, ComposeStep.LeavesBehind, started]
      · simp [ComposeStep.apply, ComposeWorld.stop, TakenDown,
          ComposeStep.Succeeds, ComposeStep.LeavesBehind, started]
  | start met =>
      rw [ComposeStep.apply, start_world]
      cases up : met.up with
      | started container others =>
          simp [TakenDown, ComposeStep.Succeeds, ComposeStep.LeavesBehind,
            up]
      | failed stderr containers =>
          have leaves :
              (ComposeStep.start met).LeavesBehind world ↔
                world.started = false ∧ containers ≠ [] := by
            simp [ComposeStep.LeavesBehind, up]
          have fails : ¬ (ComposeStep.start met).Succeeds := by
            simp [ComposeStep.Succeeds, up]
          simp only [TakenDown, union_eq_nil, leaves, fails, false_or]
          cases world.started with
          | true => simp
          | false => grind

/-- The exit takes everything down exactly if the body recovers what its
starts leave. -/
theorem containers_stop_foldl_iff (body : List (ComposeStep nodes)) :
    (body.foldl (ComposeStep.apply healthTimeout)
        world).stop.containers = [] ↔
      (TakenDown world ∨ ∃ step ∈ body, step.Succeeds) ∧
        Recovers healthTimeout body world := by
  induction body generalizing world with
  | nil =>
      rw [List.foldl_nil, containers_stop_iff]
      simp [Recovers]
  | cons step rest inductionHypothesis =>
      rw [List.foldl_cons, inductionHypothesis, takenDown_apply_iff,
        Recovers]
      simp [and_assoc]

end Steps

/-! ## The whole statement -/

section Use

variable {nodes : ℕ} {healthTimeout : ℚ} {enter : ComposeStart nodes}
variable {body : List (ComposeStep nodes)} {ending : Except Exc Unit}

/-- The waits of a start. -/
def waits (healthTimeout : ℚ) (met : ComposeStart nodes) :
    Except Exc Unit :=
  gather met.finishing fun index =>
    waitForHealth (nodeConfig index).rpcUrl healthTimeout (met.health index)

theorem waits_ok_iff :
    waits healthTimeout enter = .ok () ↔
      ∀ index < nodes,
        (enter.health index).RespondsBefore
          ((enter.health index).start + healthTimeout) := by
  rw [waits, gather_ok_iff]
  simp only [waitForHealth_ok_iff, enter.complete.mem_iff, List.mem_range]

theorem start_of_started {container : String} {others : List String}
    (up : enter.up = .started container others) (world : ComposeWorld) :
    (world.start healthTimeout enter).1 =
      (waits healthTimeout enter).map fun _ =>
        (List.range nodes).map nodeConfig := by
  unfold ComposeWorld.start ComposeWorld.composeUp
  rw [up]
  rfl

theorem start_of_failed {stderr : String} {containers : List String}
    (up : enter.up = .failed stderr containers) (world : ComposeWorld) :
    (world.start healthTimeout enter).1 =
      .error (.other "RuntimeError"
        ("docker-compose up failed: " ++ stderr)) := by
  unfold ComposeWorld.start ComposeWorld.composeUp
  rw [up]

/-- A cluster whose start raises stays as the start left it. -/
theorem left_of_start_error {exc : Exc}
    (raises :
      (ComposeWorld.start healthTimeout {} enter).1 = .error exc) :
    (ComposeUse.left ⟨nodes, healthTimeout, enter, body, ending⟩).2 =
      (ComposeWorld.start healthTimeout {} enter).2 := by
  have enters :
      ComposeWorld.start healthTimeout {} enter =
        (.error exc, (ComposeWorld.start healthTimeout {} enter).2) :=
    Prod.ext raises rfl
  exact congrArg Prod.snd (ContextManager.within_of_error enters)

theorem left_of_start_ok {configs : List ValidatorConfig}
    (returns :
      (ComposeWorld.start healthTimeout {} enter).1 = .ok configs) :
    (ComposeUse.left ⟨nodes, healthTimeout, enter, body, ending⟩).2 =
      (body.foldl (ComposeStep.apply healthTimeout)
        (ComposeWorld.start healthTimeout {} enter).2).stop := by
  have enters :
      ComposeWorld.start healthTimeout {} enter =
        (.ok configs, (ComposeWorld.start healthTimeout {} enter).2) :=
    Prod.ext returns rfl
  exact congrArg Prod.snd (ContextManager.within_of_ok enters)

end Use

theorem ComposeUse.clean_iff (use : ComposeUse) :
    use.Clean ↔ use.Regular := by
  obtain ⟨nodes, healthTimeout, enter, body, ending⟩ := use
  cases up : enter.up with
  | failed stderr containers =>
      rw [Clean, left_of_start_error (start_of_failed up {}), start_world,
        up, Regular]
      simp only [up, union_eq_nil, true_and]
  | started container others =>
      have returns :
          (ComposeWorld.start healthTimeout {} enter).1 = _ :=
        start_of_started up {}
      have responds : waits healthTimeout enter = .ok () ↔ _ :=
        waits_ok_iff
      cases ends : waits healthTimeout enter with
      | error exc =>
          rw [ends] at returns responds
          rw [Clean, left_of_start_error returns, start_world, up, Regular]
          simp only [up, ← responds]
          simp
      | ok value =>
          rw [ends] at returns responds
          rw [Clean, left_of_start_ok returns, containers_stop_foldl_iff,
            Regular]
          have started :
              TakenDown
                (ComposeWorld.start healthTimeout {} enter).2 := by
            rw [start_world, up]
            exact .inr rfl
          simp only [up, ← responds, started, true_or, true_and]
          rfl

/-! ## Both lifecycles -/

/-- An `async with` statement over a validator or a cluster leaves no
container exactly when it is regular. -/
theorem lifecycles_clean_iff
    (validator : ValidatorUse) (cluster : ComposeUse) :
    (validator.Clean ↔ validator.Regular) ∧
      (cluster.Clean ↔ cluster.Regular) :=
  ⟨validator.clean_iff, cluster.clean_iff⟩

/-- No POST reaches the node. -/
def unreachable : HealthSchedule (1 / 2) where
  start := 0
  clock := secondsClock
  answer _ := .raised (.connectError "All connection attempts failed")
  start_le := secondsClock_start
  sleeps := secondsClock_sleeps

theorem not_respondsBefore_unreachable (deadline : ℚ) :
    ¬ unreachable.RespondsBefore deadline := by
  rintro ⟨index, -, -, body, replies⟩
  cases replies

/-- Docker starts the container, but the validator never responds. -/
def unreachableValidator : ValidatorUse where
  config := {}
  run := .started
  health := unreachable
  body := []
  ending := .ok ()

/-- The first two nodes respond at once, the third one never does. -/
def unreachableCluster : ComposeUse where
  nodes := 3
  healthTimeout := 90
  enter :=
    { up := .started "karstflow-node-1"
        ["karstflow-node-2", "karstflow-node-3"]
      health := fun index =>
        if index < 2 then
          { unreachable with answer := fun _ => .reply 200 none }
        else
          unreachable
      finishing := [0, 1, 2]
      complete := List.Perm.refl _ }
  body := []
  ending := .ok ()

theorem left_unreachableValidator :
    unreachableValidator.left.2 = startedWorld := by
  cases waits :
      waitForHealth unreachableValidator.config.rpcUrl
        unreachableValidator.config.healthTimeout unreachable with
  | ok value =>
      exact absurd ((waitForHealth_ok_iff _ _ _).mp waits)
        (not_respondsBefore_unreachable _)
  | error exc => exact congrArg Prod.snd (left_of_notReady waits)

theorem left_unreachableCluster :
    unreachableCluster.left.2 =
      ⟨["karstflow-node-1", "karstflow-node-2", "karstflow-node-3"],
        true⟩ := by
  have returns :
      (ComposeWorld.start 90 {} unreachableCluster.enter).1 = _ :=
    start_of_started rfl {}
  cases ends : waits 90 unreachableCluster.enter with
  | ok value =>
      exact absurd (waits_ok_iff.mp ends 2 (by decide))
        (not_respondsBefore_unreachable _)
  | error exc =>
      rw [ends] at returns
      have left : unreachableCluster.left.2 = _ :=
        left_of_start_error returns
      rw [left, start_world]
      decide

/-- After a health wait that timed out the containers are still there. -/
theorem lifecycles_leave_containers :
    unreachableValidator.left.2.container = some 0 ∧
      unreachableCluster.left.2.containers =
        ["karstflow-node-1", "karstflow-node-2", "karstflow-node-3"] ∧
      ¬ unreachableValidator.Clean ∧ ¬ unreachableCluster.Clean := by
  rw [ValidatorUse.Clean, ComposeUse.Clean, left_unreachableValidator,
    left_unreachableCluster]
  exact ⟨rfl, rfl, Option.some_ne_none 0, List.cons_ne_nil _ _⟩

end KarstflowTests.Lifecycle

import KarstflowTests.Lifecycle.Calls

/-!
# What the calls of a lifecycle know

Between two steps of a call the others may change everything.  What a call has
learnt stays so all the same: the container that it has removed is gone, and the
container that it has started is there.
-/

namespace KarstflowTests.Lifecycle

open KarstflowTests.Library

/-! ## What every step keeps -/

/-- What a call has learnt is still so. -/
def Waiting.Knows (world : ValidatorWorld) : Waiting → Prop
  | .stop index _ => world.containerAt index ≠ none
  | .remove index _ => world.containerAt index ≠ none
  | .removed index _ =>
      world.containerAt index ≠ none ∧
        world.container ≠ world.containerAt index
  | .ran containerId =>
      world.container = some containerId ∧
        ∀ index, world.containerAt index ≠ some containerId
  | .run => True
  | .refused _ => True

/-- A stopped process object has no container that is there, and every call
knows the truth. -/
structure Truthful (state : LifecycleState) : Prop where
  created :
    ∀ containerId, state.world.container = some containerId →
      containerId < state.world.created
  numbered :
    ∀ index containerId, state.world.containerAt index = some containerId →
      containerId < state.world.created
  stopped :
    ∀ (index : ℕ) (process : ValidatorProcess),
      state.world.processes[index]? = some process →
        process.stopped = true →
          state.world.container ≠ some process.containerId
  knows :
    ∀ call waiting, state.calls call = some waiting →
      waiting.Knows state.world
  oneRan :
    ∀ call other containerId otherId,
      state.calls call = some (.ran containerId) →
        state.calls other = some (.ran otherId) → call = other

section Keeping

variable {state : LifecycleState} {call : ℕ} {step : CallStep}
variable {next : ValidatorWorld} {after : Option Waiting}

/-- A step that changes neither the container nor any container of a process
object takes no knowledge away. -/
theorem Waiting.Knows.of_same {world : ValidatorWorld} {waiting : Waiting}
    (knows : waiting.Knows world) (container : next.container = world.container)
    (containers : ∀ index, next.containerAt index = world.containerAt index) :
    waiting.Knows next := by
  cases waiting with
  | stop index after => simpa only [Knows, containers] using knows
  | remove index after => simpa only [Knows, containers] using knows
  | removed index after =>
      simpa only [Knows, containers, container] using knows
  | run => trivial
  | ran containerId => simpa only [Knows, containers, container] using knows
  | refused stderr => trivial

/-- What a step does to the container and to the containers of the process
objects. -/
inductive Moves (world : ValidatorWorld) :
    Option Waiting → ValidatorWorld → Prop where
  | stays {before : Option Waiting} {next : ValidatorWorld}
      (container : next.container = world.container)
      (created : next.created = world.created)
      (containers :
        ∀ index, next.containerAt index = world.containerAt index) :
      Moves world before next
  | removes {before : Option Waiting} (index : ℕ) :
      Moves world before (world.removeContainerOf index)
  | creates {before : Option Waiting} (free : world.container = none) :
      Moves world before world.withContainer
  | assigns (containerId : ℕ) :
      Moves world (some (.ran containerId)) (world.assign containerId)

theorem Acts.moves {world : ValidatorWorld} {before : Option Waiting}
    (acts : Acts world step before next after) :
    Moves world before next := by
  cases acts with
  | skips afterStop stopped =>
      exact Moves.stays container_next created_next containerAt_next
  | launches => exact Moves.stays rfl rfl fun _ => rfl
  | stops index afterStop found direct current =>
      exact Moves.stays rfl rfl fun _ => rfl
  | removes index afterStop => exact Moves.stays rfl rfl fun _ => rfl
  | removed index afterStop => exact Moves.removes index
  | finishes index afterStop =>
      refine Moves.stays ?_ ?_ fun other => ?_
      · rw [container_next]
        rfl
      · rw [created_next]
        rfl
      · rw [containerAt_next, containerAt_markStopped]
  | creates free => exact Moves.creates free
  | fails stderr noneLeft => exact Moves.stays rfl rfl fun _ => rfl
  | leaves stderr free => exact Moves.creates free
  | assigns containerId => exact Moves.assigns containerId
  | raises stderr => exact Moves.stays rfl rfl fun _ => rfl

theorem lt_length_of_containerAt {world : ValidatorWorld} {index : ℕ}
    (found : world.containerAt index ≠ none) :
    index < world.processes.length := by
  by_contra outside
  apply found
  rw [ValidatorWorld.containerAt,
    List.getElem?_eq_none (Nat.le_of_not_lt outside)]
  rfl

theorem containerAt_assign_of_found {world : ValidatorWorld}
    {containerId index : ℕ} (found : world.containerAt index ≠ none) :
    (world.assign containerId).containerAt index =
      world.containerAt index := by
  rw [containerAt_assign, if_neg (lt_length_of_containerAt found).ne]

theorem Waiting.Knows.removes {world : ValidatorWorld} {waiting : Waiting}
    (knows : waiting.Knows world) (index : ℕ) :
    waiting.Knows (world.removeContainerOf index) := by
  cases waiting with
  | stop target after =>
      simpa only [Knows, containerAt_removeContainerOf] using knows
  | remove target after =>
      simpa only [Knows, containerAt_removeContainerOf] using knows
  | removed target after =>
      obtain ⟨found, different⟩ := knows
      simp only [Knows, containerAt_removeContainerOf]
      refine ⟨found, ?_⟩
      intro same
      obtain ⟨containerId, isContainer⟩ := Option.ne_none_iff_exists'.mp found
      rw [isContainer] at same different
      exact different (container_removeContainerOf_iff.mp same).1
  | run => trivial
  | ran containerId =>
      obtain ⟨isContainer, foreign⟩ := knows
      simp only [Knows, containerAt_removeContainerOf]
      have kept :=
        container_removeContainerOf_iff.mpr ⟨isContainer, foreign index⟩
      exact ⟨kept, foreign⟩
  | refused stderr => trivial

/-- A new container is none of those that a stop has removed. -/
theorem Truthful.knows_creates (truthful : Truthful state)
    (free : state.world.container = none) {waiting : Waiting}
    (knows : waiting.Knows state.world) :
    waiting.Knows state.world.withContainer := by
  cases waiting with
  | stop target afterStop => exact knows
  | remove target afterStop => exact knows
  | removed target afterStop =>
      refine ⟨knows.1, ?_⟩
      intro same
      have isNew :
          state.world.containerAt target = some state.world.created :=
        same.symm
      exact lt_irrefl _ (truthful.numbered target _ isNew)
  | run => trivial
  | ran containerId =>
      have isContainer := knows.1
      rw [free] at isContainer
      cases isContainer
  | refused stderr => trivial

/-- The other calls know the truth after the step. -/
theorem Truthful.knows_other (truthful : Truthful state)
    (moves : Moves state.world (state.calls call) next)
    {other : ℕ} {waiting : Waiting} (isOther : other ≠ call)
    (waits : state.calls other = some waiting) : waiting.Knows next := by
  have knows := truthful.knows other waiting waits
  generalize before : state.calls call = pending at moves
  cases moves with
  | stays container created containers =>
      exact knows.of_same container containers
  | removes index => exact knows.removes index
  | creates free => exact truthful.knows_creates free knows
  | assigns containerId =>
      cases waiting with
      | stop target afterStop =>
          rw [Waiting.Knows, containerAt_assign_of_found knows]
          exact knows
      | remove target afterStop =>
          rw [Waiting.Knows, containerAt_assign_of_found knows]
          exact knows
      | removed target afterStop =>
          rw [Waiting.Knows, containerAt_assign_of_found knows.1]
          exact knows
      | run => trivial
      | ran otherId =>
          exact absurd (truthful.oneRan other call _ _ waits before) isOther
      | refused stderr => trivial

/-- The call whose step it is knows the truth after it. -/
theorem Truthful.knows_own (truthful : Truthful state)
    (acts : Acts state.world step (state.calls call) next after)
    {waiting : Waiting} (waits : after = some waiting) :
    waiting.Knows next := by
  have knew := truthful.knows call
  generalize state.calls call = pending at acts knew
  cases acts with
  | skips afterStop stopped =>
      rw [waiting_next waits]
      trivial
  | launches =>
      cases waits
      trivial
  | stops index afterStop found direct current =>
      cases waits
      exact found
  | removes index afterStop =>
      cases waits
      have found : state.world.containerAt index ≠ none := knew _ rfl
      exact found
  | removed index afterStop =>
      cases waits
      have found : state.world.containerAt index ≠ none := knew _ rfl
      simp only [Waiting.Knows, containerAt_removeContainerOf]
      refine ⟨found, ?_⟩
      intro same
      obtain ⟨containerId, isContainer⟩ := Option.ne_none_iff_exists'.mp found
      rw [isContainer] at same
      exact (container_removeContainerOf_iff.mp same).2 isContainer
  | finishes index afterStop =>
      rw [waiting_next waits]
      trivial
  | creates free =>
      cases waits
      refine ⟨rfl, ?_⟩
      intro index isNew
      exact lt_irrefl _ (truthful.numbered index _ isNew)
  | fails stderr noneLeft =>
      cases waits
      trivial
  | leaves stderr free =>
      cases waits
      trivial
  | assigns containerId => cases waits
  | raises stderr => cases waits

/-- The process objects that the calls have stopped stay without container. -/
theorem Truthful.stopped_step (truthful : Truthful state)
    (acts : Acts state.world step (state.calls call) next after) :
    ∀ (index : ℕ) (process : ValidatorProcess),
      next.processes[index]? = some process → process.stopped = true →
        next.container ≠ some process.containerId := by
  intro index process found isStopped
  have knew := truthful.knows call
  generalize state.calls call = pending at acts knew
  have earlier :
      state.world.processes[index]? = some process →
        next.container = state.world.container →
          next.container ≠ some process.containerId := by
    intro foundBefore same
    rw [same]
    exact truthful.stopped index process foundBefore isStopped
  have new (foundBefore : state.world.processes[index]? = some process) :
      some state.world.created ≠ some process.containerId := by
    intro same
    have isNew := containerAt_of_found foundBefore
    rw [← same] at isNew
    exact lt_irrefl _ (truthful.numbered index _ isNew)
  cases acts with
  | skips afterStop stopped =>
      rw [processes_next] at found
      exact earlier found container_next
  | launches => exact earlier found rfl
  | stops target afterStop _ direct current => exact earlier found rfl
  | removes target afterStop => exact earlier found rfl
  | removed target afterStop =>
      intro same
      rw [processes_removeContainerOf] at found
      exact truthful.stopped index process found isStopped
        (container_removeContainerOf_iff.mp same).1
  | finishes target afterStop =>
      rw [processes_next] at found
      rw [container_next]
      by_cases isTarget : index = target
      · have different := (knew _ rfl).2
        have targets := containerAt_of_found found
        rw [containerAt_markStopped, isTarget] at targets
        rw [targets] at different
        exact different
      · have foundBefore : state.world.processes[index]? = some process := by
          rw [ValidatorWorld.markStopped,
            List.getElem?_modify_ne _ _ (Ne.symm isTarget)] at found
          exact found
        exact truthful.stopped index process foundBefore isStopped
  | creates free => exact new found
  | fails stderr noneLeft => exact earlier found rfl
  | leaves stderr free => exact new found
  | assigns containerId =>
      rcases found_assign found with before | isNew
      · exact earlier before rfl
      · rw [isNew] at isStopped
        cases isStopped
  | raises stderr => exact earlier found rfl

theorem Moves.created {world : ValidatorWorld} {pending : Option Waiting}
    (moves : Moves world pending next)
    (created :
      ∀ containerId, world.container = some containerId →
        containerId < world.created) :
    ∀ containerId, next.container = some containerId →
      containerId < next.created := by
  intro containerId isContainer
  cases moves with
  | stays container created' containers =>
      rw [container] at isContainer
      rw [created']
      exact created containerId isContainer
  | removes index =>
      have before := (container_removeContainerOf_iff.mp isContainer).1
      rw [created_removeContainerOf]
      exact created containerId before
  | creates free =>
      cases isContainer
      exact Nat.lt_succ_self _
  | assigns assigned => exact created containerId isContainer

theorem Moves.created_le {world : ValidatorWorld} {pending : Option Waiting}
    (moves : Moves world pending next) : world.created ≤ next.created := by
  cases moves with
  | stays container created containers => exact created.ge
  | removes index => rw [created_removeContainerOf]
  | creates free => exact Nat.le_succ _
  | assigns containerId => exact le_refl _

/-- The containers of the process objects after a step. -/
theorem Truthful.containerAt_step (truthful : Truthful state)
    (moves : Moves state.world (state.calls call) next)
    {index containerId : ℕ}
    (found : next.containerAt index = some containerId) :
    state.world.containerAt index = some containerId ∨
      state.world.container = some containerId := by
  have knew := truthful.knows call
  generalize state.calls call = pending at moves knew
  cases moves with
  | stays container created containers =>
      rw [containers] at found
      exact Or.inl found
  | removes target =>
      rw [containerAt_removeContainerOf] at found
      exact Or.inl found
  | creates free => exact Or.inl found
  | assigns assigned =>
      rw [containerAt_assign] at found
      split at found
      · cases found
        exact Or.inr (knew _ rfl).1
      · exact Or.inl found

/-- `docker run` succeeds when no container is there. -/
theorem Acts.free_of_ran {world : ValidatorWorld} {pending : Option Waiting}
    (acts : Acts world step pending next after) {containerId : ℕ}
    (ran : after = some (.ran containerId)) : world.container = none := by
  cases acts with
  | skips afterStop stopped => cases waiting_next ran
  | launches => cases ran
  | stops index afterStop found direct current => cases ran
  | removes index afterStop => cases ran
  | removed index afterStop => cases ran
  | finishes index afterStop => cases waiting_next ran
  | creates free => exact free
  | fails stderr noneLeft => cases ran
  | leaves stderr free => cases ran
  | assigns assigned => cases ran
  | raises stderr => cases ran

theorem Truthful.not_ran (truthful : Truthful state)
    (free : state.world.container = none) (other containerId : ℕ) :
    state.calls other ≠ some (.ran containerId) := by
  intro ran
  have isContainer := (truthful.knows other _ ran).1
  rw [free] at isContainer
  cases isContainer

theorem Truthful.acts (truthful : Truthful state)
    (acts : Acts state.world step (state.calls call) next after) :
    Truthful (state.advance call next after) where
  created := acts.moves.created truthful.created
  numbered := by
    intro index containerId found
    have grows := acts.moves.created_le
    rcases truthful.containerAt_step acts.moves found with
      before | isContainer
    · exact (truthful.numbered index containerId before).trans_le grows
    · exact (truthful.created containerId isContainer).trans_le grows
  stopped := truthful.stopped_step acts
  knows := by
    intro other waiting waits
    by_cases isCall : other = call
    · rw [isCall, LifecycleState.calls_advance_self] at waits
      exact truthful.knows_own acts waits
    · rw [state.calls_advance_of_ne _ _ isCall] at waits
      exact truthful.knows_other acts.moves isCall waits
  oneRan := by
    intro first second containerId otherId ran ranOther
    by_cases isCall : first = call
    · by_cases isOther : second = call
      · exact isCall.trans isOther.symm
      · rw [isCall, LifecycleState.calls_advance_self] at ran
        rw [state.calls_advance_of_ne _ _ isOther] at ranOther
        exact absurd ranOther
          (truthful.not_ran (acts.free_of_ran ran) second otherId)
    · rw [state.calls_advance_of_ne _ _ isCall] at ran
      by_cases isOther : second = call
      · rw [isOther, LifecycleState.calls_advance_self] at ranOther
        exact absurd ran
          (truthful.not_ran (acts.free_of_ran ranOther) first containerId)
      · rw [state.calls_advance_of_ne _ _ isOther] at ranOther
        exact truthful.oneRan first second _ _ ran ranOther

end Keeping

end KarstflowTests.Lifecycle

import Mathlib.Data.List.Basic
import KarstflowTests.Comparison.Client
import KarstflowTests.Library.Machine

/-!
# Comparisons in parallel

`compare_many` starts a task for each call and gathers their results.  A task
waits for the answers of both endpoints, which come in any order; once both are
there it is resumed, and then compares and files its result without a pause.
Further calls of `compare` and `compare_many` on the same client may run beside
it.
-/

namespace KarstflowTests.Comparison

open KarstflowTests.Library
open KarstflowTests.Rpc

/-! ## The machine -/

abbrev ComparisonCall := String × Option (List Json)

/-- A running or finished `compare`. -/
structure ComparisonTask where
  call : ComparisonCall
  ignoreFields : Option (Finset String) := none
  reference : Option (Except Exc RpcResponse) := none
  target : Option (Except Exc RpcResponse) := none
  returned : Option ComparisonResult := none

/-- The calls of one `compare_many` and the place of its first task. -/
structure ComparisonBatch where
  first : ℕ
  calls : List ComparisonCall

structure ParallelState where
  client : ComparisonClient
  tasks : List ComparisonTask
  batches : List ComparisonBatch

inductive Side where
  | reference
  | target

inductive ParallelLabel where
  | compare (call : ComparisonCall) (ignoreFields : Option (Finset String))
  | compareMany (calls : List ComparisonCall)
  | answer (index : ℕ) (side : Side) (outcome : Except Exc RpcResponse)
  | resume (index : ℕ)

/-- The first answer of a side. -/
def ComparisonTask.answer (task : ComparisonTask)
    (outcome : Except Exc RpcResponse) : Side → Option ComparisonTask
  | .reference =>
      if task.reference.isNone then
        some { task with reference := some outcome }
      else
        none
  | .target =>
      if task.target.isNone then some { task with target := some outcome }
      else none

/-- What `gather` hands back: the comparison, and the client it is filed
with. -/
def ComparisonTask.resume (rendering : Rendering) (client : ComparisonClient)
    (task : ComparisonTask) : Option (ComparisonTask × ComparisonClient) :=
  match task.reference, task.target, task.returned with
  | some reference, some target, none =>
      let (result, next) :=
        client.compare rendering task.call.1 task.call.2 task.ignoreFields
          reference target
      some ({ task with returned := some result }, next)
  | _, _, _ => none

def parallelMachine (rendering : Rendering)
    (ignoreFields : Option (Finset String)) :
    Machine ParallelState ParallelLabel where
  initial := ⟨.init ignoreFields, [], []⟩
  step state label :=
    match label with
    | .compare call ignoreFields =>
        some
          { state with
            tasks := state.tasks ++ [{ call, ignoreFields }] }
    | .compareMany calls =>
        some
          { state with
            tasks := state.tasks ++ calls.map fun call => { call }
            batches := state.batches ++ [⟨state.tasks.length, calls⟩] }
    | .answer index side outcome =>
        state.tasks[index]?.bind fun task =>
          (task.answer outcome side).map fun answered =>
            { state with tasks := state.tasks.set index answered }
    | .resume index =>
        state.tasks[index]?.bind fun task =>
          (task.resume rendering state.client).map fun (resumed, client) =>
            { state with
              client := client
              tasks := state.tasks.set index resumed }

/-- What `compare_many` returns, once all of its tasks have. -/
def ParallelState.gathered (state : ParallelState) (batch : ComparisonBatch) :
    Option (List ComparisonResult) :=
  ((state.tasks.drop batch.first).take batch.calls.length).mapM
    ComparisonTask.returned

/-! ## The property -/

/-- What the task was started with. -/
def ComparisonTask.asked (task : ComparisonTask) :
    ComparisonCall × Option (Finset String) :=
  (task.call, task.ignoreFields)

/-- The result is what the two endpoints answered to this call. -/
def ComparisonTask.Own (rendering : Rendering) (ignore : Finset String)
    (task : ComparisonTask) : Prop :=
  ∀ result, task.returned = some result →
    ∃ reference target,
      task.reference = some reference ∧ task.target = some target ∧
        result =
          (ComparisonClient.compare rendering ⟨ignore, []⟩ task.call.1
            task.call.2 task.ignoreFields reference target).1

/-- No result is lost, filed twice or given to another call. -/
structure Gathered (rendering : Rendering) (ignore : Finset String)
    (state : ParallelState) : Prop where
  ignored : state.client.ignore = ignore
  filed :
    state.client.results.Perm (state.tasks.filterMap ComparisonTask.returned)
  own : ∀ task ∈ state.tasks, task.Own rendering ignore
  batches :
    ∀ batch ∈ state.batches,
      ((state.tasks.drop batch.first).take batch.calls.length).map
          ComparisonTask.asked = batch.calls.map fun call => (call, none)

/-- The result is a comparison that was started with the call. -/
def ComparisonResult.Answers (rendering : Rendering) (ignore : Finset String)
    (call : ComparisonCall) (result : ComparisonResult) : Prop :=
  ∃ reference target,
    result =
      (ComparisonClient.compare rendering ⟨ignore, []⟩ call.1 call.2 none
        reference target).1

/-- What callers of `compare_many` and of the report see. -/
structure ComparedInParallel (rendering : Rendering) (ignore : Finset String)
    (state : ParallelState) : Prop where
  gathered : Gathered rendering ignore state
  inOrder :
    ∀ batch ∈ state.batches, ∀ results, state.gathered batch = some results →
      List.Forall₂ (ComparisonResult.Answers rendering ignore) batch.calls
          results ∧
        results.Subperm state.client.results
  counted :
    matchedCount state.client.results =
        matchedCount (state.tasks.filterMap ComparisonTask.returned) ∧
      state.client.results.length =
        state.tasks.countP fun task => task.returned.isSome

/-! ## One step -/

section Steps

variable {rendering : Rendering} {ignore : Finset String}
variable {state : ParallelState} {task changed : ComparisonTask} {index : ℕ}

theorem ComparisonTask.own_of_not_returned (none : task.returned = none) :
    task.Own rendering ignore := by
  intro result returned
  rw [none] at returned
  cases returned

/-- A task that has returned is not answered any more. -/
theorem ComparisonTask.Own.answer {outcome : Except Exc RpcResponse}
    {side : Side} (own : task.Own rendering ignore)
    (answers : task.answer outcome side = some changed) :
    changed.Own rendering ignore ∧ changed.asked = task.asked ∧
      changed.returned = task.returned := by
  cases side with
  | reference =>
      rw [ComparisonTask.answer] at answers
      split at answers
      · next unanswered =>
          cases answers
          refine ⟨?_, rfl, rfl⟩
          intro result returned
          obtain ⟨reference, _, onReference, _⟩ := own result returned
          rw [onReference] at unanswered
          cases unanswered
      · cases answers
  | target =>
      rw [ComparisonTask.answer] at answers
      split at answers
      · next unanswered =>
          cases answers
          refine ⟨?_, rfl, rfl⟩
          intro result returned
          obtain ⟨_, target, _, onTarget, _⟩ := own result returned
          rw [onTarget] at unanswered
          cases unanswered
      · cases answers

theorem filterMap_set {α β : Type} {items : List α} {value : α → Option β}
    {old new : α} (found : items[index]? = some old) :
    (items.set index new).filterMap value =
      (items.take index).filterMap value ++ (value new).toList ++
        (items.drop (index + 1)).filterMap value := by
  obtain ⟨inside, _⟩ := List.getElem?_eq_some_iff.mp found
  rw [List.set_eq_take_append_cons_drop, if_pos inside, List.filterMap_append,
    List.filterMap_cons, List.append_assoc]
  cases value new <;> rfl

theorem filterMap_split {α β : Type} {items : List α} {value : α → Option β}
    {old : α} (found : items[index]? = some old) :
    items.filterMap value =
      (items.take index).filterMap value ++ (value old).toList ++
        (items.drop (index + 1)).filterMap value := by
  obtain ⟨inside, rfl⟩ := List.getElem?_eq_some_iff.mp found
  have unchanged :
      (items.set index items[index]).filterMap value =
        (items.take index).filterMap value ++ (value items[index]).toList ++
          (items.drop (index + 1)).filterMap value :=
    filterMap_set found
  rwa [List.set_getElem_self] at unchanged

/-- Changing a task but not what it was started with. -/
theorem Gathered.set_task (holds : Gathered rendering ignore state)
    (found : state.tasks[index]? = some task)
    (own : changed.Own rendering ignore)
    (sameAsked : changed.asked = task.asked) :
    (∀ other ∈ state.tasks.set index changed, other.Own rendering ignore) ∧
      ∀ batch ∈ state.batches,
        (((state.tasks.set index changed).drop batch.first).take
          batch.calls.length).map ComparisonTask.asked =
            batch.calls.map fun call => (call, none) := by
  constructor
  · intro other member
    rcases List.mem_or_eq_of_mem_set member with before | isChanged
    · exact holds.own other before
    · rw [isChanged]
      exact own
  · intro batch isBatch
    have allAsked :
        (state.tasks.set index changed).map ComparisonTask.asked =
          state.tasks.map ComparisonTask.asked := by
      have placed :
          (state.tasks.map ComparisonTask.asked)[index]? =
            some task.asked := by
        rw [List.getElem?_map, found]
        rfl
      obtain ⟨inside, isAsked⟩ := List.getElem?_eq_some_iff.mp placed
      rw [List.map_set, sameAsked, ← isAsked, List.set_getElem_self]
    have before := holds.batches batch isBatch
    rw [List.map_take, List.map_drop] at before ⊢
    rw [allAsked]
    exact before

/-- Starting tasks that have not returned. -/
theorem Gathered.start (holds : Gathered rendering ignore state)
    (started : List ComparisonTask)
    (fresh : ∀ task ∈ started, task.returned = none)
    (batches : List ComparisonBatch)
    (isNew :
      ∀ batch ∈ batches,
        batch.first = state.tasks.length ∧
          started.map ComparisonTask.asked =
            batch.calls.map fun call => (call, none)) :
    Gathered rendering ignore
      { state with
        tasks := state.tasks ++ started
        batches := state.batches ++ batches } where
  ignored := holds.ignored
  filed := by
    have none : started.filterMap ComparisonTask.returned = [] :=
      List.filterMap_eq_nil_iff.mpr fresh
    rw [List.filterMap_append, none, List.append_nil]
    exact holds.filed
  own task member := by
    rcases List.mem_append.mp member with before | isStarted
    · exact holds.own task before
    · exact ComparisonTask.own_of_not_returned (fresh task isStarted)
  batches batch member := by
    rcases List.mem_append.mp member with before | added
    · have asked := holds.batches batch before
      have lengths := congrArg List.length asked
      rw [List.length_map, List.length_map, List.length_take] at lengths
      rw [List.drop_append, List.take_append_of_le_length (by omega)]
      exact asked
    · obtain ⟨first, asked⟩ := isNew batch added
      have lengths := congrArg List.length asked
      rw [List.length_map, List.length_map] at lengths
      rw [first, List.drop_left, List.take_of_length_le lengths.le]
      exact asked

theorem Gathered.answer (holds : Gathered rendering ignore state)
    {outcome : Except Exc RpcResponse} {side : Side}
    (found : state.tasks[index]? = some task)
    (answers : task.answer outcome side = some changed) :
    Gathered rendering ignore
      { state with tasks := state.tasks.set index changed } := by
  have member : task ∈ state.tasks := List.mem_of_getElem? found
  obtain ⟨own, sameAsked, sameReturned⟩ :=
    (holds.own task member).answer answers
  obtain ⟨owns, batches⟩ := holds.set_task found own sameAsked
  refine ⟨holds.ignored, ?_, owns, batches⟩
  rw [filterMap_set found, sameReturned, ← filterMap_split found]
  exact holds.filed

/-- The task files its result as it returns it. -/
theorem Gathered.resume (holds : Gathered rendering ignore state)
    {client : ComparisonClient}
    (found : state.tasks[index]? = some task)
    (resumes :
      task.resume rendering state.client = some (changed, client)) :
    Gathered rendering ignore
      { state with
        client := client
        tasks := state.tasks.set index changed } := by
  rw [ComparisonTask.resume] at resumes
  split at resumes
  · next reference target onReference onTarget unreturned =>
      cases resumes
      have own :
          ({ task with
            returned :=
              some (state.client.compare rendering task.call.1 task.call.2
                task.ignoreFields reference target).1 } :
            ComparisonTask).Own rendering ignore := by
        intro result returned
        refine ⟨reference, target, onReference, onTarget, ?_⟩
        cases returned
        rw [← holds.ignored]
        rfl
      obtain ⟨owns, batches⟩ := holds.set_task found own rfl
      refine ⟨holds.ignored, ?_, owns, batches⟩
      have filed := holds.filed
      rw [filterMap_split found, unreturned] at filed
      rw [filterMap_set found]
      refine (filed.append_right _).trans ?_
      simp only [Option.toList_none, Option.toList_some, List.append_nil,
        List.append_assoc]
      exact List.perm_append_comm.append_left _
  · cases resumes

end Steps

/-! ## Runs -/

section Runs

variable {rendering : Rendering} {ignoreFields : Option (Finset String)}
variable {state : ParallelState}

theorem gathered_initial (rendering : Rendering)
    (ignoreFields : Option (Finset String)) :
    Gathered rendering (ignoreOr ignoreFields DEFAULT_IGNORE_FIELDS)
      (parallelMachine rendering ignoreFields).initial where
  ignored := by
    simp only [parallelMachine, ComparisonClient.init]
  filed := List.Perm.refl []
  own task member := absurd member List.not_mem_nil
  batches batch member := absurd member List.not_mem_nil

theorem gathered_of_reachable
    (reached : (parallelMachine rendering ignoreFields).Reachable state) :
    Gathered rendering (ignoreOr ignoreFields DEFAULT_IGNORE_FIELDS)
      state := by
  apply Machine.invariant_of_step _ _ reached
  · exact gathered_initial rendering ignoreFields
  · intro source target label _ holds _ taken
    cases label with
    | compare call ignoreFields =>
        cases taken
        have started :=
          holds.start [{ call, ignoreFields }]
            (fun task member => by rw [List.mem_singleton.mp member])
            [] nofun
        rw [List.append_nil] at started
        exact started
    | compareMany calls =>
        cases taken
        refine holds.start _ ?_ _ ?_
        · intro task member
          obtain ⟨call, _, rfl⟩ := List.mem_map.mp member
          rfl
        · intro batch member
          cases List.mem_singleton.mp member
          refine ⟨rfl, ?_⟩
          rw [List.map_map]
          rfl
    | answer index side outcome =>
        obtain ⟨task, found, answers⟩ := Option.bind_eq_some_iff.mp taken
        obtain ⟨changed, answered, rfl⟩ := Option.map_eq_some_iff.mp answers
        exact holds.answer found answered
    | resume index =>
        obtain ⟨task, found, resumes⟩ := Option.bind_eq_some_iff.mp taken
        obtain ⟨⟨changed, client⟩, resumed, rfl⟩ :=
          Option.map_eq_some_iff.mp resumes
        exact holds.resume found resumed

/-- All values are there. -/
theorem forall₂_of_mapM {α β : Type} {items : List α}
    {value : α → Option β} {results : List β}
    (returns : items.mapM value = some results) :
    List.Forall₂ (fun item result => value item = some result) items
        results ∧
      items.filterMap value = results := by
  induction items generalizing results with
  | nil =>
      cases returns
      exact ⟨.nil, rfl⟩
  | cons item items inductionHypothesis =>
      rw [List.mapM_cons] at returns
      obtain ⟨first, isFirst, rest⟩ := Option.bind_eq_some_iff.mp returns
      obtain ⟨others, areOthers, same⟩ := Option.bind_eq_some_iff.mp rest
      cases same
      obtain ⟨pairs, values⟩ := inductionHypothesis areOthers
      refine ⟨.cons isFirst pairs, ?_⟩
      rw [List.filterMap_cons, isFirst, values]

/-- Whatever the order of the answers and of the other calls on the client. -/
theorem comparedInParallel_of_reachable
    (reached : (parallelMachine rendering ignoreFields).Reachable state) :
    ComparedInParallel rendering
      (ignoreOr ignoreFields DEFAULT_IGNORE_FIELDS) state := by
  have holds := gathered_of_reachable reached
  refine ⟨holds, ?_, holds.filed.countP_eq _, ?_⟩
  · intro batch isBatch results gathers
    obtain ⟨returned, values⟩ := forall₂_of_mapM gathers
    have sublist :
        ((state.tasks.drop batch.first).take batch.calls.length).Sublist
          state.tasks :=
      (List.take_sublist _ _).trans (List.drop_sublist _ _)
    constructor
    · let answers :
          ComparisonCall × Option (Finset String) → ComparisonResult → Prop :=
        fun asked result =>
          ∃ reference target,
            result =
              (ComparisonClient.compare rendering
                ⟨ignoreOr ignoreFields DEFAULT_IGNORE_FIELDS, []⟩ asked.1.1
                asked.1.2 asked.2 reference target).1
      have owned := (List.forall₂_and_left _ _).mpr
        ⟨fun task member => holds.own task (sublist.subset member), returned⟩
      have answered := owned.imp (S := fun task => answers task.asked)
        fun task result both => by
          obtain ⟨reference, target, _, _, same⟩ := both.1 result both.2
          exact ⟨reference, target, same⟩
      have asked :
          List.Forall₂ answers
            (((state.tasks.drop batch.first).take batch.calls.length).map
              ComparisonTask.asked) results :=
        List.forall₂_map_left_iff.mpr answered
      rw [holds.batches batch isBatch, List.forall₂_map_left_iff] at asked
      exact asked
    · rw [← values]
      exact (sublist.filterMap _).subperm.trans holds.filed.symm.subperm
  · rw [holds.filed.length_eq, List.length_filterMap_eq_countP]

end Runs

/-! The second of two calls is compared first. -/

def typeRendering : Rendering := ⟨Json.typeName, Json.typeName⟩

def crossingRun : List ParallelLabel :=
  [.compareMany [("getSlot", none), ("getHealth", none)],
    .answer 1 .target unreachable, .answer 0 .reference unreachable,
    .answer 1 .reference unreachable, .resume 1,
    .answer 0 .target unreachable, .resume 0]

theorem comparedInParallel_crossingRun :
    let machine := parallelMachine typeRendering none
    ∃ state, machine.run machine.initial crossingRun = some state ∧
      state.client.results.map ComparisonResult.method =
        ["getHealth", "getSlot"] ∧
      ComparedInParallel typeRendering
        (ignoreOr none DEFAULT_IGNORE_FIELDS) state := by
  intro machine
  obtain ⟨state, ran, inOrder⟩ :
      ∃ state, machine.run machine.initial crossingRun = some state ∧
        state.client.results.map ComparisonResult.method =
          ["getHealth", "getSlot"] :=
    ⟨_, rfl, rfl⟩
  have reached : machine.Reachable state :=
    Machine.reachable_of_run .initial ran
  exact ⟨state, ran, inOrder, comparedInParallel_of_reachable reached⟩

end KarstflowTests.Comparison

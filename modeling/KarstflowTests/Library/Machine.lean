import Mathlib.Data.Nat.Notation
import Mathlib.Data.Option.Basic

/-!
# Partial labelled machines and their runs

A machine has one initial state and a partial step function.  A label carries
everything the surroundings decide in a step, so that the step itself is a
function and a displayed run can be evaluated.

`ReachableUnder allowed` collects the states of those runs in which every step
is taken from a state, and by a label, that meet the condition `allowed`.  An
invariant is established once for one step; `invariant_of_step` then carries it
through every such run.
-/

namespace KarstflowTests.Library

universe u v

/-- An initial state and a partial step function. -/
structure Machine (State : Type u) (Label : Type v) where
  initial : State
  step : State → Label → Option State

namespace Machine

variable {State : Type u} {Label : Type v}

/-- Take the displayed steps one after the other. -/
def run (machine : Machine State Label) : State → List Label → Option State
  | state, [] => some state
  | state, label :: rest =>
      (machine.step state label).bind fun next => machine.run next rest

/-- The states of the runs whose steps all meet `allowed`. -/
inductive ReachableUnder
    (machine : Machine State Label) (allowed : State → Label → Prop) :
    State → Prop
  | initial : ReachableUnder machine allowed machine.initial
  | step {state target : State} {label : Label} :
      ReachableUnder machine allowed state →
      allowed state label →
      machine.step state label = some target →
      ReachableUnder machine allowed target

/-- The states of all runs. -/
def Reachable (machine : Machine State Label) : State → Prop :=
  machine.ReachableUnder fun _ _ => True

variable {machine : Machine State Label}
variable {allowed weaker : State → Label → Prop}

/-- An invariant of the initial state and of every allowed step holds in every
state of the allowed runs.  The step may use that its source was reached. -/
theorem invariant_of_step
    {invariant : State → Prop}
    (atStart : invariant machine.initial)
    (preserved :
      ∀ {state target label},
        machine.ReachableUnder allowed state →
        invariant state →
        allowed state label →
        machine.step state label = some target →
          invariant target)
    {state : State} (reached : machine.ReachableUnder allowed state) :
    invariant state := by
  induction reached with
  | initial =>
      exact atStart
  | step earlier permitted taken inductionHypothesis =>
      exact preserved earlier inductionHypothesis permitted taken

/-- Fewer demands on the steps give more runs. -/
theorem ReachableUnder.mono
    (weakens : ∀ state label, allowed state label → weaker state label)
    {state : State} (reached : machine.ReachableUnder allowed state) :
    machine.ReachableUnder weaker state := by
  induction reached with
  | initial =>
      exact ReachableUnder.initial
  | step _ permitted taken inductionHypothesis =>
      exact inductionHypothesis.step (weakens _ _ permitted) taken

/-- Every displayed step is allowed where it is taken. -/
def AllowedAlong (machine : Machine State Label)
    (allowed : State → Label → Prop) : State → List Label → Prop
  | _, [] => True
  | state, label :: rest =>
      allowed state label ∧
        ∀ next, machine.step state label = some next →
          AllowedAlong machine allowed next rest

theorem AllowedAlong.cons
    {state next : State} {label : Label} {rest : List Label}
    (permitted : allowed state label)
    (taken : machine.step state label = some next)
    (later : machine.AllowedAlong allowed next rest) :
    machine.AllowedAlong allowed state (label :: rest) := by
  refine ⟨permitted, ?_⟩
  intro other otherTaken
  rw [taken] at otherTaken
  cases otherTaken
  exact later

/-- Two conditions that agree everywhere agree along a run. -/
theorem allowedAlong_congr
    (agree : ∀ state label, allowed state label ↔ weaker state label)
    (state : State) (labels : List Label) :
    machine.AllowedAlong allowed state labels ↔
      machine.AllowedAlong weaker state labels := by
  induction labels generalizing state with
  | nil => exact Iff.rfl
  | cons label rest inductionHypothesis =>
      simp only [AllowedAlong, agree, inductionHypothesis]

theorem reachableUnder_of_run
    {source target : State} {labels : List Label}
    (reached : machine.ReachableUnder allowed source)
    (permitted : machine.AllowedAlong allowed source labels)
    (evaluates : machine.run source labels = some target) :
    machine.ReachableUnder allowed target := by
  induction labels generalizing source with
  | nil =>
      simp only [run, Option.some.injEq] at evaluates
      exact evaluates ▸ reached
  | cons label rest inductionHypothesis =>
      simp only [run, Option.bind_eq_some_iff] at evaluates
      obtain ⟨next, taken, continues⟩ := evaluates
      exact inductionHypothesis (reached.step permitted.1 taken)
        (permitted.2 next taken) continues

theorem allowedAlong_of_forall
    (always : ∀ state label, allowed state label)
    (state : State) (labels : List Label) :
    machine.AllowedAlong allowed state labels := by
  induction labels generalizing state with
  | nil => exact trivial
  | cons label rest inductionHypothesis =>
      exact ⟨always state label, fun next _ => inductionHypothesis next⟩

/-- A displayed run that evaluates to a state shows that it is reachable. -/
theorem reachable_of_run
    {source target : State} {labels : List Label}
    (reached : machine.Reachable source)
    (evaluates : machine.run source labels = some target) :
    machine.Reachable target :=
  reachableUnder_of_run reached
    (allowedAlong_of_forall (fun _ _ => trivial) source labels) evaluates

/-- What every step keeps, a run keeps, wherever it starts. -/
theorem invariant_of_run
    {invariant : State → Prop} {source target : State} {labels : List Label}
    (preserved :
      ∀ {state next label}, label ∈ labels → invariant state →
        machine.step state label = some next → invariant next)
    (atStart : invariant source)
    (evaluates : machine.run source labels = some target) :
    invariant target := by
  induction labels generalizing source with
  | nil =>
      simp only [run, Option.some.injEq] at evaluates
      exact evaluates ▸ atStart
  | cons label rest inductionHypothesis =>
      simp only [run, Option.bind_eq_some_iff] at evaluates
      obtain ⟨next, taken, continues⟩ := evaluates
      have kept := preserved List.mem_cons_self atStart taken
      apply inductionHypothesis _ kept continues
      intro state after later member
      exact preserved (List.mem_cons_of_mem label member)

/-- A measure that the steps of one kind lower and no other step raises bounds
how many steps of that kind a run has. -/
theorem countP_add_measure_le
    {invariant : State → Prop} {kind : Label → Bool} {measure : State → ℕ}
    {source target : State} {labels : List Label}
    (preserved :
      ∀ {state next label}, label ∈ labels → invariant state →
        machine.step state label = some next → invariant next)
    (lowers :
      ∀ {state next label}, label ∈ labels → invariant state →
        machine.step state label = some next →
          (if kind label then 1 else 0) + measure next ≤ measure state)
    (atStart : invariant source)
    (evaluates : machine.run source labels = some target) :
    labels.countP kind + measure target ≤ measure source := by
  induction labels generalizing source with
  | nil =>
      simp only [run, Option.some.injEq] at evaluates
      simp [evaluates]
  | cons label rest inductionHypothesis =>
      simp only [run, Option.bind_eq_some_iff] at evaluates
      obtain ⟨next, taken, continues⟩ := evaluates
      have here := List.mem_cons_self (a := label) (l := rest)
      have first := lowers here atStart taken
      have later :=
        inductionHypothesis
          (fun member => preserved (List.mem_cons_of_mem label member))
          (fun member => lowers (List.mem_cons_of_mem label member))
          (preserved here atStart taken) continues
      rw [List.countP_cons]
      omega

end Machine

end KarstflowTests.Library

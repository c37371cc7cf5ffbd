import Mathlib.Data.List.Basic
import Mathlib.Data.List.Infix

/-!
# Bundles that are carried out whole or not at all

A bundle is a list of instructions.  It is carried out when nothing outside
makes it fail and every instruction succeeds; else it changes nothing.
`stateAfter` is the state that a sequence of bundles leaves, and `executed`
says which of them were carried out.

Both are read off a sequence one bundle at a time: `stateAfter_concat` and
`executed_concat` are the step rules, and `stateAfter_of_step` carries a
property of the bundles so far and of their state through a sequence.
-/

namespace KarstflowTests.Library

universe u v w

section Bundles

variable {State : Type u} {Instruction : Type v}
variable (execute : State → Instruction → Option State)
variable (fails : ℕ → Bool)

/-- The state after the bundle with that number, if it is carried out. -/
def attempt (number : ℕ) (bundle : List Instruction) (state : State) :
    Option State :=
  if fails number then
    none
  else
    bundle.foldlM execute state

def stateAfter (state : State) (bundles : List (List Instruction)) :
    State :=
  bundles.zipIdx.foldl
    (fun state entry =>
      (attempt execute fails entry.2 entry.1 state).getD state)
    state

/-- The bundle with that number is there and was carried out. -/
def executed (state : State) (bundles : List (List Instruction))
    (number : ℕ) : Bool :=
  bundles[number]?.any fun bundle =>
    (attempt execute fails number bundle
      (stateAfter execute fails state (bundles.take number))).isSome

variable {execute fails}
variable {state after : State} {bundles part : List (List Instruction)}
variable {bundle : List Instruction} {number : ℕ}

theorem attempt_eq_some_iff :
    attempt execute fails number bundle state = some after ↔
      fails number = false ∧ bundle.foldlM execute state = some after := by
  rw [attempt]
  cases fails number with
  | true => simp
  | false => simp

theorem stateAfter_concat :
    stateAfter execute fails state (bundles ++ [bundle]) =
      (attempt execute fails bundles.length bundle
        (stateAfter execute fails state bundles)).getD
          (stateAfter execute fails state bundles) := by
  rw [stateAfter, List.zipIdx_append, List.foldl_append]
  simp [stateAfter]

theorem executed_eq_false_of_le (le : bundles.length ≤ number) :
    executed execute fails state bundles number = false := by
  rw [executed, List.getElem?_eq_none le]
  rfl

theorem lt_of_executed
    (isExecuted : executed execute fails state bundles number = true) :
    number < bundles.length := by
  by_contra beyond
  rw [executed_eq_false_of_le (not_lt.mp beyond)] at isExecuted
  cases isExecuted

/-- What was carried out does not depend on what comes later. -/
theorem executed_of_isPrefix (isPrefix : part <+: bundles)
    (below : number < part.length) :
    executed execute fails state part number =
      executed execute fails state bundles number := by
  obtain ⟨later, rfl⟩ := isPrefix
  rw [executed, executed, List.getElem?_append_left below,
    List.take_append_of_le_length below.le]

/-- The last bundle of a sequence. -/
theorem executed_concat :
    executed execute fails state (bundles ++ [bundle]) bundles.length =
      (attempt execute fails bundles.length bundle
        (stateAfter execute fails state bundles)).isSome := by
  rw [executed, List.getElem?_concat_length, List.take_left]
  rfl

theorem executed_concat_of_ne (other : number ≠ bundles.length) :
    executed execute fails state (bundles ++ [bundle]) number =
      executed execute fails state bundles number := by
  rcases Nat.lt_or_gt_of_ne other with below | above
  · exact (executed_of_isPrefix (List.prefix_append _ _) below).symm
  · have beyond : (bundles ++ [bundle]).length ≤ number := by
      rw [List.length_append, List.length_singleton]
      omega
    rw [executed_eq_false_of_le beyond, executed_eq_false_of_le above.le]

theorem executed_concat_of_not_executed
    (idle :
      executed execute fails state (bundles ++ [bundle]) bundles.length =
        false) :
    executed execute fails state (bundles ++ [bundle]) =
      executed execute fails state bundles := by
  funext number
  by_cases last : number = bundles.length
  · rw [last, idle, executed_eq_false_of_le le_rfl]
  · exact executed_concat_of_ne last

/-- A last bundle that is not carried out changes nothing. -/
theorem stateAfter_concat_of_not_executed
    (idle :
      executed execute fails state (bundles ++ [bundle]) bundles.length =
        false) :
    stateAfter execute fails state (bundles ++ [bundle]) =
      stateAfter execute fails state bundles := by
  rw [executed_concat, Option.isSome_eq_false_iff,
    Option.isNone_iff_eq_none] at idle
  rw [stateAfter_concat, idle]
  rfl

/-- A last bundle that is carried out leaves what its instructions leave. -/
theorem foldlM_of_executed
    (isExecuted :
      executed execute fails state (bundles ++ [bundle]) bundles.length =
        true) :
    bundle.foldlM execute (stateAfter execute fails state bundles) =
      some (stateAfter execute fails state (bundles ++ [bundle])) := by
  rw [executed_concat] at isExecuted
  obtain ⟨reached, carriedOut⟩ := Option.isSome_iff_exists.mp isExecuted
  rw [stateAfter_concat, carriedOut, Option.getD_some]
  exact (attempt_eq_some_iff.mp carriedOut).2

/-! ### Planned bundles -/

section Planned

variable {Plan : Type w} {bundleOf : Plan → List Instruction}
variable {plans : List Plan}

/-- The plan that comes next. -/
theorem getElem?_of_concat_isPrefix {front : List Plan} {plan : Plan}
    (isFront : front ++ [plan] <+: plans) :
    plans[front.length]? = some plan := by
  obtain ⟨rest, rfl⟩ := isFront
  rw [List.append_assoc, List.getElem?_append_right le_rfl, Nat.sub_self]
  rfl

/-- A property of the plans so far and of the state their bundles leave. -/
theorem stateAfter_of_step
    (property : List Plan → State → Prop)
    (atStart : property [] state)
    (step :
      ∀ front plan, front ++ [plan] <+: plans →
        property front (stateAfter execute fails state (front.map bundleOf)) →
          property (front ++ [plan])
            (stateAfter execute fails state
              (front.map bundleOf ++ [bundleOf plan]))) :
    property plans
      (stateAfter execute fails state (plans.map bundleOf)) := by
  induction plans using List.reverseRecOn with
  | nil => exact atStart
  | append_singleton front plan inductionHypothesis =>
      rw [List.map_append, List.map_singleton]
      apply step front plan (List.prefix_refl _)
      apply inductionHypothesis
      intro earlier last isPrefix
      exact step earlier last (isPrefix.trans (List.prefix_append _ _))

variable {Observation : Type*} {observe : State → Observation}

theorem foldlM_keeps
    (kept :
      ∀ instruction ∈ bundle, ∀ before after,
        execute before instruction = some after →
          observe after = observe before)
    (reaches : bundle.foldlM execute state = some after) :
    observe after = observe state := by
  induction bundle generalizing state with
  | nil =>
      cases reaches
      rfl
  | cons instruction rest inductionHypothesis =>
      obtain ⟨here, later⟩ := List.forall_mem_cons.mp kept
      rw [List.foldlM_cons] at reaches
      obtain ⟨middle, executes, reaches⟩ :=
        Option.bind_eq_some_iff.mp reaches
      rw [inductionHypothesis later reaches, here state middle executes]

/-- What every successful instruction keeps, the bundles keep. -/
theorem stateAfter_keeps (observe : State → Observation)
    (kept :
      ∀ plan ∈ plans, ∀ instruction ∈ bundleOf plan, ∀ before after,
        execute before instruction = some after →
          observe after = observe before) :
    observe (stateAfter execute fails state (plans.map bundleOf)) =
      observe state := by
  apply stateAfter_of_step fun _ reached => observe reached = observe state
  · rfl
  · intro front plan isPrefix soFar
    cases carriedOut :
        executed execute fails state
          (front.map bundleOf ++ [bundleOf plan])
          (front.map bundleOf).length with
    | false => rw [stateAfter_concat_of_not_executed carriedOut, soFar]
    | true =>
        have member : plan ∈ plans :=
          isPrefix.subset (List.mem_append_right _ List.mem_cons_self)
        rw [foldlM_keeps (kept plan member)
          (foldlM_of_executed carriedOut), soFar]

end Planned

end Bundles

end KarstflowTests.Library

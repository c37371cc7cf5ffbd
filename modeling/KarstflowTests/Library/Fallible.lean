import Mathlib.Data.List.Forall2

/-!
# Fallible computations

A sequence of `require` tests and other steps in `Except` returns when every
step returns.  `items.mapM action` returns when the action returns on every
item, and otherwise fails as it failed on one of them.
-/

namespace KarstflowTests.Library

universe u v w

variable {ε : Type u} {α β : Type v}

/-! ## Steps one after the other -/

/-- Go on only if the condition holds. -/
def require (condition : Prop) [Decidable condition] (error : ε) :
    Except ε Unit :=
  if condition then .ok () else .error error

theorem bind_eq_ok_iff
    {first : Except ε α} {next : α → Except ε β} {result : β} :
    (first >>= next) = .ok result ↔
      ∃ value, first = .ok value ∧ next value = .ok result := by
  cases first with
  | error error => simp [bind, Except.bind]
  | ok value => simp [bind, Except.bind]

theorem require_eq_ok_iff
    {condition : Prop} [Decidable condition] {error : ε} {result : Unit} :
    require condition error = .ok result ↔ condition := by
  by_cases holds : condition
  · simp [require, holds]
  · simp [require, holds]

theorem mapError_eq_ok_iff
    {δ : Type w} {change : ε → δ} {result : Except ε α} {value : α} :
    result.mapError change = .ok value ↔ result = .ok value := by
  cases result with
  | error error => simp [Except.mapError]
  | ok other => simp [Except.mapError]

theorem map_eq_ok_iff
    {change : α → β} {result : Except ε α} {value : β} :
    result.map change = .ok value ↔
      ∃ before, result = .ok before ∧ change before = value := by
  cases result with
  | error error => simp [Except.map]
  | ok other => simp [Except.map]

/-! ## Mapping over a list -/

variable {action : α → Except ε β} {items : List α} {results : List β}

theorem mapM_eq_ok_iff :
    items.mapM action = .ok results ↔
      List.Forall₂ (fun item result => action item = .ok result)
        items results := by
  induction items generalizing results with
  | nil =>
      cases results <;> simp [pure, Except.pure]
  | cons item items inductionHypothesis =>
      rw [List.mapM_cons]
      rcases first : action item with error | value
      · cases results <;> simp [bind, Except.bind, first]
      · rcases rest : items.mapM action with error | values
        · have noRest (others : List β) :
              ¬ List.Forall₂ (fun item result => action item = .ok result)
                items others := by
            rw [← inductionHypothesis, rest]
            simp
          cases results <;> simp [bind, Except.bind, noRest]
        · have exactRest (others : List β) :
              List.Forall₂ (fun item result => action item = .ok result)
                items others ↔ values = others := by
            rw [← inductionHypothesis, rest]
            simp
          cases results with
          | nil => simp [bind, Except.bind, pure, Except.pure]
          | cons result others =>
              simp [bind, Except.bind, pure, Except.pure, first, exactRest]

theorem exists_error_of_mapM {error : ε}
    (fails : items.mapM action = .error error) :
    ∃ item ∈ items, action item = .error error := by
  induction items with
  | nil =>
      simp [pure, Except.pure] at fails
  | cons item items inductionHypothesis =>
      rw [List.mapM_cons] at fails
      rcases first : action item with failure | value
      · simp only [bind, Except.bind, first] at fails
        cases fails
        exact ⟨item, List.mem_cons_self, first⟩
      · rcases rest : items.mapM action with failure | values
        · simp only [bind, Except.bind, first, rest] at fails
          cases fails
          obtain ⟨later, member, failed⟩ := inductionHypothesis rest
          exact ⟨later, List.mem_cons_of_mem item member, failed⟩
        · simp [bind, Except.bind, first, rest, pure, Except.pure] at fails

theorem exists_of_mem_mapM
    (returns : items.mapM action = .ok results) {result : β}
    (member : result ∈ results) : ∃ item ∈ items, action item = .ok result := by
  induction mapM_eq_ok_iff.mp returns with
  | nil => cases member
  | @cons item first items others acts rest inductionHypothesis =>
      rcases List.mem_cons.mp member with isFirst | later
      · rw [isFirst]
        exact ⟨item, List.mem_cons_self, acts⟩
      · obtain ⟨source, isSource, outOf⟩ :=
          inductionHypothesis (mapM_eq_ok_iff.mpr rest) later
        exact ⟨source, List.mem_cons_of_mem item isSource, outOf⟩

end KarstflowTests.Library

import KarstflowTests.Python.Exception

/-!
# Code that acts and may raise

An action changes a state and returns a value or raises.  What it did before
it raised stays in the state.  `Returns` describes the normal returns; the
lemmas below split it along the structure of a `do` block.  `Ends` describes
every end, normal or not.
-/

namespace KarstflowTests

abbrev Action (σ : Type) := ExceptT Exc (StateM σ)

namespace Action

variable {σ α β : Type}

/-- From `before`, the action returns `value` normally and leaves `after`. -/
def Returns (action : Action σ α) (before : σ) (value : α) (after : σ) :
    Prop :=
  action.run.run before = (.ok value, after)

@[simp]
theorem returns_pure {before after : σ} {value result : α} :
    Returns (pure value) before result after ↔
      result = value ∧ after = before := by
  constructor
  · intro returns
    cases returns
    exact ⟨rfl, rfl⟩
  · intro holds
    rcases holds with ⟨rfl, rfl⟩
    rfl

theorem returns_bind
    {action : Action σ α} {continuation : α → Action σ β}
    {before after : σ} {result : β} :
    Returns (action >>= continuation) before result after ↔
      ∃ value middle, Returns action before value middle ∧
        Returns (continuation value) middle result after := by
  have unfolded :
      (action >>= continuation).run.run before =
        match action.run.run before with
        | (.ok value, middle) => (continuation value).run.run middle
        | (.error exc, middle) => (.error exc, middle) := by
    simp only [ExceptT.run_bind, StateT.run_bind]
    rcases action.run.run before with ⟨outcome, middle⟩
    cases outcome <;> rfl
  simp only [Returns, unfolded]
  rcases action.run.run before with ⟨outcome, middle⟩
  cases outcome with
  | ok value =>
      constructor
      · intro continues
        exact ⟨value, middle, rfl, continues⟩
      · intro holds
        rcases holds with ⟨_, _, same, continues⟩
        cases same
        exact continues
  | error exc =>
      constructor
      · intro raises
        cases raises
      · intro holds
        rcases holds with ⟨_, _, raises, _⟩
        cases raises

@[simp]
theorem returns_get_bind
    {continuation : σ → Action σ α} {before after : σ} {result : α} :
    Returns (get >>= continuation) before result after ↔
      Returns (continuation before) before result after :=
  Iff.rfl

@[simp]
theorem returns_modify_bind
    {change : σ → σ} {continuation : Unit → Action σ α}
    {before after : σ} {result : α} :
    Returns (modify change >>= continuation) before result after ↔
      Returns (continuation ()) (change before) result after :=
  Iff.rfl

@[simp]
theorem returns_modify
    {change : σ → σ} {before after : σ} {done : Unit} :
    Returns (modify change : Action σ Unit) before done after ↔
      after = change before := by
  constructor
  · intro returns
    cases returns
    rfl
  · rintro rfl
    rfl

/-- A value, or the exception in its place. -/
def ofExcept (result : Except Exc α) : Action σ α :=
  match result with
  | .ok value => pure value
  | .error exc => throw exc

@[simp]
theorem returns_ofExcept_bind
    {answer : Except Exc α} {continuation : α → Action σ β}
    {before after : σ} {result : β} :
    Returns (ofExcept answer >>= continuation) before result after ↔
      ∃ value, answer = .ok value ∧
        Returns (continuation value) before result after := by
  cases answer with
  | ok value =>
      simp only [Except.ok.injEq, exists_eq_left']
      exact Iff.rfl
  | error exc =>
      simp only [reduceCtorEq, false_and, exists_false, iff_false]
      intro returns
      cases returns

/-! ## Every end -/

/-- However the action ends from `before`, its outcome and the state it leaves
satisfy `post`. -/
def Ends (action : Action σ α) (before : σ)
    (post : Except Exc α → σ → Prop) : Prop :=
  post (action.run.run before).1 (action.run.run before).2

theorem Ends.mono
    {action : Action σ α} {before : σ} {post weaker : Except Exc α → σ → Prop}
    (ends : Ends action before post)
    (weakens : ∀ outcome after, post outcome after → weaker outcome after) :
    Ends action before weaker :=
  weakens _ _ ends

theorem ends_modify
    {change : σ → σ} {before : σ} {post : Except Exc Unit → σ → Prop}
    (holds : post (.ok ()) (change before)) :
    Ends (modify change) before post :=
  holds

theorem ends_get_bind
    {continuation : σ → Action σ α} {before : σ}
    {post : Except Exc α → σ → Prop}
    (rest : Ends (continuation before) before post) :
    Ends (get >>= continuation) before post :=
  rest

theorem ends_modify_bind
    {change : σ → σ} {continuation : Unit → Action σ α} {before : σ}
    {post : Except Exc α → σ → Prop}
    (rest : Ends (continuation ()) (change before) post) :
    Ends (modify change >>= continuation) before post :=
  rest

/-- A block ends where its first part raises, or where the rest ends after the
first part has returned. -/
theorem Ends.bind
    {action : Action σ α} {continuation : α → Action σ β} {before : σ}
    {middlePost : Except Exc α → σ → Prop}
    {post : Except Exc β → σ → Prop}
    (first : Ends action before middlePost)
    (rest :
      ∀ value middle, Returns action before value middle →
        middlePost (.ok value) middle →
          Ends (continuation value) middle post)
    (raises :
      ∀ exc middle, middlePost (.error exc) middle →
        post (.error exc) middle) :
    Ends (action >>= continuation) before post := by
  simp only [Ends, ExceptT.run_bind, StateT.run_bind]
  rw [Ends] at first
  cases ended : action.run.run before with
  | mk outcome middle =>
      rw [ended] at first
      cases outcome with
      | ok value => exact rest value middle ended first
      | error exc => exact raises exc middle first

theorem ends_ofExcept_bind
    {answer : Except Exc α} {continuation : α → Action σ β} {before : σ}
    {post : Except Exc β → σ → Prop}
    (rest :
      ∀ value, answer = .ok value → Ends (continuation value) before post)
    (raises : ∀ exc, answer = .error exc → post (.error exc) before) :
    Ends (ofExcept answer >>= continuation) before post := by
  cases answer with
  | ok value => exact rest value rfl
  | error exc => exact raises exc rfl

/-! ## Invariants -/

/-- However the action ends, the invariant still holds. -/
def Keeps (invariant : σ → Prop) (action : Action σ α) : Prop :=
  ∀ before, invariant before → Ends action before fun _ => invariant

section Invariants

variable {invariant : σ → Prop}

theorem keeps_pure (value : α) :
    Keeps invariant (pure value : Action σ α) :=
  fun _ holds => holds

theorem Keeps.bind
    {action : Action σ α} {continuation : α → Action σ β}
    (first : Keeps invariant action)
    (rest : ∀ value, Keeps invariant (continuation value)) :
    Keeps invariant (action >>= continuation) := by
  intro before holds
  apply Ends.bind (first before holds)
  · intro value middle _ still
    exact rest value middle still
  · intro exc middle still
    exact still

theorem keeps_ofExcept_bind
    {answer : Except Exc α} {continuation : α → Action σ β}
    (rest :
      ∀ value, answer = .ok value → Keeps invariant (continuation value)) :
    Keeps invariant (ofExcept answer >>= continuation) := by
  intro before holds
  apply ends_ofExcept_bind
  · intro value answered
    exact rest value answered before holds
  · intro exc _
    exact holds

end Invariants

end Action

end KarstflowTests

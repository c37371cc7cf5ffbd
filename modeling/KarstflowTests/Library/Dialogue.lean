import Mathlib.Tactic.Common

/-!
# Dialogues with the surroundings

A dialogue asks the surroundings one query after the other and ends with a
value.  `Runs` collects its runs: the exchanges of queries and answers, and the
value at the end.

Some queries are silent.  A dialogue follows another one if it asks the same
queries in the same order, with silent queries anywhere in between; then both
have the same runs, up to the silent exchanges.
-/

namespace KarstflowTests.Library

universe u v w

inductive Dialogue (Query : Type u) (Answer : Query → Type v)
    (α : Type w) : Type (max u v w) where
  | done (value : α)
  | ask (query : Query) (next : Answer query → Dialogue Query Answer α)

namespace Dialogue

section Monad

variable {Query : Type u} {Answer : Query → Type v} {α β : Type w}

/-- Go on with the value of a dialogue. -/
def andThen (dialogue : Dialogue Query Answer α)
    (continuation : α → Dialogue Query Answer β) :
    Dialogue Query Answer β :=
  match dialogue with
  | done value => continuation value
  | ask query next =>
      ask query fun answer => (next answer).andThen continuation

instance : Monad (Dialogue Query Answer) where
  pure := done
  bind := andThen

theorem andThen_done (dialogue : Dialogue Query Answer α) :
    dialogue.andThen done = dialogue := by
  induction dialogue with
  | done value => rfl
  | ask query next inductionHypothesis =>
      simp only [andThen, inductionHypothesis]

theorem andThen_assoc
    {γ : Type w} (dialogue : Dialogue Query Answer α)
    (first : α → Dialogue Query Answer β)
    (second : β → Dialogue Query Answer γ) :
    (dialogue.andThen first).andThen second =
      dialogue.andThen fun value => (first value).andThen second := by
  induction dialogue with
  | done value => rfl
  | ask query next inductionHypothesis =>
      simp only [andThen, inductionHypothesis]

end Monad

/-! ## Runs -/

/-- A query with its answer. -/
abbrev Exchange (Query : Type u) (Answer : Query → Type v) :=
  (query : Query) × Answer query

section Runs

variable {Query : Type u} {Answer : Query → Type v} {α β : Type w}

/-- The exchanges of a run, and its value. -/
inductive Runs :
    Dialogue Query Answer α → List (Exchange Query Answer) → α → Prop
  | done (value : α) : Runs (.done value) [] value
  | ask {query : Query} {next : Answer query → Dialogue Query Answer α}
      {answer : Answer query} {exchanges : List (Exchange Query Answer)}
      {value : α} :
      Runs (next answer) exchanges value →
      Runs (.ask query next) (⟨query, answer⟩ :: exchanges) value

theorem runs_done_iff
    {other value : α} {exchanges : List (Exchange Query Answer)} :
    Runs (.done other) exchanges value ↔ exchanges = [] ∧ value = other := by
  constructor
  · intro runs
    cases runs
    exact ⟨rfl, rfl⟩
  · rintro ⟨rfl, rfl⟩
    exact .done value

theorem runs_ask_iff
    {query : Query} {next : Answer query → Dialogue Query Answer α}
    {exchanges : List (Exchange Query Answer)} {value : α} :
    Runs (.ask query next) exchanges value ↔
      ∃ answer rest, exchanges = ⟨query, answer⟩ :: rest ∧
        Runs (next answer) rest value := by
  constructor
  · intro runs
    cases runs with
    | ask later => exact ⟨_, _, rfl, later⟩
  · rintro ⟨answer, rest, rfl, later⟩
    exact .ask later

/-- A run of two dialogues in a row is a run of the first and then one of the
second. -/
theorem runs_of_andThen
    {dialogue : Dialogue Query Answer α}
    {continuation : α → Dialogue Query Answer β}
    {exchanges : List (Exchange Query Answer)} {value : β}
    (runs : Runs (dialogue.andThen continuation) exchanges value) :
    ∃ first rest middle, exchanges = first ++ rest ∧
      Runs dialogue first middle ∧ Runs (continuation middle) rest value := by
  induction dialogue generalizing exchanges with
  | done middle => exact ⟨[], exchanges, middle, rfl, .done middle, runs⟩
  | ask query next inductionHypothesis =>
      obtain ⟨answer, others, rfl, later⟩ := runs_ask_iff.mp runs
      obtain ⟨first, rest, middle, rfl, begins, continues⟩ :=
        inductionHypothesis answer later
      exact ⟨⟨query, answer⟩ :: first, rest, middle, rfl, .ask begins,
        continues⟩

end Runs

/-! ## Given surroundings -/

section Surroundings

variable {Query : Type u} {Answer : Query → Type v} {α : Type w} {σ : Type w}
variable (reply : σ → (query : Query) → Answer query × σ)

/-- The exchanges and the value of the run with the given surroundings. -/
def against : σ → Dialogue Query Answer α →
    List (Exchange Query Answer) × α
  | _, .done value => ([], value)
  | state, .ask query next =>
      let (answer, later) := reply state query
      let (exchanges, value) := against later (next answer)
      (⟨query, answer⟩ :: exchanges, value)

theorem runs_against (state : σ) (dialogue : Dialogue Query Answer α) :
    Runs dialogue (against reply state dialogue).1
      (against reply state dialogue).2 := by
  induction dialogue generalizing state with
  | done value => exact .done value
  | ask query next inductionHypothesis =>
      exact .ask (inductionHypothesis _ _)

end Surroundings

/-! ## Silent queries -/

section Silent

variable {Query : Type u} {Answer : Query → Type v}
variable {α β γ δ : Type w}

/-- The exchanges that are not silent. -/
def visible (silent : Query → Bool)
    (exchanges : List (Exchange Query Answer)) :
    List (Exchange Query Answer) :=
  exchanges.filter fun exchange => !silent exchange.1

/-- The dialogue asks silent queries only, and its value satisfies `post`. -/
inductive Quiet (silent : Query → Bool) (post : α → Prop) :
    Dialogue Query Answer α → Prop
  | done {value : α} : post value → Quiet silent post (.done value)
  | ask {query : Query} {next : Answer query → Dialogue Query Answer α} :
      silent query →
      (∀ answer, Quiet silent post (next answer)) →
      Quiet silent post (.ask query next)

/-- The first dialogue asks what the second asks, and silent queries besides;
their values are related. -/
inductive Follows (silent : Query → Bool) (related : α → β → Prop) :
    Dialogue Query Answer α → Dialogue Query Answer β → Prop
  | done {value : α} {other : β} :
      related value other →
      Follows silent related (.done value) (.done other)
  | ask {query : Query} {next : Answer query → Dialogue Query Answer α}
      {others : Answer query → Dialogue Query Answer β} :
      silent query = false →
      (∀ answer, Follows silent related (next answer) (others answer)) →
      Follows silent related (.ask query next) (.ask query others)
  | silent {query : Query} {next : Answer query → Dialogue Query Answer α}
      {other : Dialogue Query Answer β} :
      silent query →
      (∀ answer, Follows silent related (next answer) other) →
      Follows silent related (.ask query next) other

variable {silent : Query → Bool}

theorem visible_cons_of_visible
    {query : Query} {answer : Answer query}
    {exchanges : List (Exchange Query Answer)}
    (isVisible : silent query = false) :
    visible silent (⟨query, answer⟩ :: exchanges) =
      ⟨query, answer⟩ :: visible silent exchanges :=
  List.filter_cons_of_pos (by simp [isVisible])

theorem visible_cons_of_silent
    {query : Query} {answer : Answer query}
    {exchanges : List (Exchange Query Answer)} (isSilent : silent query) :
    visible silent (⟨query, answer⟩ :: exchanges) =
      visible silent exchanges :=
  List.filter_cons_of_neg (by simp [isSilent])

theorem Quiet.mono
    {post weaker : α → Prop} {dialogue : Dialogue Query Answer α}
    (quiet : Quiet silent post dialogue)
    (weakens : ∀ value, post value → weaker value) :
    Quiet silent weaker dialogue := by
  induction quiet with
  | done holds => exact .done (weakens _ holds)
  | ask isSilent _ inductionHypothesis =>
      exact .ask isSilent inductionHypothesis

theorem Quiet.andThen
    {post : α → Prop} {later : β → Prop}
    {dialogue : Dialogue Query Answer α}
    {continuation : α → Dialogue Query Answer β}
    (quiet : Quiet silent post dialogue)
    (rest : ∀ value, post value → Quiet silent later (continuation value)) :
    Quiet silent later (dialogue.andThen continuation) := by
  induction quiet with
  | done holds => exact rest _ holds
  | ask isSilent _ inductionHypothesis =>
      exact .ask isSilent inductionHypothesis

/-- A quiet dialogue may stand in front. -/
theorem Follows.after_quiet
    {post : α → Prop} {related : β → γ → Prop}
    {dialogue : Dialogue Query Answer α}
    {continuation : α → Dialogue Query Answer β}
    {other : Dialogue Query Answer γ}
    (quiet : Quiet silent post dialogue)
    (rest :
      ∀ value, post value →
        Follows silent related (continuation value) other) :
    Follows silent related (dialogue.andThen continuation) other := by
  induction quiet with
  | done holds => exact rest _ holds
  | ask isSilent _ inductionHypothesis =>
      exact .silent isSilent inductionHypothesis

/-- A quiet dialogue that ends in the right value follows that value. -/
theorem Follows.of_quiet
    {related : α → β → Prop} {other : β}
    {dialogue : Dialogue Query Answer α}
    (quiet : Quiet silent (fun value => related value other) dialogue) :
    Follows silent related dialogue (.done other) := by
  induction quiet with
  | done holds => exact .done holds
  | ask isSilent _ inductionHypothesis =>
      exact .silent isSilent inductionHypothesis

theorem Follows.andThen
    {related : α → β → Prop} {later : γ → δ → Prop}
    {dialogue : Dialogue Query Answer α}
    {other : Dialogue Query Answer β}
    {continuation : α → Dialogue Query Answer γ}
    {continued : β → Dialogue Query Answer δ}
    (follows : Follows silent related dialogue other)
    (rest :
      ∀ value otherValue, related value otherValue →
        Follows silent later (continuation value) (continued otherValue)) :
    Follows silent later (dialogue.andThen continuation)
      (other.andThen continued) := by
  induction follows with
  | done holds => exact rest _ _ holds
  | ask isVisible _ inductionHypothesis =>
      exact .ask isVisible inductionHypothesis
  | silent isSilent _ inductionHypothesis =>
      exact .silent isSilent inductionHypothesis

/-- A quiet dialogue may stand behind. -/
theorem Follows.before_quiet
    {related : α → γ → Prop} {later : β → γ → Prop}
    {dialogue : Dialogue Query Answer α}
    {continuation : α → Dialogue Query Answer β}
    {other : Dialogue Query Answer γ}
    (follows : Follows silent related dialogue other)
    (rest :
      ∀ value otherValue, related value otherValue →
        Quiet silent (fun ended => later ended otherValue)
          (continuation value)) :
    Follows silent later (dialogue.andThen continuation) other := by
  rw [← other.andThen_done]
  apply follows.andThen
  intro value otherValue holds
  exact .of_quiet (rest value otherValue holds)

/-- The two dialogues have the same runs, up to the silent exchanges of the
first. -/
def SameRuns (silent : Query → Bool)
    (dialogue other : Dialogue Query Answer α) : Prop :=
  ∀ exchanges value,
    Runs other exchanges value ↔
      ∃ full, visible silent full = exchanges ∧ Runs dialogue full value

theorem runs_of_follows
    {related : α → β → Prop} {dialogue : Dialogue Query Answer α}
    {other : Dialogue Query Answer β} {full : List (Exchange Query Answer)}
    {value : α} (follows : Follows silent related dialogue other)
    (runs : Runs dialogue full value) :
    ∃ otherValue, related value otherValue ∧
      Runs other (visible silent full) otherValue := by
  induction follows generalizing full value with
  | done holds =>
      cases runs
      exact ⟨_, holds, .done _⟩
  | ask isVisible _ inductionHypothesis =>
      obtain ⟨answer, rest, rfl, later⟩ := runs_ask_iff.mp runs
      obtain ⟨otherValue, holds, continues⟩ :=
        inductionHypothesis answer later
      refine ⟨otherValue, holds, ?_⟩
      rw [visible_cons_of_visible isVisible]
      exact .ask continues
  | silent isSilent _ inductionHypothesis =>
      obtain ⟨answer, rest, rfl, later⟩ := runs_ask_iff.mp runs
      obtain ⟨otherValue, holds, continues⟩ :=
        inductionHypothesis answer later
      refine ⟨otherValue, holds, ?_⟩
      rw [visible_cons_of_silent isSilent]
      exact continues

theorem follows_of_runs
    {related : α → β → Prop} {dialogue : Dialogue Query Answer α}
    {other : Dialogue Query Answer β}
    {exchanges : List (Exchange Query Answer)} {otherValue : β}
    (answered : ∀ query, silent query → Nonempty (Answer query))
    (follows : Follows silent related dialogue other)
    (runs : Runs other exchanges otherValue) :
    ∃ full value, visible silent full = exchanges ∧
      related value otherValue ∧ Runs dialogue full value := by
  induction follows generalizing exchanges otherValue with
  | done holds =>
      cases runs
      exact ⟨[], _, rfl, holds, .done _⟩
  | @ask query _ _ isVisible _ inductionHypothesis =>
      obtain ⟨answer, rest, rfl, later⟩ := runs_ask_iff.mp runs
      obtain ⟨full, value, sameVisible, holds, continues⟩ :=
        inductionHypothesis answer later
      refine ⟨⟨query, answer⟩ :: full, value, ?_, holds, .ask continues⟩
      rw [visible_cons_of_visible isVisible, sameVisible]
  | @silent query _ _ isSilent _ inductionHypothesis =>
      obtain ⟨answer⟩ := answered query isSilent
      obtain ⟨full, value, sameVisible, holds, continues⟩ :=
        inductionHypothesis answer runs
      refine ⟨⟨query, answer⟩ :: full, value, ?_, holds, .ask continues⟩
      rw [visible_cons_of_silent isSilent, sameVisible]

/-- A dialogue that follows another one, with equal values, has its runs. -/
theorem sameRuns_of_follows
    {dialogue other : Dialogue Query Answer α}
    (answered : ∀ query, silent query → Nonempty (Answer query))
    (follows : Follows silent Eq dialogue other) :
    SameRuns silent dialogue other := by
  intro exchanges value
  constructor
  · intro runs
    obtain ⟨full, _, sameVisible, rfl, continues⟩ :=
      follows_of_runs answered follows runs
    exact ⟨full, sameVisible, continues⟩
  · rintro ⟨full, rfl, runs⟩
    obtain ⟨_, rfl, continues⟩ := runs_of_follows follows runs
    exact continues

end Silent

end Dialogue

end KarstflowTests.Library

import Mathlib.Data.List.Range
import KarstflowTests.Rpc.InstrumentedRuns

/-!
# The loops over the hooks

`run_before` and `run_after` loop over a list that `add` may extend meanwhile,
since a hook may suspend; so each turn of a loop is a step of `hookMachine`, and
so is each `add`.  Which hooks raise, and what the inherited call returns or
raises, is left to the labels.

`paired_iff` says when every `before` of a call is followed by its `after` and
the caller gets the outcome of the inherited call.
-/

namespace KarstflowTests.Rpc

open KarstflowTests.Library

/-! ## One call -/

/-- What the caller gets: the outcome of the inherited call, or what a hook
raised in its place. -/
inductive CallEnd where
  | own (outcome : Except Exc Returned)
  | hook (exc : Exc)

/-- The hook at the given position runs, or the inherited call does. -/
inductive HookPhase where
  | before (position : ℕ)
  | calling
  | after (position : ℕ) (own : Except Exc Returned) (report : CallReport)
  | ended (result : CallEnd)

structure HookedCall where
  request : Request
  phase : HookPhase := .calling
  /-- the positions whose `before` was called -/
  befores : List ℕ := []
  /-- the positions whose `after` was called, with its arguments -/
  afters : List (ℕ × CallReport) := []
  /-- what the inherited call returned or raised -/
  own : Option (Except Exc Returned) := none
  /-- a hook of the call raised -/
  hookRaised : Bool := false
  /-- an interceptor was added after `run_before` and before the end of
  `run_after` -/
  addedSince : Bool := false

namespace HookedCall

/-- The head of the loop of `run_before`. -/
def enterBefore (count : ℕ) (call : HookedCall) (position : ℕ) :
    HookedCall :=
  if position < count then
    { call with
      phase := .before position
      befores := call.befores ++ [position] }
  else
    { call with phase := .calling }

/-- The head of the loop of `run_after`, in the `finally` clause. -/
def enterAfter (count : ℕ) (own : Except Exc Returned)
    (report : CallReport) (call : HookedCall) (position : ℕ) : HookedCall :=
  if position < count then
    { call with
      phase := .after position own report
      afters := call.afters ++ [(position, report)] }
  else
    { call with phase := .ended (.own own) }

def raised (call : HookedCall) (exc : Exc) : HookedCall :=
  { call with phase := .ended (.hook exc), hookRaised := true }

/-- The hook that runs returns or raises; nothing catches what it raises. -/
def hookEnds (count : ℕ) (outcome : Except Exc Unit) (call : HookedCall) :
    Option HookedCall :=
  match call.phase, outcome with
  | .before position, .ok _ => some (call.enterBefore count (position + 1))
  | .after position own report, .ok _ =>
      some (call.enterAfter count own report (position + 1))
  | .before _, .error exc => some (call.raised exc)
  | .after _ _ _, .error exc => some (call.raised exc)
  | _, _ => none

/-- The inherited call is over. -/
def returns (rendering : Rendering) (count : ℕ)
    (own : Except Exc Returned) (elapsedMs : ℚ) (call : HookedCall) :
    Option HookedCall :=
  match call.phase with
  | .calling =>
      some
        ({ call with own := some own }.enterAfter count own
          (reportOf rendering call.request own elapsedMs) 0)
  | _ => none

def noteAdd (call : HookedCall) : HookedCall :=
  match call.phase with
  | .calling => { call with addedSince := true }
  | .after _ _ _ => { call with addedSince := true }
  | _ => call

end HookedCall

/-! ## The machine -/

structure HookState (ι : Type) where
  interceptors : List ι
  calls : List HookedCall

inductive HookLabel (ι : Type) where
  | add (interceptor : ι)
  | start (request : Request)
  | hookEnds (index : ℕ) (outcome : Except Exc Unit)
  | returns (index : ℕ) (own : Except Exc Returned) (elapsedMs : ℚ)

/-- One call goes on. -/
def HookState.update {ι : Type} (state : HookState ι) (index : ℕ)
    (change : HookedCall → Option HookedCall) : Option (HookState ι) :=
  (state.calls[index]?.bind change).map fun call =>
    { state with calls := state.calls.set index call }

def hookMachine (ι : Type) (rendering : Rendering) :
    Machine (HookState ι) (HookLabel ι) where
  initial := { interceptors := [], calls := [] }
  step state label :=
    let count := state.interceptors.length
    match label with
    | .add interceptor =>
        some
          { interceptors := state.interceptors ++ [interceptor]
            calls := state.calls.map HookedCall.noteAdd }
    | .start request =>
        let call : HookedCall := { request }
        some { state with calls := state.calls ++ [call.enterBefore count 0] }
    | .hookEnds index outcome =>
        state.update index (HookedCall.hookEnds count outcome)
    | .returns index own elapsedMs =>
        state.update index (HookedCall.returns rendering count own elapsedMs)

/-! ## The property -/

/-- The positions whose `after` was called. -/
def HookedCall.afterPositions (call : HookedCall) : List ℕ :=
  call.afters.map Prod.fst

/-- Every `before` has exactly one `after`, no `after` is without a `before`,
and the caller gets the outcome of the inherited call. -/
structure HookedCall.Paired (call : HookedCall) : Prop where
  once :
    ∀ position ∈ call.befores, call.afterPositions.count position = 1
  preceded : ∀ position ∈ call.afterPositions, position ∈ call.befores
  outcome : ∀ own, call.own = some own → call.phase = .ended (.own own)

/-! ## Where a call can be -/

/-- Since `run_before` came to its end with `started` interceptors, the chain
has grown to `count`. -/
structure HookedCall.Window
    (call : HookedCall) (started count : ℕ) : Prop where
  grown : started ≤ count
  befores : call.befores = List.range started
  unraised : call.hookRaised = false
  added : call.addedSince = true ↔ started < count

/-- What has been called in each phase, with `count` interceptors in the
chain. -/
def HookedCall.Sound (count : ℕ) (call : HookedCall) : Prop :=
  match call.phase with
  | .before position =>
      position < count ∧ call.befores = List.range (position + 1) ∧
        call.afters = [] ∧ call.own = none ∧ call.hookRaised = false ∧
          call.addedSince = false
  | .calling =>
      call.afters = [] ∧ call.own = none ∧
        ∃ started, call.Window started count
  | .after position own _ =>
      position < count ∧ call.afterPositions = List.range (position + 1) ∧
        call.own = some own ∧ ∃ started, call.Window started count
  | .ended (.own own) =>
      call.own = some own ∧
        ∃ started finished, call.Window started finished ∧
          call.afterPositions = List.range finished
  | .ended (.hook _) =>
      call.hookRaised = true ∧
        ((call.befores ≠ [] ∧ call.afters = []) ∨ call.own.isSome)

section Sound

variable {count : ℕ} {call next : HookedCall}

theorem sound_enterBefore
    {position : ℕ} (inside : position ≤ count)
    (befores : call.befores = List.range position)
    (afters : call.afters = []) (own : call.own = none)
    (unraised : call.hookRaised = false)
    (unadded : call.addedSince = false) :
    (call.enterBefore count position).Sound count := by
  rw [HookedCall.enterBefore]
  split
  · next more =>
      refine ⟨more, ?_, afters, own, unraised, unadded⟩
      rw [befores, List.range_succ]
  · next last =>
      have atEnd : position = count := le_antisymm inside (not_lt.mp last)
      refine ⟨afters, own, position, ?_⟩
      exact
        { grown := inside
          befores := befores
          unraised := unraised
          added := by simp [unadded, atEnd] }

theorem sound_enterAfter
    {position started : ℕ} {own : Except Exc Returned} {report : CallReport}
    (inside : position ≤ count)
    (afters : call.afterPositions = List.range position)
    (isOwn : call.own = some own) (window : call.Window started count) :
    (call.enterAfter count own report position).Sound count := by
  obtain ⟨grown, befores, unraised, added⟩ := window
  rw [HookedCall.enterAfter]
  split
  · next more =>
      refine ⟨more, ?_, isOwn, started, grown, befores, unraised, added⟩
      rw [HookedCall.afterPositions, List.map_append, List.range_succ,
        ← afters]
      rfl
  · next last =>
      have atEnd : position = count := le_antisymm inside (not_lt.mp last)
      rw [atEnd] at afters
      exact
        ⟨isOwn, started, count, ⟨grown, befores, unraised, added⟩, afters⟩

/-- A hook raises. -/
theorem sound_raised
    {exc : Exc}
    (lacks : (call.befores ≠ [] ∧ call.afters = []) ∨ call.own.isSome) :
    (call.raised exc).Sound count :=
  ⟨rfl, lacks⟩

theorem sound_hookEnds
    {outcome : Except Exc Unit} (sound : call.Sound count)
    (ends : call.hookEnds count outcome = some next) : next.Sound count := by
  cases phase : call.phase with
  | before position =>
      simp only [HookedCall.hookEnds, HookedCall.Sound, phase] at ends sound
      obtain ⟨inside, befores, afters, own, unraised, unadded⟩ := sound
      cases outcome with
      | ok done =>
          cases ends
          exact sound_enterBefore inside befores afters own unraised unadded
      | error exc =>
          cases ends
          apply sound_raised
          refine Or.inl ⟨?_, afters⟩
          rw [befores, List.range_succ]
          exact List.concat_ne_nil position _
  | after position own report =>
      simp only [HookedCall.hookEnds, HookedCall.Sound, phase] at ends sound
      obtain ⟨inside, afters, isOwn, started, window⟩ := sound
      cases outcome with
      | ok done =>
          cases ends
          exact sound_enterAfter inside afters isOwn window
      | error exc =>
          cases ends
          exact sound_raised (Or.inr (Option.isSome_of_eq_some isOwn))
  | calling => simp [HookedCall.hookEnds, phase] at ends
  | ended result => simp [HookedCall.hookEnds, phase] at ends

theorem sound_returns
    {rendering : Rendering} {own : Except Exc Returned} {elapsedMs : ℚ}
    (sound : call.Sound count)
    (ends : call.returns rendering count own elapsedMs = some next) :
    next.Sound count := by
  simp only [HookedCall.returns] at ends
  simp only [HookedCall.Sound] at sound
  split at ends
  · next phase =>
      cases ends
      rw [phase] at sound
      obtain ⟨afters, _, started, window⟩ := sound
      obtain ⟨grown, befores, unraised, added⟩ := window
      apply sound_enterAfter (Nat.zero_le count)
      · rw [HookedCall.afterPositions]
        exact congrArg (List.map Prod.fst) afters
      · rfl
      · exact ⟨grown, befores, unraised, added⟩
  · cases ends

theorem window_noteAdd
    {started : ℕ} (window : call.Window started count)
    (befores : next.befores = call.befores)
    (unraised : next.hookRaised = call.hookRaised)
    (added : next.addedSince = true) : next.Window started (count + 1) where
  grown := window.grown.trans (Nat.le_succ count)
  befores := befores.trans window.befores
  unraised := unraised.trans window.unraised
  added := iff_of_true added (Nat.lt_succ_of_le window.grown)

/-- An interceptor is added. -/
theorem sound_noteAdd (sound : call.Sound count) :
    call.noteAdd.Sound (count + 1) := by
  cases phase : call.phase with
  | before position =>
      simp only [HookedCall.noteAdd, HookedCall.Sound, phase] at sound ⊢
      exact ⟨Nat.lt_succ_of_lt sound.1, sound.2⟩
  | calling =>
      simp only [HookedCall.noteAdd, HookedCall.Sound, phase] at sound ⊢
      obtain ⟨afters, own, started, window⟩ := sound
      exact ⟨afters, own, started, window_noteAdd window rfl rfl rfl⟩
  | after position own report =>
      simp only [HookedCall.noteAdd, HookedCall.Sound, phase] at sound ⊢
      obtain ⟨inside, afters, isOwn, started, window⟩ := sound
      exact
        ⟨Nat.lt_succ_of_lt inside, afters, isOwn, started,
          window_noteAdd window rfl rfl rfl⟩
  | ended result =>
      simp only [HookedCall.noteAdd, HookedCall.Sound, phase] at sound ⊢
      cases result with
      | own outcome => exact sound
      | hook exc => exact sound

theorem sound_update
    {ι : Type} {state target : HookState ι} {index : ℕ}
    {change : HookedCall → Option HookedCall}
    (sound :
      ∀ call ∈ state.calls, call.Sound state.interceptors.length)
    (keeps :
      ∀ call next, call.Sound state.interceptors.length →
        change call = some next → next.Sound state.interceptors.length)
    (taken : state.update index change = some target) :
    ∀ call ∈ target.calls, call.Sound target.interceptors.length := by
  obtain ⟨next, changed, rfl⟩ := Option.map_eq_some_iff.mp taken
  obtain ⟨old, found, isNext⟩ := Option.bind_eq_some_iff.mp changed
  intro call member
  rcases List.mem_or_eq_of_mem_set member with isOld | rfl
  · exact sound call isOld
  · exact keeps old call (sound old (List.mem_of_getElem? found)) isNext

theorem sound_step
    {ι : Type} {rendering : Rendering} {state target : HookState ι}
    {label : HookLabel ι}
    (sound :
      ∀ call ∈ state.calls, call.Sound state.interceptors.length)
    (taken : (hookMachine ι rendering).step state label = some target) :
    ∀ call ∈ target.calls, call.Sound target.interceptors.length := by
  cases label with
  | add interceptor =>
      cases taken
      intro call member
      obtain ⟨old, isOld, rfl⟩ := List.mem_map.mp member
      rw [List.length_append, List.length_singleton]
      exact sound_noteAdd (sound old isOld)
  | start request =>
      cases taken
      intro call member
      rcases List.mem_append.mp member with isOld | isNew
      · exact sound call isOld
      · rw [List.mem_singleton.mp isNew]
        exact sound_enterBefore (Nat.zero_le _) rfl rfl rfl rfl rfl
  | hookEnds index outcome =>
      exact
        sound_update sound
          (fun call next callSound ends => sound_hookEnds callSound ends)
          taken
  | returns index own elapsedMs =>
      exact
        sound_update sound
          (fun call next callSound ends => sound_returns callSound ends)
          taken

theorem sound_of_reachable
    {ι : Type} {rendering : Rendering} {state : HookState ι}
    (reached : (hookMachine ι rendering).Reachable state) :
    ∀ call ∈ state.calls, call.Sound state.interceptors.length := by
  apply Machine.invariant_of_step _ _ reached
  · intro call member
    cases member
  · intro source target label _ sound _ taken
    exact sound_step sound taken

end Sound

/-! ## When the hooks are paired -/

section Paired

variable {call : HookedCall}

/-- All `before`s and all `after`s of a call that ended on its own. -/
theorem paired_of_own
    {started finished : ℕ} {own : Except Exc Returned}
    (window : call.Window started finished)
    (afters : call.afterPositions = List.range finished)
    (isOwn : call.own = some own) (ended : call.phase = .ended (.own own)) :
    call.Paired ↔ call.addedSince = false := by
  constructor
  · intro paired
    rw [← Bool.not_eq_true, window.added, not_lt]
    by_contra more
    have last : started ∈ call.afterPositions := by
      rw [afters, List.mem_range]
      exact not_le.mp more
    have preceded := paired.preceded started last
    rw [window.befores, List.mem_range] at preceded
    exact lt_irrefl started preceded
  · intro unadded
    have same : started = finished := by
      apply le_antisymm window.grown
      rw [← not_lt, ← window.added, unadded]
      exact Bool.false_ne_true
    have sameLists : call.afterPositions = call.befores := by
      rw [afters, window.befores, same]
    constructor
    · intro position member
      rw [sameLists]
      rw [window.befores] at member ⊢
      exact List.count_eq_one_of_mem List.nodup_range member
    · intro position member
      rw [← sameLists]
      exact member
    · intro other isOther
      rw [isOwn] at isOther
      cases isOther
      exact ended

/-- A hook raised: an earlier `before` is without its `after`, or the caller
does not get the outcome. -/
theorem not_paired_of_hook
    {exc : Exc} (ended : call.phase = .ended (.hook exc))
    (lacks : (call.befores ≠ [] ∧ call.afters = []) ∨ call.own.isSome) :
    ¬ call.Paired := by
  intro paired
  rcases lacks with ⟨started, nothing⟩ | called
  · obtain ⟨position, member⟩ := List.exists_mem_of_ne_nil _ started
    have once := paired.once position member
    rw [HookedCall.afterPositions, nothing] at once
    cases once
  · obtain ⟨own, isOwn⟩ := Option.isSome_iff_exists.mp called
    have other := paired.outcome own isOwn
    rw [ended] at other
    cases other

end Paired

/-- For every call that is over, in every run: its hooks are paired and its
outcome is kept exactly when none of its hooks raised and no interceptor came
between its `before`s and the end of its `after`s. -/
theorem paired_iff
    {ι : Type} {rendering : Rendering} {state : HookState ι}
    {call : HookedCall} {result : CallEnd}
    (reached : (hookMachine ι rendering).Reachable state)
    (member : call ∈ state.calls) (ended : call.phase = .ended result) :
    call.Paired ↔ call.hookRaised = false ∧ call.addedSince = false := by
  have sound := sound_of_reachable reached call member
  simp only [HookedCall.Sound, ended] at sound
  cases result with
  | own outcome =>
      obtain ⟨isOwn, started, finished, window, afters⟩ := sound
      rw [paired_of_own window afters isOwn ended]
      exact (and_iff_right window.unraised).symm
  | hook exc =>
      obtain ⟨raised, lacks⟩ := sound
      refine iff_of_false (not_paired_of_hook ended lacks) ?_
      rw [raised]
      exact fun both => Bool.noConfusion both.1

/-! Two interceptors. -/

abbrev namedMachine : Machine (HookState String) (HookLabel String) :=
  hookMachine String plainRendering

/-- The chain grows while the first `before` runs, and the inherited call
fails. -/
def growingRun : List (HookLabel String) :=
  [.add "timing", .start unknownMethod, .add "recording",
    .hookEnds 0 (.ok ()), .hookEnds 0 (.ok ()),
    .returns 0 (.error (.readError "reset")) 4,
    .hookEnds 0 (.ok ()), .hookEnds 0 (.ok ())]

/-- The second `before` raises. -/
def raisingRun : List (HookLabel String) :=
  [.add "timing", .add "strict", .start unknownMethod, .hookEnds 0 (.ok ()),
    .hookEnds 0 (.error (.other "AssertionError" "unexpected method"))]

/-- The only `after` raises although the inherited call has returned. -/
def maskingRun : List (HookLabel String) :=
  [.add "strict", .start unknownMethod, .hookEnds 0 (.ok ()),
    .returns 0 (.ok (.result .null)) 4,
    .hookEnds 0 (.error (.other "AssertionError" "too slow"))]

/-- The chain grows during the inherited call. -/
def lateRun : List (HookLabel String) :=
  [.start unknownMethod, .add "timing", .returns 0 (.ok (.result .null)) 4,
    .hookEnds 0 (.ok ())]

theorem paired_growingRun :
    ∃ state call,
      namedMachine.run namedMachine.initial growingRun = some state ∧
        state.calls = [call] ∧ call.befores = [0, 1] ∧
        call.phase = .ended (.own (.error (.readError "reset"))) ∧
        call.Paired := by
  obtain ⟨state, call, ran, calls, befores, ended, unraised, unadded⟩ :
      ∃ state call,
        namedMachine.run namedMachine.initial growingRun = some state ∧
          state.calls = [call] ∧ call.befores = [0, 1] ∧
          call.phase = .ended (.own (.error (.readError "reset"))) ∧
          call.hookRaised = false ∧ call.addedSince = false :=
    ⟨_, _, rfl, rfl, rfl, rfl, rfl, rfl⟩
  have reached : namedMachine.Reachable state :=
    Machine.reachable_of_run .initial ran
  have member : call ∈ state.calls := by
    rw [calls]
    exact List.mem_cons_self
  refine ⟨state, call, ran, calls, befores, ended, ?_⟩
  exact (paired_iff reached member ended).mpr ⟨unraised, unadded⟩

/-- A `before` that raises takes the `after` from the interceptor in front of
it, an `after` that raises takes the result from the caller, and an
interceptor that is added late has an `after` without a `before`. -/
theorem paired_fails :
    (∃ state call exc,
      namedMachine.run namedMachine.initial raisingRun = some state ∧
        state.calls = [call] ∧ call.phase = .ended (.hook exc) ∧
        ¬ call.Paired) ∧
    (∃ state call exc,
      namedMachine.run namedMachine.initial maskingRun = some state ∧
        state.calls = [call] ∧ call.phase = .ended (.hook exc) ∧
        ¬ call.Paired) ∧
    ∃ state call own,
      namedMachine.run namedMachine.initial lateRun = some state ∧
        state.calls = [call] ∧ call.phase = .ended (.own own) ∧
        ¬ call.Paired := by
  refine ⟨⟨_, _, _, rfl, rfl, rfl, ?_⟩, ⟨_, _, _, rfl, rfl, rfl, ?_⟩,
    ⟨_, _, _, rfl, rfl, rfl, ?_⟩⟩
  · intro paired
    have once := paired.once 0 List.mem_cons_self
    cases once
  · intro paired
    have kept := paired.outcome _ rfl
    cases kept
  · intro paired
    have preceded := paired.preceded 0 List.mem_cons_self
    cases preceded

end KarstflowTests.Rpc

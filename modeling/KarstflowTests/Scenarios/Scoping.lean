import KarstflowTests.Programs.DeployLedger
import KarstflowTests.Scenarios.Context

/-!
# Names in a scenario

A step that looks up a name which no earlier step has introduced raises a
`KeyError`.  The names in scope can be read off the chain of builder calls, and
`scopedRun_scenarioOf` says that they decide which runs end in a `KeyError`,
and where, as long as no answer of the node raises one by itself.
-/

namespace KarstflowTests.Scenarios

open KarstflowTests.Library KarstflowTests.Programs KarstflowTests.Wait

/-! ## Scopes -/

namespace Call

/-- The names that the step introduces. -/
def introduces : Call → List String
  | fund accountName _ => [accountName]
  | addKeypair name => [name]
  | _ => []

/-- The names that the step looks up, in order. -/
def uses : Call → List String
  | transfer fromName toName _ => [fromName, toName]
  | assertBalance accountName _ _ => [accountName]
  | assertBalanceDecreased accountName _ => [accountName]
  | assertBalanceIncreased accountName _ => [accountName]
  | captureBalance accountName => [accountName]
  | _ => []

end Call

/-- The first of the names that is not in scope. -/
def firstMissing (scope names : List String) : Option String :=
  names.find? fun name => decide (name ∉ scope)

def scopeOf (calls : List Call) : List String :=
  calls.flatMap Call.introduces

/-- The first name that the call at the position looks up although no earlier
call introduces it. -/
def missingAt (calls : List Call) (position : ℕ) : Option String :=
  calls[position]?.bind fun call =>
    firstMissing (scopeOf (calls.take position)) call.uses

/-- Every name is introduced before it is looked up. -/
def WellScoped (calls : List Call) : Prop :=
  ∀ position, missingAt calls position = none

/-- The context holds the keys of the names in scope, and no others. -/
structure Named (scope : List String) (context : ScenarioContext) :
    Prop where
  introduced :
    ∀ name, (context.keypairs.get? name).isSome ↔ name ∈ scope
  agree :
    ∀ name,
      context.pubkeys.get? name =
        (context.keypairs.get? name).map Keypair.pubkey

/-- No answer of the surroundings raises a `KeyError`. -/
structure Surroundings.RaisesNoKeyError (surroundings : Surroundings) :
    Prop where
  airdrop :
    ∀ exchanges pubkey lamports name,
      surroundings.requestAirdrop exchanges pubkey lamports ≠
        .error (.keyError name)
  blockhash :
    ∀ exchanges name,
      surroundings.getLatestBlockhash exchanges ≠ .error (.keyError name)
  transaction :
    ∀ exchanges transaction name,
      surroundings.sendTransaction exchanges transaction ≠
        .error (.keyError name)
  confirmation :
    ∀ exchanges signature name,
      waitForConfirmation signature 30
          (surroundings.confirmation exchanges) ≠
        .error (.keyError name)
  balance :
    ∀ exchanges pubkey name,
      surroundings.getBalance exchanges pubkey ≠ .error (.keyError name)

/-- A custom step leaves the names alone and raises no `KeyError`. -/
def Call.KeepsNames : Call → Prop
  | custom _ action =>
      ∀ before, action.Ends before fun outcome after =>
        after.context.keypairs = before.context.keypairs ∧
          after.context.pubkeys = before.context.pubkeys ∧
          ∀ name, outcome ≠ .error (.keyError name)
  | _ => True

/-! ## One step -/

/-- The step raises a `KeyError` for the missing name, if there is one, and
otherwise ends with the names of the scope. -/
structure EndsScoped (scope : List String) (missing : Option String)
    (outcome : Except Exc Unit) (after : World) : Prop where
  raised :
    ∀ name, outcome = .error (.keyError name) ↔ missing = some name
  named : outcome = .ok () → Named scope after.context

section Step

variable {α : Type} {surroundings : Surroundings} {scope : List String}
variable {before after : World} {context : ScenarioContext} {name : String}

theorem endsScoped_ok (named : Named scope after.context) :
    EndsScoped scope none (.ok ()) after where
  raised name := by simp
  named _ := named

theorem endsScoped_error {exc : Exc}
    (other : ∀ name, exc ≠ .keyError name) :
    EndsScoped scope none (.error exc) after where
  raised name := by
    simp only [Except.error.injEq, other, reduceCtorEq]
  named := nofun

theorem Named.getKeypair
    (named : Named scope context) (name : String) :
    (name ∈ scope →
      ∃ keypair, context.keypairs.get? name = some keypair ∧
        context.getKeypair name = .ok keypair) ∧
      (name ∉ scope → context.getKeypair name = .error (.keyError name)) := by
  rw [ScenarioContext.getKeypair, ← named.introduced]
  cases context.keypairs.get? name with
  | none => exact ⟨nofun, fun _ => rfl⟩
  | some keypair =>
      exact ⟨fun _ => ⟨keypair, rfl, rfl⟩, fun absent => absurd rfl absent⟩

theorem Named.getPubkey
    (named : Named scope context) (name : String) :
    (name ∈ scope →
      ∃ pubkey, context.pubkeys.get? name = some pubkey ∧
        context.getPubkey name = .ok pubkey) ∧
      (name ∉ scope → context.getPubkey name = .error (.keyError name)) := by
  obtain ⟨present, absent⟩ := named.getKeypair name
  have agree := named.agree name
  rw [ScenarioContext.getPubkey]
  constructor
  · intro member
    obtain ⟨keypair, found, _⟩ := present member
    rw [found, Option.map_some] at agree
    rw [agree]
    exact ⟨keypair.pubkey, rfl, rfl⟩
  · intro other
    have noKeypair : context.keypairs.get? name = none := by
      rw [← Option.not_isSome_iff_eq_none, named.introduced]
      exact other
    rw [noKeypair, Option.map_none] at agree
    rw [agree, absent other]
    rfl

theorem Named.enroll
    (named : Named scope context) (name : String) (keypair : Keypair) :
    Named (scope ++ [name]) (context.enroll name keypair) where
  introduced other := by
    rw [ScenarioContext.enroll, OrderedDict.get?_set, List.mem_append,
      List.mem_singleton, ← named.introduced]
    by_cases same : other = name
    · simp [same]
    · simp [same]
  agree other := by
    rw [ScenarioContext.enroll, OrderedDict.get?_set, OrderedDict.get?_set]
    by_cases same : other = name
    · rw [if_pos same, if_pos same, Option.map_some]
    · rw [if_neg same, if_neg same]
      exact named.agree other

/-- Looking up one more name. -/
theorem ends_lookup
    {read : ScenarioContext → Except Exc α} {next : α → Action World Unit}
    {names final : List String}
    (present : name ∈ scope → ∃ value, read before.context = .ok value)
    (absent :
      name ∉ scope → read before.context = .error (.keyError name))
    (rest :
      ∀ value, (next value).Ends before
        (EndsScoped final (firstMissing scope names))) :
    (consult read >>= next).Ends before
      (EndsScoped final (firstMissing scope (name :: names))) := by
  rw [firstMissing, List.find?_cons]
  by_cases member : name ∈ scope
  · obtain ⟨value, found⟩ := present member
    simp only [member, not_true_eq_false, decide_false]
    apply ends_consult_bind
    · intro other reads
      exact rest other
    · intro exc raises
      cases raises.symm.trans found
  · simp only [member, not_false_eq_true, decide_true]
    apply ends_consult_bind
    · intro other reads
      cases reads.symm.trans (absent member)
    · intro exc raises
      cases raises.symm.trans (absent member)
      exact ⟨fun other => by simp, nofun⟩

/-- Asking surroundings that raise no `KeyError`. -/
theorem ends_ask_scoped
    {answer : List Exchange → Except Exc α} {noted : α → Exchange}
    {next : α → Action World Unit}
    (safe :
      ∀ name, answer before.exchanges ≠ .error (.keyError name))
    (rest :
      ∀ value, (next value).Ends (before.note (noted value))
        (EndsScoped scope none)) :
    (ask answer noted >>= next).Ends before (EndsScoped scope none) := by
  apply ends_ask_bind
  · intro value _
    exact rest value
  · intro exc raises
    apply endsScoped_error
    rintro name rfl
    exact safe name raises

variable (safe : surroundings.RaisesNoKeyError)

include safe

theorem ends_awaitSignature_scoped {signature : String}
    {next : Unit → Action World Unit}
    (rest :
      (next ()).Ends (before.note (.confirmed signature))
        (EndsScoped scope none)) :
    (awaitSignature surroundings signature >>= next).Ends before
      (EndsScoped scope none) :=
  ends_ask_scoped (safe.confirmation before.exchanges signature)
    fun _ => rest

theorem ends_airdropTo_scoped {pubkey : Pubkey} {lamports : ℤ}
    (named : Named scope before.context) :
    (airdropTo surroundings pubkey lamports).Ends before
      (EndsScoped scope none) := by
  apply ends_ask_scoped (safe.airdrop _ pubkey lamports)
  intro signature
  apply ends_awaitSignature_scoped safe
  apply Action.ends_modify
  exact endsScoped_ok ⟨named.introduced, named.agree⟩

theorem ends_fund_scoped {lamports : ℤ}
    (named : Named scope before.context) :
    (fund surroundings name lamports).Ends before
      (EndsScoped (scope ++ [name]) none) := by
  apply ends_drawKeypair_bind
  apply Action.ends_modify_bind
  have enrolled := named.enroll name (surroundings.keypair before.exchanges)
  have record (middle : World) (holds : Named (scope ++ [name])
      middle.context) :
      Action.Ends
        (modify fun world => world.update (·.record name lamports)) middle
        (EndsScoped (scope ++ [name]) none) :=
    Action.ends_modify (endsScoped_ok ⟨holds.introduced, holds.agree⟩)
  by_cases positive : 0 < lamports
  · rw [if_pos positive]
    apply Action.Ends.bind (ends_airdropTo_scoped safe enrolled)
    · intro done middle _ airdropped
      exact record middle (airdropped.named rfl)
    · intro exc middle raised
      exact ⟨raised.raised, nofun⟩
  · rw [if_neg positive]
    exact record _ enrolled

theorem ends_transfer_scoped {fromName toName : String} {lamports : ℤ}
    (named : Named scope before.context) :
    (transfer surroundings fromName toName lamports).Ends before
      (EndsScoped scope (firstMissing scope [fromName, toName])) := by
  obtain ⟨sender, noSender⟩ := named.getKeypair fromName
  obtain ⟨recipient, noRecipient⟩ := named.getPubkey toName
  apply ends_lookup (fun member => (sender member).imp fun _ => And.right)
    noSender
  intro keypair
  apply ends_lookup
    (fun member => (recipient member).imp fun _ => And.right) noRecipient
  intro pubkey
  apply ends_ask_scoped (safe.blockhash _)
  intro blockhash
  apply Action.ends_ofExcept_bind
  · intro amount _
    apply ends_ask_scoped (safe.transaction _ _)
    intro signature
    apply ends_awaitSignature_scoped safe
    apply Action.ends_modify
    exact endsScoped_ok ⟨named.introduced, named.agree⟩
  · intro exc raised
    apply endsScoped_error
    rintro missing rfl
    rw [transferLamports] at raised
    split at raised
    · cases raised
    · cases raised

/-- The four balance steps. -/
theorem ends_readBalance_scoped
    {check : ScenarioContext → ℤ → Except Exc Unit}
    (named : Named scope before.context)
    (checks :
      ∀ actual missing,
        check before.context actual ≠ .error (.keyError missing)) :
    (readBalance surroundings name check).Ends before
      (EndsScoped scope (firstMissing scope [name])) := by
  obtain ⟨present, absent⟩ := named.getPubkey name
  apply ends_lookup (fun member => (present member).imp fun _ => And.right)
    absent
  intro pubkey
  apply ends_ask_scoped (safe.balance _ pubkey)
  intro actual
  apply ends_consult_bind
  · intro _ _
    apply Action.ends_modify
    exact endsScoped_ok ⟨named.introduced, named.agree⟩
  · intro exc raised
    apply endsScoped_error
    rintro missing rfl
    exact checks actual missing raised

omit safe in
theorem assertion_ne_keyError
    {condition : Prop} [Decidable condition] {text : String} :
    assertion condition text ≠ .error (.keyError name) := by
  rw [assertion, require]
  split
  · intro same
    cases same
  · intro same
    cases same

omit safe in
theorem waitSlots_raises {count : ℕ} {exc : Exc} {feed after : SlotFeed}
    (raises : (waitSlots count).run.run feed = (.error exc, after)) :
    exc = slotsDidNotAdvance count := by
  have starts :
      (waitSlots count).run.run feed =
        (pollSlots count (feed.slots feed.observed + count)
          (count * 10)).run.run feed.next := rfl
  rw [starts] at raises
  rcases pollSlots_ends count (feed.slots feed.observed + count)
      (count * 10) feed.next with ⟨_, _, ends, _⟩ | ⟨ends, _⟩
  · cases raises.symm.trans ends
  · cases raises.symm.trans ends
    rfl

omit safe in
theorem ends_waitSlots_scoped {count : ℕ}
    (named : Named scope before.context) :
    (onFeed (waitSlots count)).Ends before (EndsScoped scope none) := by
  apply ends_onFeed
  intro outcome feed ended
  cases outcome with
  | ok done => exact endsScoped_ok ⟨named.introduced, named.agree⟩
  | error exc =>
      apply endsScoped_error
      rw [waitSlots_raises ended]
      exact nofun

/-- What any call does to the scope. -/
theorem Call.ends_scoped {call : Call}
    (named : Named scope before.context) (keeps : call.KeepsNames) :
    (call.action surroundings).Ends before
      (EndsScoped (scope ++ call.introduces)
        (firstMissing scope call.uses)) := by
  cases call with
  | fund accountName lamports => exact ends_fund_scoped safe named
  | addKeypair name =>
      apply ends_drawKeypair_bind
      have enrolled := named.enroll name (surroundings.keypair before.exchanges)
      apply Action.ends_modify_bind
      apply Action.ends_modify
      exact endsScoped_ok ⟨enrolled.introduced, enrolled.agree⟩
  | transfer fromName toName lamports =>
      simp only [introduces, List.append_nil]
      exact ends_transfer_scoped safe named
  | assertBalance accountName expected tolerance =>
      simp only [introduces, List.append_nil]
      exact ends_readBalance_scoped safe named fun _ _ =>
        assertion_ne_keyError
  | assertBalanceDecreased accountName minDecrease =>
      simp only [introduces, List.append_nil]
      exact ends_readBalance_scoped safe named fun _ _ =>
        assertion_ne_keyError
  | assertBalanceIncreased accountName minIncrease =>
      simp only [introduces, List.append_nil]
      exact ends_readBalance_scoped safe named fun _ _ =>
        assertion_ne_keyError
  | captureBalance accountName =>
      simp only [introduces, List.append_nil]
      exact ends_readBalance_scoped safe named fun _ _ => nofun
  | waitSlots count =>
      simp only [introduces, List.append_nil]
      exact ends_waitSlots_scoped named
  | custom name action =>
      simp only [introduces, List.append_nil]
      apply (keeps before).mono
      rintro outcome after ⟨keypairs, pubkeys, noKeyError⟩
      refine ⟨?_, fun _ => ⟨?_, ?_⟩⟩
      · intro missing
        simp only [noKeyError, reduceCtorEq, firstMissing, uses,
          List.find?_nil]
      · rw [keypairs]
        exact named.introduced
      · rw [keypairs, pubkeys]
        exact named.agree

end Step

/-! ## Runs -/

/-- What the names in scope say about a run that has completed so many steps,
whether it ended in a `KeyError`, and what it left. -/
structure ScopedRun (calls : List Call) (ended : RunEnd World) : Prop where
  /-- no completed step looked up a missing name -/
  completed :
    ∀ position < ended.scenario.completedSteps.length,
      missingAt calls position = none
  /-- a `KeyError` is the missing name of the step after them -/
  keyError :
    ∀ name, ended.outcome = .error (.keyError name) ↔
      missingAt calls ended.scenario.completedSteps.length = some name
  wellScoped : ended.outcome = .ok () → WellScoped calls
  named :
    ended.outcome = .ok () → Named (scopeOf calls) ended.state.context

section Runs

variable {surroundings : Surroundings} {scope : List String}

/-- `missingAt` for calls that follow others. -/
def missingAfter (scope : List String) (calls : List Call)
    (position : ℕ) : Option String :=
  calls[position]?.bind fun call =>
    firstMissing (scope ++ scopeOf (calls.take position)) call.uses

theorem missingAfter_zero (call : Call) (calls : List Call) :
    missingAfter scope (call :: calls) 0 = firstMissing scope call.uses := by
  simp [missingAfter, scopeOf]

theorem missingAfter_succ (call : Call) (calls : List Call) (position : ℕ) :
    missingAfter scope (call :: calls) (position + 1) =
      missingAfter (scope ++ call.introduces) calls position := by
  simp [missingAfter, scopeOf]

theorem missingAfter_nil (calls : List Call) :
    missingAfter [] calls = missingAt calls := by
  funext position
  simp only [missingAfter, missingAt, List.nil_append]

/-- The induction is on the execution; the names of the context are those of
the calls so far. -/
theorem execution_scoped
    (safe : surroundings.RaisesNoKeyError) {calls : List Call}
    (keep : ∀ call ∈ calls, call.KeepsNames)
    {before final : World} {names : List String}
    {failure : Option (String × Exc)}
    (named : Named scope before.context)
    (execution :
      Execution (calls.map (Call.step surroundings)) before names failure
        final) :
    (∀ position < names.length,
        missingAfter scope calls position = none) ∧
      (∀ key, failure.map Prod.snd = some (.keyError key) ↔
        missingAfter scope calls names.length = some key) ∧
      (failure = none →
        names.length = calls.length ∧
          Named (scope ++ scopeOf calls) final.context) := by
  induction calls generalizing scope before names with
  | nil =>
      cases execution
      refine ⟨?_, ?_, ?_⟩
      · intro position within
        exact absurd within (Nat.not_lt_zero position)
      · intro key
        simp [missingAfter]
      · intro _
        rw [scopeOf, List.flatMap_nil, List.append_nil]
        exact ⟨rfl, named⟩
  | cons call calls inductionHypothesis =>
      have step :=
        Call.ends_scoped safe named (keep call List.mem_cons_self)
      rw [Action.Ends] at step
      cases execution with
      | completed acts later =>
          have acts' :
              (call.action surroundings).run.run before = (.ok (), _) := acts
          rw [acts'] at step
          have nothing : firstMissing scope call.uses = none := by
            rw [← Option.not_isSome_iff_eq_none]
            intro missing
            obtain ⟨name, isMissing⟩ := Option.isSome_iff_exists.mp missing
            cases (step.raised name).mpr isMissing
          obtain ⟨completed, keyError, finished⟩ :=
            inductionHypothesis
              (fun other member => keep other (List.mem_cons_of_mem _ member))
              (step.named rfl) later
          refine ⟨?_, ?_, ?_⟩
          · rw [List.length_cons, Nat.forall_lt_succ_left,
              missingAfter_zero]
            simp only [missingAfter_succ]
            exact ⟨nothing, completed⟩
          · intro key
            rw [List.length_cons, missingAfter_succ]
            exact keyError key
          · intro isNone
            obtain ⟨all, finalNamed⟩ := finished isNone
            rw [scopeOf, List.flatMap_cons, ← List.append_assoc]
            exact ⟨congrArg Nat.succ all, finalNamed⟩
      | raised acts =>
          have acts' :
              (call.action surroundings).run.run before =
                (.error _, final) := acts
          rw [acts'] at step
          refine ⟨?_, ?_, ?_⟩
          · intro position within
            exact absurd within (Nat.not_lt_zero position)
          · intro key
            have raised := step.raised key
            rw [Except.error.injEq] at raised
            rw [List.length_nil, missingAfter_zero, ← raised,
              Option.map_some, Option.some.injEq]
          · intro isNone
            cases isNone

/-- Where no answer and no custom step raises a `KeyError` by itself, the names
in scope decide where a run of the scenario can end in one, and only a well
scoped one completes. -/
theorem scopedRun_scenarioOf
    (surroundings : Surroundings) (name : String) (calls : List Call)
    (feed : SlotFeed)
    (safe : surroundings.RaisesNoKeyError)
    (keep : ∀ call ∈ calls, call.KeepsNames) :
    ScopedRun calls
      ((scenarioOf surroundings name calls).run { feed := feed }) := by
  have fresh : Named [] {} :=
    ⟨fun other => by simp, fun other => by simp⟩
  obtain ⟨names, failure, final, execution, ends⟩ :=
    runSteps_execution (scenarioOf surroundings name calls)
      (scenarioOf surroundings name calls).steps { feed := feed }
  rw [steps_scenarioOf] at execution
  obtain ⟨completed, keyError, finished⟩ :=
    execution_scoped safe keep fresh execution
  rw [missingAfter_nil] at completed keyError
  have recordedNames :
      ((scenarioOf surroundings name calls).run
        { feed := feed }).scenario.completedSteps = names := by
    rw [Scenario.run, ends]
    rfl
  have outcome :
      ((scenarioOf surroundings name calls).run { feed := feed }).outcome =
        failure.elim (.ok ()) fun raised => .error raised.2 := by
    rw [Scenario.run, ends]
  have left :
      ((scenarioOf surroundings name calls).run { feed := feed }).state =
        final := by
    rw [Scenario.run, ends]
  have finishes :
      failure.elim (Except.ok ()) (fun raised => .error raised.2) =
          (.ok () : Except Exc Unit) → failure = none := by
    cases failure with
    | none =>
        intro _
        rfl
    | some raised =>
        intro isOk
        cases isOk
  refine ⟨?_, ?_, ?_, ?_⟩
  · rw [recordedNames]
    exact completed
  · intro key
    rw [recordedNames, outcome, ← keyError]
    cases failure with
    | none => simp
    | some raised => simp
  · rw [outcome]
    intro isOk position
    obtain ⟨all, _⟩ := finished (finishes isOk)
    by_cases within : position < names.length
    · exact completed position within
    · rw [missingAt, List.getElem?_eq_none (by omega), Option.bind_none]
  · rw [outcome, left]
    intro isOk
    exact (finished (finishes isOk)).2

end Runs

/-! ## A scenario in pleasant surroundings -/

/-- The key whose bytes are the number. -/
def numberedKeypair (number : ℕ) : Keypair where
  secret := leBytes 32 number
  pubkey := ⟨leBytes 32 number, length_leBytes 32 number⟩

/-- Every key is new, every request is answered, every transaction is confirmed
at the first poll, and every account holds five sol. -/
def pleasantSurroundings : Surroundings where
  keypair exchanges := numberedKeypair exchanges.length
  requestAirdrop _ _ _ := .ok "5VERv8NMvzbJMEkV8xnrLkEaWRtSz9CosKDYjCJjBRnb"
  getLatestBlockhash _ := .ok "EkSnNWid2cvwEVnVx9aBqawnmiCNiDgp3gUdkDPTKN1N"
  sendTransaction _ _ := .ok "4hXTCkRzt9WyecNzV1XPgCDfGAZzQKNxLXgynz5QDuWW"
  confirmation _ := succeededSchedule
  getBalance _ _ := .ok 5000000000

theorem wait_succeededSchedule (signature : String) :
    waitForConfirmation signature 30 succeededSchedule = .ok () := by
  rw [waitForConfirmation_ok_iff succeededObservation]
  have early : secondsClock.read 0 < 0 + 30 := by
    simp [secondsClock]
  refine ⟨0, .confirmed, early, rfl, by decide, ?_⟩
  intro earlier isBefore
  exact absurd isBefore (Nat.not_lt_zero earlier)

theorem pleasantSurroundings_raisesNoKeyError :
    pleasantSurroundings.RaisesNoKeyError where
  airdrop _ _ _ _ := by simp [pleasantSurroundings]
  blockhash _ _ := by simp [pleasantSurroundings]
  transaction _ _ _ := by simp [pleasantSurroundings]
  confirmation _ signature _ := by
    have confirmed := wait_succeededSchedule signature
    simp [pleasantSurroundings, confirmed]
  balance _ _ _ := by simp [pleasantSurroundings]

/-- The recipient of the second transfer is never introduced. -/
def strayCalls : List Call :=
  [.fund "sender" 5000000000, .addKeypair "recipient",
    .transfer "sender" "recipient" 1000000000,
    .transfer "recipient" "sendr" 1000000000]

theorem scopedRun_strayCalls :
    ScopedRun strayCalls
        ((scenarioOf pleasantSurroundings "stray" strayCalls).run
          { feed := { slots := id } }) ∧
      missingAt strayCalls 3 = some "sendr" := by
  refine ⟨?_, by decide⟩
  apply scopedRun_scenarioOf pleasantSurroundings "stray" strayCalls
    { slots := id } pleasantSurroundings_raisesNoKeyError
  intro call member
  simp only [strayCalls, List.mem_cons, List.not_mem_nil, or_false] at member
  rcases member with rfl | rfl | rfl | rfl <;> exact trivial

end KarstflowTests.Scenarios

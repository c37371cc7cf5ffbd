import Mathlib.Data.Nat.Digits.Defs
import KarstflowTests.Library.Machine
import KarstflowTests.Programs.CrossProgram

/-!
# The transfer proxy

`cpi-proxy` has the system program transfer lamports between its first two
accounts.  It checks neither who signed nor that the third account is the
system program; the runtime and the system program do.  `Authorized` is what
they ask for: a transaction then moves exactly the amount, and otherwise
nothing.

The system program is a parameter (`SystemTransfers`), and so is the runtime's
check of the balances that a transaction leaves.
-/

namespace KarstflowTests.Programs

open KarstflowTests.Library

/-! ## The programs -/

/-- The base58 text of a key. -/
def Pubkey.base58 (key : Pubkey) : String :=
  let zeros := (key.bytes.takeWhile fun byte => byte = 0).length
  let digits := (Nat.digits 58 (beValue key.bytes)).reverse
  String.ofList
    (List.replicate zeros '1' ++
      digits.map fun digit => base58Digits.getD digit '1')

example : systemProgram.base58 = String.ofList (List.replicate 32 '1') := by
  decide +kernel

/-- `system_instruction::transfer` -/
def systemTransferIx (source destination : Pubkey) (lamports : ℕ) :
    Instruction where
  programId := systemProgram
  data := leBytes 4 2 ++ leBytes 8 lamports
  accounts := [⟨source, true, true⟩, ⟨destination, false, true⟩]

def transferLine (source destination : Pubkey) (amount : ℕ) : String :=
  "cpi-proxy: transfer " ++ toString amount ++ " lamports from " ++
    source.base58 ++ " to " ++ destination.base58

/-- `process_instruction` of `cpi-proxy` -/
def cpiProxy : Program := fun _ accounts instructionData invoke =>
  match accounts with
  | source :: destination :: _systemProgram :: _ =>
      if instructionData.length < 8 then do
        msg "cpi-proxy: need 8 bytes for amount"
        throw .invalidInstructionData
      else do
        let amount := leValue (instructionData.take 8)
        msg (transferLine source.pubkey destination.pubkey amount)
        invoke
          (systemTransferIx source.pubkey destination.pubkey amount)
        msg "cpi-proxy: transfer complete"
  | _ => throw .notEnoughAccountKeys

/-! ## What a transaction asks for -/

structure ProxyTransfer where
  source : Pubkey
  destination : Pubkey
  lamports : ℕ

/-- The transfer that an instruction for the proxy asks for. -/
def requested : List AccountMeta → Bytes → Option ProxyTransfer
  | source :: destination :: _ :: _, data =>
      if 8 ≤ data.length then
        some ⟨source.pubkey, destination.pubkey, leValue (data.take 8)⟩
      else
        none
  | _, _ => none

/-- The ledger after a transfer. -/
def ProxyTransfer.moved (asked : ProxyTransfer) (ledger : Ledger) : Ledger :=
  ledger.transfer asked.source asked.destination asked.lamports

def ProxyTransfer.instruction (asked : ProxyTransfer) : Instruction :=
  systemTransferIx asked.source asked.destination asked.lamports

/-- The system program, as far as transfers go: it either moves the lamports,
of which the source has enough, or fails. -/
structure SystemTransfers where
  program : Program
  Accepts : Ledger → ProxyTransfer → Prop
  covered :
    ∀ {ledger asked}, Accepts ledger asked →
      asked.lamports ≤ (ledger asked.source).lamports
  moves :
    ∀ {asked} invoke (world : World), asked.lamports < 256 ^ 8 →
      Accepts world.ledger asked →
        (program systemProgram asked.instruction.accounts
            asked.instruction.data invoke).outcome world =
          (.ok (), { world with ledger := asked.moved world.ledger })
  refuses :
    ∀ {asked} invoke (world : World), asked.lamports < 256 ^ 8 →
      ¬ Accepts world.ledger asked →
        ∃ failure after,
          (program systemProgram asked.instruction.accounts
              asked.instruction.data invoke).outcome world =
            (.error failure, after)

/-- The source signs, both ends are writable, and the system program can be
called and accepts the transfer. -/
structure Permitted (rules : CallRules) (system : SystemTransfers)
    (accounts : List AccountMeta) (ledger : Ledger) (asked : ProxyTransfer) :
    Prop where
  room : 2 ≤ rules.stackHeight
  found : rules.mayCall accounts systemProgram
  signs : isSigner accounts asked.source
  sourceWritable : isWritable accounts asked.source
  destinationWritable : isWritable accounts asked.destination
  accepted : system.Accepts ledger asked

/-- Besides, the runtime accepts the balances that the transfer leaves. -/
structure Authorized (rules : CallRules) (system : SystemTransfers)
    (acceptsBalances : List AccountMeta → Ledger → Ledger → Bool)
    (accounts : List AccountMeta) (ledger : Ledger) (asked : ProxyTransfer) :
    Prop extends Permitted rules system accounts ledger asked where
  balances : acceptsBalances accounts ledger (asked.moved ledger)

/-! ## One transaction -/

section Transaction

variable {rules : CallRules} {system : SystemTransfers}
variable {programId : Pubkey} {accounts : List AccountMeta} {data : Bytes}
variable {ledger : Ledger}

/-- The system program with room for one more program. -/
theorem execute_transfer
    (isSystem : rules.programs systemProgram = some system.program)
    (height : ℕ) (asked : ProxyTransfer) (world : World) :
    ∃ invoke,
      (rules.execute (height + 1) asked.instruction).outcome world =
        (system.program systemProgram asked.instruction.accounts
          asked.instruction.data invoke).outcome (world.returning none) := by
  have isCalled :
      rules.programs asked.instruction.programId = some system.program :=
    isSystem
  rw [CallRules.execute, Execution.outcome_modify_bind, isCalled]
  exact ⟨_, rfl⟩

theorem requested_eq_some_iff {asked : ProxyTransfer} :
    requested accounts data = some asked ↔
      ∃ source destination third others,
        accounts = source :: destination :: third :: others ∧
          8 ≤ data.length ∧
            asked =
              ⟨source.pubkey, destination.pubkey, leValue (data.take 8)⟩ := by
  constructor
  · intro isAsked
    match accounts with
    | source :: destination :: third :: others =>
        rw [requested] at isAsked
        split at isAsked
        · next long =>
            cases isAsked
            exact ⟨source, destination, third, others, rfl, long, rfl⟩
        · cases isAsked
    | [] => cases isAsked
    | [_] => cases isAsked
    | [_, _] => cases isAsked
  · rintro ⟨source, destination, third, others, rfl, long, rfl⟩
    rw [requested, if_pos long]

/-- Without a transfer to ask for, the proxy fails. -/
theorem outcome_cpiProxy_of_none (none : requested accounts data = none)
    (invoke : Instruction → Execution Unit) (world : World) :
    ∃ failure after,
      (cpiProxy programId accounts data invoke).outcome world =
        (.error failure, after) := by
  match accounts with
  | source :: destination :: third :: others =>
      rw [requested] at none
      split at none
      · cases none
      · next short =>
          rw [cpiProxy, if_pos (Nat.lt_of_not_le short)]
          exact ⟨_, _, rfl⟩
  | [] => exact ⟨_, _, rfl⟩
  | [_] => exact ⟨_, _, rfl⟩
  | [_, _] => exact ⟨_, _, rfl⟩

theorem outcome_cpiProxy_of_some {asked : ProxyTransfer}
    (isAsked : requested accounts data = some asked)
    (invoke : Instruction → Execution Unit) (world : World) :
    (cpiProxy programId accounts data invoke).outcome world =
      match
        (invoke asked.instruction).outcome
          (world.withLogs
            [transferLine asked.source asked.destination
              asked.lamports]) with
      | (.ok (), after) =>
          (.ok (), after.withLogs ["cpi-proxy: transfer complete"])
      | (.error failure, after) => (.error failure, after) := by
  obtain ⟨source, destination, third, others, rfl, long, rfl⟩ :=
    requested_eq_some_iff.mp isAsked
  rw [cpiProxy, if_neg (Nat.not_lt_of_le long)]
  simp only [msg, Execution.outcome_modify_bind, World.withLogs,
    ProxyTransfer.instruction]
  rw [Execution.outcome_bind]
  generalize Execution.outcome (invoke _) _ = called
  obtain ⟨result, after⟩ := called
  cases result <;> rfl

theorem execute_cpiProxy_of_none
    (isProxy : rules.programs programId = some cpiProxy)
    (none : requested accounts data = none) (height : ℕ) (world : World) :
    ∃ failure after,
      (rules.execute (height + 1) ⟨programId, data, accounts⟩).outcome world =
        (.error failure, after) := by
  rw [CallRules.execute, Execution.outcome_modify_bind, isProxy]
  exact outcome_cpiProxy_of_none none _ _

/-- The proxy with room for one more program. -/
theorem execute_cpiProxy
    (isProxy : rules.programs programId = some cpiProxy)
    {asked : ProxyTransfer} (isAsked : requested accounts data = some asked)
    (height : ℕ) (world : World) :
    (rules.execute (height + 1) ⟨programId, data, accounts⟩).outcome world =
      let started :=
        (world.withLogs
          [transferLine asked.source asked.destination
            asked.lamports]).returning none
      if rules.mayCall accounts systemProgram then
        if isWritable accounts asked.source ∧ isSigner accounts asked.source ∧
            isWritable accounts asked.destination then
          match (rules.execute height asked.instruction).outcome
              started with
          | (.ok (), after) =>
              (.ok (), after.withLogs ["cpi-proxy: transfer complete"])
          | (.error failure, after) => (.error failure, after)
        else
          (.error .privilegeEscalation, started)
      else
        (.error .missingAccount, started) := by
  have ownKeys :
      ∀ account ∈ asked.instruction.accounts,
        account.pubkey ∈ accounts.map AccountMeta.pubkey := by
    obtain ⟨source, destination, third, others, rfl, _, rfl⟩ :=
      requested_eq_some_iff.mp isAsked
    simp [ProxyTransfer.instruction, systemTransferIx]
  have granted :
      (∀ account ∈ asked.instruction.accounts, Grants accounts account) ↔
        isWritable accounts asked.source ∧ isSigner accounts asked.source ∧
          isWritable accounts asked.destination := by
    simp [ProxyTransfer.instruction, systemTransferIx, Grants, and_assoc]
  rw [CallRules.execute, Execution.outcome_modify_bind, isProxy]
  dsimp only
  rw [outcome_cpiProxy_of_some isAsked, Execution.outcome_check_bind]
  have isSystem : asked.instruction.programId = systemProgram := rfl
  rw [isSystem]
  by_cases found : rules.mayCall accounts systemProgram
  · rw [if_pos found, if_pos found, Execution.outcome_check_bind,
      if_pos ownKeys, Execution.outcome_check_bind]
    by_cases privileged :
        isWritable accounts asked.source ∧ isSigner accounts asked.source ∧
          isWritable accounts asked.destination
    · rw [if_pos (granted.mpr privileged), if_pos privileged]
      rfl
    · rw [if_neg (fun all => privileged (granted.mp all)),
        if_neg privileged]
      rfl
  · rw [if_neg found, if_neg found]
    rfl

/-- How a transaction for the proxy ends: with the transfer that it asks for,
if that is allowed, and otherwise with the ledger as it was. -/
inductive ProxyOutcome (accounts : List AccountMeta) (data : Bytes)
    (ledger : Ledger) (Allowed : ProxyTransfer → Prop) :
    Except CallFailure Unit × World → Prop where
  | moved {asked : ProxyTransfer} {world : World}
      (isAsked : requested accounts data = some asked)
      (allowed : Allowed asked)
      (after : world.ledger = asked.moved ledger) :
      ProxyOutcome accounts data ledger Allowed (.ok (), world)
  | refused {failure : CallFailure} {world : World}
      (forbidden :
        ∀ asked, requested accounts data = some asked → ¬ Allowed asked)
      (unchanged : world.ledger = ledger) :
      ProxyOutcome accounts data ledger Allowed (.error failure, world)

/-- A failed execution is rolled back. -/
theorem refused_of_error {instruction : Instruction}
    {Allowed : ProxyTransfer → Prop} {failure : CallFailure} {after : World}
    (fails :
      (rules.execute rules.stackHeight instruction).outcome
        { ledger, logs := [], returnData := none } = (.error failure, after))
    (forbidden :
      ∀ asked, requested accounts data = some asked → ¬ Allowed asked) :
    ProxyOutcome accounts data ledger Allowed
      (rules.processTransaction instruction ledger) := by
  simp only [CallRules.processTransaction, fails]
  exact .refused forbidden rfl

/-- What the system program is called with. -/
def ProxyTransfer.begun (asked : ProxyTransfer) (ledger : Ledger) : World where
  ledger := ledger
  logs := [transferLine asked.source asked.destination asked.lamports]
  returnData := none

theorem lamports_lt {asked : ProxyTransfer}
    (isAsked : requested accounts data = some asked) :
    asked.lamports < 256 ^ 8 := by
  obtain ⟨_, _, _, _, _, long, rfl⟩ := requested_eq_some_iff.mp isAsked
  have bounded := leValue_lt (data.take 8)
  rwa [List.length_take, min_eq_left long] at bounded

/-- The programs move the amount if it is permitted, and nothing otherwise. -/
theorem processTransaction_cpiProxy
    (isProxy : rules.programs programId = some cpiProxy)
    (isSystem : rules.programs systemProgram = some system.program)
    (accounts : List AccountMeta) (data : Bytes) (ledger : Ledger) :
    ProxyOutcome accounts data ledger
      (Permitted rules system accounts ledger)
      (rules.processTransaction ⟨programId, data, accounts⟩ ledger) := by
  rcases isHeight : rules.stackHeight with _ | height
  · refine refused_of_error (by rw [isHeight]; rfl) ?_
    intro asked _ permitted
    have room := permitted.room
    omega
  rcases isAsked : requested accounts data with _ | asked
  · obtain ⟨failure, after, fails⟩ :=
      execute_cpiProxy_of_none isProxy isAsked height
        { ledger, logs := [], returnData := none }
    refine refused_of_error (by rw [isHeight]; exact fails) ?_
    intro asked present
    rw [isAsked] at present
    cases present
  have only {other : ProxyTransfer}
      (isOther : requested accounts data = some other) : other = asked :=
    Option.some.inj (isOther.symm.trans isAsked)
  have executed :=
    execute_cpiProxy isProxy isAsked height
      { ledger, logs := [], returnData := none }
  rw [← isHeight] at executed
  by_cases found : rules.mayCall accounts systemProgram
  · by_cases privileged :
        isWritable accounts asked.source ∧ isSigner accounts asked.source ∧
          isWritable accounts asked.destination
    · simp only [if_pos found, if_pos privileged] at executed
      rcases height with _ | height
      · refine refused_of_error executed ?_
        intro other _ permitted
        have room := permitted.room
        omega
      · obtain ⟨invoke, called⟩ :=
          execute_transfer isSystem height asked (asked.begun ledger)
        rw [ProxyTransfer.begun] at called
        simp only [World.returning, World.withLogs, List.nil_append, called]
          at executed
        by_cases accepted : system.Accepts ledger asked
        · rw [system.moves invoke _ (lamports_lt isAsked) accepted] at executed
          rw [CallRules.processTransaction, executed]
          exact .moved isAsked
            ⟨by omega, found, privileged.2.1, privileged.1, privileged.2.2,
              accepted⟩ rfl
        · obtain ⟨failure, after, fails⟩ :=
            system.refuses invoke (asked.begun ledger) (lamports_lt isAsked)
              accepted
          rw [ProxyTransfer.begun] at fails
          rw [fails] at executed
          refine refused_of_error executed ?_
          intro other isOther permitted
          cases only isOther
          exact accepted permitted.accepted
    · simp only [if_pos found, if_neg privileged] at executed
      refine refused_of_error executed ?_
      intro other isOther permitted
      cases only isOther
      exact privileged ⟨permitted.sourceWritable, permitted.signs,
        permitted.destinationWritable⟩
  · simp only [if_neg found] at executed
    refine refused_of_error executed ?_
    intro other _ permitted
    exact found permitted.found

/-- The runtime may still refuse the balances. -/
theorem settleTransaction_cpiProxy
    {acceptsBalances : List AccountMeta → Ledger → Ledger → Bool}
    (isProxy : rules.programs programId = some cpiProxy)
    (isSystem : rules.programs systemProgram = some system.program)
    (accounts : List AccountMeta) (data : Bytes) (ledger : Ledger) :
    ProxyOutcome accounts data ledger
      (Authorized rules system acceptsBalances accounts ledger)
      (rules.settleTransaction acceptsBalances ⟨programId, data, accounts⟩
        ledger) := by
  have processed :=
    processTransaction_cpiProxy isProxy isSystem accounts data ledger
  rw [CallRules.settleTransaction]
  generalize rules.processTransaction _ _ = ended at processed
  cases processed with
  | @moved asked world isAsked permitted after =>
      dsimp only
      rw [after]
      split
      · next balances =>
          exact .moved isAsked ⟨permitted, balances⟩ after
      · next broken =>
          refine .refused ?_ rfl
          intro other isOther authorized
          rw [isAsked] at isOther
          cases isOther
          exact broken authorized.balances
  | refused forbidden unchanged =>
      refine .refused ?_ unchanged
      intro asked isAsked authorized
      exact forbidden asked isAsked authorized.toPermitted

end Transaction

/-! ## Runs -/

/-- A transfer that went through, and the accounts it was asked with. -/
structure Settled where
  accounts : List AccountMeta
  transfer : ProxyTransfer

structure ProxyState where
  ledger : Ledger
  settled : List Settled

/-- One transaction for the proxy after the other. -/
def proxyMachine (rules : CallRules)
    (acceptsBalances : List AccountMeta → Ledger → Ledger → Bool)
    (programId : Pubkey) (start : Ledger) :
    Machine ProxyState (List AccountMeta × Bytes) where
  initial := ⟨start, []⟩
  step state asked :=
    let processed :=
      rules.settleTransaction acceptsBalances ⟨programId, asked.2, asked.1⟩
        state.ledger
    some
      { ledger := processed.2.ledger
        settled :=
          match processed.1, requested asked.1 asked.2 with
          | .ok (), some transfer => state.settled ++ [⟨asked.1, transfer⟩]
          | _, _ => state.settled }

/-- The lamports that left an account. -/
def paidBy (settled : List Settled) (key : Pubkey) : ℕ :=
  (settled.map fun entry =>
    if entry.transfer.source = key then entry.transfer.lamports else 0).sum

/-- The lamports that came to an account. -/
def paidTo (settled : List Settled) (key : Pubkey) : ℕ :=
  (settled.map fun entry =>
    if entry.transfer.destination = key then entry.transfer.lamports
    else 0).sum

/-- Every lamport is accounted for by a transfer that its source signed. -/
structure Accounted (start : Ledger) (state : ProxyState) : Prop where
  balance :
    ∀ key, (state.ledger key).lamports + paidBy state.settled key =
      (start key).lamports + paidTo state.settled key
  others :
    ∀ key, { state.ledger key with lamports := (start key).lamports } =
      start key
  signed :
    ∀ entry ∈ state.settled,
      isSigner entry.accounts entry.transfer.source ∧
        isWritable entry.accounts entry.transfer.source ∧
          isWritable entry.accounts entry.transfer.destination

section Runs

variable {rules : CallRules} {system : SystemTransfers}
variable {acceptsBalances : List AccountMeta → Ledger → Ledger → Bool}
variable {programId : Pubkey} {start : Ledger} {state : ProxyState}

theorem Ledger.setLamports_apply (ledger : Ledger) (changed key : Pubkey)
    (lamports : ℕ) :
    ledger.setLamports changed lamports key =
      if key = changed then { ledger key with lamports } else ledger key := by
  by_cases same : key = changed
  · rw [same, setLamports, Function.update_self, if_pos rfl]
  · rw [setLamports, Function.update_of_ne same, if_neg same]

/-- A covered transfer takes the amount from one account and gives it to the
other. -/
theorem Ledger.transfer_lamports {ledger : Ledger} {source : Pubkey}
    {lamports : ℕ} (covered : lamports ≤ (ledger source).lamports)
    (destination key : Pubkey) :
    (ledger.transfer source destination lamports key).lamports +
        (if source = key then lamports else 0) =
      (ledger key).lamports +
        if destination = key then lamports else 0 := by
  simp only [transfer, setLamports_apply]
  by_cases isSource : source = key
  · subst isSource
    by_cases isDestination : destination = source
    · subst isDestination
      simp
      omega
    · simp [isDestination, Ne.symm isDestination]
      omega
  · by_cases isDestination : destination = key
    · subst isDestination
      simp [isSource, Ne.symm isSource]
    · simp [isSource, isDestination, Ne.symm isSource, Ne.symm isDestination]

theorem Ledger.transfer_others (ledger : Ledger)
    (source destination key : Pubkey) (lamports value : ℕ) :
    { ledger.transfer source destination lamports key with
      lamports := value } =
        ({ ledger key with lamports := value } : Account) := by
  simp only [transfer, setLamports_apply]
  split <;> split <;> simp_all

theorem Accounted.settle {ledger : Ledger} {settled : List Settled}
    (accounted : Accounted start ⟨ledger, settled⟩) (entry : Settled)
    (covered :
      entry.transfer.lamports ≤ (ledger entry.transfer.source).lamports)
    (signed :
      isSigner entry.accounts entry.transfer.source ∧
        isWritable entry.accounts entry.transfer.source ∧
          isWritable entry.accounts entry.transfer.destination) :
    Accounted start
      ⟨entry.transfer.moved ledger, settled ++ [entry]⟩ where
  balance key := by
    have before := accounted.balance key
    have moved :=
      Ledger.transfer_lamports covered entry.transfer.destination key
    simp only [paidBy, paidTo, ProxyTransfer.moved, List.map_append,
      List.map_singleton, List.sum_append, List.sum_singleton] at before ⊢
    omega
  others key := by
    rw [ProxyTransfer.moved, Ledger.transfer_others]
    exact accounted.others key
  signed other member := by
    rcases List.mem_append.mp member with before | isLast
    · exact accounted.signed other before
    · rw [List.mem_singleton.mp isLast]
      exact signed

/-- Over any run of transactions, whatever they ask for and whether or not
they succeed. -/
theorem accounted_of_reachable
    (isProxy : rules.programs programId = some cpiProxy)
    (isSystem : rules.programs systemProgram = some system.program)
    (reached :
      (proxyMachine rules acceptsBalances programId start).Reachable state) :
    Accounted start state := by
  apply Machine.invariant_of_step _ _ reached
  · exact ⟨fun _ => rfl, fun _ => rfl, nofun⟩
  · intro source target label _ accounted _ taken
    obtain ⟨accounts, data⟩ := label
    have outcome : ProxyOutcome accounts data source.ledger
        (Authorized rules system acceptsBalances accounts source.ledger) _ :=
      settleTransaction_cpiProxy isProxy isSystem accounts data source.ledger
    simp only [proxyMachine, Option.some.injEq] at taken
    subst taken
    generalize rules.settleTransaction _ _ _ = settled at outcome
    cases outcome with
    | refused _ unchanged =>
        dsimp only
        rw [unchanged]
        exact accounted
    | @moved asked world isAsked authorized after =>
        have grown :
            Accounted start
              ⟨asked.moved source.ledger,
                source.settled ++ [⟨accounts, asked⟩]⟩ :=
          accounted.settle ⟨accounts, asked⟩
            (system.covered authorized.accepted)
            ⟨authorized.signs, authorized.sourceWritable,
              authorized.destinationWritable⟩
        simp only [isAsked, after]
        exact grown

/-- After any run every lamport is accounted for, and the next transaction
moves what it asks for exactly if it is authorized. -/
theorem proxy_safe
    (isProxy : rules.programs programId = some cpiProxy)
    (isSystem : rules.programs systemProgram = some system.program)
    (reached :
      (proxyMachine rules acceptsBalances programId start).Reachable state) :
    Accounted start state ∧
      ∀ accounts data,
        ProxyOutcome accounts data state.ledger
          (Authorized rules system acceptsBalances accounts state.ledger)
          (rules.settleTransaction acceptsBalances
            ⟨programId, data, accounts⟩ state.ledger) :=
  ⟨accounted_of_reachable isProxy isSystem reached, fun accounts data =>
    settleTransaction_cpiProxy isProxy isSystem accounts data state.ledger⟩

end Runs

/-! ## A system program

Transfers as they are documented: the source signs, has no data, covers the
amount and belongs to the system program.
-/

/-- A u32 discriminant and the u64 lamports. -/
def decodeTransfer (data : Bytes) : Option ℕ :=
  (readLe 4 data).bind fun (discriminant, data) =>
    if discriminant = 2 then (readLe 8 data).map Prod.fst else none

def systemTransfers : Program := fun _ accounts data _ =>
  match decodeTransfer data, accounts with
  | some lamports, source :: destination :: _ => do
      Execution.check (isSigner accounts source.pubkey)
        .missingRequiredSignature
      let world ← get
      match transfer world.ledger source.pubkey destination.pubkey
          lamports with
      | .ok after => set { world with ledger := after }
      | .error error => throw (.system error)
  | some _, _ => throw .notEnoughAccountKeys
  | none, _ => throw .invalidInstructionData

section System

variable {ledger : Ledger}

theorem decodeTransfer_systemTransferIx (source destination : Pubkey)
    {lamports : ℕ} (fits : lamports < 256 ^ 8) :
    decodeTransfer (systemTransferIx source destination lamports).data =
      some lamports := by
  have discriminant : 2 < 256 ^ 4 := by decide
  have payload :
      readLe 8 (leBytes 8 lamports ++ []) = some (lamports, []) :=
    readLe_leBytes_append fits []
  rw [List.append_nil] at payload
  rw [decodeTransfer, systemTransferIx, readLe_leBytes_append discriminant,
    Option.bind_some]
  simp only [if_true, payload, Option.map_some]

theorem transfer_eq_ok_iff {source destination : Pubkey} {lamports : ℕ}
    {after : Ledger} :
    transfer ledger source destination lamports = .ok after ↔
      ((ledger source).data = [] ∧ lamports ≤ (ledger source).lamports ∧
        (lamports = 0 ∨ (ledger source).owner = systemProgram)) ∧
          ledger.transfer source destination lamports = after := by
  simp only [transfer, bind_eq_ok_iff, require_eq_ok_iff, pure, Except.pure,
    Except.ok.injEq]
  constructor
  · rintro ⟨_, noData, _, covered, _, owned, same⟩
    exact ⟨⟨noData, covered, owned⟩, same⟩
  · rintro ⟨⟨noData, covered, owned⟩, same⟩
    exact ⟨(), noData, (), covered, (), owned, same⟩

theorem outcome_systemTransfers {asked : ProxyTransfer}
    (fits : asked.lamports < 256 ^ 8)
    (invoke : Instruction → Execution Unit) (world : World) :
    (systemTransfers systemProgram asked.instruction.accounts
        asked.instruction.data invoke).outcome world =
      match
        transfer world.ledger asked.source asked.destination
          asked.lamports with
      | .ok after => (.ok (), { world with ledger := after })
      | .error error => (.error (.system error), world) := by
  have decoded :=
    decodeTransfer_systemTransferIx asked.source asked.destination fits
  have signs : isSigner asked.instruction.accounts asked.source := by
    simp [ProxyTransfer.instruction, systemTransferIx, isSigner]
  simp only [ProxyTransfer.instruction, systemTransferIx] at decoded signs ⊢
  simp only [systemTransfers, decoded]
  rw [Execution.outcome_check_bind, if_pos signs, Execution.outcome_get_bind]
  cases transfer world.ledger asked.source asked.destination
      asked.lamports <;> rfl

end System

def documentedTransfers : SystemTransfers where
  program := systemTransfers
  Accepts ledger asked :=
    (ledger asked.source).data = [] ∧
      asked.lamports ≤ (ledger asked.source).lamports ∧
        (asked.lamports = 0 ∨ (ledger asked.source).owner = systemProgram)
  covered accepted := accepted.2.1
  moves {asked} invoke world fits accepted := by
    have transfers :
        transfer world.ledger asked.source asked.destination
            asked.lamports = .ok (asked.moved world.ledger) :=
      transfer_eq_ok_iff.mpr ⟨accepted, rfl⟩
    rw [outcome_systemTransfers fits, transfers]
  refuses {asked} invoke world fits refused := by
    rw [outcome_systemTransfers fits]
    cases transfers : transfer world.ledger asked.source asked.destination
        asked.lamports with
    | ok after => exact absurd (transfer_eq_ok_iff.mp transfers).1 refused
    | error error => exact ⟨_, _, rfl⟩

/-! A transfer, and one without a signature. -/

def proxyProgram : Pubkey := ⟨List.replicate 32 8, List.length_replicate⟩

def proxyPayer : Pubkey := ⟨List.replicate 32 5, List.length_replicate⟩

def proxyPayee : Pubkey := ⟨List.replicate 32 6, List.length_replicate⟩

def proxyRules : CallRules where
  programs key :=
    if key = systemProgram then some systemTransfers else some cpiProxy
  stackHeight := 5
  mayCall _ _ := true

/-- No account may be left with less than the rent of an empty one. -/
def coversRent (accounts : List AccountMeta) (_ after : Ledger) : Bool :=
  accounts.all fun account =>
    !account.isWritable || (after account.pubkey).lamports = 0 ||
      890880 ≤ (after account.pubkey).lamports

def fundedLedger : Ledger := fun _ => ⟨systemProgram, 1000000, [], false⟩

def proxyAccounts (signs : Bool) : List AccountMeta :=
  [⟨proxyPayer, signs, true⟩, ⟨proxyPayee, false, true⟩,
    ⟨systemProgram, false, false⟩]

theorem proxy_safe_unsigned :
    let machine :=
      proxyMachine proxyRules coversRent proxyProgram fundedLedger
    ∃ state,
      machine.run machine.initial
          [(proxyAccounts true, leBytes 8 300),
            (proxyAccounts false, leBytes 8 300)] = some state ∧
        (state.ledger proxyPayer).lamports = 999700 ∧
        Accounted fundedLedger state := by
  intro machine
  obtain ⟨state, ran, moved⟩ :
      ∃ state,
        machine.run machine.initial
            [(proxyAccounts true, leBytes 8 300),
              (proxyAccounts false, leBytes 8 300)] = some state ∧
          (state.ledger proxyPayer).lamports = 999700 :=
    ⟨_, rfl, by decide +kernel⟩
  have reached : machine.Reachable state :=
    Machine.reachable_of_run .initial ran
  have isSystem :
      proxyRules.programs systemProgram = some documentedTransfers.program :=
    rfl
  exact ⟨state, ran, moved, (proxy_safe rfl isSystem reached).1⟩

end KarstflowTests.Programs

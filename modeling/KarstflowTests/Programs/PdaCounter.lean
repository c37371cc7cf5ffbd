import KarstflowTests.Programs.Runtime

/-!
# The PDA counter program

The program creates an account at an address that it derives from a seed, and
counts in it.  A ledger is the memory of the accounts it was given; `execute`
is one instruction under the runtime, which refuses writes to accounts that the
program does not own or may not write.
-/

namespace KarstflowTests.Programs.PdaCounter

open KarstflowTests.Library

/-! ## The program -/

inductive ProgramError where
  | invalidInstructionData
  | invalidSeeds
  | notEnoughAccountKeys
  | invoke (error : InstructionError)
  deriving DecidableEq

/-- How an instruction stops without a result. -/
inductive Stop where
  | error (error : ProgramError)
  | panicked
  deriving DecidableEq

/-- The log messages of the successful instructions. -/
inductive Message where
  | initialized (pda : Pubkey) (bump : UInt8)
  | incremented (counter : ℕ)
  | value (counter : ℕ)
  deriving DecidableEq

def nextAccountInfo :
    List AccountMeta → Except Stop (AccountMeta × List AccountMeta)
  | [] => .error (.error .notEnoughAccountKeys)
  | account :: accounts => .ok (account, accounts)

/-- `u64::from_le_bytes(data[..8])` -/
def readU64 (data : Bytes) : Except Stop ℕ :=
  match readLe 8 data with
  | some (value, _) => .ok value
  | none => .error .panicked

/-- `data[..8].copy_from_slice(&value.to_le_bytes())` -/
def writeU64 (data : Bytes) (value : ℕ) : Except Stop Bytes := do
  require (8 ≤ data.length) .panicked
  return splice data 0 (leBytes 8 value)

section Program

variable (runtime : Runtime) (programId : Pubkey)

def findProgramAddress (seed : Bytes) : Except Stop (Pubkey × UInt8) :=
  match runtime.findProgramAddress [seed] programId with
  | some found => .ok found
  | none => .error .panicked

/-- The account the program asks the system program for. -/
def counterAccount (payer pda : Pubkey) : CreateAccountParams where
  fromPubkey := payer
  toPubkey := pda
  lamports := runtime.minimumBalance 8
  space := 8
  owner := programId

def initializeCounter (accounts : List AccountMeta) (instructionData : Bytes)
    (ledger : Ledger) : Except Stop (Ledger × Message) := do
  let (payer, accountsIter) ← nextAccountInfo accounts
  let (pdaAccount, accountsIter) ← nextAccountInfo accountsIter
  let _systemProgram ← nextAccountInfo accountsIter
  require (2 ≤ instructionData.length) (.error .invalidInstructionData)
  let seedLen := (instructionData.getD 1 0).toNat
  require (2 + seedLen ≤ instructionData.length)
    (.error .invalidInstructionData)
  let seed := (instructionData.drop 2).take seedLen
  let (expectedPda, bump) ← findProgramAddress runtime programId seed
  require (expectedPda = pdaAccount.pubkey) (.error .invalidSeeds)
  let created ←
    (invokeSigned runtime programId accounts
      (counterAccount runtime programId payer.pubkey pdaAccount.pubkey)
      [[seed] ++ [[bump]]] ledger).mapError fun error =>
        .error (.invoke error)
  -- Initialize counter to 0
  let data ← writeU64 (created pdaAccount.pubkey).data 0
  return (created.setData pdaAccount.pubkey data,
    .initialized pdaAccount.pubkey bump)

def increment (accounts : List AccountMeta) (ledger : Ledger) :
    Except Stop (Ledger × Message) := do
  let (pdaAccount, _) ← nextAccountInfo accounts
  let counter ← readU64 (ledger pdaAccount.pubkey).data
  -- the workspace sets no overflow checks
  let counter := (counter + 1) % 2 ^ 64
  let data ← writeU64 (ledger pdaAccount.pubkey).data counter
  return (ledger.setData pdaAccount.pubkey data, .incremented counter)

def readCounter (accounts : List AccountMeta) (ledger : Ledger) :
    Except Stop (Ledger × Message) := do
  let (pdaAccount, _) ← nextAccountInfo accounts
  let counter ← readU64 (ledger pdaAccount.pubkey).data
  return (ledger, .value counter)

def processInstruction (accounts : List AccountMeta)
    (instructionData : Bytes) (ledger : Ledger) :
    Except Stop (Ledger × Message) :=
  match instructionData with
  | [] => .error (.error .invalidInstructionData)
  | discriminant :: _ =>
      match discriminant.toNat with
      | 0 =>
          initializeCounter runtime programId accounts instructionData ledger
      | 1 => increment accounts ledger
      | 2 => readCounter accounts ledger
      | _ => .error (.error .invalidInstructionData)

/-! ## Under the runtime -/

inductive Failure where
  | stopped (stop : Stop)
  | modifiedData
  deriving DecidableEq

/-- Data changes only in writable accounts of the program. -/
def MayWrite (accounts : List AccountMeta) (before after : Ledger) : Prop :=
  ∀ account ∈ accounts,
    (after account.pubkey).data ≠ (before account.pubkey).data →
      (after account.pubkey).owner = programId ∧
        isWritable accounts account.pubkey = true

instance (accounts : List AccountMeta) (before after : Ledger) :
    Decidable (MayWrite programId accounts before after) :=
  inferInstanceAs (Decidable (∀ account ∈ accounts, _))

def execute (accounts : List AccountMeta) (instructionData : Bytes)
    (ledger : Ledger) : Except Failure (Ledger × Message) := do
  let (after, message) ←
    (processInstruction runtime programId accounts instructionData
      ledger).mapError .stopped
  require (MayWrite programId accounts ledger after) .modifiedData
  return (after, message)

end Program

/-! ## What an instruction is addressed to -/

inductive Command where
  | create
  | increment
  | read
  deriving DecidableEq

def commandOf : Bytes → Option Command
  | [] => none
  | discriminant :: _ =>
      match discriminant.toNat with
      | 0 => some .create
      | 1 => some .increment
      | 2 => some .read
      | _ => none

/-- The command of an instruction and the address of its PDA account. -/
def addressed (accounts : List AccountMeta) (instructionData : Bytes) :
    Option (Command × Pubkey) :=
  match commandOf instructionData, accounts with
  | some .create, _ :: pda :: _ => some (.create, pda.pubkey)
  | some .increment, pda :: _ => some (.increment, pda.pubkey)
  | some .read, pda :: _ => some (.read, pda.pubkey)
  | _, _ => none

/-- What a successful instruction does. -/
inductive Effect (runtime : Runtime) (programId : Pubkey)
    (accounts : List AccountMeta) (instructionData : Bytes)
    (ledger : Ledger) : Ledger → Prop where
  | create (payer pda : Pubkey) (created : Ledger)
      (addresses :
        addressed accounts instructionData = some (.create, pda))
      (signs : isSigner accounts payer = true ∨ payer = pda)
      (creates :
        Created ledger (counterAccount runtime programId payer pda)
          created) :
      Effect runtime programId accounts instructionData ledger
        (created.setData pda (leBytes 8 0))
  | increment (pda : Pubkey)
      (addresses :
        addressed accounts instructionData = some (.increment, pda)) :
      Effect runtime programId accounts instructionData ledger
        (ledger.setData pda
          (splice (ledger pda).data 0
            (leBytes 8
              ((leValue ((ledger pda).data.take 8) + 1) % 2 ^ 64))))
  | read (pda : Pubkey)
      (addresses : addressed accounts instructionData = some (.read, pda)) :
      Effect runtime programId accounts instructionData ledger ledger

section Effects

variable {runtime : Runtime} {programId : Pubkey}
variable {accounts : List AccountMeta} {instructionData : Bytes}
variable {ledger after : Ledger} {message : Message}

theorem readU64_ok {data : Bytes} {value : ℕ}
    (reads : readU64 data = .ok value) :
    8 ≤ data.length ∧ value = leValue (data.take 8) := by
  by_cases long : 8 ≤ data.length
  · simp only [readU64, readLe, if_pos long, Except.ok.injEq] at reads
    exact ⟨long, reads.symm⟩
  · simp only [readU64, readLe, if_neg long, reduceCtorEq] at reads

theorem writeU64_ok {data written : Bytes} {value : ℕ}
    (writes : writeU64 data value = .ok written) :
    8 ≤ data.length ∧ written = splice data 0 (leBytes 8 value) := by
  simp only [writeU64, bind_eq_ok_iff, require_eq_ok_iff, pure,
    Except.pure, Except.ok.injEq] at writes
  obtain ⟨_, long, rfl⟩ := writes
  exact ⟨long, rfl⟩

theorem nextAccountInfo_ok {account : AccountMeta}
    {accountsIter : List AccountMeta}
    (next : nextAccountInfo accounts = .ok (account, accountsIter)) :
    accounts = account :: accountsIter := by
  cases accounts with
  | nil => cases next
  | cons first rest =>
      cases next
      rfl

theorem effect_of_increment
    (command : commandOf instructionData = some .increment)
    (increments : increment accounts ledger = .ok (after, message)) :
    Effect runtime programId accounts instructionData ledger after := by
  simp only [increment, bind_eq_ok_iff, pure, Except.pure,
    Except.ok.injEq, Prod.mk.injEq] at increments
  obtain ⟨⟨pda, accountsIter⟩, next, counter, reads, data, writes,
    rfl, -⟩ := increments
  obtain ⟨-, rfl⟩ := readU64_ok reads
  obtain ⟨-, rfl⟩ := writeU64_ok writes
  cases nextAccountInfo_ok next
  exact .increment pda.pubkey (by simp only [addressed, command])

theorem effect_of_readCounter
    (command : commandOf instructionData = some .read)
    (reads : readCounter accounts ledger = .ok (after, message)) :
    Effect runtime programId accounts instructionData ledger after := by
  simp only [readCounter, bind_eq_ok_iff, pure, Except.pure,
    Except.ok.injEq, Prod.mk.injEq] at reads
  obtain ⟨⟨pda, accountsIter⟩, next, counter, -, rfl, -⟩ := reads
  cases nextAccountInfo_ok next
  exact .read pda.pubkey (by simp only [addressed, command])

theorem findProgramAddress_ok {seed : Bytes} {found : Pubkey × UInt8}
    (finds : findProgramAddress runtime programId seed = .ok found) :
    runtime.findProgramAddress [seed] programId = some found := by
  unfold findProgramAddress at finds
  cases search : runtime.findProgramAddress [seed] programId with
  | none => simp only [search, reduceCtorEq] at finds
  | some other =>
      simp only [search, Except.ok.injEq] at finds
      rw [finds]

theorem effect_of_initializeCounter
    (command : commandOf instructionData = some .create)
    (creates :
      initializeCounter runtime programId accounts instructionData ledger =
        .ok (after, message)) :
    Effect runtime programId accounts instructionData ledger after := by
  simp only [initializeCounter, bind_eq_ok_iff, pure, Except.pure,
    Except.ok.injEq, Prod.mk.injEq, require_eq_ok_iff,
    mapError_eq_ok_iff] at creates
  obtain ⟨⟨payer, accountsIter⟩, next, ⟨pda, accountsIter⟩, nextPda,
    systemProgram, nextSystem, _, _, _, _, ⟨expected, bump⟩, finds, _,
    derived, created, invokes, data, writes, rfl, -⟩ := creates
  cases nextAccountInfo_ok next
  cases nextAccountInfo_ok nextPda
  change expected = pda.pubkey at derived
  subst derived
  obtain ⟨creation, signs⟩ :=
    created_of_invokeSigned (findProgramAddress_ok finds) invokes
  obtain ⟨-, rfl⟩ := writeU64_ok writes
  have fresh :
      splice (created pda.pubkey).data 0 (leBytes 8 0) = leBytes 8 0 := by
    have zeros : (created pda.pubkey).data = List.replicate 8 0 :=
      creation.data
    rw [zeros]
    rfl
  rw [fresh]
  exact .create payer.pubkey pda.pubkey created
    (by simp only [addressed, command]) signs creation

theorem processInstruction_eq :
    processInstruction runtime programId accounts instructionData ledger =
      match commandOf instructionData with
      | none => .error (.error .invalidInstructionData)
      | some .create =>
          initializeCounter runtime programId accounts instructionData
            ledger
      | some .increment => increment accounts ledger
      | some .read => readCounter accounts ledger := by
  cases instructionData with
  | nil => rfl
  | cons discriminant seedData =>
      simp only [processInstruction, commandOf]
      split <;> rfl

theorem processInstruction_increment
    (command : commandOf instructionData = some .increment) :
    processInstruction runtime programId accounts instructionData ledger =
      increment accounts ledger := by
  rw [processInstruction_eq, command]

theorem processInstruction_read
    (command : commandOf instructionData = some .read) :
    processInstruction runtime programId accounts instructionData ledger =
      readCounter accounts ledger := by
  rw [processInstruction_eq, command]

theorem processInstruction_create
    (command : commandOf instructionData = some .create) :
    processInstruction runtime programId accounts instructionData ledger =
      initializeCounter runtime programId accounts instructionData
        ledger := by
  rw [processInstruction_eq, command]

theorem effect_of_execute
    (executes :
      execute runtime programId accounts instructionData ledger =
        .ok (after, message)) :
    Effect runtime programId accounts instructionData ledger after := by
  simp only [execute, bind_eq_ok_iff, pure, Except.pure, Except.ok.injEq,
    Prod.mk.injEq, require_eq_ok_iff, mapError_eq_ok_iff] at executes
  obtain ⟨⟨result, message⟩, processes, _, _, rfl, -⟩ := executes
  cases command : commandOf instructionData with
  | none =>
      rw [processInstruction_eq, command] at processes
      cases processes
  | some requested =>
      cases requested with
      | create =>
          rw [processInstruction_create command] at processes
          exact effect_of_initializeCounter command processes
      | increment =>
          rw [processInstruction_increment command] at processes
          exact effect_of_increment command processes
      | read =>
          rw [processInstruction_read command] at processes
          exact effect_of_readCounter command processes

end Effects

end KarstflowTests.Programs.PdaCounter

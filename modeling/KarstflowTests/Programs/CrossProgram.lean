import KarstflowTests.Programs.Runtime

/-!
# Programs that call programs

A program is given its accounts, its data and a way to invoke other programs.
The runtime ties the knot: it bounds the number of programs on the stack, and
lets a program hand on only accounts that it has itself, with no more
privileges.  A failure anywhere fails the whole transaction, which then leaves
the ledger as it was.

The runtime is no part of the repository: `CallRules.execute` and what follows
it are premises, the rules that are documented for calls between programs.
-/

namespace KarstflowTests.Programs

open KarstflowTests.Library

/-! ## Executions -/

inductive CallFailure where
  | callDepth
  | missingAccount
  | privilegeEscalation
  | unsupportedProgramId
  | missingRequiredSignature
  | notEnoughAccountKeys
  | invalidInstructionData
  | insufficientFundsForRent
  | system (error : InstructionError)
  deriving DecidableEq

/-- What the instructions of a transaction act on. -/
structure World where
  ledger : Ledger
  logs : List String
  /-- the program that set return data last, and the data -/
  returnData : Option (Pubkey × Bytes)

namespace World

def withLogs (world : World) (lines : List String) : World :=
  { world with logs := world.logs ++ lines }

def returning (world : World) (returnData : Option (Pubkey × Bytes)) :
    World :=
  { world with returnData := returnData }

@[simp]
theorem withLogs_withLogs (world : World) (lines further : List String) :
    (world.withLogs lines).withLogs further =
      world.withLogs (lines ++ further) := by
  simp only [withLogs, List.append_assoc]

@[simp]
theorem withLogs_returning (world : World) (lines : List String)
    (returnData : Option (Pubkey × Bytes)) :
    (world.returning returnData).withLogs lines =
      (world.withLogs lines).returning returnData :=
  rfl

@[simp]
theorem returning_returning (world : World)
    (before after : Option (Pubkey × Bytes)) :
    (world.returning before).returning after = world.returning after :=
  rfl

end World

abbrev Execution := ExceptT CallFailure (StateM World)

namespace Execution

variable {α β : Type}

/-- How an execution ends, and what it leaves. -/
def outcome (execution : Execution α) (world : World) :
    Except CallFailure α × World :=
  execution.run.run world

def check (condition : Prop) [Decidable condition] (failure : CallFailure) :
    Execution Unit :=
  if condition then pure () else throw failure

/-- Go on with the result, or stop with the failure. -/
theorem outcome_bind (execution : Execution α) (next : α → Execution β)
    (world : World) :
    (execution >>= next).outcome world =
      match execution.outcome world with
      | (.ok value, middle) => (next value).outcome middle
      | (.error failure, middle) => (.error failure, middle) := by
  simp only [outcome, ExceptT.run_bind, StateT.run_bind]
  rcases execution.run.run world with ⟨result, middle⟩
  cases result <;> rfl

@[simp]
theorem outcome_modify_bind (change : World → World)
    (next : Unit → Execution β) (world : World) :
    ((modify change : Execution Unit) >>= next).outcome world =
      (next ()).outcome (change world) :=
  rfl

@[simp]
theorem outcome_get_bind (next : World → Execution β) (world : World) :
    ((get : Execution World) >>= next).outcome world =
      (next world).outcome world :=
  rfl

theorem outcome_check_bind (condition : Prop) [Decidable condition]
    (failure : CallFailure) (next : Unit → Execution β) (world : World) :
    (check condition failure >>= next).outcome world =
      if condition then (next ()).outcome world
      else (.error failure, world) := by
  by_cases holds : condition
  · rw [check, if_pos holds, if_pos holds]
    rfl
  · rw [check, if_neg holds, if_neg holds]
    rfl

end Execution

/-! ## Programs and their calls -/

def msg (text : String) : Execution Unit :=
  modify fun world => { world with logs := world.logs ++ [text] }

def setReturnData (programId : Pubkey) (data : Bytes) : Execution Unit :=
  modify fun world => { world with returnData := some (programId, data) }

/-- Program id, accounts, instruction data, and `invoke`. -/
abbrev Program :=
  Pubkey → List AccountMeta → Bytes → (Instruction → Execution Unit) →
    Execution Unit

structure CallRules where
  programs : Pubkey → Option Program
  /-- how many programs the stack holds -/
  stackHeight : ℕ
  /-- whether a program with these accounts finds the other program; some
  runtimes ask for it among the accounts -/
  mayCall : List AccountMeta → Pubkey → Bool

/-- The account is one of the caller's, with no more privileges. -/
def Grants (accounts : List AccountMeta) (account : AccountMeta) : Prop :=
  (account.isWritable → isWritable accounts account.pubkey) ∧
    (account.isSigner → isSigner accounts account.pubkey)

instance (accounts : List AccountMeta) (account : AccountMeta) :
    Decidable (Grants accounts account) :=
  inferInstanceAs (Decidable (_ ∧ _))

namespace CallRules

/-- An instruction, with room for so many programs on the stack. -/
def execute (rules : CallRules) : ℕ → Instruction → Execution Unit
  | 0, _ => throw .callDepth
  | height + 1, instruction => do
      modify fun world => { world with returnData := none }
      match rules.programs instruction.programId with
      | none => throw .unsupportedProgramId
      | some program =>
          program instruction.programId instruction.accounts
            instruction.data fun called => do
              Execution.check
                (rules.mayCall instruction.accounts called.programId)
                .missingAccount
              Execution.check
                (∀ account ∈ called.accounts,
                  account.pubkey ∈
                    instruction.accounts.map AccountMeta.pubkey)
                .missingAccount
              Execution.check
                (∀ account ∈ called.accounts,
                  Grants instruction.accounts account)
                .privilegeEscalation
              rules.execute height called

/-- A transaction of one instruction: a failure undoes what it did to the
ledger. -/
def processTransaction (rules : CallRules) (instruction : Instruction)
    (ledger : Ledger) : Except CallFailure Unit × World :=
  let start : World := { ledger, logs := [], returnData := none }
  match (rules.execute rules.stackHeight instruction).outcome start with
  | (.ok (), world) => (.ok (), world)
  | (.error failure, world) =>
      (.error failure, { world with ledger := ledger })

/-- A transaction that the runtime takes only if it accepts the balances of its
accounts before and after. -/
def settleTransaction (rules : CallRules)
    (acceptsBalances : List AccountMeta → Ledger → Ledger → Bool)
    (instruction : Instruction) (ledger : Ledger) :
    Except CallFailure Unit × World :=
  match rules.processTransaction instruction ledger with
  | (.ok (), world) =>
      if acceptsBalances instruction.accounts ledger world.ledger then
        (.ok (), world)
      else
        (.error .insufficientFundsForRent, { world with ledger := ledger })
  | (.error failure, world) => (.error failure, world)

end CallRules

/-- A program that hands on its own accounts passes the runtime's checks. -/
theorem grants_self (accounts : List AccountMeta) :
    ∀ account ∈ accounts, Grants accounts account := by
  intro account member
  constructor
  · intro writable
    exact List.any_eq_true.mpr ⟨account, member, by simp [writable]⟩
  · intro signer
    exact List.any_eq_true.mpr ⟨account, member, by simp [signer]⟩

end KarstflowTests.Programs

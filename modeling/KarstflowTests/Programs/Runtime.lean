import Mathlib.Logic.Function.Basic
import KarstflowTests.Library.Fallible
import KarstflowTests.Programs.Instructions

/-!
# The runtime under a program

A ledger maps addresses to accounts.  The system program creates accounts in
it, also for a program that signs for its own addresses, and a program's own
writes are accepted in writable accounts that it owns.

The runtime and the system program are not part of the repository: what
`createAccount` and `invokeSigned` do and which writes are accepted are
premises, the rules that the runtime documents.
-/

namespace KarstflowTests.Programs

open KarstflowTests.Library

/-! ## Ledgers -/

/-- The accounts of the chain.  An address that nobody used has the empty
account of the system program. -/
abbrev Ledger := Pubkey → Account

def systemProgram : Pubkey where
  bytes := List.replicate 32 0
  length_eq := Pubkey.length_zeros

/-- The data with the account's other fields as they are. -/
def Account.withData (account : Account) (data : Bytes) : Account :=
  { account with data := data }

def Ledger.setData (ledger : Ledger) (key : Pubkey) (data : Bytes) :
    Ledger :=
  Function.update ledger key ((ledger key).withData data)

/-! ## Creating an account -/

inductive InstructionError where
  | accountAlreadyInUse
  | invalidAccountDataLength
  | invalidArgument
  | resultWithNegativeLamports
  | externalAccountLamportSpend
  | missingAccount
  | privilegeEscalation
  | badSeeds
  deriving DecidableEq

/-- What an account can hold at most: 10 MiB. -/
def maxPermittedDataLength : ℕ :=
  10 * 1024 * 1024

def Ledger.allocateAndAssign (ledger : Ledger)
    (params : CreateAccountParams) : Ledger :=
  Function.update ledger params.toPubkey
    { ledger params.toPubkey with
      owner := params.owner
      data := List.replicate params.space 0 }

def Ledger.setLamports (ledger : Ledger) (key : Pubkey) (lamports : ℕ) :
    Ledger :=
  Function.update ledger key { ledger key with lamports := lamports }

def Ledger.transfer (ledger : Ledger) (payer target : Pubkey)
    (lamports : ℕ) : Ledger :=
  let debited :=
    ledger.setLamports payer ((ledger payer).lamports - lamports)
  debited.setLamports target ((debited target).lamports + lamports)

def allocateAndAssign (ledger : Ledger) (params : CreateAccountParams) :
    Except InstructionError Ledger := do
  require ((ledger params.toPubkey).lamports = 0) .accountAlreadyInUse
  require ((ledger params.toPubkey).data = []) .accountAlreadyInUse
  require ((ledger params.toPubkey).owner = systemProgram)
    .accountAlreadyInUse
  require (params.space ≤ maxPermittedDataLength) .invalidAccountDataLength
  return ledger.allocateAndAssign params

def transfer (ledger : Ledger) (payer target : Pubkey) (lamports : ℕ) :
    Except InstructionError Ledger := do
  require ((ledger payer).data = []) .invalidArgument
  require (lamports ≤ (ledger payer).lamports) .resultWithNegativeLamports
  require (lamports = 0 ∨ (ledger payer).owner = systemProgram)
    .externalAccountLamportSpend
  return ledger.transfer payer target lamports

def createAccount (ledger : Ledger) (params : CreateAccountParams) :
    Except InstructionError Ledger := do
  let allocated ← allocateAndAssign ledger params
  transfer allocated params.fromPubkey params.toPubkey params.lamports

/-! ## Calls of the system program -/

/-- What programs ask the runtime for. -/
structure Runtime where
  /-- The address and its bump, or `none` where the search panics. -/
  findProgramAddress : List Bytes → Pubkey → Option (Pubkey × UInt8)
  createProgramAddress : List Bytes → Pubkey → Option Pubkey
  minimumBalance : ℕ → ℕ
  createProgramAddress_of_find :
    ∀ {seeds programId address bump},
      findProgramAddress seeds programId = some (address, bump) →
        createProgramAddress (seeds ++ [[bump]]) programId = some address

def isSigner (accounts : List AccountMeta) (key : Pubkey) : Bool :=
  accounts.any fun account => account.pubkey = key ∧ account.isSigner

def isWritable (accounts : List AccountMeta) (key : Pubkey) : Bool :=
  accounts.any fun account => account.pubkey = key ∧ account.isWritable

/-- `create_account` from within a program.  Both accounts are writable and
sign; the program signs for the addresses of its seeds. -/
def invokeSigned (runtime : Runtime) (programId : Pubkey)
    (accounts : List AccountMeta) (params : CreateAccountParams)
    (signerSeeds : List (List Bytes)) (ledger : Ledger) :
    Except InstructionError Ledger := do
  let signers ← signerSeeds.mapM fun seeds =>
    match runtime.createProgramAddress seeds programId with
    | some address => .ok address
    | none => .error .badSeeds
  let called := [params.fromPubkey, params.toPubkey]
  require (∀ key ∈ systemProgram :: called,
    key ∈ accounts.map AccountMeta.pubkey) .missingAccount
  require (∀ key ∈ called, isWritable accounts key) .privilegeEscalation
  require (∀ key ∈ called, isSigner accounts key ∨ key ∈ signers)
    .privilegeEscalation
  createAccount ledger params

/-! ## What a creation changes -/

/-- What a successful `create_account` started from and left. -/
structure Created (ledger : Ledger) (params : CreateAccountParams)
    (created : Ledger) : Prop where
  unused : (ledger params.toPubkey).data = []
  payerEmpty : (ledger params.fromPubkey).data = []
  data :
    (created params.toPubkey).data = List.replicate params.space 0
  owner : (created params.toPubkey).owner = params.owner
  others :
    ∀ key, key ≠ params.toPubkey → key ≠ params.fromPubkey →
      created key = ledger key
  payer :
    params.fromPubkey ≠ params.toPubkey →
      (created params.fromPubkey).data =
          (ledger params.fromPubkey).data ∧
        (created params.fromPubkey).owner =
          (ledger params.fromPubkey).owner

section Create

variable {ledger created : Ledger} {params : CreateAccountParams}

theorem Ledger.setLamports_data (changed key : Pubkey) (lamports : ℕ) :
    (ledger.setLamports changed lamports key).data = (ledger key).data := by
  by_cases same : key = changed
  · rw [same, setLamports, Function.update_self]
  · rw [setLamports, Function.update_of_ne same]

theorem Ledger.setLamports_owner (changed key : Pubkey) (lamports : ℕ) :
    (ledger.setLamports changed lamports key).owner =
      (ledger key).owner := by
  by_cases same : key = changed
  · rw [same, setLamports, Function.update_self]
  · rw [setLamports, Function.update_of_ne same]

theorem Ledger.transfer_data (payer target key : Pubkey) (lamports : ℕ) :
    (ledger.transfer payer target lamports key).data =
      (ledger key).data := by
  rw [transfer, setLamports_data, setLamports_data]

theorem Ledger.transfer_owner (payer target key : Pubkey) (lamports : ℕ) :
    (ledger.transfer payer target lamports key).owner =
      (ledger key).owner := by
  rw [transfer, setLamports_owner, setLamports_owner]

theorem Ledger.transfer_of_ne {payer target key : Pubkey}
    (notPayer : key ≠ payer) (notTarget : key ≠ target) (lamports : ℕ) :
    ledger.transfer payer target lamports key = ledger key := by
  rw [transfer, setLamports, Function.update_of_ne notTarget, setLamports,
    Function.update_of_ne notPayer]

theorem created_of_createAccount
    (creates : createAccount ledger params = .ok created) :
    Created ledger params created := by
  simp only [createAccount, allocateAndAssign, transfer, bind_eq_ok_iff,
    require_eq_ok_iff, pure, Except.pure, Except.ok.injEq] at creates
  obtain ⟨allocated, ⟨_, _, _, unused, _, _, _, _, rfl⟩,
    _, payerEmpty, _, _, _, _, rfl⟩ := creates
  have elsewhere (key : Pubkey) (other : key ≠ params.toPubkey) :
      ledger.allocateAndAssign params key = ledger key :=
    Function.update_of_ne other _ _
  have target :
      ledger.allocateAndAssign params params.toPubkey =
        { ledger params.toPubkey with
          owner := params.owner
          data := List.replicate params.space 0 } :=
    Function.update_self _ _ _
  constructor
  · exact unused
  · by_cases same : params.fromPubkey = params.toPubkey
    · rw [same, unused]
    · rwa [elsewhere _ same] at payerEmpty
  · rw [Ledger.transfer_data, target]
  · rw [Ledger.transfer_owner, target]
  · intro key notTarget notPayer
    rw [Ledger.transfer_of_ne notPayer notTarget, elsewhere key notTarget]
  · intro other
    rw [Ledger.transfer_data, Ledger.transfer_owner, elsewhere _ other]
    exact ⟨rfl, rfl⟩

/-- A program that signs for one of its own addresses. -/
theorem created_of_invokeSigned
    {runtime : Runtime} {programId address : Pubkey} {bump : UInt8}
    {accounts : List AccountMeta} {seeds : List Bytes}
    (derived :
      runtime.findProgramAddress seeds programId = some (address, bump))
    (invokes :
      invokeSigned runtime programId accounts params [seeds ++ [[bump]]]
        ledger = .ok created) :
    Created ledger params created ∧
      (isSigner accounts params.fromPubkey = true ∨
        params.fromPubkey = address) := by
  have signs :
      runtime.createProgramAddress (seeds ++ [[bump]]) programId =
        some address :=
    runtime.createProgramAddress_of_find derived
  simp only [invokeSigned, List.mapM_cons, List.mapM_nil, signs,
    bind_eq_ok_iff, require_eq_ok_iff, pure, Except.pure,
    Except.ok.injEq] at invokes
  obtain ⟨_, ⟨_, rfl, _, rfl, rfl⟩, _, _, _, _, _, signed, creates⟩ :=
    invokes
  refine ⟨created_of_createAccount creates, ?_⟩
  simpa using signed params.fromPubkey List.mem_cons_self

end Create

end KarstflowTests.Programs

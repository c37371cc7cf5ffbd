import KarstflowTests.Programs.LoaderCalls
import KarstflowTests.Programs.Script

/-!
# Deploying and upgrading through the upgradeable loader

`deployProgramUpgradeable` and `upgradeProgram` write a buffer and then hand it
over in one more transaction.  Both follow their scripts.
-/

namespace KarstflowTests.Programs

open KarstflowTests.Library KarstflowTests.Wait

/-! ## The commands -/

/-- UpgradeableLoaderState::Program size -/
def programLen : ℕ := 36

section Commands

variable (env : Env) (payer : Pubkey)

def programParams (programKeypair : Pubkey) (lamports : ℕ) :
    CreateAccountParams where
  fromPubkey := payer
  toPubkey := programKeypair
  lamports := lamports
  space := programLen
  owner := bpfLoaderUpgradeable

/-- Deploy a program via BPF Loader Upgradeable.  `programRent` answers the
second rent request, `bufferKp` is the drawn buffer key, and
`drawnKeypair` is drawn if no program key is given. -/
def deployProgramUpgradeable (programRent : Except Exc ℕ)
    (getProgramdataAddress : Pubkey → Pubkey)
    (bufferKp drawnKeypair : Pubkey) (programBytes : Bytes)
    (authority programKeypair : Option Pubkey) :
    Action BufferLog (Pubkey × Pubkey) := do
  let programKeypair := programKeypair.getD drawnKeypair
  let authority := authority.getD payer
  writeBuffer env payer bufferKp authority programBytes
  let lamports ← Action.ofExcept programRent
  let blockhash ← fetchBlockhash env
  let deployInstruction ← Action.ofExcept
    (buildUpgDeployIx payer (getProgramdataAddress programKeypair)
      programKeypair bufferKp authority (2 * programBytes.length))
  sendSigned env payer blockhash
    [.createAccount (programParams payer programKeypair lamports),
      .invoke deployInstruction]
    [payer, programKeypair, authority]
  return (programKeypair, authority)

/-- Upgrade an existing upgradeable program with new bytecode. -/
def upgradeProgram (getProgramdataAddress : Pubkey → Pubkey)
    (bufferKp programId authority : Pubkey) (programBytes : Bytes) :
    Action BufferLog Unit := do
  writeBuffer env payer bufferKp authority programBytes
  let upgradeInstruction :=
    buildUpgUpgradeIx (getProgramdataAddress programId) programId bufferKp
      payer authority
  let blockhash ← fetchBlockhash env
  sendSigned env payer blockhash [.invoke upgradeInstruction]
    [payer, authority]

end Commands

/-! ## Scripts -/

inductive PlannedInstruction where
  | create (params : CreateAccountParams)
  | call (call : LoaderCall)
  deriving DecidableEq

/-- A transaction before it gets its blockhash. -/
structure PlannedTransaction where
  instructions : List PlannedInstruction
  payer : Pubkey
  signers : List Pubkey
  deriving DecidableEq

def PlannedInstruction.instruction : PlannedInstruction → ProgramInstruction
  | .create params => .createAccount params
  | .call loaderCall => .invoke loaderCall.instruction

namespace PlannedTransaction

def transaction (planned : PlannedTransaction) : BufferTransaction where
  instructions := planned.instructions.map PlannedInstruction.instruction
  payer := planned.payer
  blockhash := ""
  signers := planned.signers

/-- The numbers of its calls fit their fields. -/
def Fits (planned : PlannedTransaction) : Prop :=
  ∀ call, .call call ∈ planned.instructions → call.Fits

end PlannedTransaction

instance : Plan PlannedTransaction where
  transaction := PlannedTransaction.transaction
  Fits := PlannedTransaction.Fits
  unstamped_transaction _ := rfl

section Scripts

variable (payer bufferKp authority : Pubkey) (programBytes : Bytes)

def writeScript (offsets : List ℕ) : List PlannedTransaction :=
  offsets.map fun (offset : ℕ) =>
    { instructions :=
        [.call (.upgWrite bufferKp authority offset
          (chunkAt programBytes offset))]
      payer := payer
      signers := [payer, authority] }

def bufferScript (lamports : ℕ) : List PlannedTransaction :=
  { instructions :=
      [.create (bufferParams payer bufferKp programBytes lamports),
        .call (.upgInitBuffer bufferKp authority)]
    payer := payer
    signers := [payer, bufferKp] } ::
    writeScript payer bufferKp authority programBytes
      (loopOffsets programBytes.length 0)

def handOver (programdata programKeypair : Pubkey) (lamports : ℕ) :
    PlannedTransaction where
  instructions :=
    [.create (programParams payer programKeypair lamports),
      .call (.upgDeploy payer programdata programKeypair bufferKp authority
        (2 * programBytes.length : ℕ))]
  payer := payer
  signers := [payer, programKeypair, authority]

def replaceOver (programdata programId : Pubkey) : PlannedTransaction where
  instructions :=
    [.call (.upgUpgrade programdata programId bufferKp payer authority)]
  payer := payer
  signers := [payer, authority]

end Scripts

/-! ## The commands follow their scripts -/

section Commands

variable {env : Env} {payer bufferKp authority : Pubkey}
variable {programBytes : Bytes} {before : BufferLog}
variable {getProgramdataAddress : Pubkey → Pubkey}

theorem endsFollowing_sendSignedPlanned (planned : PlannedTransaction)
    (fits : planned.Fits) {blockhash : String} :
    EndsFollowing
      (sendSigned env planned.payer blockhash
        (planned.instructions.map PlannedInstruction.instruction)
        planned.signers)
      before [planned] :=
  endsFollowing_sendSigned planned fits

theorem endsFollowing_sendPlanned (planned : PlannedTransaction)
    (fits : planned.Fits) :
    EndsFollowing
      (sendAndConfirm env planned.payer
        (planned.instructions.map PlannedInstruction.instruction)
        planned.signers)
      before [planned] :=
  endsFollowing_sendAndConfirm planned fits

theorem endsFollowing_bufferLoop (offset : ℕ) (before : BufferLog) :
    EndsFollowing
      (bufferLoop env payer bufferKp authority programBytes offset) before
      (writeScript payer bufferKp authority programBytes
        (loopOffsets programBytes.length offset)) := by
  rw [bufferLoop]
  by_cases unfinished : offset < programBytes.length
  · rw [dif_pos unfinished, loopOffsets_of_lt unfinished, writeScript,
      List.map_cons]
    apply endsFollowing_ofExcept_bind
    intro writeInstruction built
    have short : (chunkAt programBytes offset).length < 2 ^ 64 :=
      length_chunkAt_lt offset
    rw [buildUpgWriteIx_eq short] at built
    split at built
    · rename_i small
      cases built
      have fits : LoaderCall.Fits
          (.upgWrite bufferKp authority offset
            (chunkAt programBytes offset)) :=
        ⟨Int.natCast_nonneg offset, by exact_mod_cast small, short⟩
      refine EndsFollowing.bind
        (endsFollowing_sendPlanned
          ⟨[.call (.upgWrite bufferKp authority offset
            (chunkAt programBytes offset))], payer, [payer, authority]⟩ ?_)
        fun _ middle => endsFollowing_bufferLoop _ middle
      intro call member
      cases List.mem_singleton.mp member
      exact fits
    · cases built
  · rw [dif_neg unfinished, loopOffsets_of_le (not_lt.mp unfinished)]
    exact endsFollowing_return
termination_by programBytes.length - offset
decreasing_by
  simp only [bpfLoaderWriteChunk]
  omega

theorem endsFollowing_writeBuffer :
    EndsFollowing (writeBuffer env payer bufferKp authority programBytes)
      before
      (bufferScript payer bufferKp authority programBytes
        (env.rent.toOption.getD 0)) := by
  rw [writeBuffer]
  apply endsFollowing_ofExcept_bind
  intro lamports answered
  rw [answered]
  refine EndsFollowing.bind
    (endsFollowing_sendPlanned
      ⟨[.create (bufferParams payer bufferKp programBytes lamports),
        .call (.upgInitBuffer bufferKp authority)], payer,
        [payer, bufferKp]⟩ ?_)
    fun _ middle => endsFollowing_bufferLoop 0 middle
  intro call member
  simp only [List.mem_cons, reduceCtorEq, List.not_mem_nil, or_false,
    false_or, PlannedInstruction.call.injEq] at member
  rw [member]
  exact trivial

/-- What `deployProgramUpgradeable` would send. -/
def deployScript (env : Env) (payer : Pubkey)
    (programRent : Except Exc ℕ) (getProgramdataAddress : Pubkey → Pubkey)
    (bufferKp programKeypair authority : Pubkey) (programBytes : Bytes) :
    List PlannedTransaction :=
  bufferScript payer bufferKp authority programBytes
      (env.rent.toOption.getD 0) ++
    [handOver payer bufferKp authority programBytes
      (getProgramdataAddress programKeypair) programKeypair
      (programRent.toOption.getD 0)]

/-- What `upgradeProgram` would send. -/
def upgradeScript (env : Env) (payer : Pubkey)
    (getProgramdataAddress : Pubkey → Pubkey)
    (bufferKp programId authority : Pubkey) (programBytes : Bytes) :
    List PlannedTransaction :=
  bufferScript payer bufferKp authority programBytes
      (env.rent.toOption.getD 0) ++
    [replaceOver payer bufferKp authority
      (getProgramdataAddress programId) programId]

theorem endsFollowing_deployProgramUpgradeable
    {programRent : Except Exc ℕ} {drawnKeypair : Pubkey}
    {givenAuthority givenKeypair : Option Pubkey} :
    EndsFollowing
      (deployProgramUpgradeable env payer programRent getProgramdataAddress
        bufferKp drawnKeypair programBytes givenAuthority givenKeypair)
      before
      (deployScript env payer programRent getProgramdataAddress bufferKp
        (givenKeypair.getD drawnKeypair) (givenAuthority.getD payer)
        programBytes) := by
  rw [deployProgramUpgradeable]
  apply endsFollowing_writeBuffer.bind
  intro _ written
  apply endsFollowing_ofExcept_bind
  intro lamports answered
  rw [answered]
  apply endsFollowing_fetchBlockhash_bind
  intro blockhash
  apply endsFollowing_ofExcept_bind
  intro deployInstruction built
  rw [buildUpgDeployIx_eq] at built
  split at built
  · rename_i small
    cases built
    refine EndsFollowing.bind
      (endsFollowing_sendSignedPlanned
        (handOver payer bufferKp (givenAuthority.getD payer) programBytes
          (getProgramdataAddress (givenKeypair.getD drawnKeypair))
          (givenKeypair.getD drawnKeypair) lamports) ?_)
      fun _ _ => endsFollowing_return
    intro call member
    simp only [handOver, List.mem_cons, reduceCtorEq, List.not_mem_nil,
      or_false, false_or, PlannedInstruction.call.injEq] at member
    rw [member]
    exact ⟨Int.natCast_nonneg _, by exact_mod_cast small⟩
  · cases built

theorem endsFollowing_upgradeProgram {programId : Pubkey} :
    EndsFollowing
      (upgradeProgram env payer getProgramdataAddress bufferKp programId
        authority programBytes)
      before
      (upgradeScript env payer getProgramdataAddress bufferKp programId
        authority programBytes) := by
  rw [upgradeProgram]
  apply endsFollowing_writeBuffer.bind
  intro _ written
  apply endsFollowing_fetchBlockhash_bind
  intro blockhash
  apply endsFollowing_sendSignedPlanned
    (replaceOver payer bufferKp authority (getProgramdataAddress programId)
      programId)
  intro call member
  simp only [replaceOver, List.mem_singleton,
    PlannedInstruction.call.injEq] at member
  rw [member]
  exact trivial

end Commands

end KarstflowTests.Programs

import Mathlib.Data.List.Dedup
import KarstflowTests.Programs.Runtime
import KarstflowTests.Programs.UpgradeableDeploy

/-!
# What fits into a packet

On the wire a transaction is its signatures, a header of three bytes, the
distinct keys it names, its blockhash and its instructions, which name a key by
one byte.  Every list is preceded by its length.  `wireSize` adds this up.  The
code that serializes transactions is not part of the repository: this format,
as it is documented, and the packet size are premises.

The chunks of both loaders are small enough that every transaction of the
commands fits into one packet.
-/

namespace KarstflowTests.Programs

open KarstflowTests.Library

/-! ## Sizes -/

/-- A length takes seven bits a byte, up to three bytes. -/
def compactLength (length : ℕ) : ℕ :=
  if length < 2 ^ 7 then 1 else if length < 2 ^ 14 then 2 else 3

namespace ProgramInstruction

/-- The program and the accounts. -/
def keys : ProgramInstruction → List Pubkey
  | .createAccount params =>
      [systemProgram, params.fromPubkey, params.toPubkey]
  | .invoke instruction =>
      instruction.programId :: instruction.accounts.map AccountMeta.pubkey

def accountCount : ProgramInstruction → ℕ
  | .createAccount _ => 2
  | .invoke instruction => instruction.accounts.length

/-- An account creation is a u32, two u64 and the owner. -/
def dataLength : ProgramInstruction → ℕ
  | .createAccount _ => 4 + 8 + 8 + 32
  | .invoke instruction => instruction.data.length

def wireSize (instruction : ProgramInstruction) : ℕ :=
  1 + (compactLength instruction.accountCount + instruction.accountCount) +
    (compactLength instruction.dataLength + instruction.dataLength)

end ProgramInstruction

/-- The largest packet. -/
def packetSize : ℕ := 1232

namespace BufferTransaction

def keys (transaction : BufferTransaction) : List Pubkey :=
  transaction.payer ::
    transaction.instructions.flatMap ProgramInstruction.keys

def wireSize (transaction : BufferTransaction) : ℕ :=
  let signatures := transaction.requiredSigners.dedup.length
  let keys := transaction.keys.dedup.length
  compactLength signatures + 64 * signatures + 3 +
    (compactLength keys + 32 * keys) + 32 +
    (compactLength transaction.instructions.length +
      (transaction.instructions.map ProgramInstruction.wireSize).sum)

def FitsPacket (transaction : BufferTransaction) : Prop :=
  transaction.wireSize ≤ packetSize

end BufferTransaction

/-- The same transaction with a list of instructions. -/
def Transaction.listed (transaction : Transaction) : BufferTransaction where
  instructions := [transaction.instruction]
  payer := transaction.payer
  blockhash := transaction.blockhash
  signers := transaction.signers

section Sizes

variable {transaction : BufferTransaction}

theorem compactLength_of_lt {length : ℕ} (short : length < 2 ^ 7) :
    compactLength length = 1 :=
  if_pos short

theorem compactLength_le (length : ℕ) : compactLength length ≤ 3 := by
  rw [compactLength]
  split_ifs <;> omega

theorem fitsPacket_of_unstamped
    (fits : transaction.unstamped.FitsPacket) : transaction.FitsPacket :=
  fits

/-- Counting every key as often as it is named. -/
theorem fitsPacket_of_le
    (small :
      36 + 64 * transaction.requiredSigners.length +
          (1 + 32 * transaction.keys.length) +
          (compactLength transaction.instructions.length +
            (transaction.instructions.map
              ProgramInstruction.wireSize).sum) ≤ packetSize) :
    transaction.FitsPacket := by
  have signers := (List.dedup_sublist transaction.requiredSigners).length_le
  have named := (List.dedup_sublist transaction.keys).length_le
  rw [packetSize] at small
  rw [BufferTransaction.FitsPacket, BufferTransaction.wireSize,
    compactLength_of_lt (by omega), compactLength_of_lt (by omega),
    packetSize]
  omega

/-- Where no key is named twice. -/
theorem wireSize_eq {signers keys : List Pubkey}
    (areSigners : transaction.requiredSigners = signers)
    (areKeys : transaction.keys = keys)
    (distinct : signers.Nodup ∧ keys.Nodup)
    (small : signers.length < 2 ^ 7 ∧ keys.length < 2 ^ 7) :
    transaction.wireSize =
      36 + 64 * signers.length + (1 + 32 * keys.length) +
        (compactLength transaction.instructions.length +
          (transaction.instructions.map ProgramInstruction.wireSize).sum) := by
  rw [BufferTransaction.wireSize, areSigners, areKeys,
    List.dedup_eq_self.mpr distinct.1, List.dedup_eq_self.mpr distinct.2,
    compactLength_of_lt small.1, compactLength_of_lt small.2]
  omega

end Sizes

/-! ## Writes -/

section Writes

variable {transaction : BufferTransaction}
variable {programKeypair bufferKp authority : Pubkey}
variable {offset : ℕ} {chunk : Bytes}

theorem wireSize_writeIx (programAccount : Pubkey) (offset : ℕ)
    (chunk : Bytes) :
    (ProgramInstruction.invoke
        (writeIx programAccount offset chunk)).wireSize =
      3 + (compactLength (16 + chunk.length) + (16 + chunk.length)) := by
  have length :
      (writeIx programAccount offset chunk).data.length =
        16 + chunk.length := by
    simp [writeIx]
    omega
  simp only [ProgramInstruction.wireSize, ProgramInstruction.dataLength,
    length]
  rfl

theorem wireSize_upgWriteIx (offset : ℕ) (chunk : Bytes) :
    (ProgramInstruction.invoke
        (upgWriteIx bufferKp authority offset chunk)).wireSize =
      4 + (compactLength (16 + chunk.length) + (16 + chunk.length)) := by
  have length :
      (upgWriteIx bufferKp authority offset chunk).data.length =
        16 + chunk.length := by
    simp [upgWriteIx, writePayload]
    omega
  simp only [ProgramInstruction.wireSize, ProgramInstruction.dataLength,
    length]
  rfl

/-- One Write of a chunk, with so many accounts. -/
structure CarriesChunk (transaction : BufferTransaction)
    (signers keys : List Pubkey) (accounts : ℕ) (chunk : Bytes) : Prop where
  signers : transaction.requiredSigners = signers
  keys : transaction.keys = keys
  size :
    compactLength transaction.instructions.length +
        (transaction.instructions.map ProgramInstruction.wireSize).sum =
      19 + accounts + (compactLength (16 + chunk.length) + chunk.length)

theorem carriesChunk_of_writeIx
    (sends :
      transaction.instructions =
        [.invoke (writeIx programKeypair offset chunk)]) :
    CarriesChunk transaction [transaction.payer, programKeypair]
      [transaction.payer, bpfLoader, programKeypair] 1 chunk where
  signers := by
    rw [BufferTransaction.requiredSigners, sends]
    rfl
  keys := by
    rw [BufferTransaction.keys, sends]
    rfl
  size := by
    rw [sends, List.map_singleton, List.sum_singleton, wireSize_writeIx,
      List.length_singleton, compactLength_of_lt (by decide)]
    omega

theorem carriesChunk_of_upgWriteIx
    (sends :
      transaction.instructions =
        [.invoke (upgWriteIx bufferKp authority offset chunk)]) :
    CarriesChunk transaction [transaction.payer, authority]
      [transaction.payer, bpfLoaderUpgradeable, bufferKp, authority] 2
      chunk where
  signers := by
    rw [BufferTransaction.requiredSigners, sends]
    rfl
  keys := by
    rw [BufferTransaction.keys, sends]
    rfl
  size := by
    rw [sends, List.map_singleton, List.sum_singleton, wireSize_upgWriteIx,
      List.length_singleton, compactLength_of_lt (by decide)]
    omega

namespace CarriesChunk

variable {signers keys : List Pubkey} {accounts : ℕ}

theorem fitsPacket
    (carries : CarriesChunk transaction signers keys accounts chunk)
    (room :
      59 + 64 * signers.length + 32 * keys.length + accounts +
        chunk.length ≤ packetSize) :
    transaction.FitsPacket := by
  have length := compactLength_le (16 + chunk.length)
  apply fitsPacket_of_le
  rw [carries.signers, carries.keys, carries.size]
  omega

theorem fitsPacket_iff
    (carries : CarriesChunk transaction signers keys accounts chunk)
    (distinct : signers.Nodup ∧ keys.Nodup)
    (small : signers.length < 2 ^ 7 ∧ keys.length < 2 ^ 7) :
    transaction.FitsPacket ↔
      56 + 64 * signers.length + 32 * keys.length + accounts +
        (compactLength (16 + chunk.length) + chunk.length) ≤ packetSize := by
  rw [BufferTransaction.FitsPacket,
    wireSize_eq carries.signers carries.keys distinct small, carries.size]
  omega

end CarriesChunk

/-- A Write of `deploy_program` has room for 949 bytes. -/
theorem writeIx_fitsPacket_iff
    (sends :
      transaction.instructions =
        [.invoke (writeIx programKeypair offset chunk)])
    (distinct :
      [transaction.payer, bpfLoader, programKeypair].Nodup) :
    transaction.FitsPacket ↔ chunk.length ≤ 949 := by
  have signersDistinct : [transaction.payer, programKeypair].Nodup :=
    distinct.sublist (.cons_cons _ (.cons bpfLoader (.refl _)))
  rw [(carriesChunk_of_writeIx sends).fitsPacket_iff
    ⟨signersDistinct, distinct⟩ (by simp)]
  simp only [List.length_cons, List.length_nil, packetSize, compactLength]
  split_ifs <;> omega

/-- A Write of `_write_buffer` has room for 916 bytes. -/
theorem upgWriteIx_fitsPacket_iff
    (sends :
      transaction.instructions =
        [.invoke (upgWriteIx bufferKp authority offset chunk)])
    (distinct :
      [transaction.payer, bpfLoaderUpgradeable, bufferKp,
        authority].Nodup) :
    transaction.FitsPacket ↔ chunk.length ≤ 916 := by
  have signersDistinct : [transaction.payer, authority].Nodup :=
    distinct.sublist (.cons_cons _ (.cons _ (.cons _ (.refl _))))
  rw [(carriesChunk_of_upgWriteIx sends).fitsPacket_iff
    ⟨signersDistinct, distinct⟩ (by simp)]
  simp only [List.length_cons, List.length_nil, packetSize, compactLength]
  split_ifs <;> omega

end Writes

/-! ## The commands -/

section Commands

variable {env : Env} {payer programKeypair bufferKp authority : Pubkey}
variable {programBytes : Bytes}

theorem length_chunkAt_le (programBytes : Bytes) (offset : ℕ) :
    (chunkAt programBytes offset).length ≤ bpfLoaderWriteChunk :=
  List.length_take_le _ _

theorem wireSize_createAccount (params : CreateAccountParams) :
    (ProgramInstruction.createAccount params).wireSize = 57 :=
  rfl

theorem fitsPacket_createAccount {transaction : BufferTransaction}
    {params : CreateAccountParams}
    (sends : transaction.instructions = [.createAccount params]) :
    transaction.FitsPacket := by
  apply fitsPacket_of_le
  simp [BufferTransaction.requiredSigners, BufferTransaction.keys, sends,
    ProgramInstruction.signerKeys, ProgramInstruction.keys,
    wireSize_createAccount, compactLength, packetSize]

theorem fitsPacket_finalize {transaction : BufferTransaction}
    (sends :
      transaction.instructions =
        [.invoke (buildBpfLoaderFinalizeIx programKeypair)]) :
    transaction.FitsPacket := by
  apply fitsPacket_of_le
  simp [BufferTransaction.requiredSigners, BufferTransaction.keys, sends,
    ProgramInstruction.signerKeys, ProgramInstruction.keys,
    ProgramInstruction.wireSize, ProgramInstruction.accountCount,
    ProgramInstruction.dataLength, buildBpfLoaderFinalizeIx,
    compactLength, packetSize]

theorem fitsPacket_bufferScript {lamports : ℕ} :
    ∀ planned ∈ bufferScript payer bufferKp authority programBytes lamports,
      planned.transaction.FitsPacket := by
  rw [bufferScript, writeScript, List.forall_mem_cons, List.forall_mem_map]
  constructor
  · apply fitsPacket_of_le
    simp [PlannedTransaction.transaction, BufferTransaction.requiredSigners,
      BufferTransaction.keys, PlannedInstruction.instruction,
      ProgramInstruction.signerKeys, ProgramInstruction.keys,
      ProgramInstruction.wireSize, ProgramInstruction.accountCount,
      ProgramInstruction.dataLength, LoaderCall.instruction,
      buildUpgInitBufferIx, compactLength, packetSize]
  · intro offset _
    have short := length_chunkAt_le programBytes offset
    apply (carriesChunk_of_upgWriteIx rfl).fitsPacket
    simp only [List.length_cons, List.length_nil, packetSize,
      bpfLoaderWriteChunk] at short ⊢
    omega

theorem fitsPacket_handOver {programdata : Pubkey} {lamports : ℕ} :
    (handOver payer bufferKp authority programBytes programdata
      programKeypair lamports).transaction.FitsPacket := by
  apply fitsPacket_of_le
  simp [handOver, PlannedTransaction.transaction,
    BufferTransaction.requiredSigners, BufferTransaction.keys,
    PlannedInstruction.instruction, ProgramInstruction.signerKeys,
    ProgramInstruction.keys, ProgramInstruction.wireSize,
    ProgramInstruction.accountCount, ProgramInstruction.dataLength,
    LoaderCall.instruction, upgDeployIx, compactLength, packetSize]

theorem fitsPacket_replaceOver {programdata programId : Pubkey} :
    (replaceOver payer bufferKp authority programdata
      programId).transaction.FitsPacket := by
  apply fitsPacket_of_le
  simp [replaceOver, PlannedTransaction.transaction,
    BufferTransaction.requiredSigners, BufferTransaction.keys,
    PlannedInstruction.instruction, ProgramInstruction.signerKeys,
    ProgramInstruction.keys, ProgramInstruction.wireSize,
    ProgramInstruction.accountCount, ProgramInstruction.dataLength,
    LoaderCall.instruction, buildUpgUpgradeIx, compactLength, packetSize]

/-- Every transaction so far fits. -/
def DeployLog.FitPackets (log : DeployLog) : Prop :=
  ∀ transaction ∈ log.transactions, transaction.listed.FitsPacket

theorem keeps_broadcast {instruction : ProgramInstruction}
    (fits :
      ∀ transaction : BufferTransaction,
        transaction.instructions = [instruction] → transaction.FitsPacket) :
    Action.Keeps DeployLog.FitPackets
      (broadcast env payer programKeypair instruction) := by
  intro before holds
  apply ends_broadcast
  · intro sent transaction _ carries other member
    rcases List.mem_append.mp member with earlier | isNew
    · exact holds other earlier
    · cases List.mem_singleton.mp isNew
      exact fits _ (congrArg List.singleton carries)
  · intro exc _
    exact holds

theorem keeps_awaitConfirmation (sent : Sent) :
    Action.Keeps DeployLog.FitPackets (awaitConfirmation env sent) := by
  intro before holds
  apply ends_awaitConfirmation
  · exact holds
  · intro exc _
    exact holds

theorem keeps_awaitAll (batch : List Sent) :
    Action.Keeps DeployLog.FitPackets (awaitAll env batch) := by
  induction batch with
  | nil => exact Action.keeps_pure ()
  | cons sent batch inductionHypothesis =>
      exact (keeps_awaitConfirmation sent).bind fun _ => inductionHypothesis

theorem keeps_sendBatch (count offset : ℕ) :
    Action.Keeps DeployLog.FitPackets
      (sendBatch env payer programKeypair programBytes count offset) := by
  induction count generalizing offset with
  | zero => exact Action.keeps_pure []
  | succ count inductionHypothesis =>
      rw [sendBatch]
      split
      · exact Action.keeps_pure []
      · apply Action.keeps_ofExcept_bind
        intro writeInstruction built
        obtain ⟨_, rfl⟩ :=
          (buildBpfLoaderWriteIx_ok_iff (length_chunkAt_lt offset)).mp built
        have short := length_chunkAt_le programBytes offset
        refine (keeps_broadcast ?_).bind fun sent =>
          (inductionHypothesis _).bind fun batch => Action.keeps_pure _
        intro transaction sends
        apply (carriesChunk_of_writeIx sends).fitsPacket
        simp only [List.length_cons, List.length_nil, packetSize,
          bpfLoaderWriteChunk] at short ⊢
        omega

theorem keeps_writeLoop (offset : ℕ) :
    Action.Keeps DeployLog.FitPackets
      (writeLoop env payer programKeypair programBytes offset) := by
  rw [writeLoop]
  by_cases unfinished : offset < programBytes.length
  · rw [dif_pos unfinished]
    refine (keeps_sendBatch _ _).bind fun batch =>
      (keeps_awaitAll batch).bind fun _ => ?_
    exact keeps_writeLoop _
  · rw [dif_neg unfinished]
    exact Action.keeps_pure ()
termination_by programBytes.length - offset
decreasing_by
  have progress := lt_batchEnd unfinished
  omega

theorem keeps_deployProgram :
    Action.Keeps DeployLog.FitPackets
      (deployProgram env payer programKeypair programBytes) := by
  rw [deployProgram]
  apply Action.keeps_ofExcept_bind
  intro lamports _
  refine (keeps_broadcast fun _ => fitsPacket_createAccount).bind
    fun created => (keeps_awaitConfirmation created).bind fun _ =>
      (keeps_writeLoop 0).bind fun _ => ?_
  exact (keeps_broadcast fun _ => fitsPacket_finalize).bind
    fun finalized => (keeps_awaitConfirmation finalized).bind fun _ =>
      Action.keeps_pure programKeypair

/-- Whatever the program, the keys and the answers of the node are, and however
the command ends. -/
theorem deployProgram_fitPackets (env : Env) (payer programKeypair : Pubkey)
    (programBytes : Bytes) :
    ((deployProgram env payer programKeypair programBytes).run.run
      {}).2.FitPackets :=
  keeps_deployProgram {} (List.forall_mem_nil _)

theorem deployProgramUpgradeable_fitPackets
    (env : Env) (payer : Pubkey) (programRent : Except Exc ℕ)
    (programdataOf : Pubkey → Pubkey) (bufferKp drawnKeypair : Pubkey)
    (programBytes : Bytes) (givenAuthority givenKeypair : Option Pubkey) :
    ∀ transaction ∈
      ((deployProgramUpgradeable env payer programRent programdataOf bufferKp
        drawnKeypair programBytes givenAuthority givenKeypair).run.run
          {}).2.transactions,
      transaction.FitsPacket := by
  obtain ⟨sent, rest, follows⟩ :=
    (endsFollowing_deployProgramUpgradeable settled_empty :
      (deployProgramUpgradeable env payer programRent programdataOf bufferKp
        drawnKeypair programBytes givenAuthority givenKeypair).Ends {} _)
  apply follows.forall_transactions BufferTransaction.FitsPacket
    fun _ => fitsPacket_of_unstamped
  rw [deployScript, List.forall_mem_append, List.forall_mem_singleton]
  exact ⟨fitsPacket_bufferScript, fitsPacket_handOver⟩

theorem upgradeProgram_fitPackets
    (env : Env) (payer : Pubkey) (programdataOf : Pubkey → Pubkey)
    (bufferKp programId authority : Pubkey) (programBytes : Bytes) :
    ∀ transaction ∈
      ((upgradeProgram env payer programdataOf bufferKp programId authority
        programBytes).run.run {}).2.transactions,
      transaction.FitsPacket := by
  obtain ⟨sent, rest, follows⟩ :=
    (endsFollowing_upgradeProgram settled_empty :
      (upgradeProgram env payer programdataOf bufferKp programId authority
        programBytes).Ends {} _)
  apply follows.forall_transactions BufferTransaction.FitsPacket
    fun _ => fitsPacket_of_unstamped
  rw [upgradeScript, List.forall_mem_append, List.forall_mem_singleton]
  exact ⟨fitsPacket_bufferScript, fitsPacket_replaceOver⟩

/-- Whatever the programs, the keys and the answers of the node are and however
the commands end, every transaction fits.  The Writes have room for 949 and for
916 bytes. -/
theorem uploads_fitPackets
    (env : Env) (payer programKeypair : Pubkey) (programRent : Except Exc ℕ)
    (programdataOf : Pubkey → Pubkey)
    (bufferKp drawnKeypair programId authority : Pubkey)
    (programBytes : Bytes) (givenAuthority givenKeypair : Option Pubkey) :
    let deployed :=
      (deployProgram env payer programKeypair programBytes).run.run {}
    let upgradeable :=
      (deployProgramUpgradeable env payer programRent programdataOf bufferKp
        drawnKeypair programBytes givenAuthority givenKeypair).run.run {}
    let upgraded :=
      (upgradeProgram env payer programdataOf bufferKp programId authority
        programBytes).run.run {}
    (∀ transaction ∈ deployed.2.transactions,
        transaction.listed.FitsPacket) ∧
      (∀ transaction ∈ upgradeable.2.transactions,
        transaction.FitsPacket) ∧
      (∀ transaction ∈ upgraded.2.transactions, transaction.FitsPacket) ∧
      (∀ (transaction : BufferTransaction) (offset : ℕ) (chunk : Bytes),
        transaction.instructions =
            [.invoke (writeIx programKeypair offset chunk)] →
          [transaction.payer, bpfLoader, programKeypair].Nodup →
            (transaction.FitsPacket ↔ chunk.length ≤ 949)) ∧
      ∀ (transaction : BufferTransaction) (offset : ℕ) (chunk : Bytes),
        transaction.instructions =
            [.invoke (upgWriteIx bufferKp authority offset chunk)] →
          [transaction.payer, bpfLoaderUpgradeable, bufferKp,
              authority].Nodup →
            (transaction.FitsPacket ↔ chunk.length ≤ 916) :=
  ⟨deployProgram_fitPackets env payer programKeypair programBytes,
    deployProgramUpgradeable_fitPackets env payer programRent programdataOf
      bufferKp drawnKeypair programBytes givenAuthority givenKeypair,
    upgradeProgram_fitPackets env payer programdataOf bufferKp programId
      authority programBytes,
    fun _ _ _ => writeIx_fitsPacket_iff,
    fun _ _ _ => upgWriteIx_fitsPacket_iff⟩

end Commands

end KarstflowTests.Programs

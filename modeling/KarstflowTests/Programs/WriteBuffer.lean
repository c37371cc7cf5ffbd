import KarstflowTests.Programs.DeployWindow

/-!
# Writing a program into a buffer

`writeBuffer` creates and initializes a buffer of the upgradeable loader and
writes the program one confirmed chunk at a time.  The loop of `deployProgram`
is batched, but both go through `loopOffsets`; `SendsChunks` says what either
has sent at any end, and `writes_correspond` compares the two.
-/

namespace KarstflowTests.Programs

open KarstflowTests.Library KarstflowTests.Wait

/-! ## The instructions of the upgradeable loader -/

def bpfLoaderUpgradeable : Pubkey :=
  .fromString "BPFLoaderUpgradeab1e11111111111111111111111"

def upgInitBuffer : ℕ := 0
def upgWrite : ℕ := 1

/-- Buffer account header: 4 bytes state enum + 32 bytes optional authority -/
def bufferHeaderSize : ℕ := 37

def buildUpgInitBufferIx (buffer authority : Pubkey) : Instruction where
  programId := bpfLoaderUpgradeable
  data := leBytes 4 upgInitBuffer
  accounts := [⟨buffer, false, true⟩, ⟨authority, false, false⟩]

/-- u32 disc + u32 offset + u64 bytes_len + bytes -/
def buildUpgWriteIx
    (buffer authority : Pubkey) (offset : ℕ) (chunk : Bytes) :
    Except Exc Instruction := do
  let discriminant ← structPack 4 upgWrite
  let packedOffset ← structPack 4 offset
  let packedLength ← structPack 8 chunk.length
  return {
    programId := bpfLoaderUpgradeable
    data := discriminant ++ packedOffset ++ packedLength ++ chunk
    accounts := [⟨buffer, false, true⟩, ⟨authority, true, false⟩] }

/-! ## The program -/

structure BufferTransaction where
  instructions : List ProgramInstruction
  payer : Pubkey
  blockhash : String
  signers : List Pubkey
  deriving DecidableEq

structure BufferLog where
  transactions : List BufferTransaction := []
  events : List DeployEvent := []

namespace BufferLog

def count (log : BufferLog) : ℕ := log.transactions.length

def send (log : BufferLog) (transaction : BufferTransaction) :
    BufferLog where
  transactions := log.transactions ++ [transaction]
  events := log.events ++ [.sent log.count]

def confirm (log : BufferLog) (index : ℕ) : BufferLog where
  transactions := log.transactions
  events := log.events ++ [.confirmed index]

end BufferLog

section WriteBuffer

variable (env : Env) (payer bufferKp authority : Pubkey)
variable (programBytes : Bytes)

/-- Fetch a blockhash, build and sign the transaction, send it, and wait until
it is confirmed. -/
def sendAndConfirm (instructions : List ProgramInstruction)
    (signers : List Pubkey) : Action BufferLog Unit := do
  let log ← get
  let blockhash ← Action.ofExcept (env.fate log.count).blockhash
  let transaction : BufferTransaction :=
    { instructions, payer, blockhash, signers }
  let signature ← Action.ofExcept (env.fate log.count).signature
  modify fun log => log.send transaction
  Action.ofExcept
    (waitForConfirmation signature 30 (env.fate log.count).schedule)
  modify fun after => after.confirm log.count

/-- The `while` loop over the chunks. -/
def bufferLoop (offset : ℕ) : Action BufferLog Unit :=
  if _unfinished : offset < programBytes.length then do
    let writeInstruction ← Action.ofExcept
      (buildUpgWriteIx bufferKp authority offset
        (chunkAt programBytes offset))
    sendAndConfirm env payer [.invoke writeInstruction] [payer, authority]
    bufferLoop (offset + bpfLoaderWriteChunk)
  else
    return ()
termination_by programBytes.length - offset
decreasing_by
  simp only [bpfLoaderWriteChunk]
  omega

def bufferParams (lamports : ℕ) : CreateAccountParams where
  fromPubkey := payer
  toPubkey := bufferKp
  lamports := lamports
  space := bufferHeaderSize + programBytes.length
  owner := bpfLoaderUpgradeable

/-- Create, initialize, and write program bytes to a buffer account. -/
def writeBuffer : Action BufferLog Unit := do
  let lamports ← Action.ofExcept env.rent
  sendAndConfirm env payer
    [.createAccount (bufferParams payer bufferKp programBytes lamports),
      .invoke (buildUpgInitBufferIx bufferKp authority)]
    [payer, bufferKp]
  bufferLoop env payer bufferKp authority programBytes 0

end WriteBuffer

/-! ## Write payloads -/

/-- The payload of a Write: the discriminant and then what does not depend on
the loader. -/
def writePayload (discriminant offset : ℕ) (chunk : Bytes) : Bytes :=
  leBytes 4 discriminant ++
    (leBytes 4 offset ++ (leBytes 8 chunk.length ++ chunk))

/-- The payload, if the instruction has that discriminant of the program. -/
def payloadOf (program : Pubkey) (discriminant : ℕ) :
    ProgramInstruction → Option Bytes
  | .createAccount _ => none
  | .invoke instruction =>
      if instruction.programId = program ∧
          instruction.data.take 4 = leBytes 4 discriminant then
        some instruction.data
      else
        none

/-- The payloads of the Writes that `deploy_program` has sent. -/
def DeployLog.writePayloads (log : DeployLog) : List Bytes :=
  log.transactions.filterMap fun transaction =>
    payloadOf bpfLoader 0 transaction.instruction

/-- The payloads of the Writes that `_write_buffer` has sent. -/
def BufferLog.writePayloads (log : BufferLog) : List Bytes :=
  (log.transactions.flatMap BufferTransaction.instructions).filterMap
    (payloadOf bpfLoaderUpgradeable upgWrite)

/-- The surroundings refuse nothing and confirm every transaction in time. -/
structure Env.Undisturbed (env : Env) : Prop where
  rent : ∃ lamports, env.rent = .ok lamports
  accepted : ∀ index, env.Accepted index
  confirms : ∀ index, env.Confirms index

/-- The payloads of the Writes of the chunks at the offsets. -/
def chunkPayloads (discriminant : ℕ) (programBytes : Bytes)
    (offsets : List ℕ) : List Bytes :=
  offsets.map fun offset =>
    writePayload discriminant offset (chunkAt programBytes offset)

/-- The chunks at the offsets are sent in order, all of them at a normal end.
Undisturbed, only an offset beyond 32 bits ends the sending early. -/
structure SendsChunks {σ α : Type} (payloads : σ → List Bytes)
    (discriminant : ℕ) (programBytes : Bytes) (undisturbed : Prop)
    (before : σ) (offsets : List ℕ) (outcome : Except Exc α) (after : σ)
    (sent rest : List ℕ) : Prop where
  split : offsets = sent ++ rest
  fits : ∀ offset ∈ sent, offset < 2 ^ 32
  appended :
    payloads after =
      payloads before ++ chunkPayloads discriminant programBytes sent
  all : ∀ value, outcome = .ok value → rest = []
  stopped :
    undisturbed → ∀ exc, outcome = .error exc →
      ∃ offset later, rest = offset :: later ∧ 2 ^ 32 ≤ offset

section Sending

variable {σ α β : Type} {payloads : σ → List Bytes} {discriminant : ℕ}
variable {programBytes : Bytes} {undisturbed : Prop}

variable (payloads discriminant programBytes undisturbed) in
/-- However the action ends, it has sent a first part of the chunks. -/
def EndsSending (action : Action σ α) (before : σ) (offsets : List ℕ) :
    Prop :=
  action.Ends before fun outcome after =>
    ∃ sent rest,
      SendsChunks payloads discriminant programBytes undisturbed before
        offsets outcome after sent rest

variable {before middle after : σ} {offsets front back : List ℕ}

theorem sendsChunks_ok
    {value : α} (fits : ∀ offset ∈ offsets, offset < 2 ^ 32)
    (appended :
      payloads after =
        payloads before ++ chunkPayloads discriminant programBytes offsets) :
    ∃ sent rest,
      SendsChunks payloads discriminant programBytes undisturbed before
        offsets (.ok value : Except Exc α) after sent rest := by
  refine
    ⟨offsets, [], (List.append_nil _).symm, fits, appended,
      fun _ _ => rfl, ?_⟩
  intro _ exc impossible
  cases impossible

/-- The surroundings stop the sending after some of the chunks. -/
theorem sendsChunks_refused
    {exc : Exc} {sent : List ℕ} (rest : List ℕ) (refused : ¬ undisturbed)
    (fits : ∀ offset ∈ sent, offset < 2 ^ 32)
    (appended :
      payloads after =
        payloads before ++ chunkPayloads discriminant programBytes sent) :
    ∃ sent' rest',
      SendsChunks payloads discriminant programBytes undisturbed before
        (sent ++ rest) (.error exc : Except Exc α) after sent' rest' := by
  refine
    ⟨sent, rest, rfl, fits, appended, ?_, fun holds => absurd holds refused⟩
  intro value impossible
  cases impossible

/-- An offset that does not fit stops the sending. -/
theorem sendsChunks_large
    {exc : Exc} {offset : ℕ} (later : List ℕ) (large : 2 ^ 32 ≤ offset) :
    ∃ sent rest,
      SendsChunks payloads discriminant programBytes undisturbed before
        (offset :: later) (.error exc : Except Exc α) before sent rest := by
  refine ⟨[], offset :: later, rfl, ?_, ?_, ?_, ?_⟩
  · intro other member
    cases member
  · exact (List.append_nil _).symm
  · intro value impossible
    cases impossible
  · intro _ _ _
    exact ⟨offset, later, rfl, large⟩

/-- Two parts in a row send their chunks in a row. -/
theorem EndsSending.bind
    {action : Action σ α} {continuation : α → Action σ β}
    (first :
      EndsSending payloads discriminant programBytes undisturbed action
        before front)
    (rest :
      ∀ value middle, action.Returns before value middle →
        EndsSending payloads discriminant programBytes undisturbed
          (continuation value) middle back) :
    EndsSending payloads discriminant programBytes undisturbed
      (action >>= continuation) before (front ++ back) := by
  apply Action.Ends.bind first
  · rintro value middle returned ⟨sent, left, sends⟩
    apply (rest value middle returned).mono
    rintro outcome after ⟨more, leftMore, sendsMore⟩
    obtain rfl := sends.all value rfl
    refine ⟨sent ++ more, leftMore, ?_, ?_, ?_, sendsMore.all,
      sendsMore.stopped⟩
    · rw [sends.split, sendsMore.split, List.append_nil, List.append_assoc]
    · intro offset member
      rcases List.mem_append.mp member with isFirst | isSecond
      · exact sends.fits offset isFirst
      · exact sendsMore.fits offset isSecond
    · rw [sendsMore.appended, sends.appended, chunkPayloads, chunkPayloads,
        chunkPayloads, List.map_append, List.append_assoc]
  · rintro exc middle ⟨sent, left, sends⟩
    refine ⟨sent, left ++ back, ?_, sends.fits, sends.appended, ?_, ?_⟩
    · rw [sends.split, List.append_assoc]
    · intro value impossible
      cases impossible
    · intro holds other _
      obtain ⟨offset, later, isLeft, large⟩ := sends.stopped holds exc rfl
      exact ⟨offset, later ++ back, by rw [isLeft]; rfl, large⟩

theorem EndsSending.bind_silent
    {action : Action σ α} {continuation : α → Action σ β}
    (first :
      EndsSending payloads discriminant programBytes undisturbed action
        before offsets)
    (rest :
      ∀ value middle, action.Returns before value middle →
        EndsSending payloads discriminant programBytes undisturbed
          (continuation value) middle []) :
    EndsSending payloads discriminant programBytes undisturbed
      (action >>= continuation) before offsets := by
  have both := first.bind rest
  rw [List.append_nil] at both
  exact both

end Sending

/-! ## The batched loop -/

section Deploy

variable {env : Env} {payer programKeypair : Pubkey} {programBytes : Bytes}

variable (env programBytes) in
/-- `EndsSending` for the parts of `deployProgram`. -/
abbrev DeploySends {α : Type} (action : Action DeployLog α)
    (before : DeployLog) (offsets : List ℕ) : Prop :=
  EndsSending DeployLog.writePayloads 0 programBytes env.Undisturbed action
    before offsets

theorem DeployLog.writePayloads_send
    (log : DeployLog) (transaction : Transaction) :
    (log.send transaction).writePayloads =
      log.writePayloads ++
        (payloadOf bpfLoader 0 transaction.instruction).toList := by
  rw [writePayloads, send, List.filterMap_append]
  congr 1

theorem payloadOf_writeIx (offset : ℕ) :
    payloadOf bpfLoader 0
        (.invoke
          (writeIx programKeypair offset (chunkAt programBytes offset))) =
      some (writePayload 0 offset (chunkAt programBytes offset)) := by
  have isWrite :
      (writeIx programKeypair offset
        (chunkAt programBytes offset)).data.take 4 = leBytes 4 0 := by
    rw [writeIx, List.append_assoc, List.append_assoc,
      List.take_left' (length_leBytes 4 0)]
  rw [payloadOf, if_pos ⟨rfl, isWrite⟩, writeIx, writePayload,
    List.append_assoc, List.append_assoc]

theorem payloadOf_finalizeIx :
    payloadOf bpfLoader 0
      (.invoke (buildBpfLoaderFinalizeIx programKeypair)) = none := by
  have other : ¬ (leBytes 4 1).take 4 = leBytes 4 0 := by decide
  rw [payloadOf, if_neg fun both => other both.2]

/-- A transaction that sends the chunks of these offsets, one or none. -/
theorem deploySends_broadcast
    {instruction : ProgramInstruction} {before : DeployLog}
    {offsets : List ℕ}
    (fits : ∀ offset ∈ offsets, offset < 2 ^ 32)
    (payloads :
      (payloadOf bpfLoader 0 instruction).toList =
        chunkPayloads 0 programBytes offsets) :
    DeploySends env programBytes
      (broadcast env payer programKeypair instruction) before offsets := by
  apply ends_broadcast
  · intro sent transaction _ carries
    apply sendsChunks_ok fits
    rw [DeployLog.writePayloads_send, carries, payloads]
  · intro exc refused
    have disturbed : ¬ env.Undisturbed := fun undisturbed =>
      refused (undisturbed.accepted before.count)
    apply sendsChunks_refused offsets disturbed (List.forall_mem_nil _)
    exact (List.append_nil _).symm

theorem deploySends_awaitConfirmation {sent : Sent} {before : DeployLog} :
    DeploySends env programBytes (awaitConfirmation env sent) before [] := by
  apply ends_awaitConfirmation
  · apply sendsChunks_ok (List.forall_mem_nil _)
    exact (List.append_nil _).symm
  · intro exc unconfirmed
    have disturbed : ¬ env.Undisturbed := fun undisturbed =>
      unconfirmed (undisturbed.confirms sent.index)
    apply sendsChunks_refused [] disturbed (List.forall_mem_nil _)
    exact (List.append_nil _).symm

theorem deploySends_return
    {α : Type} {value : α} {before : DeployLog} :
    DeploySends env programBytes (pure value : Action DeployLog α) before
      [] := by
  apply sendsChunks_ok (List.forall_mem_nil _)
  exact (List.append_nil _).symm

theorem deploySends_sendBatch :
    ∀ (count offset : ℕ) (before : DeployLog),
      DeploySends env programBytes
        (sendBatch env payer programKeypair programBytes count offset) before
        (batchOffsets programBytes.length count offset)
  | 0, offset, before => deploySends_return
  | count + 1, offset, before => by
      rw [sendBatch, batchOffsets]
      by_cases finished : programBytes.length ≤ offset
      · rw [if_pos finished, if_pos finished]
        exact deploySends_return
      rw [if_neg finished, if_neg finished]
      apply Action.ends_ofExcept_bind
      · intro writeInstruction built
        obtain ⟨fits, same⟩ :=
          (buildBpfLoaderWriteIx_ok_iff (length_chunkAt_lt offset)).mp built
        have one :
            DeploySends env programBytes
              (broadcast env payer programKeypair (.invoke writeInstruction))
              before [offset] := by
          apply deploySends_broadcast (by simpa using fits)
          rw [same, payloadOf_writeIx]
          rfl
        apply one.bind
        intro sent middle _
        have rest :=
          deploySends_sendBatch count (offset + bpfLoaderWriteChunk) middle
        apply rest.bind_silent
        intro batch after _
        exact deploySends_return
      · intro exc failed
        apply sendsChunks_large
        by_contra small
        rw [(buildBpfLoaderWriteIx_ok_iff
          (length_chunkAt_lt offset)).mpr ⟨not_le.mp small, rfl⟩] at failed
        cases failed

theorem deploySends_awaitAll :
    ∀ (batch : List Sent) (before : DeployLog),
      DeploySends env programBytes (awaitAll env batch) before []
  | [], _ => deploySends_return
  | _ :: batch, _ =>
      deploySends_awaitConfirmation.bind fun _ middle _ =>
        deploySends_awaitAll batch middle

theorem deploySends_writeLoop (offset : ℕ) (before : DeployLog) :
    DeploySends env programBytes
      (writeLoop env payer programKeypair programBytes offset) before
      (loopOffsets programBytes.length offset) := by
  rw [writeLoop]
  by_cases unfinished : offset < programBytes.length
  · rw [dif_pos unfinished,
      ← batchOffsets_append_loopOffsets _ bpfLoaderWriteBatch offset]
    apply (deploySends_sendBatch _ _ before).bind
    intro batch middle _
    apply (deploySends_awaitAll batch middle).bind
    intro _ after _
    exact deploySends_writeLoop _ after
  · rw [dif_neg unfinished, loopOffsets_of_le (not_lt.mp unfinished)]
    exact deploySends_return
termination_by programBytes.length - offset
decreasing_by
  have progress := lt_batchEnd unfinished
  omega

theorem deploySends_deployProgram :
    DeploySends env programBytes
      (deployProgram env payer programKeypair programBytes) {}
      (loopOffsets programBytes.length 0) := by
  rw [deployProgram]
  apply Action.ends_ofExcept_bind
  · intro lamports _
    have create (before : DeployLog) :
        DeploySends env programBytes
          (broadcast env payer programKeypair
            (.createAccount
              (createParams payer programKeypair programBytes lamports)))
          before [] :=
      deploySends_broadcast (List.forall_mem_nil _) rfl
    have finalize (before : DeployLog) :
        DeploySends env programBytes
          (broadcast env payer programKeypair
            (.invoke (buildBpfLoaderFinalizeIx programKeypair)))
          before [] := by
      apply deploySends_broadcast (List.forall_mem_nil _)
      rw [payloadOf_finalizeIx]
      rfl
    apply (create {}).bind
    intro created _ _
    apply deploySends_awaitConfirmation.bind
    intro _ createdLog _
    apply (deploySends_writeLoop 0 createdLog).bind_silent
    intro _ writtenLog _
    apply (finalize writtenLog).bind
    intro finalized _ _
    apply deploySends_awaitConfirmation.bind
    intro _ _ _
    exact deploySends_return
  · intro exc failed
    have disturbed : ¬ env.Undisturbed := by
      rintro ⟨⟨lamports, answered⟩, _, _⟩
      cases failed.symm.trans answered
    apply sendsChunks_refused _ disturbed (List.forall_mem_nil _)
    rfl

end Deploy

/-! ## The flat loop -/

section Buffer

variable {env : Env} {payer bufferKp authority : Pubkey}
variable {programBytes : Bytes}

variable (env programBytes) in
/-- `EndsSending` for the parts of `writeBuffer`. -/
abbrev BufferSends {α : Type} (action : Action BufferLog α)
    (before : BufferLog) (offsets : List ℕ) : Prop :=
  EndsSending BufferLog.writePayloads upgWrite programBytes env.Undisturbed
    action before offsets

/-- The write instruction with a given offset and chunk. -/
def upgWriteIx (buffer authority : Pubkey) (offset : ℕ) (chunk : Bytes) :
    Instruction where
  programId := bpfLoaderUpgradeable
  data := writePayload upgWrite offset chunk
  accounts := [⟨buffer, false, true⟩, ⟨authority, true, false⟩]

theorem buildUpgWriteIx_eq_ite
    (buffer authority : Pubkey) (offset : ℕ) (chunk : Bytes) :
    buildUpgWriteIx buffer authority offset chunk =
      if offset < 2 ^ 32 ∧ chunk.length < 2 ^ 64 then
        .ok (upgWriteIx buffer authority offset chunk)
      else
        .error (.structError "argument out of range") := by
  have payload :
      leBytes 4 upgWrite ++ leBytes 4 offset ++
          leBytes 8 chunk.length ++ chunk =
        writePayload upgWrite offset chunk := by
    rw [writePayload, List.append_assoc, List.append_assoc]
  rw [upgWriteIx, ← payload]
  exact packWrite (by decide) _

theorem buildUpgWriteIx_eq
    {offset : ℕ} {chunk : Bytes} (short : chunk.length < 2 ^ 64) :
    buildUpgWriteIx bufferKp authority offset chunk =
      if offset < 2 ^ 32 then
        .ok (upgWriteIx bufferKp authority offset chunk)
      else
        .error (.structError "argument out of range") := by
  rw [buildUpgWriteIx_eq_ite]
  simp only [short, and_true]

theorem payloadOf_upgWriteIx (offset : ℕ) (chunk : Bytes) :
    payloadOf bpfLoaderUpgradeable upgWrite
        (.invoke (upgWriteIx bufferKp authority offset chunk)) =
      some (writePayload upgWrite offset chunk) := by
  have isWrite :
      (upgWriteIx bufferKp authority offset chunk).data.take 4 =
        leBytes 4 upgWrite := by
    rw [upgWriteIx, writePayload, List.take_left' (length_leBytes 4 upgWrite)]
  rw [payloadOf, if_pos ⟨rfl, isWrite⟩, upgWriteIx]

theorem payloadOf_upgInitBufferIx :
    payloadOf bpfLoaderUpgradeable upgWrite
      (.invoke (buildUpgInitBufferIx bufferKp authority)) = none := by
  have other :
      ¬ (leBytes 4 upgInitBuffer).take 4 = leBytes 4 upgWrite := by decide
  rw [payloadOf, if_neg fun both => other both.2]

theorem BufferLog.writePayloads_send
    (log : BufferLog) (transaction : BufferTransaction) :
    (log.send transaction).writePayloads =
      log.writePayloads ++
        transaction.instructions.filterMap
          (payloadOf bpfLoaderUpgradeable upgWrite) := by
  have appended :
      (log.send transaction).transactions =
        log.transactions ++ [transaction] := rfl
  rw [writePayloads, appended, List.flatMap_append, List.filterMap_append,
    List.flatMap_singleton, writePayloads]

theorem ends_sendAndConfirm
    {instructions : List ProgramInstruction} {signers : List Pubkey}
    {before : BufferLog} {post : Except Exc Unit → BufferLog → Prop}
    (confirms :
      ∀ transaction, transaction.instructions = instructions →
        post (.ok ()) ((before.send transaction).confirm before.count))
    (unconfirmed :
      ∀ exc transaction, transaction.instructions = instructions →
        ¬ env.Confirms before.count →
          post (.error exc) (before.send transaction))
    (refused :
      ∀ exc, ¬ env.Accepted before.count → post (.error exc) before) :
    (sendAndConfirm env payer instructions signers).Ends before post := by
  unfold sendAndConfirm
  apply Action.ends_get_bind
  apply Action.ends_ofExcept_bind
  · intro blockhash _
    apply Action.ends_ofExcept_bind
    · intro signature _
      apply Action.ends_modify_bind
      apply Action.ends_ofExcept_bind
      · intro _ _
        exact Action.ends_modify (confirms _ rfl)
      · intro exc raised
        apply unconfirmed exc _ rfl
        intro isConfirmed
        rw [(waitForConfirmation_ok_iff
          (env.fate before.count).observation).mpr isConfirmed] at raised
        cases raised
    · intro exc raised
      apply refused
      intro accepted
      cases raised.symm.trans accepted.2
  · intro exc raised
    apply refused
    intro accepted
    cases raised.symm.trans accepted.1

/-- A transaction that sends the chunks of these offsets, one or none. -/
theorem bufferSends_sendAndConfirm
    {instructions : List ProgramInstruction} {signers : List Pubkey}
    {before : BufferLog} {offsets : List ℕ}
    (fits : ∀ offset ∈ offsets, offset < 2 ^ 32)
    (payloads :
      instructions.filterMap (payloadOf bpfLoaderUpgradeable upgWrite) =
        chunkPayloads upgWrite programBytes offsets) :
    BufferSends env programBytes
      (sendAndConfirm env payer instructions signers) before offsets := by
  have appended (transaction : BufferTransaction)
      (carries : transaction.instructions = instructions) :
      (before.send transaction).writePayloads =
        before.writePayloads ++
          chunkPayloads upgWrite programBytes offsets := by
    rw [BufferLog.writePayloads_send, carries, payloads]
  apply ends_sendAndConfirm
  · intro transaction carries
    exact sendsChunks_ok fits (appended transaction carries)
  · intro exc transaction carries unconfirmed
    have disturbed : ¬ env.Undisturbed := fun undisturbed =>
      unconfirmed (undisturbed.confirms before.count)
    rw [← List.append_nil offsets]
    exact sendsChunks_refused [] disturbed fits
      (appended transaction carries)
  · intro exc refused
    have disturbed : ¬ env.Undisturbed := fun undisturbed =>
      refused (undisturbed.accepted before.count)
    apply sendsChunks_refused offsets disturbed (List.forall_mem_nil _)
    exact (List.append_nil _).symm

theorem bufferSends_bufferLoop (offset : ℕ) (before : BufferLog) :
    BufferSends env programBytes
      (bufferLoop env payer bufferKp authority programBytes offset) before
      (loopOffsets programBytes.length offset) := by
  rw [bufferLoop]
  by_cases unfinished : offset < programBytes.length
  · rw [dif_pos unfinished, loopOffsets_of_lt unfinished,
      buildUpgWriteIx_eq (length_chunkAt_lt offset)]
    by_cases fits : offset < 2 ^ 32
    · rw [if_pos fits]
      have one :
          BufferSends env programBytes
            (sendAndConfirm env payer
              [.invoke
                (upgWriteIx bufferKp authority offset
                  (chunkAt programBytes offset))]
              [payer, authority])
            before [offset] := by
        apply bufferSends_sendAndConfirm (by simpa using fits)
        rw [List.filterMap_cons, payloadOf_upgWriteIx]
        rfl
      apply one.bind
      intro _ middle _
      exact bufferSends_bufferLoop _ middle
    · rw [if_neg fits]
      exact sendsChunks_large _ (not_lt.mp fits)
  · rw [dif_neg unfinished, loopOffsets_of_le (not_lt.mp unfinished)]
    apply sendsChunks_ok (List.forall_mem_nil _)
    exact (List.append_nil _).symm
termination_by programBytes.length - offset
decreasing_by
  simp only [bpfLoaderWriteChunk]
  omega

theorem bufferSends_writeBuffer :
    BufferSends env programBytes
      (writeBuffer env payer bufferKp authority programBytes) {}
      (loopOffsets programBytes.length 0) := by
  rw [writeBuffer]
  apply Action.ends_ofExcept_bind
  · intro lamports _
    have create :
        BufferSends env programBytes
          (sendAndConfirm env payer
            [.createAccount
                (bufferParams payer bufferKp programBytes lamports),
              .invoke (buildUpgInitBufferIx bufferKp authority)]
            [payer, bufferKp])
          {} [] := by
      apply bufferSends_sendAndConfirm (List.forall_mem_nil _)
      rw [List.filterMap_cons, payloadOf, List.filterMap_cons,
        payloadOf_upgInitBufferIx]
      rfl
    apply create.bind
    intro _ created _
    exact bufferSends_bufferLoop 0 created
  · intro exc failed
    have disturbed : ¬ env.Undisturbed := by
      rintro ⟨⟨lamports, answered⟩, _, _⟩
      cases failed.symm.trans answered
    apply sendsChunks_refused _ disturbed (List.forall_mem_nil _)
    rfl

end Buffer

/-! ## The two compared -/

/-- The offsets and chunks of a program, up to the first offset that does not
fit into 32 bits. -/
def writeSequence (programBytes : Bytes) : List (ℕ × Bytes) :=
  ((loopOffsets programBytes.length 0).takeWhile (· < 2 ^ 32)).map
    fun offset => (offset, chunkAt programBytes offset)

/-- The payloads are those of the first writes of the sequence, and of all of
it when the sending is complete. -/
def WritesFrom (sequence : List (ℕ × Bytes)) (discriminant : ℕ)
    (payloads : List Bytes) (complete : Prop) : Prop :=
  ∃ sent, payloads = sent.map (fun write =>
      writePayload discriminant write.1 write.2) ∧
    sent <+: sequence ∧ (complete → sent = sequence)

theorem takeWhile_prefix_append
    {sent rest : List ℕ} (fits : ∀ offset ∈ sent, offset < 2 ^ 32) :
    (sent ++ rest).takeWhile (· < 2 ^ 32) =
      sent ++ rest.takeWhile (· < 2 ^ 32) := by
  apply List.takeWhile_append_of_pos
  intro offset member
  exact decide_eq_true (fits offset member)

theorem writesFrom_of_endsSending
    {σ α : Type} {payloads : σ → List Bytes} {discriminant : ℕ}
    {programBytes : Bytes} {undisturbed : Prop} {action : Action σ α}
    {before : σ}
    (ends :
      EndsSending payloads discriminant programBytes undisturbed action before
        (loopOffsets programBytes.length 0))
    (fresh : payloads before = []) :
    WritesFrom (writeSequence programBytes) discriminant
      (payloads (action.run.run before).2)
      ((action.run.run before).1.isOk ∨ undisturbed) := by
  obtain ⟨sent, rest, sends⟩ := ends
  have sequence :
      writeSequence programBytes =
        (sent ++ rest.takeWhile (· < 2 ^ 32)).map
          fun offset => (offset, chunkAt programBytes offset) := by
    rw [writeSequence, sends.split, takeWhile_prefix_append sends.fits]
  refine
    ⟨sent.map fun offset => (offset, chunkAt programBytes offset), ?_, ?_, ?_⟩
  · rw [sends.appended, fresh, List.nil_append, chunkPayloads, List.map_map]
    rfl
  · rw [sequence, List.map_append]
    exact List.prefix_append _ _
  · intro complete
    have nothingLeft : rest.takeWhile (· < 2 ^ 32) = [] := by
      cases outcome : (action.run.run before).1 with
      | ok value =>
          rw [sends.all value outcome]
          rfl
      | error exc =>
          rw [outcome] at complete
          have holds : undisturbed := by
            rcases complete with isOk | holds
            · cases isOk
            · exact holds
          obtain ⟨offset, later, isRest, large⟩ :=
            sends.stopped holds exc outcome
          rw [isRest, List.takeWhile_cons_of_neg]
          simpa using large
    rw [sequence, nothingLeft, List.append_nil]

/-- However they end, both send Writes of one sequence of offsets and chunks,
which depends on the program only; the payloads of the two differ in their
discriminant.  Each sends the whole sequence when it returns, or when its
surroundings do not disturb it. -/
theorem writes_correspond
    (deployEnv bufferEnv : Env)
    (payer programKeypair bufferPayer bufferKp authority : Pubkey)
    (programBytes : Bytes) :
    let deployed :=
      (deployProgram deployEnv payer programKeypair programBytes).run.run {}
    let buffered :=
      (writeBuffer bufferEnv bufferPayer bufferKp authority
        programBytes).run.run {}
    WritesFrom (writeSequence programBytes) 0 deployed.2.writePayloads
        (deployed.1.isOk ∨ deployEnv.Undisturbed) ∧
      WritesFrom (writeSequence programBytes) upgWrite
        buffered.2.writePayloads
        (buffered.1.isOk ∨ bufferEnv.Undisturbed) :=
  ⟨writesFrom_of_endsSending deploySends_deployProgram rfl,
    writesFrom_of_endsSending bufferSends_writeBuffer rfl⟩

end KarstflowTests.Programs

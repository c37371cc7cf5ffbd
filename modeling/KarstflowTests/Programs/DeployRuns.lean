import KarstflowTests.Programs.Deploy

/-!
# The normal returns of a deployment

Each part of `deployProgram` gets one lemma that says exactly when it returns
normally and what it then leaves in the log.  `loopOffsets` lists the write
offsets without batches; the batched loop sends the same writes.
-/

namespace KarstflowTests.Programs

open KarstflowTests.Library KarstflowTests.Wait

section Spec

variable {env : Env} {payer programKeypair : Pubkey} {programBytes : Bytes}
variable {before after : DeployLog}

/-- The transaction with the given number and instruction. -/
def Env.transaction (env : Env) (payer programKeypair : Pubkey)
    (index : ℕ) (instruction : ProgramInstruction) : Transaction where
  instruction := instruction
  payer := payer
  blockhash := env.blockhash index
  signers := [payer, programKeypair]

theorem Env.accepted_iff {index : ℕ} :
    env.Accepted index ↔
      ∃ blockhash signature,
        (env.fate index).blockhash = .ok blockhash ∧
          (env.fate index).signature = .ok signature := by
  constructor
  · intro holds
    rcases holds with ⟨blockhash, signature⟩
    exact ⟨_, _, blockhash, signature⟩
  · intro holds
    rcases holds with ⟨blockhash, signature, blockhashEq, signatureEq⟩
    constructor
    · rw [Env.blockhash, blockhashEq]
      rfl
    · rw [Env.signature, signatureEq]
      rfl

theorem returns_broadcast
    {instruction : ProgramInstruction} {sent : Sent} :
    (broadcast env payer programKeypair instruction).Returns
        before sent after ↔
      env.Accepted before.count ∧
        sent = ⟨before.count, env.signature before.count⟩ ∧
        after = before.send
          (env.transaction payer programKeypair before.count
            instruction) := by
  simp only [broadcast, Action.returns_get_bind,
    Action.returns_ofExcept_bind, Action.returns_modify_bind,
    Action.returns_pure]
  constructor
  · intro holds
    rcases holds with ⟨blockhash, blockhashEq, signature, signatureEq, rfl, rfl⟩
    have blockhash_eq : env.blockhash before.count = blockhash := by
      rw [Env.blockhash, blockhashEq]
      rfl
    have signature_eq : env.signature before.count = signature := by
      rw [Env.signature, signatureEq]
      rfl
    exact
      ⟨Env.accepted_iff.mpr ⟨_, _, blockhashEq, signatureEq⟩,
        by rw [signature_eq], by rw [Env.transaction, blockhash_eq]⟩
  · intro holds
    rcases holds with ⟨⟨blockhashEq, signatureEq⟩, rfl, rfl⟩
    exact ⟨_, blockhashEq, _, signatureEq, rfl, rfl⟩

theorem returns_awaitConfirmation {sent : Sent} {done : Unit} :
    (awaitConfirmation env sent).Returns before done after ↔
      env.Confirms sent.index ∧ after = before.confirm sent.index := by
  simp only [awaitConfirmation, Action.returns_ofExcept_bind,
    Action.returns_modify]
  constructor
  · intro holds
    rcases holds with ⟨_, waited, rfl⟩
    exact
      ⟨(waitForConfirmation_ok_iff
        (env.fate sent.index).observation).mp waited, rfl⟩
  · intro holds
    rcases holds with ⟨confirms, rfl⟩
    exact
      ⟨(),
        (waitForConfirmation_ok_iff
          (env.fate sent.index).observation).mpr confirms, rfl⟩

/-! ## Batches -/

/-- The offsets of one batch. -/
def batchOffsets (space : ℕ) : (count offset : ℕ) → List ℕ
  | 0, _ => []
  | count + 1, offset =>
      if space ≤ offset then
        []
      else
        offset :: batchOffsets space count (offset + bpfLoaderWriteChunk)

/-- All write offsets from `offset` on. -/
def loopOffsets (space offset : ℕ) : List ℕ :=
  if space ≤ offset then
    []
  else
    offset :: loopOffsets space (offset + bpfLoaderWriteChunk)
termination_by space - offset
decreasing_by
  simp only [bpfLoaderWriteChunk]
  omega

theorem loopOffsets_of_le {space offset : ℕ} (finished : space ≤ offset) :
    loopOffsets space offset = [] := by
  rw [loopOffsets, if_pos finished]

theorem loopOffsets_of_lt {space offset : ℕ} (unfinished : offset < space) :
    loopOffsets space offset =
      offset :: loopOffsets space (offset + bpfLoaderWriteChunk) := by
  rw [loopOffsets, if_neg (not_le.mpr unfinished)]

/-- A batch is the first part of the remaining writes. -/
theorem batchOffsets_append_loopOffsets (space : ℕ) :
    ∀ count offset : ℕ,
      batchOffsets space count offset ++
          loopOffsets space (batchEnd space count offset) =
        loopOffsets space offset
  | 0, _ => rfl
  | count + 1, offset => by
      rw [batchOffsets, batchEnd]
      by_cases finished : space ≤ offset
      · rw [if_pos finished, if_pos finished, List.nil_append]
      · rw [if_neg finished, if_neg finished, List.cons_append,
          batchOffsets_append_loopOffsets space count,
          ← loopOffsets_of_lt (not_le.mp finished)]

variable (env payer programKeypair programBytes)

/-- The transaction with a given number that writes the chunk at an offset. -/
def writeTransaction (index offset : ℕ) : Transaction :=
  env.transaction payer programKeypair index
    (.invoke (writeIx programKeypair offset (chunkAt programBytes offset)))

/-- Broadcast the writes at the given offsets. -/
def sendWrites : List ℕ → DeployLog → DeployLog
  | [], log => log
  | offset :: offsets, log =>
      sendWrites offsets
        (log.send
          (writeTransaction env payer programKeypair programBytes
            log.count offset))

/-- The writes at the given offsets, numbered from `index`, can be built and
are accepted. -/
def WritesAccepted : (index : ℕ) → List ℕ → Prop
  | _, [] => True
  | index, offset :: offsets =>
      offset < 2 ^ 32 ∧ env.Accepted index ∧
        WritesAccepted (index + 1) offsets

/-- The broadcast transactions numbered from `index`. -/
def sentFrom : (index count : ℕ) → List Sent
  | _, 0 => []
  | index, count + 1 =>
      ⟨index, env.signature index⟩ :: sentFrom (index + 1) count

def confirmAll : List ℕ → DeployLog → DeployLog
  | [], log => log
  | index :: indices, log => confirmAll indices (log.confirm index)

variable {env payer programKeypair programBytes}

theorem length_chunkAt_lt (offset : ℕ) :
    (chunkAt programBytes offset).length < 2 ^ 64 := by
  have bound :
      (chunkAt programBytes offset).length ≤ bpfLoaderWriteChunk :=
    List.length_take_le _ _
  exact lt_of_le_of_lt bound (by decide)

@[simp]
theorem DeployLog.count_send (log : DeployLog) (transaction : Transaction) :
    (log.send transaction).count = log.count + 1 := by
  simp [DeployLog.count, DeployLog.send]

theorem returns_sendBatch :
    ∀ (count offset : ℕ) (before after : DeployLog) (batch : List Sent),
      (sendBatch env payer programKeypair programBytes count
          offset).Returns before batch after ↔
        WritesAccepted env before.count
            (batchOffsets programBytes.length count offset) ∧
          batch = sentFrom env before.count
            (batchOffsets programBytes.length count offset).length ∧
          after = sendWrites env payer programKeypair programBytes
            (batchOffsets programBytes.length count offset) before
  | 0, offset, before, after, batch => by
      simp [sendBatch, batchOffsets, WritesAccepted, sentFrom, sendWrites]
  | count + 1, offset, before, after, batch => by
      rw [sendBatch, batchOffsets]
      by_cases finished : programBytes.length ≤ offset
      · simp [finished, WritesAccepted, sentFrom, sendWrites]
      · rw [if_neg finished, if_neg finished,
          Action.returns_ofExcept_bind]
        simp only [Action.returns_bind, Action.returns_pure,
          buildBpfLoaderWriteIx_ok_iff (length_chunkAt_lt offset),
          returns_broadcast, returns_sendBatch count, WritesAccepted,
          List.length_cons, sentFrom, sendWrites]
        constructor
        · rintro ⟨_, ⟨fits, rfl⟩, _, _, ⟨accepted, rfl, rfl⟩,
            _, _, ⟨restAccepted, rfl, rfl⟩, rfl, rfl⟩
          rw [DeployLog.count_send] at restAccepted ⊢
          exact ⟨⟨fits, accepted, restAccepted⟩, rfl, rfl⟩
        · intro holds
          rcases holds with ⟨⟨fits, accepted, restAccepted⟩, rfl, rfl⟩
          refine ⟨_, ⟨fits, rfl⟩, _, _, ⟨accepted, rfl, rfl⟩,
            _, _, ⟨?_, rfl, rfl⟩, ?_, rfl⟩
          · rwa [DeployLog.count_send]
          · rw [DeployLog.count_send]

theorem returns_awaitAll :
    ∀ (count index : ℕ) (before after : DeployLog) (done : Unit),
      (awaitAll env (sentFrom env index count)).Returns before done after ↔
        (∀ skipped, skipped < count → env.Confirms (index + skipped)) ∧
          after = confirmAll (List.range' index count) before
  | 0, index, before, after, done => by
      simp [sentFrom, awaitAll, confirmAll]
  | count + 1, index, before, after, done => by
      simp only [sentFrom, awaitAll, Action.returns_bind,
        returns_awaitConfirmation, returns_awaitAll count,
        List.range'_succ, confirmAll]
      constructor
      · intro holds
        rcases holds with ⟨_, _, ⟨confirms, rfl⟩, rest, rfl⟩
        refine ⟨?_, rfl⟩
        intro skipped below
        cases skipped with
        | zero => exact confirms
        | succ skipped =>
            have later := rest skipped (by omega)
            rwa [show index + (skipped + 1) = index + 1 + skipped by omega]
      · intro holds
        rcases holds with ⟨confirms, rfl⟩
        refine ⟨(), _, ⟨confirms 0 (by omega), rfl⟩, ?_, rfl⟩
        intro skipped below
        have later := confirms (skipped + 1) (by omega)
        rwa [show index + 1 + skipped = index + (skipped + 1) by omega]

/-! ## The batched loop -/

theorem count_sendWrites (offsets : List ℕ) :
    ∀ log : DeployLog,
      (sendWrites env payer programKeypair programBytes offsets log).count =
        log.count + offsets.length := by
  induction offsets with
  | nil => intro log; rfl
  | cons offset offsets inductionHypothesis =>
      intro log
      rw [sendWrites, inductionHypothesis, DeployLog.count_send,
        List.length_cons]
      omega

theorem transactions_confirmAll (indices : List ℕ) :
    ∀ log : DeployLog,
      (confirmAll indices log).transactions = log.transactions := by
  induction indices with
  | nil => intro log; rfl
  | cons index indices inductionHypothesis =>
      intro log
      rw [confirmAll, inductionHypothesis]
      rfl

theorem count_confirmAll (indices : List ℕ) (log : DeployLog) :
    (confirmAll indices log).count = log.count := by
  rw [DeployLog.count, transactions_confirmAll]
  rfl

theorem writesAccepted_append (front back : List ℕ) :
    ∀ index : ℕ,
      WritesAccepted env index (front ++ back) ↔
        WritesAccepted env index front ∧
          WritesAccepted env (index + front.length) back := by
  induction front with
  | nil => simp [WritesAccepted]
  | cons offset front inductionHypothesis =>
      intro index
      simp only [List.cons_append, WritesAccepted, inductionHypothesis,
        List.length_cons, and_assoc]
      rw [show index + 1 + front.length = index + (front.length + 1) by
        omega]

theorem confirms_append (front back index : ℕ) :
    (∀ skipped, skipped < front + back → env.Confirms (index + skipped)) ↔
      (∀ skipped, skipped < front → env.Confirms (index + skipped)) ∧
        ∀ skipped, skipped < back →
          env.Confirms (index + front + skipped) := by
  constructor
  · intro confirms
    constructor
    · intro skipped below
      exact confirms skipped (by omega)
    · intro skipped below
      rw [show index + front + skipped = index + (front + skipped) by omega]
      exact confirms (front + skipped) (by omega)
  · rintro ⟨first, second⟩ skipped below
    by_cases early : skipped < front
    · exact first skipped early
    · have later := second (skipped - front) (by omega)
      rwa [show index + front + (skipped - front) = index + skipped by
        omega] at later

variable (env payer programKeypair programBytes)

/-- The log after one batch from `offset`. -/
def batchLog (offset : ℕ) (log : DeployLog) : DeployLog :=
  confirmAll
    (List.range' log.count
      (batchOffsets programBytes.length bpfLoaderWriteBatch offset).length)
    (sendWrites env payer programKeypair programBytes
      (batchOffsets programBytes.length bpfLoaderWriteBatch offset) log)

/-- The log after the remaining batches. -/
def loopLog (offset : ℕ) (log : DeployLog) : DeployLog :=
  if _unfinished : offset < programBytes.length then
    loopLog (batchEnd programBytes.length bpfLoaderWriteBatch offset)
      (batchLog env payer programKeypair programBytes offset log)
  else
    log
termination_by programBytes.length - offset
decreasing_by
  have progress := lt_batchEnd _unfinished
  omega

variable {env payer programKeypair programBytes}

theorem count_batchLog (offset : ℕ) (log : DeployLog) :
    (batchLog env payer programKeypair programBytes offset log).count =
      log.count +
        (batchOffsets programBytes.length bpfLoaderWriteBatch
          offset).length := by
  rw [batchLog, count_confirmAll, count_sendWrites]

theorem returns_writeLoop (offset : ℕ) (before after : DeployLog)
    (done : Unit) :
    (writeLoop env payer programKeypair programBytes offset).Returns
        before done after ↔
      WritesAccepted env before.count
          (loopOffsets programBytes.length offset) ∧
        (∀ skipped,
          skipped < (loopOffsets programBytes.length offset).length →
            env.Confirms (before.count + skipped)) ∧
        after = loopLog env payer programKeypair programBytes offset
          before := by
  rw [writeLoop, loopLog]
  by_cases unfinished : offset < programBytes.length
  · -- the batch takes the first part of the remaining offsets
    have remaining :=
      batchOffsets_append_loopOffsets programBytes.length
        bpfLoaderWriteBatch offset
    rw [dif_pos unfinished, dif_pos unfinished, ← remaining,
      writesAccepted_append, List.length_append, confirms_append]
    simp only [Action.returns_bind, returns_sendBatch]
    constructor
    · intro holds
      rcases holds with ⟨_, _, ⟨accepted, rfl, rfl⟩, _, _, waited, continues⟩
      rw [returns_awaitAll] at waited
      obtain ⟨confirms, rfl⟩ := waited
      have fromBatch :
          (writeLoop env payer programKeypair programBytes
            (batchEnd programBytes.length bpfLoaderWriteBatch
              offset)).Returns
            (batchLog env payer programKeypair programBytes offset before)
            done after :=
        continues
      have rest := (returns_writeLoop _ _ _ _).mp fromBatch
      rw [count_batchLog] at rest
      exact
        ⟨⟨accepted, rest.1⟩, ⟨confirms, rest.2.1⟩, rest.2.2⟩
    · intro holds
      rcases holds with
        ⟨⟨accepted, restAccepted⟩, ⟨confirms, restConfirms⟩, rfl⟩
      refine
        ⟨_, _, ⟨accepted, rfl, rfl⟩, (),
          batchLog env payer programKeypair programBytes offset before,
          (returns_awaitAll _ _ _ _ _).mpr ⟨confirms, rfl⟩,
          (returns_writeLoop _ _ _ _).mpr ?_⟩
      rw [count_batchLog]
      exact ⟨restAccepted, restConfirms, rfl⟩
  · rw [dif_neg unfinished, dif_neg unfinished,
      loopOffsets_of_le (not_lt.mp unfinished), Action.returns_pure]
    simp [WritesAccepted]
termination_by programBytes.length - offset
decreasing_by
  all_goals
    have progress := lt_batchEnd unfinished
    omega

/-! ## The whole deployment -/

variable (env payer programKeypair programBytes)

def createTransaction (lamports : ℕ) : Transaction :=
  env.transaction payer programKeypair 0
    (.createAccount
      (createParams payer programKeypair programBytes lamports))

def finalizeTransaction (index : ℕ) : Transaction :=
  env.transaction payer programKeypair index
    (.invoke (buildBpfLoaderFinalizeIx programKeypair))

/-- The number of writes of a deployment. -/
def writeCount (space : ℕ) : ℕ := (loopOffsets space 0).length

/-- The log of a deployment that returns normally. -/
def deployLog (lamports : ℕ) : DeployLog :=
  let created :=
    (DeployLog.send {}
      (createTransaction env payer programKeypair programBytes
        lamports)).confirm 0
  let written :=
    loopLog env payer programKeypair programBytes 0 created
  (written.send
    (finalizeTransaction env payer programKeypair
      (writeCount programBytes.length + 1))).confirm
    (writeCount programBytes.length + 1)

/-- The surroundings let a deployment of the given size run to its end: every
request is answered, every offset fits its field, and the polls report every
transaction as confirmed. -/
structure Env.Completes (space : ℕ) : Prop where
  rent : ∃ lamports, env.rent = .ok lamports
  offsets : ∀ offset ∈ loopOffsets space 0, offset < 2 ^ 32
  accepted : ∀ index, index < writeCount space + 2 → env.Accepted index
  confirms : ∀ index, index < writeCount space + 2 → env.Confirms index

variable {env payer programKeypair programBytes}

theorem writesAccepted_iff (offsets : List ℕ) :
    ∀ index : ℕ,
      WritesAccepted env index offsets ↔
        (∀ offset ∈ offsets, offset < 2 ^ 32) ∧
          ∀ skipped, skipped < offsets.length →
            env.Accepted (index + skipped) := by
  induction offsets with
  | nil => simp [WritesAccepted]
  | cons offset offsets inductionHypothesis =>
      intro index
      simp only [WritesAccepted, inductionHypothesis,
        List.forall_mem_cons, List.length_cons]
      constructor
      · intro holds
        rcases holds with ⟨fits, accepted, restFit, restAccepted⟩
        refine ⟨⟨fits, restFit⟩, ?_⟩
        intro skipped below
        cases skipped with
        | zero => exact accepted
        | succ skipped =>
            have later := restAccepted skipped (by omega)
            rwa [show index + (skipped + 1) = index + 1 + skipped by omega]
      · intro holds
        rcases holds with ⟨⟨fits, restFit⟩, accepted⟩
        refine ⟨fits, accepted 0 (by omega), restFit, ?_⟩
        intro skipped below
        have later := accepted (skipped + 1) (by omega)
        rwa [show index + 1 + skipped = index + (skipped + 1) by omega]

theorem count_loopLog (offset : ℕ) (log : DeployLog) :
    (loopLog env payer programKeypair programBytes offset log).count =
      log.count + (loopOffsets programBytes.length offset).length := by
  rw [loopLog]
  by_cases unfinished : offset < programBytes.length
  · rw [dif_pos unfinished, count_loopLog, count_batchLog,
      ← batchOffsets_append_loopOffsets programBytes.length
        bpfLoaderWriteBatch offset, List.length_append]
    omega
  · rw [dif_neg unfinished, loopOffsets_of_le (not_lt.mp unfinished)]
    rfl
termination_by programBytes.length - offset
decreasing_by
  have progress := lt_batchEnd unfinished
  omega

/-- The create is the first transaction, the finalize the last. -/
private theorem forall_transactions_iff (count : ℕ) (property : ℕ → Prop) :
    (∀ index, index < count + 2 → property index) ↔
      property 0 ∧
        (∀ skipped, skipped < count → property (1 + skipped)) ∧
        property (count + 1) := by
  constructor
  · intro all
    refine ⟨all 0 (by omega), ?_, all (count + 1) (by omega)⟩
    intro skipped below
    exact all (1 + skipped) (by omega)
  · rintro ⟨first, middle, last⟩ index below
    rcases Nat.eq_zero_or_pos index with zero | positive
    · rwa [zero]
    · by_cases isLast : index = count + 1
      · rwa [isLast]
      · have inside := middle (index - 1) (by omega)
        rwa [show 1 + (index - 1) = index by omega] at inside

theorem Env.completes_iff {space : ℕ} :
    env.Completes space ↔
      (∃ lamports, env.rent = .ok lamports) ∧
        (env.Accepted 0 ∧ env.Confirms 0) ∧
        (WritesAccepted env 1 (loopOffsets space 0) ∧
          ∀ skipped, skipped < writeCount space →
            env.Confirms (1 + skipped)) ∧
        env.Accepted (writeCount space + 1) ∧
        env.Confirms (writeCount space + 1) := by
  rw [writesAccepted_iff]
  constructor
  · intro completes
    have accepted :=
      (forall_transactions_iff _ env.Accepted).mp completes.accepted
    have confirms :=
      (forall_transactions_iff _ env.Confirms).mp completes.confirms
    exact
      ⟨completes.rent, ⟨accepted.1, confirms.1⟩,
        ⟨⟨completes.offsets, accepted.2.1⟩, confirms.2.1⟩,
        accepted.2.2, confirms.2.2⟩
  · rintro ⟨rent, ⟨createAccepted, createConfirms⟩,
      ⟨⟨offsets, accepted⟩, confirms⟩, finalAccepted, finalConfirms⟩
    exact
      { rent := rent
        offsets := offsets
        accepted :=
          (forall_transactions_iff _ env.Accepted).mpr
            ⟨createAccepted, accepted, finalAccepted⟩
        confirms :=
          (forall_transactions_iff _ env.Confirms).mpr
            ⟨createConfirms, confirms, finalConfirms⟩ }

/-- A deployment returns normally exactly when the surroundings let it run to
its end. -/
theorem returns_deployProgram {key : Pubkey} :
    (deployProgram env payer programKeypair programBytes).Returns
        {} key after ↔
      env.Completes programBytes.length ∧ key = programKeypair ∧
        ∃ lamports, env.rent = .ok lamports ∧
          after = deployLog env payer programKeypair programBytes
            lamports := by
  have writtenCount (lamports : ℕ) :
      (loopLog env payer programKeypair programBytes 0
        ((DeployLog.send {}
          (createTransaction env payer programKeypair programBytes
            lamports)).confirm 0)).count =
        writeCount programBytes.length + 1 := by
    rw [count_loopLog]
    exact Nat.add_comm 1 _
  rw [deployProgram, Action.returns_ofExcept_bind, Env.completes_iff]
  simp only [Action.returns_bind, returns_broadcast,
    returns_awaitConfirmation, returns_writeLoop, Action.returns_pure]
  constructor
  · rintro ⟨lamports, rent, _, _, ⟨accepted, rfl, rfl⟩, _, _,
      ⟨confirms, rfl⟩, _, _, ⟨writesAccepted, writesConfirm, rfl⟩, _, _,
      ⟨finalAccepted, rfl, rfl⟩, _, _, ⟨finalConfirms, rfl⟩, rfl, rfl⟩
    have count := writtenCount lamports
    refine
      ⟨⟨⟨lamports, rent⟩, ⟨accepted, confirms⟩,
        ⟨writesAccepted, writesConfirm⟩, ?_, ?_⟩, rfl, lamports, rent, ?_⟩
    · exact count ▸ finalAccepted
    · exact count ▸ finalConfirms
    · rw [deployLog, ← count]
      rfl
  · rintro ⟨⟨_, ⟨accepted, confirms⟩, ⟨writesAccepted, writesConfirm⟩,
      finalAccepted, finalConfirms⟩, rfl, lamports, rent, rfl⟩
    have count := writtenCount lamports
    refine
      ⟨lamports, rent, _, _, ⟨accepted, rfl, rfl⟩, (), _,
        ⟨confirms, rfl⟩, (), _, ⟨writesAccepted, writesConfirm, rfl⟩, _, _,
        ⟨?_, rfl, rfl⟩, (), _, ⟨?_, rfl⟩, rfl, ?_⟩
    · exact count.symm ▸ finalAccepted
    · exact count.symm ▸ finalConfirms
    · rw [deployLog, ← count]
      rfl

end Spec

end KarstflowTests.Programs

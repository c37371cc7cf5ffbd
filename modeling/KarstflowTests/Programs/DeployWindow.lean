import KarstflowTests.Programs.DeployLedger

/-!
# The writes of a deployment, however it ends

A deployment may raise at any request.  At every moment until then the writes
that are sent but not confirmed fit one batch, each of them decodes to a chunk
inside the program, and the finalize is only sent when none is outstanding and
all of them together hold the program.
-/

namespace KarstflowTests.Programs

open KarstflowTests.Library KarstflowTests.Wait

/-! ## Outstanding writes -/

/-- The loader command that a transaction carries. -/
def Transaction.command (transaction : Transaction) : Option LoaderCommand :=
  match transaction.instruction with
  | .createAccount _ => none
  | .invoke instruction => decodeLoaderCommand instruction.data

def isWriteCommand : Option LoaderCommand → Bool
  | some (.write _ _) => true
  | _ => false

namespace DeployLog

def isWrite (log : DeployLog) (index : ℕ) : Bool :=
  isWriteCommand (loaderCommandAt log index)

end DeployLog

/-- The writes that are sent and not yet confirmed after the given events. -/
def outstanding (isWrite : ℕ → Bool) (events : List DeployEvent) : List ℕ :=
  events.foldl
    (fun waiting event =>
      match event with
      | .sent index => if isWrite index then waiting ++ [index] else waiting
      | .confirmed index => waiting.filter (· != index))
    []

/-- A write instruction holds a chunk that lies inside the program. -/
def IsChunkWrite (space : ℕ) (data : Bytes) : Prop :=
  ∃ offset bytes,
    decodeLoaderCommand data = some (.write offset bytes) ∧
      data.length = 16 + bytes.length ∧
      1 ≤ bytes.length ∧ bytes.length ≤ bpfLoaderWriteChunk ∧
      offset + bytes.length ≤ space

/-- What a deployment may have sent when it ends, at whatever point. -/
structure DeployLog.Windowed (space : ℕ) (log : DeployLog) : Prop where
  writes :
    ∀ transaction ∈ log.transactions, ∀ instruction,
      transaction.instruction = .invoke instruction →
        decodeLoaderCommand instruction.data = some .finalize ∨
          IsChunkWrite space instruction.data
  known : ∀ index, .sent index ∈ log.events → index < log.count
  window :
    ∀ moment, moment <+: log.events →
      (outstanding log.isWrite moment).length ≤ bpfLoaderWriteBatch
  finalizedAlone :
    ∀ moment index, moment ++ [.sent index] <+: log.events →
      loaderCommandAt log index = some .finalize →
        outstanding log.isWrite moment = []

/-- Before the finalize is sent. -/
structure DeployLog.Uploading (space : ℕ) (log : DeployLog) : Prop
    extends log.Windowed space where
  unfinalized : ∀ index, loaderCommandAt log index ≠ some .finalize

def DeployLog.waiting (log : DeployLog) : List ℕ :=
  outstanding log.isWrite log.events

/-! ## One event -/

section Events

variable {space : ℕ} {log : DeployLog}

theorem loaderCommandAt_eq (log : DeployLog) (index : ℕ) :
    loaderCommandAt log index =
      log.transactions[index]?.bind Transaction.command := by
  rw [loaderCommandAt]
  cases log.transactions[index]? with
  | none => rfl
  | some transaction =>
      obtain ⟨instruction, payer, blockhash, signers⟩ := transaction
      cases instruction <;> rfl

theorem loaderCommandAt_send_of_lt
    (transaction : Transaction) {index : ℕ} (below : index < log.count) :
    loaderCommandAt (log.send transaction) index =
      loaderCommandAt log index := by
  rw [loaderCommandAt_eq, loaderCommandAt_eq, DeployLog.send,
    List.getElem?_append_left below]

theorem loaderCommandAt_send_count (transaction : Transaction) :
    loaderCommandAt (log.send transaction) log.count =
      transaction.command := by
  rw [loaderCommandAt_eq, DeployLog.send, DeployLog.count,
    List.getElem?_concat_length]
  rfl

theorem outstanding_append_sent
    (isWrite : ℕ → Bool) (events : List DeployEvent) (index : ℕ) :
    outstanding isWrite (events ++ [.sent index]) =
      if isWrite index then
        outstanding isWrite events ++ [index]
      else
        outstanding isWrite events := by
  rw [outstanding, List.foldl_append]
  rfl

theorem outstanding_append_confirmed
    (isWrite : ℕ → Bool) (events : List DeployEvent) (index : ℕ) :
    outstanding isWrite (events ++ [.confirmed index]) =
      (outstanding isWrite events).filter (· != index) := by
  rw [outstanding, List.foldl_append]
  rfl

/-- Only the sent transactions matter. -/
theorem outstanding_congr
    {first second : ℕ → Bool} {events : List DeployEvent}
    (agree : ∀ index, .sent index ∈ events → first index = second index) :
    outstanding first events = outstanding second events := by
  induction events using List.reverseRecOn with
  | nil => rfl
  | append_singleton events event inductionHypothesis =>
      have earlier := inductionHypothesis fun index member =>
        agree index (List.mem_append_left _ member)
      cases event with
      | sent index =>
          have same := agree index (List.mem_append_right _ List.mem_cons_self)
          rw [outstanding_append_sent, outstanding_append_sent, earlier, same]
      | confirmed index =>
          rw [outstanding_append_confirmed, outstanding_append_confirmed,
            earlier]

/-- A broadcast does not change what earlier moments look like. -/
theorem DeployLog.Windowed.outstanding_send
    (windowed : log.Windowed space) (transaction : Transaction)
    {moment : List DeployEvent} (isMoment : moment <+: log.events) :
    outstanding (log.send transaction).isWrite moment =
      outstanding log.isWrite moment := by
  apply outstanding_congr
  intro index member
  have below := windowed.known index (isMoment.subset member)
  rw [DeployLog.isWrite, DeployLog.isWrite,
    loaderCommandAt_send_of_lt transaction below]

theorem DeployLog.Windowed.waiting_send
    (windowed : log.Windowed space) (transaction : Transaction) :
    (log.send transaction).waiting =
      if isWriteCommand transaction.command then
        log.waiting ++ [log.count]
      else
        log.waiting := by
  have earlier :=
    windowed.outstanding_send transaction (List.prefix_refl log.events)
  have events : (log.send transaction).events =
      log.events ++ [.sent log.count] := rfl
  have command : (log.send transaction).isWrite log.count =
      isWriteCommand transaction.command := by
    rw [DeployLog.isWrite, loaderCommandAt_send_count]
  rw [DeployLog.waiting, events, outstanding_append_sent, earlier, command]
  rfl

theorem waiting_confirm (log : DeployLog) (index : ℕ) :
    (log.confirm index).waiting = log.waiting.filter (· != index) :=
  outstanding_append_confirmed log.isWrite log.events index

theorem DeployLog.Windowed.confirm
    (windowed : log.Windowed space) (index : ℕ) :
    (log.confirm index).Windowed space where
  writes := windowed.writes
  known := by
    intro sent member
    rcases List.mem_append.mp member with earlier | isLast
    · exact windowed.known sent earlier
    · cases List.mem_singleton.mp isLast
  window := by
    intro moment isMoment
    rcases List.prefix_concat_iff.mp isMoment with whole | earlier
    · have before := windowed.window log.events (List.prefix_refl _)
      have shorter := List.length_filter_le (· != index) log.waiting
      rw [whole]
      exact
        (congrArg List.length (waiting_confirm log index)).trans_le
          (shorter.trans before)
    · exact windowed.window moment earlier
  finalizedAlone := by
    intro moment sent isMoment
    rcases List.prefix_concat_iff.mp isMoment with whole | earlier
    · have last := congrArg List.getLast? whole
      rw [List.getLast?_concat, List.getLast?_concat] at last
      cases last
    · exact windowed.finalizedAlone moment sent earlier

/-- A broadcast keeps the window if there is room for it. -/
theorem DeployLog.Windowed.send
    (windowed : log.Windowed space) {transaction : Transaction}
    (sound :
      ∀ instruction, transaction.instruction = .invoke instruction →
        decodeLoaderCommand instruction.data = some .finalize ∨
          IsChunkWrite space instruction.data)
    (room :
      isWriteCommand transaction.command = true →
        log.waiting.length < bpfLoaderWriteBatch)
    (alone :
      transaction.command = some .finalize → log.waiting = []) :
    (log.send transaction).Windowed space where
  writes := by
    intro other member
    rcases List.mem_append.mp member with earlier | isNew
    · exact windowed.writes other earlier
    · rw [List.mem_singleton.mp isNew]
      exact sound
  known := by
    intro sent member
    rw [DeployLog.count_send]
    rcases List.mem_append.mp member with earlier | isNew
    · exact (windowed.known sent earlier).trans (Nat.lt_succ_self _)
    · cases List.mem_singleton.mp isNew
      exact Nat.lt_succ_self _
  window := by
    intro moment isMoment
    rcases List.prefix_concat_iff.mp isMoment with whole | earlier
    · have before := windowed.window log.events (List.prefix_refl _)
      have now := windowed.waiting_send transaction
      rw [whole]
      apply (congrArg List.length now).trans_le
      by_cases write : isWriteCommand transaction.command = true
      · rw [if_pos write, List.length_append]
        exact room write
      · rw [if_neg write]
        exact before
    · rw [windowed.outstanding_send transaction earlier]
      exact windowed.window moment earlier
  finalizedAlone := by
    intro moment sent isMoment isFinalize
    rcases List.prefix_concat_iff.mp isMoment with whole | earlier
    · obtain ⟨same, last⟩ := List.append_inj' whole rfl
      cases last
      rw [loaderCommandAt_send_count] at isFinalize
      rw [same, windowed.outstanding_send transaction (List.prefix_refl _)]
      exact alone isFinalize
    · have inside : .sent sent ∈ log.events :=
        earlier.subset (List.mem_append_right _ List.mem_cons_self)
      have shorter : moment <+: log.events :=
        (List.prefix_append _ _).trans earlier
      rw [loaderCommandAt_send_of_lt transaction
        (windowed.known sent inside)] at isFinalize
      rw [windowed.outstanding_send transaction shorter]
      exact windowed.finalizedAlone moment sent earlier isFinalize

theorem DeployLog.Uploading.confirm
    (uploading : log.Uploading space) (index : ℕ) :
    (log.confirm index).Uploading space where
  toWindowed := uploading.toWindowed.confirm index
  unfinalized := uploading.unfinalized

theorem DeployLog.Uploading.send
    (uploading : log.Uploading space) {transaction : Transaction}
    (windowed : (log.send transaction).Windowed space)
    (other : transaction.command ≠ some .finalize) :
    (log.send transaction).Uploading space where
  toWindowed := windowed
  unfinalized := by
    intro index
    rcases lt_trichotomy index log.count with earlier | isNew | later
    · rw [loaderCommandAt_send_of_lt transaction earlier]
      exact uploading.unfinalized index
    · rw [isNew, loaderCommandAt_send_count]
      exact other
    · have past : (log.send transaction).transactions.length ≤ index := by
        have count := DeployLog.count_send log transaction
        rw [DeployLog.count] at count
        omega
      rw [loaderCommandAt_eq, List.getElem?_eq_none past]
      intro impossible
      cases impossible

end Events

/-! ## The parts of a deployment -/

section Parts

variable {env : Env} {payer programKeypair : Pubkey} {programBytes : Bytes}

theorem ends_broadcast
    {instruction : ProgramInstruction} {before : DeployLog}
    {post : Except Exc Sent → DeployLog → Prop}
    (sends :
      ∀ sent transaction, sent.index = before.count →
        transaction.instruction = instruction →
          post (.ok sent) (before.send transaction))
    (raises :
      ∀ exc, ¬ env.Accepted before.count → post (.error exc) before) :
    (broadcast env payer programKeypair instruction).Ends before post := by
  apply Action.ends_ofExcept_bind
  · intro blockhash _
    apply Action.ends_ofExcept_bind
    · intro signature _
      exact sends ⟨before.count, signature⟩ _ rfl rfl
    · intro exc refused
      apply raises
      intro accepted
      cases refused.symm.trans accepted.2
  · intro exc refused
    apply raises
    intro accepted
    cases refused.symm.trans accepted.1

theorem ends_awaitConfirmation
    {sent : Sent} {before : DeployLog}
    {post : Except Exc Unit → DeployLog → Prop}
    (confirms : post (.ok ()) (before.confirm sent.index))
    (raises :
      ∀ exc, ¬ env.Confirms sent.index → post (.error exc) before) :
    (awaitConfirmation env sent).Ends before post := by
  apply Action.ends_ofExcept_bind
  · intro done _
    exact Action.ends_modify confirms
  · intro exc raised
    apply raises
    intro isConfirmed
    rw [(waitForConfirmation_ok_iff
      (env.fate sent.index).observation).mpr isConfirmed] at raised
    cases raised

/-- The chunk at an offset inside the program is a chunk write. -/
theorem isChunkWrite_writeIx
    {offset : ℕ} (inside : offset < programBytes.length)
    (fits : offset < 2 ^ 32) :
    IsChunkWrite programBytes.length
      (writeIx programKeypair offset (chunkAt programBytes offset)).data := by
  have size : (chunkAt programBytes offset).length =
      min bpfLoaderWriteChunk (programBytes.length - offset) := by
    rw [chunkAt, List.length_take, List.length_drop]
  have positive : 0 < bpfLoaderWriteChunk := by decide
  refine
    ⟨offset, chunkAt programBytes offset,
      decode_writeIx fits (length_chunkAt_lt offset), ?_, ?_, ?_, ?_⟩
  · simp only [writeIx, List.length_append, length_leBytes]
  · omega
  · omega
  · omega

/-- The finalize is not sent yet, and after a normal end the outstanding
writes are as expected of the value. -/
def EndsUploading {α : Type} (space : ℕ) (expected : α → List ℕ → Prop)
    (outcome : Except Exc α) (after : DeployLog) : Prop :=
  after.Uploading space ∧
    ∀ value, outcome = .ok value → expected value after.waiting

theorem endsUploading_ok
    {α : Type} {space : ℕ} {expected : α → List ℕ → Prop} {value : α}
    {after : DeployLog}
    (uploading : after.Uploading space)
    (waiting : expected value after.waiting) :
    EndsUploading space expected (.ok value) after := by
  refine ⟨uploading, ?_⟩
  intro other same
  cases same
  exact waiting

theorem endsUploading_error
    {α : Type} {space : ℕ} {expected : α → List ℕ → Prop} {exc : Exc}
    {after : DeployLog} (uploading : after.Uploading space) :
    EndsUploading space expected (.error exc) after := by
  refine ⟨uploading, ?_⟩
  intro value impossible
  cases impossible

/-- A chunk write takes one more place of the window. -/
theorem ends_broadcast_write
    {before : DeployLog} {instruction : Instruction}
    (uploading : before.Uploading programBytes.length)
    (chunk : IsChunkWrite programBytes.length instruction.data)
    (room : before.waiting.length < bpfLoaderWriteBatch) :
    (broadcast env payer programKeypair (.invoke instruction)).Ends before
      (EndsUploading programBytes.length fun sent waiting =>
        waiting = before.waiting ++ [sent.index]) := by
  obtain ⟨offset, bytes, decodes, _⟩ := id chunk
  apply ends_broadcast
  · intro sent transaction number invokes
    have command : transaction.command = some (.write offset bytes) := by
      rw [Transaction.command, invokes]
      exact decodes
    have waiting := uploading.toWindowed.waiting_send transaction
    rw [command, isWriteCommand, if_pos rfl, ← number] at waiting
    apply endsUploading_ok _ waiting
    apply uploading.send
    · apply uploading.toWindowed.send
      · intro invoked isInvoked
        rw [invokes] at isInvoked
        cases isInvoked
        exact Or.inr chunk
      · intro _
        exact room
      · intro isFinalize
        rw [command] at isFinalize
        cases isFinalize
    · intro isFinalize
      rw [command] at isFinalize
      cases isFinalize
  · intro exc _
    exact endsUploading_error uploading

theorem ends_sendBatch :
    ∀ (count offset : ℕ) (before : DeployLog),
      before.Uploading programBytes.length →
      before.waiting.length + count ≤ bpfLoaderWriteBatch →
      (sendBatch env payer programKeypair programBytes count offset).Ends
        before
        (EndsUploading programBytes.length fun batch waiting =>
          waiting = before.waiting ++ batch.map Sent.index)
  | 0, offset, before, uploading, room =>
      endsUploading_ok uploading (List.append_nil _).symm
  | count + 1, offset, before, uploading, room => by
      rw [sendBatch]
      by_cases finished : programBytes.length ≤ offset
      · rw [if_pos finished]
        exact endsUploading_ok uploading (List.append_nil _).symm
      · rw [if_neg finished]
        apply Action.ends_ofExcept_bind
        · intro writeInstruction built
          obtain ⟨fits, same⟩ :=
            (buildBpfLoaderWriteIx_ok_iff (length_chunkAt_lt offset)).mp built
          have chunk :
              IsChunkWrite programBytes.length writeInstruction.data := by
            rw [same]
            exact isChunkWrite_writeIx (not_le.mp finished) fits
          apply Action.Ends.bind
            (ends_broadcast_write uploading chunk (by omega))
          · intro sent middle _ sentOne
            have waiting := sentOne.2 sent rfl
            apply Action.Ends.bind
            · apply ends_sendBatch count _ middle sentOne.1
              rw [waiting, List.length_append, List.length_singleton]
              omega
            · intro batch after _ sentRest
              apply endsUploading_ok sentRest.1
              rw [sentRest.2 batch rfl, waiting, List.append_assoc]
              rfl
            · intro exc after sentRest
              exact endsUploading_error sentRest.1
          · intro exc middle raised
            exact endsUploading_error raised.1
        · intro exc _
          exact endsUploading_error uploading

theorem ends_awaitAll :
    ∀ (batch : List Sent) (before : DeployLog),
      before.Uploading programBytes.length →
      before.waiting ⊆ batch.map Sent.index →
      (awaitAll env batch).Ends before
        (EndsUploading programBytes.length fun _ waiting => waiting = [])
  | [], before, uploading, covered =>
      endsUploading_ok uploading (List.subset_nil.mp covered)
  | sent :: batch, before, uploading, covered => by
      rw [awaitAll]
      have first :
          (awaitConfirmation env sent).Ends before
            (EndsUploading programBytes.length fun _ waiting =>
              waiting ⊆ batch.map Sent.index) := by
        apply ends_awaitConfirmation
        · apply endsUploading_ok (uploading.confirm sent.index)
          intro index member
          rw [waiting_confirm, List.mem_filter] at member
          rcases List.mem_cons.mp (covered member.1) with isSent | later
          · rw [isSent] at member
            simp at member
          · exact later
        · intro exc _
          exact endsUploading_error uploading
      apply Action.Ends.bind first
      · intro done middle _ confirmed
        exact ends_awaitAll batch middle confirmed.1 (confirmed.2 () rfl)
      · intro exc middle raised
        exact endsUploading_error raised.1

theorem ends_writeLoop (offset : ℕ) (before : DeployLog)
    (uploading : before.Uploading programBytes.length)
    (free : before.waiting = []) :
    (writeLoop env payer programKeypair programBytes offset).Ends before
      (EndsUploading programBytes.length fun _ waiting => waiting = []) := by
  rw [writeLoop]
  by_cases unfinished : offset < programBytes.length
  · rw [dif_pos unfinished]
    apply Action.Ends.bind
    · apply ends_sendBatch _ _ before uploading
      rw [free, List.length_nil]
      exact (Nat.zero_add _).le
    · intro batch middle _ sentAll
      have waiting := sentAll.2 batch rfl
      rw [free, List.nil_append] at waiting
      apply Action.Ends.bind
      · apply ends_awaitAll batch middle sentAll.1
        rw [waiting]
        exact List.Subset.refl _
      · intro done after _ confirmed
        exact ends_writeLoop _ after confirmed.1 (confirmed.2 () rfl)
      · intro exc after raised
        exact endsUploading_error raised.1
    · intro exc middle raised
      exact endsUploading_error raised.1
  · rw [dif_neg unfinished]
    exact endsUploading_ok uploading free
termination_by programBytes.length - offset
decreasing_by
  have progress := lt_batchEnd unfinished
  omega

/-! ## The whole deployment -/

/-- The finalize is sent. -/
def DeployLog.Finalized (log : DeployLog) : Prop :=
  ∃ index, loaderCommandAt log index = some .finalize

/-- The transactions are those of a deployment that runs to its end. -/
def DeployLog.Complete (env : Env) (payer programKeypair : Pubkey)
    (programBytes : Bytes) (log : DeployLog) : Prop :=
  (∀ offset ∈ loopOffsets programBytes.length 0, offset < 2 ^ 32) ∧
    ∃ lamports, log.transactions =
      (deployLog env payer programKeypair programBytes lamports).transactions

/-- What holds of the log at any end of a deployment. -/
def DeployLog.Uploaded (env : Env) (payer programKeypair : Pubkey)
    (programBytes : Bytes) (log : DeployLog) : Prop :=
  log.Windowed programBytes.length ∧
    (log.Finalized → log.Complete env payer programKeypair programBytes)

theorem DeployLog.Uploading.uploaded
    {log : DeployLog} (uploading : log.Uploading programBytes.length) :
    log.Uploaded env payer programKeypair programBytes := by
  refine ⟨uploading.toWindowed, ?_⟩
  intro finalized
  obtain ⟨index, isFinalize⟩ := finalized
  exact absurd isFinalize (uploading.unfinalized index)

theorem uploading_empty (space : ℕ) :
    DeployLog.Uploading space {} where
  writes := by
    intro transaction member
    cases member
  known := by
    intro index member
    cases member
  window := by
    intro moment isMoment
    rw [List.prefix_nil.mp isMoment]
    exact Nat.zero_le _
  finalizedAlone := by
    intro moment index isMoment
    have empty := List.prefix_nil.mp isMoment
    simp at empty
  unfinalized := by
    intro index impossible
    cases impossible

theorem ends_broadcast_create (params : CreateAccountParams) :
    (broadcast env payer programKeypair (.createAccount params)).Ends {}
      (EndsUploading programBytes.length fun _ waiting => waiting = []) := by
  have empty := uploading_empty programBytes.length
  apply ends_broadcast
  · intro sent transaction _ creates
    have command : transaction.command = none := by
      rw [Transaction.command, creates]
    have other : transaction.command ≠ some .finalize := by
      rw [command]
      intro impossible
      cases impossible
    have windowed :
        (DeployLog.send {} transaction).Windowed programBytes.length := by
      apply empty.toWindowed.send
      · intro instruction invokes
        rw [creates] at invokes
        cases invokes
      · intro isWrite
        rw [command] at isWrite
        cases isWrite
      · intro isFinalize
        exact absurd isFinalize other
    apply endsUploading_ok (empty.send windowed other)
    rw [empty.toWindowed.waiting_send transaction, command]
    rfl
  · intro exc _
    exact endsUploading_error empty

theorem ends_awaitConfirmation_free
    {sent : Sent} {before : DeployLog}
    (uploading : before.Uploading programBytes.length)
    (free : before.waiting = []) :
    (awaitConfirmation env sent).Ends before
      (EndsUploading programBytes.length fun _ waiting => waiting = []) := by
  apply ends_awaitConfirmation
  · apply endsUploading_ok (uploading.confirm sent.index)
    rw [waiting_confirm, free]
    rfl
  · intro exc _
    exact endsUploading_error uploading

theorem ends_broadcast_finalize
    {before : DeployLog} (uploading : before.Uploading programBytes.length)
    (free : before.waiting = []) :
    (broadcast env payer programKeypair
      (.invoke (buildBpfLoaderFinalizeIx programKeypair))).Ends before
      fun outcome after =>
        after.Windowed programBytes.length ∧
          ∀ exc, outcome = .error exc →
            after.Uploading programBytes.length := by
  apply ends_broadcast
  · intro sent transaction _ invokes
    have command : transaction.command = some .finalize := by
      rw [Transaction.command, invokes]
      exact decode_finalizeIx programKeypair
    constructor
    · apply uploading.toWindowed.send
      · intro instruction isInvoked
        rw [invokes] at isInvoked
        cases isInvoked
        exact Or.inl (decode_finalizeIx programKeypair)
      · intro isWrite
        rw [command] at isWrite
        cases isWrite
      · intro _
        exact free
    · intro exc impossible
      cases impossible
  · intro exc _
    exact ⟨uploading.toWindowed, fun _ _ => uploading⟩

/-- The log before the finalize, and the write offsets fit. -/
theorem complete_send_finalize
    {lamports : ℕ} {created written : DeployLog} {sent : Sent}
    {done : Unit} {after : DeployLog}
    (isCreated :
      created =
        (DeployLog.send {}
          (createTransaction env payer programKeypair programBytes
            lamports)).confirm 0)
    (wrote :
      (writeLoop env payer programKeypair programBytes 0).Returns created done
        written)
    (finalizes :
      (broadcast env payer programKeypair
        (.invoke (buildBpfLoaderFinalizeIx programKeypair))).Returns written
          sent after) :
    after.Complete env payer programKeypair programBytes := by
  obtain ⟨accepted, _, isWritten⟩ := (returns_writeLoop _ _ _ _).mp wrote
  obtain ⟨_, _, isAfter⟩ := returns_broadcast.mp finalizes
  refine ⟨((writesAccepted_iff _ _).mp accepted).1, lamports, ?_⟩
  have count : written.count = writeCount programBytes.length + 1 := by
    rw [isWritten, count_loopLog, isCreated]
    exact Nat.add_comm 1 _
  rw [isAfter, count, isWritten, isCreated]
  rfl

theorem ends_deployProgram :
    (deployProgram env payer programKeypair programBytes).Ends {}
      fun _ log => log.Uploaded env payer programKeypair programBytes := by
  have fails {α : Type} {expected : α → List ℕ → Prop} {exc : Exc}
      {log : DeployLog}
      (raised : EndsUploading programBytes.length expected (.error exc) log) :
      log.Uploaded env payer programKeypair programBytes :=
    raised.1.uploaded
  rw [deployProgram]
  apply Action.ends_ofExcept_bind
  · intro lamports _
    apply Action.Ends.bind (ends_broadcast_create _)
    · intro create sentLog created sentCreate
      apply Action.Ends.bind
        (ends_awaitConfirmation_free sentCreate.1 (sentCreate.2 create rfl))
      · intro _ createdLog confirmed isCreated
        apply Action.Ends.bind
          (ends_writeLoop 0 createdLog isCreated.1 (isCreated.2 () rfl))
        · intro _ writtenLog wrote isWritten
          apply Action.Ends.bind
            (ends_broadcast_finalize isWritten.1 (isWritten.2 () rfl))
          · intro finalize finalLog finalizes isFinal
            obtain ⟨_, isCreate, isSent⟩ := returns_broadcast.mp created
            obtain ⟨_, isConfirmed⟩ :=
              returns_awaitConfirmation.mp confirmed
            rw [isSent, isCreate] at isConfirmed
            have complete :=
              complete_send_finalize isConfirmed wrote finalizes
            have uploaded :
                finalLog.Uploaded env payer programKeypair programBytes :=
              ⟨isFinal.1, fun _ => complete⟩
            have last :
                (awaitConfirmation env finalize).Ends finalLog fun _ log =>
                  log.Uploaded env payer programKeypair programBytes := by
              apply ends_awaitConfirmation
              · exact ⟨isFinal.1.confirm _, fun _ => complete⟩
              · intro exc _
                exact uploaded
            apply Action.Ends.bind last
            · intro _ log _ holds
              exact holds
            · intro exc log holds
              exact holds
          · intro exc log raised
            exact (raised.2 exc rfl).uploaded
        · intro exc log raised
          exact fails raised
      · intro exc log raised
        exact fails raised
    · intro exc log raised
      exact fails raised
  · intro exc _
    exact (uploading_empty programBytes.length).uploaded

/-- The pieces of a complete upload give the program in every order in which
they can land. -/
theorem foldl_pieceAt_of_complete
    {log : DeployLog} {order : List ℕ} {data : Bytes}
    (complete : log.Complete env payer programKeypair programBytes)
    (landing : LandingOrder log order)
    (sized : data.length = programBytes.length) :
    (order.filterMap (pieceAt log)).foldl
        (fun data piece => splice data piece.1 piece.2) data =
      programBytes := by
  obtain ⟨fits, lamports, transactions⟩ := complete
  have count : log.count = writeCount programBytes.length + 2 := by
    rw [DeployLog.count, transactions]
    exact count_deployLog lamports
  have pieces :
      pieceAt log =
        pieceAt (deployLog env payer programKeypair programBytes
          lamports) := by
    funext index
    rw [pieceAt, pieceAt, loaderCommandAt, loaderCommandAt, transactions]
  have lands : ∀ index,
      index ∈ order ↔ index < writeCount programBytes.length + 2 := by
    intro index
    rw [landing.perm.mem_iff, List.mem_range, count]
  rw [pieces]
  apply foldl_pieceAt_deployLog fits _ _ sized
  · intro index member
    have below := (lands index).mp member
    cases index with
    | zero => exact Or.inl rfl
    | succ position => exact Or.inr ⟨position, rfl, by omega⟩
  · intro position inside
    exact (lands _).mpr (by omega)

theorem ends_finalized_of_completes
    (completes : env.Completes programBytes.length) :
    (deployProgram env payer programKeypair programBytes).Ends {}
      fun _ log => log.Finalized := by
  obtain ⟨lamports, rent⟩ := completes.rent
  have returns :
      (deployProgram env payer programKeypair programBytes).Returns {}
        programKeypair
        (deployLog env payer programKeypair programBytes lamports) :=
    returns_deployProgram.mpr ⟨completes, rfl, lamports, rent, rfl⟩
  rw [Action.Returns] at returns
  rw [Action.Ends, returns]
  refine ⟨writeCount programBytes.length + 1, ?_⟩
  rw [loaderCommandAt_deployLog completes.offsets (Nat.lt_succ_self _),
    writeCount, List.getElem?_eq_none (Nat.le_refl _)]

end Parts

/-- However a deployment ends, its writes are chunks inside the program, at
most one batch of them was outstanding at any moment and none when the
finalize was sent; once it was sent, the writes give the program in every
order in which they can land.  A program below 2 ^ 32 bytes is finalized when
the surroundings accept and confirm every transaction. -/
theorem deployProgram_uploads
    (env : Env) (payer programKeypair : Pubkey) (programBytes : Bytes) :
    (deployProgram env payer programKeypair programBytes).Ends {}
      fun _ log =>
        log.Windowed programBytes.length ∧
          (log.Finalized →
            ∀ order data, LandingOrder log order →
              data.length = programBytes.length →
                (order.filterMap (pieceAt log)).foldl
                    (fun data piece => splice data piece.1 piece.2) data =
                  programBytes) ∧
          (programBytes.length < 2 ^ 32 →
            (∃ lamports, env.rent = .ok lamports) →
              (∀ index, env.Accepted index ∧ env.Confirms index) →
                log.Finalized) := by
  have uploaded :
      (deployProgram env payer programKeypair programBytes).Ends {}
        fun _ log => log.Uploaded env payer programKeypair programBytes :=
    ends_deployProgram
  refine ⟨uploaded.1, ?_, ?_⟩
  · intro finalized order data landing sized
    exact foldl_pieceAt_of_complete (uploaded.2 finalized) landing sized
  · intro small rent cooperative
    apply ends_finalized_of_completes
    exact
      { rent := rent
        offsets := by
          intro offset member
          exact (lt_of_mem_loopOffsets 0 offset member).trans small
        accepted := fun index _ => (cooperative index).1
        confirms := fun index _ => (cooperative index).2 }

end KarstflowTests.Programs

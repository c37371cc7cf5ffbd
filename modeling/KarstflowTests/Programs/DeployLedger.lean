import KarstflowTests.Programs.DeployRuns

/-!
# What a deployment leaves on the ledger

The transactions of a run land in some order in which no transaction lands
before one that was confirmed before it was sent.  A transaction that failed
changes nothing.  `DeploymentSound` is what a normal return should mean: every
transaction executed, so that the account holds the program and is finalized.

`deploymentSound_iff` says exactly when it does.
-/

namespace KarstflowTests.Programs

open KarstflowTests.Library KarstflowTests.Wait

/-! ## Landing orders and execution -/

/-- The first transaction was confirmed before the second was sent. -/
def ConfirmedBeforeSent
    (events : List DeployEvent) (confirmed sent : ℕ) : Prop :=
  ∃ front back, events = front ++ .confirmed confirmed :: back ∧
    .sent sent ∈ back

/-- An order in which the transactions of a log can land. -/
structure LandingOrder (log : DeployLog) (order : List ℕ) : Prop where
  perm : order.Perm (List.range log.count)
  ordered :
    order.Pairwise fun earlier later =>
      ¬ ConfirmedBeforeSent log.events later earlier

/-- Land one transaction. -/
def land (env : Env) (log : DeployLog) (account : Option Account)
    (index : ℕ) : Option Account :=
  match (env.fate index).error, log.transactions[index]? with
  | none, some transaction => transaction.instruction.execute account
  | _, _ => account

def landAll (env : Env) (log : DeployLog) (order : List ℕ)
    (account : Option Account) : Option Account :=
  order.foldl (land env log) account

/-- The loader command of a transaction. -/
def loaderCommandAt (log : DeployLog) (index : ℕ) : Option LoaderCommand :=
  match log.transactions[index]? with
  | some ⟨.invoke instruction, _, _, _⟩ =>
      decodeLoaderCommand instruction.data
  | _ => none

/-- The write of a transaction: its offset and its bytes. -/
def pieceAt (log : DeployLog) (index : ℕ) : Option (ℕ × Bytes) :=
  match loaderCommandAt log index with
  | some (.write offset bytes) => some (offset, bytes)
  | _ => none

section Landing

variable {env : Env} {log : DeployLog}

/-- A loader command that did not fail changes the account. -/
theorem land_of_loaderCommandAt
    {index : ℕ} {command : LoaderCommand} (landed : ¬ env.Failed index)
    (found : loaderCommandAt log index = some command) (account : Account) :
    land env log (some account) index =
      some
        (match command with
          | .write offset bytes =>
              { account with data := splice account.data offset bytes }
          | .finalize => { account with executable := true }) := by
  have noError : (env.fate index).error = none := not_not.mp landed
  rw [loaderCommandAt] at found
  split at found
  · next instruction payer blockhash signers transaction =>
      rw [land, noError, transaction]
      simp only [ProgramInstruction.execute, found]
      cases command <;> rfl
  · cases found

/-- Landed loader commands store their pieces one after the other, and a
landed finalize makes the account executable. -/
theorem landAll_some (order : List ℕ) :
    ∀ account : Account,
      (∀ index ∈ order, ¬ env.Failed index ∧
        (loaderCommandAt log index).isSome) →
      landAll env log order (some account) =
        some
          { account with
            data :=
              (order.filterMap (pieceAt log)).foldl
                (fun data piece => splice data piece.1 piece.2) account.data
            executable :=
              account.executable ||
                order.any fun index =>
                  decide (loaderCommandAt log index = some .finalize) } := by
  induction order with
  | nil =>
      intro account _
      simp [landAll]
  | cons index order inductionHypothesis =>
      intro account succeed
      have here := succeed index List.mem_cons_self
      have rest := fun later member =>
        succeed later (List.mem_cons_of_mem index member)
      obtain ⟨command, found⟩ := Option.isSome_iff_exists.mp here.2
      rw [landAll, List.foldl_cons, land_of_loaderCommandAt here.1 found]
      cases command with
      | write offset bytes =>
          have piece : pieceAt log index = some (offset, bytes) := by
            rw [pieceAt, found]
          have landed :=
            inductionHypothesis
              { account with data := splice account.data offset bytes }
              rest
          rw [landAll] at landed
          rw [landed, List.filterMap_cons_some piece]
          simp [found]
      | finalize =>
          have piece : pieceAt log index = none := by
            rw [pieceAt, found]
          have landed :=
            inductionHypothesis { account with executable := true } rest
          rw [landAll] at landed
          rw [landed, List.filterMap_cons_none piece]
          simp [found]

end Landing

/-! ## The transactions of a deployment -/

section Deployment

variable {env : Env} {payer programKeypair : Pubkey} {programBytes : Bytes}

/-- The writes at the given offsets, numbered from `index`. -/
def writesFrom (env : Env) (payer programKeypair : Pubkey)
    (programBytes : Bytes) : (index : ℕ) → List ℕ → List Transaction
  | _, [] => []
  | index, offset :: offsets =>
      writeTransaction env payer programKeypair programBytes index offset ::
        writesFrom env payer programKeypair programBytes (index + 1) offsets

theorem writesFrom_append (front back : List ℕ) :
    ∀ index : ℕ,
      writesFrom env payer programKeypair programBytes index
          (front ++ back) =
        writesFrom env payer programKeypair programBytes index front ++
          writesFrom env payer programKeypair programBytes
            (index + front.length) back := by
  induction front with
  | nil => intro index; rfl
  | cons offset front inductionHypothesis =>
      intro index
      simp only [List.cons_append, writesFrom, inductionHypothesis,
        List.length_cons]
      rw [show index + 1 + front.length = index + (front.length + 1) by
        omega]

theorem getElem?_writesFrom (offsets : List ℕ) :
    ∀ index skipped : ℕ,
      (writesFrom env payer programKeypair programBytes index
          offsets)[skipped]? =
        offsets[skipped]?.map fun offset =>
          writeTransaction env payer programKeypair programBytes
            (index + skipped) offset := by
  induction offsets with
  | nil => intro index skipped; rfl
  | cons offset offsets inductionHypothesis =>
      intro index skipped
      cases skipped with
      | zero => rfl
      | succ skipped =>
          rw [writesFrom, List.getElem?_cons_succ, inductionHypothesis,
            List.getElem?_cons_succ,
            show index + 1 + skipped = index + (skipped + 1) by omega]

theorem length_writesFrom (offsets : List ℕ) :
    ∀ index : ℕ,
      (writesFrom env payer programKeypair programBytes index
          offsets).length = offsets.length := by
  induction offsets with
  | nil => intro index; rfl
  | cons offset offsets inductionHypothesis =>
      intro index
      rw [writesFrom, List.length_cons, inductionHypothesis,
        List.length_cons]

theorem transactions_sendWrites (offsets : List ℕ) :
    ∀ log : DeployLog,
      (sendWrites env payer programKeypair programBytes offsets
          log).transactions =
        log.transactions ++
          writesFrom env payer programKeypair programBytes log.count
            offsets := by
  induction offsets with
  | nil => intro log; simp [sendWrites, writesFrom]
  | cons offset offsets inductionHypothesis =>
      intro log
      rw [sendWrites, inductionHypothesis, DeployLog.count_send, writesFrom]
      simp [DeployLog.send]

theorem transactions_loopLog (offset : ℕ) (log : DeployLog) :
    (loopLog env payer programKeypair programBytes offset
        log).transactions =
      log.transactions ++
        writesFrom env payer programKeypair programBytes log.count
          (loopOffsets programBytes.length offset) := by
  rw [loopLog]
  by_cases unfinished : offset < programBytes.length
  · rw [dif_pos unfinished, transactions_loopLog, count_batchLog, batchLog,
      transactions_confirmAll, transactions_sendWrites,
      ← batchOffsets_append_loopOffsets programBytes.length
        bpfLoaderWriteBatch offset, writesFrom_append, List.append_assoc]
  · rw [dif_neg unfinished, loopOffsets_of_le (not_lt.mp unfinished)]
    simp [writesFrom]
termination_by programBytes.length - offset
decreasing_by
  have progress := lt_batchEnd unfinished
  omega

theorem transactions_deployLog (lamports : ℕ) :
    (deployLog env payer programKeypair programBytes
        lamports).transactions =
      createTransaction env payer programKeypair programBytes lamports ::
        (writesFrom env payer programKeypair programBytes 1
            (loopOffsets programBytes.length 0) ++
          [finalizeTransaction env payer programKeypair
            (writeCount programBytes.length + 1)]) := by
  simp only [deployLog, DeployLog.send, DeployLog.confirm,
    transactions_loopLog, List.nil_append, List.append_assoc]
  rfl

theorem count_deployLog (lamports : ℕ) :
    (deployLog env payer programKeypair programBytes lamports).count =
      writeCount programBytes.length + 2 := by
  rw [DeployLog.count, transactions_deployLog]
  simp [length_writesFrom, writeCount]

/-! ## Events -/

/-- Every broadcast transaction has its event. -/
def DeployLog.AllSent (log : DeployLog) : Prop :=
  ∀ index, index < log.count → .sent index ∈ log.events

theorem DeployLog.AllSent.send {log : DeployLog}
    (allSent : log.AllSent) (transaction : Transaction) :
    (log.send transaction).AllSent := by
  intro index below
  rw [DeployLog.count_send] at below
  simp only [DeployLog.send, List.mem_append, List.mem_singleton]
  by_cases isNew : index = log.count
  · exact Or.inr (by rw [isNew])
  · exact Or.inl (allSent index (by omega))

theorem DeployLog.AllSent.confirm {log : DeployLog}
    (allSent : log.AllSent) (index : ℕ) :
    (log.confirm index).AllSent := by
  intro sent below
  exact List.mem_append_left _ (allSent sent below)

/-- The log still begins with the create and its confirmation, and every
broadcast has its event. -/
def DeployLog.Started (log : DeployLog) : Prop :=
  [.sent 0, .confirmed 0] <+: log.events ∧ log.AllSent

theorem DeployLog.Started.send {log : DeployLog}
    (started : log.Started) (transaction : Transaction) :
    (log.send transaction).Started :=
  ⟨started.1.trans (List.prefix_append _ _), started.2.send transaction⟩

theorem DeployLog.Started.confirm {log : DeployLog}
    (started : log.Started) (index : ℕ) :
    (log.confirm index).Started :=
  ⟨started.1.trans (List.prefix_append _ _), started.2.confirm index⟩

/-- A property of logs that broadcasts and confirmations preserve. -/
structure LogInvariant (property : DeployLog → Prop) : Prop where
  send :
    ∀ log transaction, property log → property (log.send transaction)
  confirm :
    ∀ log index, index < log.count → property log →
      property (log.confirm index)

section Invariant

variable {property : DeployLog → Prop}

theorem LogInvariant.sendWrites
    (invariant : LogInvariant property) (offsets : List ℕ) :
    ∀ log : DeployLog, property log →
      property
        (sendWrites env payer programKeypair programBytes offsets log) := by
  induction offsets with
  | nil => intro log holds; exact holds
  | cons offset offsets inductionHypothesis =>
      intro log holds
      exact inductionHypothesis _ (invariant.send _ _ holds)

theorem LogInvariant.confirmAll
    (invariant : LogInvariant property) (indices : List ℕ) :
    ∀ log : DeployLog, (∀ index ∈ indices, index < log.count) →
      property log → property (confirmAll indices log) := by
  induction indices with
  | nil => intro log _ holds; exact holds
  | cons index indices inductionHypothesis =>
      intro log below holds
      apply inductionHypothesis
      · intro later member
        exact below later (List.mem_cons_of_mem index member)
      · exact
          invariant.confirm log index (below index List.mem_cons_self) holds

theorem LogInvariant.loopLog
    (invariant : LogInvariant property) (offset : ℕ) (log : DeployLog)
    (holds : property log) :
    property
      (loopLog env payer programKeypair programBytes offset log) := by
  rw [Programs.loopLog]
  by_cases unfinished : offset < programBytes.length
  · rw [dif_pos unfinished]
    apply invariant.loopLog
    apply invariant.confirmAll
    · intro index member
      rw [count_sendWrites]
      exact (List.mem_range'_1.mp member).2
    · exact invariant.sendWrites _ log holds
  · rwa [dif_neg unfinished]
termination_by programBytes.length - offset
decreasing_by
  have progress := lt_batchEnd unfinished
  omega

/-- It is enough that the property holds once the create is confirmed. -/
theorem LogInvariant.deployLog
    (invariant : LogInvariant property) (lamports : ℕ)
    (created :
      property
        ((DeployLog.send {}
          (createTransaction env payer programKeypair programBytes
            lamports)).confirm 0)) :
    property
      (deployLog env payer programKeypair programBytes lamports) := by
  apply invariant.confirm
  · rw [DeployLog.count_send, count_loopLog, writeCount]
    exact Nat.lt_succ_of_le (Nat.le_of_eq (Nat.add_comm _ _))
  · exact invariant.send _ _ (invariant.loopLog 0 _ created)

end Invariant

theorem started_invariant : LogInvariant DeployLog.Started where
  send _ transaction started := started.send transaction
  confirm _ index _ started := started.confirm index

theorem started_deployLog (lamports : ℕ) :
    (deployLog env payer programKeypair programBytes lamports).Started := by
  apply started_invariant.deployLog
  constructor
  · exact List.prefix_refl _
  · intro index below
    have isCreate : index = 0 := Nat.lt_one_iff.mp below
    rw [isCreate]
    exact List.mem_cons_self

/-- Only broadcast transactions are confirmed, and none before an earlier one
was sent. -/
def DeployLog.Ordered (log : DeployLog) : Prop :=
  (∀ index, .confirmed index ∈ log.events → index < log.count) ∧
    ∀ confirmed sent,
      ConfirmedBeforeSent log.events confirmed sent → confirmed < sent

theorem ConfirmedBeforeSent.of_append_singleton
    {events : List DeployEvent} {event : DeployEvent} {confirmed sent : ℕ}
    (before : ConfirmedBeforeSent (events ++ [event]) confirmed sent) :
    ConfirmedBeforeSent events confirmed sent ∨
      (event = .sent sent ∧ .confirmed confirmed ∈ events) := by
  obtain ⟨front, back, shape, isSent⟩ := before
  rcases List.eq_nil_or_concat back with rfl | ⟨initial, last, rfl⟩
  · cases isSent
  · have split :
        events ++ [event] =
          (front ++ .confirmed confirmed :: initial) ++ [last] := by
      simpa using shape
    obtain ⟨eventsEq, lastEq⟩ := List.append_inj' split rfl
    have eventEq : event = last := List.singleton_inj.mp lastEq
    rw [List.concat_eq_append, List.mem_append] at isSent
    rcases isSent with inside | isLast
    · exact Or.inl ⟨front, initial, eventsEq, inside⟩
    · refine Or.inr ⟨?_, ?_⟩
      · rw [eventEq, ← List.mem_singleton.mp isLast]
      · rw [eventsEq]
        exact List.mem_append_right _ List.mem_cons_self

theorem ordered_invariant : LogInvariant DeployLog.Ordered where
  send := by
    rintro log transaction ⟨sentFirst, ordered⟩
    constructor
    · intro index member
      rw [DeployLog.count_send]
      have earlier : .confirmed index ∈ log.events := by
        simpa [DeployLog.send] using member
      have below := sentFirst index earlier
      omega
    · intro confirmed sent before
      rcases before.of_append_singleton with inside | ⟨isNew, member⟩
      · exact ordered confirmed sent inside
      · have sentEq : log.count = sent := DeployEvent.sent.inj isNew
        rw [← sentEq]
        exact sentFirst confirmed member
  confirm := by
    rintro log index below ⟨sentFirst, ordered⟩
    constructor
    · intro confirmed member
      simp only [DeployLog.confirm, List.mem_append, List.mem_singleton,
        DeployEvent.confirmed.injEq] at member
      rcases member with earlier | isNew
      · exact sentFirst confirmed earlier
      · rw [isNew]
        exact below
    · intro confirmed sent before
      rcases before.of_append_singleton with inside | ⟨isNew, _⟩
      · exact ordered confirmed sent inside
      · cases isNew

theorem ordered_deployLog (lamports : ℕ) :
    (deployLog env payer programKeypair programBytes lamports).Ordered := by
  apply ordered_invariant.deployLog
  apply ordered_invariant.confirm
  · exact Nat.one_pos
  · apply ordered_invariant.send
    constructor
    · intro index member
      cases member
    · rintro confirmed sent ⟨front, back, shape, _⟩
      simp at shape

/-- The transactions of a deployment can land in the order they were sent. -/
theorem landingOrder_deployLog (lamports : ℕ) :
    LandingOrder
      (deployLog env payer programKeypair programBytes lamports)
      (List.range (writeCount programBytes.length + 2)) where
  perm := by rw [count_deployLog]
  ordered := by
    apply List.Pairwise.imp _ List.pairwise_lt_range
    intro earlier later before confirmedFirst
    have notBefore :=
      (ordered_deployLog lamports).2 later earlier confirmedFirst
    omega

/-- In a started log the create lands first. -/
theorem LandingOrder.create_first
    {log : DeployLog} {order : List ℕ}
    (landing : LandingOrder log order) (started : log.Started)
    (nonempty : 0 < log.count) :
    ∃ rest, order = 0 :: rest := by
  have createLands : 0 ∈ order :=
    landing.perm.mem_iff.mpr (List.mem_range.mpr nonempty)
  cases order with
  | nil => cases createLands
  | cons first rest =>
      by_cases isCreate : first = 0
      · exact ⟨rest, by rw [isCreate]⟩
      · exfalso
        have createLater : 0 ∈ rest := by
          rcases List.mem_cons.mp createLands with same | member
          · exact absurd same.symm isCreate
          · exact member
        have firstBelow : first < log.count :=
          List.mem_range.mp
            (landing.perm.mem_iff.mp List.mem_cons_self)
        obtain ⟨remaining, events⟩ := started.1
        have sentLater : .sent first ∈ remaining := by
          have isSent := started.2 first firstBelow
          rw [← events] at isSent
          simpa [isCreate] using isSent
        have notConfirmed :=
          (List.pairwise_cons.mp landing.ordered).1 0 createLater
        exact notConfirmed ⟨[.sent 0], remaining, events.symm, sentLater⟩

/-! ## The pieces of a deployment -/

theorem lt_of_mem_loopOffsets {space : ℕ} (start : ℕ) :
    ∀ offset ∈ loopOffsets space start, offset < space := by
  intro offset member
  rw [loopOffsets] at member
  split at member
  · cases member
  · rename_i unfinished
    rcases List.mem_cons.mp member with isStart | later
    · omega
    · exact lt_of_mem_loopOffsets _ offset later
termination_by space - start
decreasing_by
  simp only [bpfLoaderWriteChunk]
  omega

/-- Every remaining position lies in the chunk of some remaining offset. -/
theorem exists_offset_of_lt {space index : ℕ} (below : index < space)
    (start : ℕ) (fromStart : start ≤ index) :
    ∃ offset ∈ loopOffsets space start,
      offset ≤ index ∧ index < offset + bpfLoaderWriteChunk := by
  rw [loopOffsets_of_lt (by omega)]
  by_cases inFirst : index < start + bpfLoaderWriteChunk
  · exact ⟨start, List.mem_cons_self, fromStart, inFirst⟩
  · obtain ⟨offset, member, range⟩ :=
      exists_offset_of_lt below (start + bpfLoaderWriteChunk)
        (not_lt.mp inFirst)
    exact ⟨offset, List.mem_cons_of_mem _ member, range⟩
termination_by space - start
decreasing_by
  simp only [bpfLoaderWriteChunk]
  omega

section Commands

variable {lamports : ℕ}

/-- The command of a transaction of a deployment after the create. -/
theorem loaderCommandAt_deployLog
    (fits : ∀ offset ∈ loopOffsets programBytes.length 0, offset < 2 ^ 32)
    {position : ℕ} (inside : position < writeCount programBytes.length + 1) :
    loaderCommandAt
        (deployLog env payer programKeypair programBytes lamports)
        (position + 1) =
      match (loopOffsets programBytes.length 0)[position]? with
      | some offset => some (.write offset (chunkAt programBytes offset))
      | none => some .finalize := by
  rw [loaderCommandAt, transactions_deployLog, List.getElem?_cons_succ]
  by_cases isWrite : position < (loopOffsets programBytes.length 0).length
  · rw [List.getElem?_append_left (by rwa [length_writesFrom]),
      getElem?_writesFrom, List.getElem?_eq_getElem isWrite]
    have offsetFits :=
      fits _ (List.getElem_mem isWrite)
    exact decode_writeIx offsetFits (length_chunkAt_lt _)
  · have isLast : position = (loopOffsets programBytes.length 0).length := by
      rw [writeCount] at inside
      omega
    rw [List.getElem?_append_right (by rw [length_writesFrom]; omega),
      length_writesFrom, isLast, Nat.sub_self,
      List.getElem?_eq_none (Nat.le_refl _)]
    exact decode_finalizeIx programKeypair

theorem loaderCommandAt_isSome
    (fits : ∀ offset ∈ loopOffsets programBytes.length 0, offset < 2 ^ 32)
    {position : ℕ} (inside : position < writeCount programBytes.length + 1) :
    (loaderCommandAt
      (deployLog env payer programKeypair programBytes lamports)
      (position + 1)).isSome := by
  rw [loaderCommandAt_deployLog fits inside]
  cases (loopOffsets programBytes.length 0)[position]? <;> rfl

theorem pieceAt_deployLog
    (fits : ∀ offset ∈ loopOffsets programBytes.length 0, offset < 2 ^ 32)
    {position : ℕ} (inside : position < writeCount programBytes.length + 1) :
    pieceAt (deployLog env payer programKeypair programBytes lamports)
        (position + 1) =
      (loopOffsets programBytes.length 0)[position]?.map fun offset =>
        (offset, chunkAt programBytes offset) := by
  rw [pieceAt, loaderCommandAt_deployLog fits inside]
  cases (loopOffsets programBytes.length 0)[position]? <;> rfl

section Landing

variable {order : List ℕ}

/-- The landed transactions after the first are those at the positions of the
writes and of the finalize. -/
theorem mem_order_iff
    (all :
      order.Perm
        (List.range' 1 (writeCount programBytes.length + 1)))
    {index : ℕ} :
    index ∈ order ↔
      ∃ position, index = position + 1 ∧
        position < writeCount programBytes.length + 1 := by
  rw [all.mem_iff, List.mem_range'_1]
  constructor
  · intro inRange
    exact ⟨index - 1, by omega, by omega⟩
  · intro holds
    rcases holds with ⟨position, rfl, inside⟩
    omega

/-- Pieces that are the chunks at the write offsets rebuild the program in any
order. -/
theorem foldl_splice_chunks
    {pieces : List (ℕ × Bytes)} {data : Bytes}
    (sized : data.length = programBytes.length)
    (chunks :
      ∀ piece ∈ pieces, ∃ offset ∈ loopOffsets programBytes.length 0,
        piece = (offset, chunkAt programBytes offset))
    (all :
      ∀ offset ∈ loopOffsets programBytes.length 0,
        (offset, chunkAt programBytes offset) ∈ pieces) :
    pieces.foldl (fun data piece => splice data piece.1 piece.2) data =
      programBytes := by
  apply foldl_splice_eq _ _ sized
  · intro piece member
    obtain ⟨offset, isOffset, same⟩ := chunks piece member
    have offsetInside := lt_of_mem_loopOffsets 0 offset isOffset
    rw [same]
    exact agrees_chunk programBytes offset _ offsetInside.le
  · intro index below
    right
    obtain ⟨offset, isOffset, fromOffset, inChunk⟩ :=
      exists_offset_of_lt below 0 (Nat.zero_le _)
    refine ⟨_, all offset isOffset, ?_⟩
    simp only [chunkAt, List.length_take, List.length_drop]
    omega

/-- The pieces of a deployment fill the data in any order. -/
theorem foldl_pieceAt_deployLog
    (fits : ∀ offset ∈ loopOffsets programBytes.length 0, offset < 2 ^ 32)
    (all :
      ∀ index, index ∈ order → index = 0 ∨
        ∃ position, index = position + 1 ∧
          position < writeCount programBytes.length + 1)
    (complete :
      ∀ position, position < writeCount programBytes.length + 1 →
        position + 1 ∈ order)
    {data : Bytes} (sized : data.length = programBytes.length) :
    (order.filterMap (pieceAt
        (deployLog env payer programKeypair programBytes
          lamports))).foldl
      (fun data piece => splice data piece.1 piece.2) data =
        programBytes := by
  apply foldl_splice_chunks sized
  · intro piece member
    obtain ⟨index, isOrdered, found⟩ := List.mem_filterMap.mp member
    rcases all index isOrdered with isCreate | ⟨position, isLater, inside⟩
    · rw [isCreate, pieceAt, loaderCommandAt, transactions_deployLog] at found
      cases found
    · rw [isLater, pieceAt_deployLog fits inside] at found
      obtain ⟨offset, atPosition, same⟩ := Option.map_eq_some_iff.mp found
      exact ⟨offset, List.mem_of_getElem? atPosition, same.symm⟩
  · intro offset isOffset
    obtain ⟨position, isWrite, found⟩ := List.getElem_of_mem isOffset
    have inside : position < writeCount programBytes.length + 1 := by
      rw [writeCount]
      omega
    refine
      List.mem_filterMap.mpr ⟨position + 1, complete position inside, ?_⟩
    rw [pieceAt_deployLog fits inside,
      List.getElem?_eq_getElem isWrite, found]
    rfl

theorem any_finalize_deployLog
    (fits : ∀ offset ∈ loopOffsets programBytes.length 0, offset < 2 ^ 32)
    (all :
      order.Perm
        (List.range' 1 (writeCount programBytes.length + 1))) :
    (order.any fun index =>
      decide
        (loaderCommandAt
          (deployLog env payer programKeypair programBytes lamports)
          index = some .finalize)) = true := by
  have last :
      writeCount programBytes.length <
        writeCount programBytes.length + 1 :=
    Nat.lt_succ_self _
  have isOrdered : writeCount programBytes.length + 1 ∈ order :=
    (mem_order_iff all).mpr ⟨_, rfl, last⟩
  rw [List.any_eq_true]
  refine ⟨_, isOrdered, decide_eq_true ?_⟩
  rw [loaderCommandAt_deployLog fits last, writeCount,
    List.getElem?_eq_none (Nat.le_refl _)]

/-- Landing the writes and the finalize of a deployment in any order fills the
fresh account with the program. -/
theorem landAll_deployLog
    (fits : ∀ offset ∈ loopOffsets programBytes.length 0, offset < 2 ^ 32)
    (all :
      order.Perm
        (List.range' 1 (writeCount programBytes.length + 1)))
    (succeed : ∀ index ∈ order, ¬ env.Failed index)
    {account : Account}
    (fresh : account.data = List.replicate programBytes.length 0) :
    landAll env
        (deployLog env payer programKeypair programBytes lamports) order
        (some account) =
      some { account with data := programBytes, executable := true } := by
  have executable :
      ∀ index ∈ order, ¬ env.Failed index ∧
        (loaderCommandAt
          (deployLog env payer programKeypair programBytes lamports)
          index).isSome := by
    intro index member
    obtain ⟨position, rfl, inside⟩ := (mem_order_iff all).mp member
    exact ⟨succeed _ member, loaderCommandAt_isSome fits inside⟩
  rw [landAll_some order account executable, foldl_pieceAt_deployLog fits,
    any_finalize_deployLog fits all, Bool.or_true]
  · intro index member
    exact Or.inr ((mem_order_iff all).mp member)
  · intro position inside
    exact (mem_order_iff all).mpr ⟨position, rfl, inside⟩
  · rw [fresh, List.length_replicate]

end Landing

end Commands

/-! ## Soundness of a normal return -/

/-- The account holds the program and is finalized. -/
def HoldsProgram (programBytes : Bytes) (account : Option Account) : Prop :=
  account.map Account.data = some programBytes ∧
    account.map Account.executable = some true

/-- What a normal return should mean: every transaction executed, and in
whatever order they landed, the account holds the program. -/
def DeploymentSound (env : Env) (payer programKeypair : Pubkey)
    (programBytes : Bytes) : Prop :=
  ∀ key log,
    (deployProgram env payer programKeypair programBytes).Returns
        {} key log →
      (∀ index, index < log.count → ¬ env.Failed index) ∧
        ∀ order account, LandingOrder log order →
          HoldsProgram programBytes (landAll env log order account)

def freshAccount (programBytes : Bytes) (lamports : ℕ) : Account where
  owner := bpfLoader
  lamports := lamports
  data := List.replicate programBytes.length 0
  executable := false

theorem holdsProgram_of_succeeded
    (fits : ∀ offset ∈ loopOffsets programBytes.length 0, offset < 2 ^ 32)
    (succeeded :
      ∀ index, index < writeCount programBytes.length + 2 →
        ¬ env.Failed index)
    {lamports : ℕ} {order : List ℕ} {account : Option Account}
    (landing :
      LandingOrder
        (deployLog env payer programKeypair programBytes lamports) order) :
    HoldsProgram programBytes
      (landAll env
        (deployLog env payer programKeypair programBytes lamports) order
        account) := by
  have perm := landing.perm
  rw [count_deployLog] at perm
  obtain ⟨rest, rfl⟩ :=
    landing.create_first (started_deployLog lamports)
      (by rw [count_deployLog]; omega)
  have createSucceeded : (env.fate 0).error = none :=
    not_not.mp (succeeded 0 (by omega))
  have created :
      land env (deployLog env payer programKeypair programBytes lamports)
          account 0 =
        some (freshAccount programBytes lamports) := by
    rw [land, createSucceeded, transactions_deployLog]
    rfl
  have restPerm :
      rest.Perm (List.range' 1 (writeCount programBytes.length + 1)) := by
    rw [List.range_eq_range', List.range'_succ] at perm
    exact perm.cons_inv
  have restSucceeded : ∀ index ∈ rest, ¬ env.Failed index := by
    intro index member
    have inRange := List.mem_range'_1.mp (restPerm.mem_iff.mp member)
    exact succeeded index (by omega)
  have landed :
      landAll env
          (deployLog env payer programKeypair programBytes lamports) rest
          (some (freshAccount programBytes lamports)) =
        some
          { freshAccount programBytes lamports with
            data := programBytes, executable := true } :=
    landAll_deployLog fits restPerm restSucceeded rfl
  rw [landAll] at landed
  rw [landAll, List.foldl_cons, created, landed]
  exact ⟨rfl, rfl⟩

/-- A normal return means what it should exactly when no transaction failed or
the surroundings stop the deployment: a request raises, an offset does not fit
its field, or the polls of some transaction do not report it as confirmed. -/
theorem deploymentSound_iff
    (env : Env) (payer programKeypair : Pubkey) (programBytes : Bytes) :
    DeploymentSound env payer programKeypair programBytes ↔
      (∀ index, index < writeCount programBytes.length + 2 →
        ¬ env.Failed index) ∨
        ¬ env.Completes programBytes.length := by
  constructor
  · intro sound
    by_cases completes : env.Completes programBytes.length
    · left
      obtain ⟨lamports, rent⟩ := completes.rent
      have executed :=
        (sound programKeypair
          (deployLog env payer programKeypair programBytes lamports)
          (returns_deployProgram.mpr
            ⟨completes, rfl, lamports, rent, rfl⟩)).1
      rwa [count_deployLog] at executed
    · exact Or.inr completes
  · intro condition key log returns
    obtain ⟨completes, rfl, lamports, rent, rfl⟩ :=
      returns_deployProgram.mp returns
    have succeeded := condition.resolve_right (not_not.mpr completes)
    refine ⟨by rwa [count_deployLog], ?_⟩
    intro order account landing
    exact holdsProgram_of_succeeded completes.offsets succeeded landing

end Deployment

/-! ## A write that fails unnoticed -/

def succeededReply : Json :=
  .obj
    [("jsonrpc", .str "2.0"),
      ("result", .obj
        [("context", .obj [("slot", .int 82)]),
          ("value", .arr
            [.obj
              [("slot", .int 72),
                ("confirmations", .int 10),
                ("err", .null),
                ("confirmationStatus", .str "confirmed")]])]),
      ("id", .int 1)]

def succeededSchedule : PollSchedule (1 / 2) where
  start := 0
  clock := secondsClock
  answer _ := .ok succeededReply
  start_le := secondsClock_start
  sleeps := secondsClock_sleeps

def succeededObservation : Observation .null succeededSchedule where
  level _ := some .confirmed
  answered _ := ⟨succeededReply, rfl, .seen rfl rfl rfl rfl⟩
  advances := confirmedFailureObservation.advances

def failedFate : TxFate where
  blockhash := .ok "EkSnNWid2cvwEVnVx9aBqawnmiCNiDgp3gUdkDPTKN1N"
  signature := .ok "4hXTCkRzt9WyecNzV1XPgCDfGAZzQKNxLXgynz5QDuWWPSAZ"
  error := some customProgramError
  schedule := confirmedFailure
  observation := confirmedFailureObservation

def succeededFate : TxFate where
  blockhash := .ok "EkSnNWid2cvwEVnVx9aBqawnmiCNiDgp3gUdkDPTKN1N"
  signature := .ok "2nBhEBYYvfaAe16UMNqRHre4YNSskvuYgx3M6E4JP1oDYvZE"
  error := none
  schedule := succeededSchedule
  observation := succeededObservation

/-- The write is the second transaction; it fails, and the first poll sees it
confirmed. -/
def failedWriteEnv : Env where
  rent := .ok 918720
  fate index := if index = 1 then failedFate else succeededFate

def elfMagic : Bytes := [0x7f, 0x45, 0x4c, 0x46]

def walletKey : Pubkey :=
  .fromString "4Nd1mBQtrMJVYVfKf2PJy9NZUZdTAsp7D4xWLs4gDB4T"

def programKey : Pubkey :=
  .fromString "83astBRguLMdt2h5U1Tpdq5tjFoJ6noeGwaY3mDLVcri"

theorem loopOffsets_elfMagic : loopOffsets elfMagic.length 0 = [0] := by
  rw [loopOffsets_of_lt (by decide), loopOffsets_of_le (by decide)]

theorem writeCount_elfMagic : writeCount elfMagic.length = 1 := by
  rw [writeCount, loopOffsets_elfMagic]
  rfl

theorem failedWriteEnv_cases (property : TxFate → Prop)
    (failed : property failedFate) (succeeded : property succeededFate)
    (index : ℕ) :
    property (failedWriteEnv.fate index) := by
  by_cases isWrite : index = 1
  · simpa [failedWriteEnv, isWrite] using failed
  · simpa [failedWriteEnv, isWrite] using succeeded

theorem failedWriteEnv_completes :
    failedWriteEnv.Completes elfMagic.length where
  rent := ⟨918720, rfl⟩
  offsets := by
    rw [loopOffsets_elfMagic]
    decide
  accepted index _ := by
    rw [Env.accepted_iff]
    apply failedWriteEnv_cases fun fate =>
      ∃ blockhash signature, fate.blockhash = .ok blockhash ∧
        fate.signature = .ok signature
    · exact ⟨_, _, rfl, rfl⟩
    · exact ⟨_, _, rfl, rfl⟩
  confirms index _ := by
    have early : secondsClock.read 0 < 0 + 30 := by
      simp [secondsClock]
    have noneBefore (property : ℕ → Prop) :
        ∀ earlier, earlier < 0 → property earlier :=
      fun earlier below => absurd below (Nat.not_lt_zero earlier)
    apply failedWriteEnv_cases TxFate.Confirms
    · exact ⟨0, .confirmed, early, rfl, by decide, noneBefore _⟩
    · exact ⟨0, .confirmed, early, rfl, by decide, noneBefore _⟩

def halfWrittenLog : DeployLog :=
  deployLog failedWriteEnv walletKey programKey elfMagic 918720

theorem halfWrittenLog_transactions :
    halfWrittenLog.transactions =
      [createTransaction failedWriteEnv walletKey programKey elfMagic 918720,
        writeTransaction failedWriteEnv walletKey programKey elfMagic 1 0,
        finalizeTransaction failedWriteEnv walletKey programKey 2] := by
  rw [halfWrittenLog, transactions_deployLog, loopOffsets_elfMagic,
    writeCount_elfMagic]
  rfl

/-- The deployment returns, and the account is finalized with four zero bytes
in place of the program. -/
theorem deployProgram_returns_halfWritten :
    (deployProgram failedWriteEnv walletKey programKey elfMagic).Returns
        {} programKey halfWrittenLog ∧
      LandingOrder halfWrittenLog [0, 1, 2] ∧
      landAll failedWriteEnv halfWrittenLog [0, 1, 2] none =
        some
          { owner := bpfLoader
            lamports := 918720
            data := [0, 0, 0, 0]
            executable := true } ∧
      ¬ DeploymentSound failedWriteEnv walletKey programKey elfMagic := by
  have returns :
      (deployProgram failedWriteEnv walletKey programKey elfMagic).Returns
        {} programKey halfWrittenLog :=
    returns_deployProgram.mpr
      ⟨failedWriteEnv_completes, rfl, 918720, rfl, rfl⟩
  refine ⟨returns, ?_, ?_, ?_⟩
  · have landing :
        LandingOrder halfWrittenLog
          (List.range (writeCount elfMagic.length + 2)) :=
      landingOrder_deployLog 918720
    rwa [writeCount_elfMagic] at landing
  · simp only [landAll, land, List.foldl_cons, List.foldl_nil,
      halfWrittenLog_transactions]
    rfl
  · intro sound
    have executed :=
      (sound programKey halfWrittenLog returns).1 1
        (by rw [DeployLog.count, halfWrittenLog_transactions]; decide)
    exact executed (by simp [Env.Failed, failedWriteEnv, failedFate])

end KarstflowTests.Programs

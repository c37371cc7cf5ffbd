import KarstflowTests.Programs.UpgradeableLoader

/-!
# Filling a buffer on chain

Any transaction of `_write_buffer` may fail on chain, and the command goes on
when a failed one is seen as confirmed.  `writtenContent` is what the buffer
then holds: the bytes of the program where the Write was carried out, and zeros
elsewhere.
-/

namespace KarstflowTests.Programs

open KarstflowTests.Library KarstflowTests.Wait

/-! ## Chunks -/

/-- The writes go to the multiples of the chunk size. -/
theorem getElem?_loopOffsets (space start index : ℕ) :
    (loopOffsets space start)[index]? =
      if start + index * bpfLoaderWriteChunk < space then
        some (start + index * bpfLoaderWriteChunk)
      else
        none := by
  fun_induction loopOffsets space start generalizing index with
  | case1 start finished =>
      rw [if_neg (by omega)]
      rfl
  | case2 start unfinished inductionHypothesis =>
      cases index with
      | zero =>
          rw [if_pos (by omega), List.getElem?_cons_zero, Nat.zero_mul,
            Nat.add_zero]
      | succ index =>
          have next :
              start + bpfLoaderWriteChunk + index * bpfLoaderWriteChunk =
                start + (index + 1) * bpfLoaderWriteChunk := by
            rw [Nat.add_mul]
            omega
          rw [List.getElem?_cons_succ, inductionHypothesis, next]

/-- There is a write for every chunk that begins within the program. -/
theorem lt_writeCount_iff {space index : ℕ} :
    index < writeCount space ↔ index * bpfLoaderWriteChunk < space := by
  rw [writeCount, ← not_le, ← List.getElem?_eq_none_iff,
    getElem?_loopOffsets, Nat.zero_add]
  split_ifs with inside
  · simp [inside]
  · simp [inside]

/-- The program as far as the transactions that write its chunks were carried
out; the chunk with number `n` is written by transaction `n + 1`. -/
def writtenContent (programBytes : Bytes) (isExecuted : ℕ → Bool) : Bytes :=
  programBytes.mapIdx fun position byte =>
    if isExecuted (position / bpfLoaderWriteChunk + 1) then byte else 0

section Content

variable {programBytes : Bytes} {isExecuted later : ℕ → Bool}

theorem length_writtenContent :
    (writtenContent programBytes isExecuted).length =
      programBytes.length := by
  rw [writtenContent, List.length_mapIdx]

theorem getElem?_writtenContent (position : ℕ) :
    (writtenContent programBytes isExecuted)[position]? =
      programBytes[position]?.map fun byte =>
        if isExecuted (position / bpfLoaderWriteChunk + 1) then
          byte
        else
          0 := by
  rw [writtenContent, List.getElem?_mapIdx]

/-- Only the transactions that write a chunk matter. -/
theorem writtenContent_congr
    (same :
      ∀ index, index < writeCount programBytes.length →
        isExecuted (index + 1) = later (index + 1)) :
    writtenContent programBytes isExecuted =
      writtenContent programBytes later := by
  apply List.ext_getElem?
  intro position
  rw [getElem?_writtenContent, getElem?_writtenContent]
  by_cases inside : position < programBytes.length
  · have start := Nat.div_mul_le_self position bpfLoaderWriteChunk
    rw [same _ (lt_writeCount_iff.mpr (by omega))]
  · rw [List.getElem?_eq_none (not_lt.mp inside)]
    rfl

theorem writtenContent_of_none
    (nothing : ∀ index, isExecuted (index + 1) = false) :
    writtenContent programBytes isExecuted =
      List.replicate programBytes.length 0 := by
  apply List.ext_getElem?
  intro position
  rw [getElem?_writtenContent, nothing, List.getElem?_replicate]
  by_cases inside : position < programBytes.length
  · simp [inside]
  · simp [inside]

/-- When every write was carried out, that is the program. -/
theorem writtenContent_of_all
    (all :
      ∀ index, index < writeCount programBytes.length →
        isExecuted (index + 1) = true) :
    writtenContent programBytes isExecuted = programBytes := by
  have same :
      writtenContent programBytes isExecuted =
        writtenContent programBytes fun _ => true :=
    writtenContent_congr all
  rw [same]
  apply List.ext_getElem?
  intro position
  rw [getElem?_writtenContent]
  simp

/-- One more chunk is written. -/
theorem splice_writtenContent {number : ℕ}
    (inside : number * bpfLoaderWriteChunk < programBytes.length)
    (written : later (number + 1) = true)
    (others : ∀ index, index ≠ number + 1 →
      later index = isExecuted index) :
    splice (writtenContent programBytes isExecuted)
        (number * bpfLoaderWriteChunk)
        (chunkAt programBytes (number * bpfLoaderWriteChunk)) =
      writtenContent programBytes later := by
  have agrees : Agrees programBytes (number * bpfLoaderWriteChunk)
      (chunkAt programBytes (number * bpfLoaderWriteChunk)) :=
    agrees_chunk programBytes _ bpfLoaderWriteChunk inside.le
  have length :
      (chunkAt programBytes (number * bpfLoaderWriteChunk)).length =
        min bpfLoaderWriteChunk
          (programBytes.length - number * bpfLoaderWriteChunk) := by
    rw [chunkAt, List.length_take, List.length_drop]
  apply List.ext_getElem?
  intro position
  rw [getElem?_splice (by rw [length_writtenContent]; exact agrees.1),
    getElem?_writtenContent, getElem?_writtenContent]
  by_cases beyond : programBytes.length ≤ position
  · rw [if_neg (by omega), List.getElem?_eq_none beyond]
    rfl
  · have division := Nat.div_add_mod position bpfLoaderWriteChunk
    have remainder : position % bpfLoaderWriteChunk < bpfLoaderWriteChunk :=
      Nat.mod_lt _ (by decide)
    by_cases here : position / bpfLoaderWriteChunk = number
    · rw [Nat.mul_comm, here] at division
      have same := agrees.2 (position - number * bpfLoaderWriteChunk)
        (by omega)
      rw [if_pos (by omega), same, here, written, Nat.add_sub_cancel'
        (by omega)]
      simp
    · have elsewhere :
          ¬ (number * bpfLoaderWriteChunk ≤ position ∧
            position < number * bpfLoaderWriteChunk +
              (chunkAt programBytes
                (number * bpfLoaderWriteChunk)).length) := by
        rintro ⟨started, _⟩
        apply here
        apply Nat.div_eq_of_lt_le started
        rw [Nat.add_mul]
        omega
      rw [if_neg elsewhere, others _ (by omega)]

end Content

/-! ## The buffer -/

/-- The instructions of a planned transaction. -/
def bundleOf (planned : PlannedTransaction) : List ProgramInstruction :=
  planned.instructions.map PlannedInstruction.instruction

section Buffer

variable {loader : UpgradeableLoader} {env : Env}
variable {ledger before after : UpgLedger} {payer bufferKp : Pubkey}
variable {authority : Pubkey} {programBytes : Bytes} {lamports : ℕ}
variable {keys : List Pubkey} {part : List PlannedTransaction}

/-- The transaction that creates and initializes the buffer. -/
def initialization (payer bufferKp authority : Pubkey)
    (programBytes : Bytes) (lamports : ℕ) : PlannedTransaction where
  instructions :=
    [.create (bufferParams payer bufferKp programBytes lamports),
      .call (.upgInitBuffer bufferKp authority)]
  payer := payer
  signers := [payer, bufferKp]

/-- The transaction that writes the chunk with that number. -/
def chunkWrite (payer bufferKp authority : Pubkey) (programBytes : Bytes)
    (number : ℕ) : PlannedTransaction where
  instructions :=
    [.call (.upgWrite bufferKp authority
      (number * bpfLoaderWriteChunk : ℕ)
      (chunkAt programBytes (number * bpfLoaderWriteChunk)))]
  payer := payer
  signers := [payer, authority]

theorem getElem?_bufferScript {number : ℕ} {planned : PlannedTransaction}
    (isPlanned :
      (bufferScript payer bufferKp authority programBytes
        lamports)[number]? = some planned) :
    number = 0 ∧
        planned =
          initialization payer bufferKp authority programBytes lamports ∨
      ∃ chunk, number = chunk + 1 ∧
        chunk * bpfLoaderWriteChunk < programBytes.length ∧
        planned = chunkWrite payer bufferKp authority programBytes chunk := by
  cases number with
  | zero =>
      cases isPlanned
      exact Or.inl ⟨rfl, rfl⟩
  | succ chunk =>
      rw [bufferScript, List.getElem?_cons_succ, writeScript,
        List.getElem?_map, getElem?_loopOffsets, Nat.zero_add] at isPlanned
      split at isPlanned
      · rename_i inside
        cases isPlanned
        exact Or.inr ⟨chunk, rfl, inside, rfl⟩
      · cases isPlanned

theorem length_bufferScript :
    (bufferScript payer bufferKp authority programBytes lamports).length =
      writeCount programBytes.length + 1 := by
  rw [bufferScript, writeScript, List.length_cons, List.length_map,
    writeCount]

/-- Once initialized, the buffer is as long as the program and zero. -/
theorem buffer_of_initialization
    (reaches :
      (bundleOf (initialization payer bufferKp authority programBytes
        lamports)).foldlM loader.execute before = some after) :
    after bufferKp =
      some (.buffer (some authority)
        (List.replicate programBytes.length 0)) := by
  simp only [bundleOf, initialization, List.map_cons, List.map_nil,
    List.foldlM_cons, List.foldlM_nil] at reaches
  obtain ⟨created, creates, reaches⟩ := Option.bind_eq_some_iff.mp reaches
  obtain ⟨ended, initializes, ends⟩ := Option.bind_eq_some_iff.mp reaches
  cases ends
  obtain ⟨_, rfl⟩ := loader.created rfl creates
  have fits : (LoaderCall.upgInitBuffer bufferKp authority).Fits := trivial
  obtain ⟨space, isBlank, rfl⟩ := loader.called fits initializes
  have sameSpace :
      bufferHeaderSize + programBytes.length = bufferHeaderSize + space := by
    rw [bufferParams, put_same] at isBlank
    simpa using isBlank
  rw [put_same, Nat.add_left_cancel sameSpace]

/-- A write splices its chunk into the buffer. -/
theorem buffer_of_chunkWrite {number : ℕ}
    (fits :
      (chunkWrite payer bufferKp authority programBytes number).Fits)
    (reaches :
      (bundleOf (chunkWrite payer bufferKp authority programBytes
        number)).foldlM loader.execute before = some after) :
    ∃ content,
      before bufferKp = some (.buffer (some authority) content) ∧
        after bufferKp =
          some (.buffer (some authority)
            (splice content (number * bpfLoaderWriteChunk)
              (chunkAt programBytes
                (number * bpfLoaderWriteChunk)))) := by
  simp only [bundleOf, chunkWrite, List.map_cons, List.map_nil,
    List.foldlM_cons, List.foldlM_nil] at reaches
  obtain ⟨ended, writes, ends⟩ := Option.bind_eq_some_iff.mp reaches
  cases ends
  obtain ⟨content, isBuffer, _, rfl⟩ :=
    loader.called (fits _ List.mem_cons_self) writes
  exact ⟨content, isBuffer, put_same _ _⟩

/-- What the buffer's address holds before the buffer is handed over. -/
def bufferAccount (authority : Pubkey) (programBytes : Bytes)
    (isExecuted : ℕ → Bool) : Option LoaderAccount :=
  if isExecuted 0 then
    some (.buffer (some authority) (writtenContent programBytes isExecuted))
  else
    none

section Account

variable {isExecuted later : ℕ → Bool}

theorem bufferAccount_initialized (initialized : isExecuted 0 = true)
    (unwritten : ∀ index, isExecuted (index + 1) = false) :
    bufferAccount authority programBytes isExecuted =
      some (.buffer (some authority)
        (List.replicate programBytes.length 0)) := by
  rw [bufferAccount, if_pos initialized, writtenContent_of_none unwritten]

/-- Only a buffer that was initialized can be written. -/
theorem bufferAccount_written {number : ℕ} {content : Bytes}
    (held :
      bufferAccount authority programBytes isExecuted =
        some (.buffer (some authority) content))
    (inside : number * bpfLoaderWriteChunk < programBytes.length)
    (written : later (number + 1) = true)
    (others : ∀ index, index ≠ number + 1 →
      later index = isExecuted index) :
    bufferAccount authority programBytes later =
      some (.buffer (some authority)
        (splice content (number * bpfLoaderWriteChunk)
          (chunkAt programBytes (number * bpfLoaderWriteChunk)))) := by
  rw [bufferAccount] at held
  split at held
  · rename_i initialized
    cases held
    have stillInitialized : later 0 = true := by
      rw [others 0 (Nat.succ_ne_zero number).symm, initialized]
    rw [bufferAccount, if_pos stillInitialized,
      splice_writtenContent inside written others]
  · cases held

end Account

/-- The buffer fills up with the chunks whose writes are carried out. -/
theorem buffer_of_part
    (vacant : ledger bufferKp = none)
    (isPart :
      part <+:
        bufferScript payer bufferKp authority programBytes lamports)
    (fits : ∀ planned ∈ part, planned.Fits) :
    stateAfter loader.execute env.fails ledger (part.map bundleOf)
        bufferKp =
      bufferAccount authority programBytes
        (executed loader.execute env.fails ledger
          (part.map bundleOf)) := by
  apply stateAfter_of_step fun front (reached : UpgLedger) =>
    reached bufferKp =
      bufferAccount authority programBytes
        (executed loader.execute env.fails ledger (front.map bundleOf))
  · exact vacant
  intro front planned isFront soFar
  have isPlanned :
      (bufferScript payer bufferKp authority programBytes
        lamports)[front.length]? = some planned :=
    getElem?_of_concat_isPrefix (isFront.trans isPart)
  have planFits : planned.Fits :=
    fits planned (isFront.subset
      (List.mem_append_right _ List.mem_cons_self))
  rw [List.map_append, List.map_singleton]
  cases carriedOut :
      executed loader.execute env.fails ledger
        (front.map bundleOf ++ [bundleOf planned])
        (front.map bundleOf).length with
  | false =>
      rw [stateAfter_concat_of_not_executed carriedOut,
        executed_concat_of_not_executed carriedOut, soFar]
  | true =>
      have reaches := foldlM_of_executed carriedOut
      rw [List.length_map] at carriedOut
      rcases getElem?_bufferScript isPlanned with
        ⟨first, rfl⟩ | ⟨chunk, later, inside, rfl⟩
      · rw [first] at carriedOut
        rw [buffer_of_initialization reaches,
          bufferAccount_initialized carriedOut]
        intro index
        apply executed_eq_false_of_le
        rw [List.length_append, List.length_map, first]
        exact Nat.le_add_left 1 index
      · obtain ⟨content, isBuffer, isWritten⟩ :=
          buffer_of_chunkWrite planFits reaches
        rw [later] at carriedOut
        rw [isWritten, bufferAccount_written (soFar.symm.trans isBuffer)
          inside carriedOut]
        intro index other
        exact executed_concat_of_ne (by rwa [List.length_map, later])

/-- What a part of a script leaves alone. -/
theorem keeps_of_part {key : Pubkey}
    (within :
      ∀ planned ∈ part, ∀ instruction ∈ planned.instructions,
        instruction.Within keys)
    (fits : ∀ planned ∈ part, planned.Fits) (other : key ∉ keys) :
    stateAfter loader.execute env.fails ledger (part.map bundleOf) key =
      ledger key := by
  apply stateAfter_keeps fun state : UpgLedger => state key
  intro planned member instruction isInstruction start reached executes
  obtain ⟨plannedInstruction, isPlanned, rfl⟩ :=
    List.mem_map.mp isInstruction
  apply keeps_of_execute (within planned member _ isPlanned) _ other executes
  rintro loaderCall rfl
  exact fits planned member loaderCall isPlanned

theorem bufferScript_within :
    ∀ planned ∈ bufferScript payer bufferKp authority programBytes lamports,
      ∀ instruction ∈ planned.instructions,
        instruction.Within [bufferKp] := by
  rw [bufferScript, writeScript, List.forall_mem_cons,
    List.forall_mem_map]
  simp [PlannedInstruction.Within, bufferParams]

theorem PlannedInstruction.Within.mono {wider : List Pubkey}
    {planned : PlannedInstruction} (within : planned.Within keys)
    (subset : keys ⊆ wider) :
    planned.Within wider := by
  unfold PlannedInstruction.Within at within ⊢
  split at within
  · exact ⟨within.1, subset within.2⟩
  · exact subset within
  · exact subset within
  · obtain ⟨dataIn, programIn, bufferIn⟩ := within
    exact ⟨subset dataIn, subset programIn, subset bufferIn⟩
  · exact ⟨subset within.1, subset within.2⟩
  · exact within.elim

end Buffer

end KarstflowTests.Programs

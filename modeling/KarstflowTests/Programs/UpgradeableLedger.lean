import KarstflowTests.Library.Machine
import KarstflowTests.Programs.UpgradeableBuffer

/-!
# What a deployment leaves on chain

A deployment and an upgrade fill a buffer and hand it over in their last
transaction.  Until that one is carried out, all accounts but the buffer are as
they were; then the program is replaced by what the buffer holds.  A normal
return says that all transactions were sent, not that they were carried out.
-/

namespace KarstflowTests.Programs

open KarstflowTests.Library KarstflowTests.Wait

/-! ## The last transaction -/

/-- The number of the transaction that hands the buffer over. -/
def lastIndex (programBytes : Bytes) : ℕ :=
  writeCount programBytes.length + 1

section Landed

variable {α : Type} {loader : UpgradeableLoader} {env : Env}
variable {ledger : UpgLedger} {payer bufferKp authority : Pubkey}
variable {programBytes : Bytes} {lamports : ℕ} {touched : List Pubkey}
variable {Delivered : UpgLedger → Bytes → Prop}
variable {last : PlannedTransaction} {outcome : Except Exc α}
variable {after : BufferLog} {sent rest : List PlannedTransaction}

/-- What a command leaves on chain, as far as its transactions have landed and
whichever of them have failed.  A normal end says that all were sent. -/
structure HandsOver (loader : UpgradeableLoader) (env : Env)
    (ledger : UpgLedger) (bufferKp authority : Pubkey)
    (programBytes : Bytes) (touched : List Pubkey)
    (Delivered : UpgLedger → Bytes → Prop) (outcome : Except Exc α)
    (after : BufferLog) : Prop where
  inTurn : after.InTurn
  signed : ∀ transaction ∈ after.transactions, transaction.SignedExactly
  untouched :
    ∀ landed, landed <+: after.transactions →
      ∀ key, key ∉ bufferKp :: touched →
        ledgerAfter env loader.execute ledger landed key = ledger key
  filling :
    ∀ landed, landed <+: after.transactions →
      hasExecuted env loader.execute ledger landed
          (lastIndex programBytes) = false →
        (∀ key, key ≠ bufferKp →
          ledgerAfter env loader.execute ledger landed key =
            ledger key) ∧
          ledgerAfter env loader.execute ledger landed bufferKp =
            bufferAccount authority programBytes
              (hasExecuted env loader.execute ledger landed)
  delivered :
    ∀ landed, landed <+: after.transactions →
      hasExecuted env loader.execute ledger landed
          (lastIndex programBytes) = true →
        ledgerAfter env loader.execute ledger landed bufferKp = none ∧
          Delivered (ledgerAfter env loader.execute ledger landed)
            (writtenContent programBytes
              (hasExecuted env loader.execute ledger landed))
  whole :
    ∀ landed,
      (∀ index, index < lastIndex programBytes →
        hasExecuted env loader.execute ledger landed index = true) →
        writtenContent programBytes
          (hasExecuted env loader.execute ledger landed) = programBytes
  completes :
    ∀ value, outcome = .ok value →
      after.Settled ∧ after.count = lastIndex programBytes + 1

/-- A last transaction that delivers what is in the buffer. -/
structure Delivers (loader : UpgradeableLoader) (ledger : UpgLedger)
    (bufferKp authority : Pubkey) (touched : List Pubkey)
    (Delivered : UpgLedger → Bytes → Prop) (last : PlannedTransaction) :
    Prop where
  within :
    ∀ instruction ∈ last.instructions,
      instruction.Within (bufferKp :: touched)
  delivers :
    last.Fits →
      ∀ before after content,
        (∀ key, key ≠ bufferKp → before key = ledger key) →
          (before bufferKp = none ∨
            before bufferKp =
              some (.buffer (some authority) content)) →
            (bundleOf last).foldlM loader.execute before = some after →
              after bufferKp = none ∧ Delivered after content

theorem bundles_of_follows {script : List PlannedTransaction}
    (follows : FollowsScript {} script outcome after sent rest)
    {landed : List BufferTransaction}
    (isLanded : landed <+: after.transactions) :
    ∃ part, part <+: script ∧ (∀ planned ∈ part, planned.Fits) ∧
      landed.map BufferTransaction.instructions = part.map bundleOf := by
  obtain ⟨part, isPart, _, instructions⟩ :=
    follows.instructions_landed isLanded
  refine ⟨part, ?_, ?_, instructions⟩
  · rw [follows.split]
    exact isPart.trans (List.prefix_append _ _)
  · intro planned member
    exact follows.fits planned (isPart.subset member)

/-- Before the last transaction, only the buffer changes. -/
theorem filling_of_part {part : List PlannedTransaction}
    (vacant : ledger bufferKp = none)
    (isPart :
      part <+: bufferScript payer bufferKp authority programBytes lamports)
    (fits : ∀ planned ∈ part, planned.Fits) :
    (∀ key, key ≠ bufferKp →
      stateAfter loader.execute env.fails ledger (part.map bundleOf) key =
        ledger key) ∧
      stateAfter loader.execute env.fails ledger (part.map bundleOf)
          bufferKp =
        bufferAccount authority programBytes
          (executed loader.execute env.fails ledger
            (part.map bundleOf)) := by
  have within :
      ∀ planned ∈ part, ∀ instruction ∈ planned.instructions,
        instruction.Within [bufferKp] :=
    fun planned member =>
      bufferScript_within planned (isPart.subset member)
  constructor
  · intro key other
    exact keeps_of_part within fits (by simpa using other)
  · exact buffer_of_part vacant isPart fits

theorem bufferAccount_cases (isExecuted : ℕ → Bool) :
    bufferAccount authority programBytes isExecuted = none ∨
      bufferAccount authority programBytes isExecuted =
        some (.buffer (some authority)
          (writtenContent programBytes isExecuted)) := by
  rw [bufferAccount]
  split
  · exact Or.inr rfl
  · exact Or.inl rfl

theorem length_bundles_bufferScript :
    ((bufferScript payer bufferKp authority programBytes lamports).map
      bundleOf).length = lastIndex programBytes := by
  rw [List.length_map, length_bufferScript, lastIndex]

/-- As long as the last transaction is not carried out. -/
theorem filling_of_script {part : List PlannedTransaction}
    (vacant : ledger bufferKp = none)
    (isPart :
      part <+:
        bufferScript payer bufferKp authority programBytes lamports ++
          [last])
    (fits : ∀ planned ∈ part, planned.Fits)
    (notYet :
      executed loader.execute env.fails ledger (part.map bundleOf)
        (lastIndex programBytes) = false) :
    (∀ key, key ≠ bufferKp →
      stateAfter loader.execute env.fails ledger (part.map bundleOf) key =
        ledger key) ∧
      stateAfter loader.execute env.fails ledger (part.map bundleOf)
          bufferKp =
        bufferAccount authority programBytes
          (executed loader.execute env.fails ledger
            (part.map bundleOf)) := by
  rcases List.prefix_concat_iff.mp isPart with rfl | early
  · rw [← length_bundles_bufferScript] at notYet
    rw [List.map_append, List.map_singleton] at notYet ⊢
    rw [stateAfter_concat_of_not_executed notYet,
      executed_concat_of_not_executed notYet]
    exact filling_of_part vacant (List.prefix_refl _)
      (List.forall_mem_append.mp fits).1
  · exact filling_of_part vacant early fits

/-- Once the last transaction is carried out. -/
theorem delivered_of_script {part : List PlannedTransaction}
    (vacant : ledger bufferKp = none)
    (delivers :
      Delivers loader ledger bufferKp authority touched Delivered last)
    (isPart :
      part <+:
        bufferScript payer bufferKp authority programBytes lamports ++
          [last])
    (fits : ∀ planned ∈ part, planned.Fits)
    (carriedOut :
      executed loader.execute env.fails ledger (part.map bundleOf)
        (lastIndex programBytes) = true) :
    stateAfter loader.execute env.fails ledger (part.map bundleOf)
        bufferKp = none ∧
      Delivered
        (stateAfter loader.execute env.fails ledger (part.map bundleOf))
        (writtenContent programBytes
          (executed loader.execute env.fails ledger
            (part.map bundleOf))) := by
  rcases List.prefix_concat_iff.mp isPart with rfl | early
  · obtain ⟨fitsEarly, fitsLast⟩ := List.forall_mem_append.mp fits
    rw [← length_bundles_bufferScript] at carriedOut
    rw [List.map_append, List.map_singleton] at carriedOut ⊢
    obtain ⟨others, isBuffer⟩ :=
      filling_of_part vacant (List.prefix_refl _) fitsEarly
    have sameContent :
        writtenContent programBytes
            (executed loader.execute env.fails ledger
              ((bufferScript payer bufferKp authority programBytes
                lamports).map bundleOf)) =
          writtenContent programBytes
            (executed loader.execute env.fails ledger
              ((bufferScript payer bufferKp authority programBytes
                lamports).map bundleOf ++ [bundleOf last])) := by
      apply writtenContent_congr
      intro index below
      rw [executed_concat_of_ne]
      rw [length_bundles_bufferScript, lastIndex]
      omega
    rw [← sameContent]
    apply delivers.delivers (fitsLast last List.mem_cons_self) _ _ _ others
      _ (foldlM_of_executed carriedOut)
    rw [isBuffer]
    exact bufferAccount_cases _
  · have below := lt_of_executed carriedOut
    have short := (early.map bundleOf).length_le
    rw [length_bundles_bufferScript] at short
    omega

/-- However the command ends. -/
theorem handsOver_of_follows
    (vacant : ledger bufferKp = none)
    (delivers :
      Delivers loader ledger bufferKp authority touched Delivered last)
    (signed :
      ∀ planned ∈
        bufferScript payer bufferKp authority programBytes lamports ++
          [last],
        planned.transaction.SignedExactly)
    (follows :
      FollowsScript {}
        (bufferScript payer bufferKp authority programBytes lamports ++
          [last])
        outcome after sent rest) :
    HandsOver loader env ledger bufferKp authority programBytes touched
      Delivered outcome after := by
  constructor
  · exact follows.inTurn
  · exact follows.forall_transactions BufferTransaction.SignedExactly
      (fun _ isSigned => isSigned) signed
  · intro landed isLanded key other
    obtain ⟨part, isPart, fits, bundles⟩ :=
      bundles_of_follows follows isLanded
    rw [ledgerAfter, bundles]
    apply keeps_of_part _ fits other
    intro planned member instruction isInstruction
    rcases List.mem_append.mp (isPart.subset member) with early | isLast
    · exact (bufferScript_within planned early instruction
        isInstruction).mono (by simp)
    · cases List.mem_singleton.mp isLast
      exact delivers.within instruction isInstruction
  · intro landed isLanded notYet
    obtain ⟨part, isPart, fits, bundles⟩ :=
      bundles_of_follows follows isLanded
    simp only [ledgerAfter, hasExecuted, bundles] at notYet ⊢
    exact filling_of_script vacant isPart fits notYet
  · intro landed isLanded carriedOut
    obtain ⟨part, isPart, fits, bundles⟩ :=
      bundles_of_follows follows isLanded
    simp only [ledgerAfter, hasExecuted, bundles] at carriedOut ⊢
    exact delivered_of_script vacant delivers isPart fits carriedOut
  · intro landed all
    apply writtenContent_of_all
    intro index below
    apply all
    rw [lastIndex]
    omega
  · intro value isOk
    refine ⟨(follows.done value isOk).2, ?_⟩
    rw [BufferLog.count, follows.length_of_ok isOk, List.length_append,
      length_bufferScript]
    rfl

end Landed

/-! ## Deployments and upgrades -/

/-- The program is there, with this content and room for so much. -/
structure Deployed (ledger : UpgLedger) (program programdata : Pubkey)
    (authority : Pubkey) (space : ℕ) (content : Bytes) : Prop where
  program : ledger program = some (.program programdata)
  content :
    ledger programdata = some (.programData (some authority) space content)

section Results

variable {loader : UpgradeableLoader} {ledger : UpgLedger}
variable {payer bufferKp authority programKeypair programId : Pubkey}
variable {programdata : Pubkey} {programBytes : Bytes} {lamports : ℕ}

theorem delivers_replaceOver :
    Delivers loader ledger bufferKp authority [programdata]
      (fun reached content =>
        ∃ space old,
          Deployed ledger programId programdata authority space old ∧
            Deployed reached programId programdata authority space content)
      (replaceOver payer bufferKp authority programdata programId) := by
  constructor
  · simp [replaceOver, PlannedInstruction.Within]
  intro fits before after content others held reaches
  simp only [bundleOf, replaceOver, List.map_cons, List.map_nil,
    List.foldlM_cons, List.foldlM_nil] at reaches
  obtain ⟨ended, upgrades, ends⟩ := Option.bind_eq_some_iff.mp reaches
  cases ends
  obtain ⟨space, old, found, isProgram, isData, isBuffer, _, rfl⟩ :=
    loader.called (fits _ List.mem_cons_self) upgrades
  have dataNotProgram : programdata ≠ programId := by
    rintro rfl
    cases isProgram.symm.trans isData
  have programNotBuffer : programId ≠ bufferKp := by
    rintro rfl
    cases isProgram.symm.trans isBuffer
  have dataNotBuffer : programdata ≠ bufferKp := by
    rintro rfl
    cases isData.symm.trans isBuffer
  have sameContent : found = content := by
    rcases held with isNone | isHeld
    · cases isNone.symm.trans isBuffer
    · cases isHeld.symm.trans isBuffer
      rfl
  refine ⟨?_, space, old, ⟨?_, ?_⟩, ?_, ?_⟩
  · rw [put_other dataNotBuffer.symm, remove_same]
  · rw [← others programId programNotBuffer]
    exact isProgram
  · rw [← others programdata dataNotBuffer]
    exact isData
  · rw [put_other dataNotProgram.symm, remove_other programNotBuffer]
    exact isProgram
  · rw [put_same, sameContent]

/-! ### Signatures -/

theorem bufferScript_signed :
    ∀ planned ∈ bufferScript payer bufferKp authority programBytes lamports,
      planned.transaction.SignedExactly := by
  rw [bufferScript, writeScript, List.forall_mem_cons, List.forall_mem_map]
  constructor
  · intro key
    simp [PlannedTransaction.transaction, BufferTransaction.requiredSigners,
      PlannedInstruction.instruction, ProgramInstruction.signerKeys,
      LoaderCall.instruction, buildUpgInitBufferIx, bufferParams]
  · intro offset _ key
    simp [PlannedTransaction.transaction, BufferTransaction.requiredSigners,
      PlannedInstruction.instruction, ProgramInstruction.signerKeys,
      LoaderCall.instruction, upgWriteIx]

theorem replaceOver_signed :
    (replaceOver payer bufferKp authority programdata
      programId).transaction.SignedExactly := by
  intro key
  simp [PlannedTransaction.transaction, BufferTransaction.requiredSigners,
    PlannedInstruction.instruction, ProgramInstruction.signerKeys,
    LoaderCall.instruction, buildUpgUpgradeIx, replaceOver]

theorem signed_of_parts {last : PlannedTransaction}
    (signed : last.transaction.SignedExactly) :
    ∀ planned ∈
      bufferScript payer bufferKp authority programBytes lamports ++ [last],
      planned.transaction.SignedExactly := by
  rw [List.forall_mem_append, List.forall_mem_singleton]
  exact ⟨bufferScript_signed, signed⟩

end Results

def bufferKey : Pubkey :=
  .fromString "3yZe7d6Mk2rV4cQwFhTqg1wZpQkV1bJxSx9rYw2n5oDm"

/-- The program data address of `programKey`. -/
def programdataKey : Pubkey :=
  .fromString "4JjhgbVuw365oXzuUYBU38WkhUtduvMWsn3epDxPBbCu"

def packFields (fields : List (ℕ × ℕ)) : Bytes :=
  fields.flatMap fun field => leBytes field.1 field.2

/-- An ELF file for the loader whose program is `mov64 r0, code` and
`exit`. -/
def returnElf (code : ℕ) : Bytes :=
  -- the file header
  elfMagic ++ [2, 1, 1] ++ List.replicate 9 0 ++
    packFields
      [(2, 3), (2, 247), (4, 1), (8, 120), (8, 64), (8, 160), (4, 0),
        (2, 64), (2, 56), (2, 1), (2, 64), (2, 3), (2, 2)] ++
  -- the segment, and the program in it
    packFields
      [(4, 1), (4, 5), (8, 120), (8, 120), (8, 120), (8, 16), (8, 16),
        (8, 8)] ++
    packFields [(4, 0xb7), (4, code), (8, 0x95)] ++
  -- the names of the sections, and their headers
    [0, 0x2e, 0x74, 0x65, 0x78, 0x74, 0] ++
    [0x2e, 0x73, 0x68, 0x73, 0x74, 0x72, 0x74, 0x61, 0x62, 0] ++
    List.replicate 7 0 ++ List.replicate 64 0 ++
    packFields
      [(4, 1), (4, 1), (8, 6), (8, 120), (8, 120), (8, 16), (8, 0), (8, 8),
        (8, 0)] ++
    packFields
      [(4, 7), (4, 3), (8, 0), (8, 0), (8, 136), (8, 17), (8, 0), (8, 1),
        (8, 0)]

/-- What the loader verifies, as far as these programs go. -/
def isReturnElf (programBytes : Bytes) : Bool :=
  programBytes == returnElf 0 || programBytes == returnElf 1

/-- The loader for `programKey`. -/
def programLoader : UpgradeableLoader :=
  documentedLoader (fun _ => programdataKey) isReturnElf

/-- A ledger with the program deployed. -/
def deployedLedger : UpgLedger :=
  UpgLedger.put
    (UpgLedger.put (fun _ => none) programKey (.program programdataKey))
    programdataKey (.programData (some walletKey) 704 (returnElf 0))

theorem deployedLedger_deployed :
    Deployed deployedLedger programKey programdataKey walletKey 704
      (returnElf 0) where
  program := by decide +kernel
  content := by decide +kernel

theorem deployedLedger_vacant : deployedLedger bufferKey = none := by
  decide +kernel

/-- One upgrade, and how many of its transactions land. -/
structure UpgradeAttempt where
  env : Env
  payer : Pubkey
  bufferKp : Pubkey
  programBytes : Bytes
  landed : ℕ

section Histories

variable (loader : UpgradeableLoader)
variable (getProgramdataAddress : Pubkey → Pubkey)
variable (programId authority : Pubkey)

namespace UpgradeAttempt

variable (ledger : UpgLedger) (attempt : UpgradeAttempt)

/-- The transactions of the attempt that have landed. -/
def transactions : List BufferTransaction :=
  ((upgradeProgram attempt.env attempt.payer getProgramdataAddress
    attempt.bufferKp programId authority attempt.programBytes).run.run
      {}).2.transactions.take attempt.landed

/-- The ledger they leave. -/
def leaves : UpgLedger :=
  ledgerAfter attempt.env loader.execute ledger
    (attempt.transactions getProgramdataAddress programId authority)

/-- Which of them were carried out. -/
def executed : ℕ → Bool :=
  hasExecuted attempt.env loader.execute ledger
    (attempt.transactions getProgramdataAddress programId authority)

/-- What the attempt makes of the program, if its last transaction is carried
out. -/
def delivery : Option Bytes :=
  if attempt.executed loader getProgramdataAddress programId authority ledger
      (lastIndex attempt.programBytes) then
    some (writtenContent attempt.programBytes
      (attempt.executed loader getProgramdataAddress programId authority
        ledger))
  else
    none

end UpgradeAttempt

/-- Upgrades of one program, one after the other, each as far as it lands. -/
def upgradeMachine (start : UpgLedger) :
    Machine UpgLedger UpgradeAttempt where
  initial := start
  step ledger attempt :=
    some (attempt.leaves loader getProgramdataAddress programId authority
      ledger)

/-- The program after the attempts: the last one delivered. -/
def contentAfter : UpgLedger → Bytes → List UpgradeAttempt → Bytes
  | _, content, [] => content
  | ledger, content, attempt :: rest =>
      contentAfter
        (attempt.leaves loader getProgramdataAddress programId authority
          ledger)
        ((attempt.delivery loader getProgramdataAddress programId authority
          ledger).getD content)
        rest

variable {loader getProgramdataAddress programId authority}

/-- An attempt of which nothing fails delivers the whole program. -/
theorem delivery_of_executed {ledger : UpgLedger} {attempt : UpgradeAttempt}
    (all :
      ∀ index, index ≤ lastIndex attempt.programBytes →
        attempt.executed loader getProgramdataAddress programId authority
          ledger index = true) :
    attempt.delivery loader getProgramdataAddress programId authority
      ledger = some attempt.programBytes := by
  rw [UpgradeAttempt.delivery, if_pos (all _ le_rfl), writtenContent_of_all]
  intro index below
  apply all
  rw [lastIndex]
  omega

/-- One attempt: the program is the old one or the one delivered. -/
theorem deployed_leaves {ledger : UpgLedger} {space : ℕ} {content : Bytes}
    {attempt : UpgradeAttempt}
    (deployed :
      Deployed ledger programId (getProgramdataAddress programId) authority
        space content)
    (vacant : ledger attempt.bufferKp = none) :
    Deployed
      (attempt.leaves loader getProgramdataAddress programId authority
        ledger)
      programId (getProgramdataAddress programId) authority space
      ((attempt.delivery loader getProgramdataAddress programId authority
        ledger).getD content) := by
  obtain ⟨sent, rest, follows⟩ :=
    (endsFollowing_upgradeProgram settled_empty :
      (upgradeProgram attempt.env attempt.payer getProgramdataAddress
        attempt.bufferKp programId authority
        attempt.programBytes).Ends {} _)
  have handsOver :
      HandsOver loader attempt.env ledger attempt.bufferKp authority
        attempt.programBytes [getProgramdataAddress programId] _ _ _ :=
    handsOver_of_follows vacant delivers_replaceOver
      (signed_of_parts replaceOver_signed) follows
  have landed :
      attempt.transactions getProgramdataAddress programId authority <+:
        _ :=
    List.take_prefix attempt.landed _
  rw [UpgradeAttempt.delivery]
  cases carriedOut :
      attempt.executed loader getProgramdataAddress programId authority
        ledger (lastIndex attempt.programBytes) with
  | true =>
      obtain ⟨_, roomBefore, old, before, after⟩ :=
        handsOver.delivered _ landed carriedOut
      cases before.content.symm.trans deployed.content
      exact after
  | false =>
      obtain ⟨others, _⟩ := handsOver.filling _ landed carriedOut
      have programApart : programId ≠ attempt.bufferKp := by
        intro same
        cases vacant.symm.trans (same ▸ deployed.program)
      have dataApart :
          getProgramdataAddress programId ≠ attempt.bufferKp := by
        intro same
        cases vacant.symm.trans (same ▸ deployed.content)
      constructor
      · exact (others programId programApart).trans deployed.program
      · exact (others _ dataApart).trans deployed.content

/-- Over any history of upgrades, the program is the last one delivered. -/
theorem upgradeMachine_refines (start : UpgLedger) {ledger : UpgLedger}
    {space : ℕ} {content : Bytes} {attempts : List UpgradeAttempt}
    (deployed :
      Deployed ledger programId (getProgramdataAddress programId) authority
        space content)
    (fresh :
      (upgradeMachine loader getProgramdataAddress programId authority
        start).AllowedAlong
          (fun ledger attempt => ledger attempt.bufferKp = none) ledger
          attempts) :
    (∃ reached,
      (upgradeMachine loader getProgramdataAddress programId authority
          start).run ledger attempts = some reached ∧
        Deployed reached programId (getProgramdataAddress programId)
          authority space
          (contentAfter loader getProgramdataAddress programId authority
            ledger content attempts)) ∧
      ∀ (before : UpgLedger) (attempt : UpgradeAttempt),
        (∀ index, index ≤ lastIndex attempt.programBytes →
          attempt.executed loader getProgramdataAddress programId authority
            before index = true) →
          attempt.delivery loader getProgramdataAddress programId authority
            before = some attempt.programBytes := by
  refine ⟨?_, fun _ _ => delivery_of_executed⟩
  induction attempts generalizing ledger content with
  | nil => exact ⟨ledger, rfl, deployed⟩
  | cons attempt rest inductionHypothesis =>
      obtain ⟨vacant, later⟩ := fresh
      exact inductionHypothesis (deployed_leaves deployed vacant)
        (later _ rfl)

end Histories

/-- An upgrade of which only the first two transactions land. -/
def cutOff : UpgradeAttempt where
  env := smoothEnv
  payer := walletKey
  bufferKp := bufferKey
  programBytes := returnElf 1
  landed := 2

theorem cutOff_keepsProgram :
    contentAfter programLoader (fun _ => programdataKey) programKey
        walletKey deployedLedger (returnElf 0) [cutOff] = returnElf 0 ∧
      ∃ reached,
        (upgradeMachine programLoader (fun _ => programdataKey) programKey
            walletKey deployedLedger).run deployedLedger [cutOff] =
              some reached ∧
          Deployed reached programKey programdataKey walletKey 704
            (contentAfter programLoader (fun _ => programdataKey) programKey
              walletKey deployedLedger (returnElf 0) [cutOff]) := by
  have fresh :
      (upgradeMachine programLoader (fun _ => programdataKey) programKey
        walletKey deployedLedger).AllowedAlong
          (fun ledger attempt => ledger attempt.bufferKp = none)
          deployedLedger [cutOff] :=
    ⟨deployedLedger_vacant, fun _ _ => trivial⟩
  refine ⟨?_, (upgradeMachine_refines deployedLedger
    deployedLedger_deployed fresh).1⟩
  decide +kernel

end KarstflowTests.Programs

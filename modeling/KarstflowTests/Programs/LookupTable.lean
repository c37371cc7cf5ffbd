import KarstflowTests.Programs.Script
import KarstflowTests.Programs.Token
import KarstflowTests.Programs.Wire

/-!
# Address lookup tables

A lookup table is created at an address derived from its authority and a slot,
and is then extended in batches of addresses, one confirmed transaction at a
time.  The table program is not part of the repository: `AltProgram` is what
the command relies on, the documented effects of what succeeds.

Any of the transactions may fail on chain.  However the command ends, the table
holds the batches whose transactions were carried out.
-/

namespace KarstflowTests.Programs

open KarstflowTests.Library KarstflowTests.Wait

/-! ## The builders -/

def altProgram : Pubkey :=
  .fromString "AddressLookupTab1e1111111111111111111111111"

/-- Max ALT addresses per ExtendLookupTable tx that stays within the 1232-byte
MTU. -/
def extendBatch : ℕ := 20

/-- u32(0) + u64(recent_slot) + u8(bump) -/
def buildCreateAltIx (payer authority : Pubkey) (recentSlot : ℕ)
    (altAddress : Pubkey) (bump : UInt8) : Except Exc Instruction := do
  let discriminant ← structPack 4 0
  let slot ← structPack 8 recentSlot
  let packedBump ← structPack 1 bump.toNat
  return {
    programId := altProgram
    data := discriminant ++ slot ++ packedBump
    accounts :=
      [⟨altAddress, false, true⟩, ⟨authority, true, false⟩,
        ⟨payer, true, true⟩, ⟨systemProgram, false, false⟩] }

/-- u32(2) + u64(count) + [Pubkey; count] -/
def buildExtendAltIx (altAddress authority payer : Pubkey)
    (addresses : List Pubkey) : Except Exc Instruction := do
  let discriminant ← structPack 4 2
  let count ← structPack 8 addresses.length
  return {
    programId := altProgram
    data := discriminant ++ count ++ addresses.flatMap Pubkey.bytes
    accounts :=
      [⟨altAddress, false, true⟩, ⟨authority, true, false⟩,
        ⟨payer, true, true⟩, ⟨systemProgram, false, false⟩] }

/-! ## The command -/

section Command

variable (env : Env) (payer : Pubkey)

def sendLegacy (instruction : Instruction) : Action BufferLog Unit :=
  sendAndConfirm env payer [.invoke instruction] [payer]

/-- `range(0, stop, step)` -/
def rangeBy (stop step : ℕ) : List ℕ :=
  (List.range ((stop + step - 1) / step)).map fun index => index * step

def batchAt (addresses : List Pubkey) (offset : ℕ) : List Pubkey :=
  (addresses.drop offset).take extendBatch

/-- The `for` loop over the offsets of the batches. -/
def extendAlt (altAddress : Pubkey) (addresses : List Pubkey) :
    List ℕ → Action BufferLog Unit
  | [] => return ()
  | offset :: offsets => do
      let extension ← Action.ofExcept
        (buildExtendAltIx altAddress payer payer (batchAt addresses offset))
      sendLegacy env payer extension
      extendAlt altAddress addresses offsets

/-- Create an ALT owned by `payer` and extend it with `addresses`. -/
def createAltWithAddresses (getSlot : Except Exc ℕ)
    (findProgramAddress : List Bytes → Pubkey → Pubkey × UInt8)
    (addresses : List Pubkey) : Action BufferLog Pubkey := do
  let recentSlot ← Action.ofExcept getSlot
  let slotBytes ← Action.ofExcept (structPack 8 recentSlot)
  let (altAddress, bump) :=
    findProgramAddress [payer.bytes, slotBytes] altProgram
  let creation ← Action.ofExcept
    (buildCreateAltIx payer payer recentSlot altAddress bump)
  sendLegacy env payer creation
  extendAlt env payer altAddress addresses
    (rangeBy addresses.length extendBatch)
  return altAddress

end Command

/-! ## What the builders produce -/

section Builders

variable {altAddress authority payer : Pubkey} {recentSlot : ℕ}
variable {bump : UInt8} {addresses : List Pubkey}

def createAltIx (payer authority : Pubkey) (recentSlot : ℕ)
    (altAddress : Pubkey) (bump : UInt8) : Instruction where
  programId := altProgram
  data := leBytes 4 0 ++ leBytes 8 recentSlot ++ leBytes 1 bump.toNat
  accounts :=
    [⟨altAddress, false, true⟩, ⟨authority, true, false⟩,
      ⟨payer, true, true⟩, ⟨systemProgram, false, false⟩]

def extendAltIx (altAddress authority payer : Pubkey)
    (addresses : List Pubkey) : Instruction where
  programId := altProgram
  data :=
    leBytes 4 2 ++ leBytes 8 addresses.length ++
      addresses.flatMap Pubkey.bytes
  accounts :=
    [⟨altAddress, false, true⟩, ⟨authority, true, false⟩,
      ⟨payer, true, true⟩, ⟨systemProgram, false, false⟩]

theorem buildCreateAltIx_eq (fits : recentSlot < 256 ^ 8) :
    buildCreateAltIx payer authority recentSlot altAddress bump =
      .ok (createAltIx payer authority recentSlot altAddress bump) := by
  have discriminant : 0 < 256 ^ 4 := by decide
  have bumpFits : bump.toNat < 256 ^ 1 := bump.toNat_lt
  rw [buildCreateAltIx, structPack_bind_of_lt discriminant,
    structPack_bind_of_lt fits, structPack_bind_of_lt bumpFits]
  rfl

theorem buildExtendAltIx_eq (fits : addresses.length < 256 ^ 8) :
    buildExtendAltIx altAddress authority payer addresses =
      .ok (extendAltIx altAddress authority payer addresses) := by
  have discriminant : 2 < 256 ^ 4 := by decide
  rw [buildExtendAltIx, structPack_bind_of_lt discriminant,
    structPack_bind_of_lt fits]
  rfl

end Builders

/-! ## The table program -/

/-- A lookup table; a frozen one has no authority. -/
structure AltTable where
  authority : Option Pubkey
  addresses : List Pubkey
  deriving DecidableEq

/-- The tables by their addresses. -/
abbrev AltLedger := Pubkey → Option AltTable

/-- How the table program carries out an instruction: any function with the
documented effects of what succeeds. -/
structure AltProgram where
  execute : AltLedger → ProgramInstruction → Option AltLedger
  /-- at an address that nobody uses -/
  created {ledger after : AltLedger} {payer authority altAddress : Pubkey}
      {recentSlot : ℕ} {bump : UInt8} :
    recentSlot < 256 ^ 8 →
      ledger altAddress = none →
        execute ledger
            (.invoke
              (createAltIx payer authority recentSlot altAddress bump)) =
          some after →
          after =
            Function.update ledger altAddress (some ⟨some authority, []⟩)
  extended {ledger after : AltLedger} {payer authority altAddress : Pubkey}
      {addresses : List Pubkey} :
    addresses.length < 256 ^ 8 →
      execute ledger
          (.invoke (extendAltIx altAddress authority payer addresses)) =
        some after →
        ∃ old, ledger altAddress = some ⟨some authority, old⟩ ∧
          after =
            Function.update ledger altAddress
              (some ⟨some authority, old ++ addresses⟩)

/-! ## The script -/

inductive AltStep where
  | create (payer altAddress : Pubkey) (recentSlot : ℕ) (bump : UInt8)
  | extend (payer altAddress : Pubkey) (addresses : List Pubkey)

namespace AltStep

def payer : AltStep → Pubkey
  | create payer _ _ _ => payer
  | extend payer _ _ => payer

def instruction : AltStep → Instruction
  | create payer altAddress recentSlot bump =>
      createAltIx payer payer recentSlot altAddress bump
  | extend payer altAddress addresses =>
      extendAltIx altAddress payer payer addresses

/-- The numbers fit their fields. -/
def Fits : AltStep → Prop
  | create _ _ recentSlot _ => recentSlot < 256 ^ 8
  | extend _ _ addresses => addresses.length < 256 ^ 8

def transaction (step : AltStep) : BufferTransaction where
  instructions := [.invoke step.instruction]
  payer := step.payer
  blockhash := ""
  signers := [step.payer]

end AltStep

instance : Plan AltStep where
  transaction := AltStep.transaction
  Fits := AltStep.Fits
  unstamped_transaction _ := rfl

def altScript (payer altAddress : Pubkey) (recentSlot : ℕ) (bump : UInt8)
    (addresses : List Pubkey) : List AltStep :=
  .create payer altAddress recentSlot bump ::
    (rangeBy addresses.length extendBatch).map fun offset =>
      .extend payer altAddress (batchAt addresses offset)

section Following

variable {env : Env} {payer altAddress : Pubkey} {addresses : List Pubkey}

theorem length_batchAt_le (addresses : List Pubkey) (offset : ℕ) :
    (batchAt addresses offset).length ≤ extendBatch :=
  List.length_take_le _ _

theorem length_batchAt_lt (addresses : List Pubkey) (offset : ℕ) :
    (batchAt addresses offset).length < 256 ^ 8 :=
  (length_batchAt_le addresses offset).trans_lt (by decide)

theorem endsFollowing_sendLegacy (step : AltStep) (fits : step.Fits)
    {before : BufferLog} :
    EndsFollowing (sendLegacy env step.payer step.instruction) before
      [step] :=
  endsFollowing_sendAndConfirm step fits

theorem endsFollowing_extendAlt (offsets : List ℕ) (before : BufferLog) :
    EndsFollowing (extendAlt env payer altAddress addresses offsets) before
      (offsets.map fun offset =>
        AltStep.extend payer altAddress (batchAt addresses offset)) := by
  induction offsets generalizing before with
  | nil => exact endsFollowing_return
  | cons offset offsets inductionHypothesis =>
      have short := length_batchAt_lt addresses offset
      rw [extendAlt, buildExtendAltIx_eq short]
      exact (endsFollowing_sendLegacy
        (.extend payer altAddress (batchAt addresses offset)) short).bind
          fun _ middle => inductionHypothesis middle

theorem endsFollowing_createAltWithAddresses
    {getSlot : Except Exc ℕ}
    {findProgramAddress : List Bytes → Pubkey → Pubkey × UInt8}
    {before : BufferLog} :
    let recentSlot := getSlot.toOption.getD 0
    let derived :=
      findProgramAddress [payer.bytes, leBytes 8 recentSlot] altProgram
    EndsFollowing
      (createAltWithAddresses env payer getSlot findProgramAddress addresses)
      before
      (altScript payer derived.1 recentSlot derived.2 addresses) := by
  apply endsFollowing_ofExcept_bind
  intro recentSlot answered
  rw [answered]
  apply endsFollowing_ofExcept_bind
  intro slotBytes packed
  have fits : recentSlot < 256 ^ 8 := by
    by_contra large
    rw [structPack_of_not_lt large] at packed
    cases packed
  rw [structPack_of_lt fits] at packed
  cases packed
  have same : (Except.ok recentSlot : Except Exc ℕ).toOption.getD 0 =
      recentSlot := rfl
  rw [same]
  generalize findProgramAddress [payer.bytes, leBytes 8 recentSlot]
    altProgram = derived
  obtain ⟨altAddress, bump⟩ := derived
  dsimp only
  rw [buildCreateAltIx_eq fits]
  apply (endsFollowing_sendLegacy
    (.create payer altAddress recentSlot bump) fits).bind
  intro _ middle
  have extended :
      EndsFollowing
        (extendAlt env payer altAddress addresses
          (rangeBy addresses.length extendBatch))
        middle
        ((rangeBy addresses.length extendBatch).map fun offset =>
          AltStep.extend payer altAddress (batchAt addresses offset)) :=
    endsFollowing_extendAlt _ middle
  have both := extended.bind fun _ last =>
    (endsFollowing_return :
      EndsFollowing (pure altAddress) last ([] : List AltStep))
  rw [List.append_nil] at both
  exact both

theorem returned_address
    {getSlot : Except Exc ℕ}
    {findProgramAddress : List Bytes → Pubkey → Pubkey × UInt8}
    {before after : BufferLog} {value : Pubkey}
    (returns :
      (createAltWithAddresses env payer getSlot findProgramAddress
        addresses).Returns before value after) :
    value =
      (findProgramAddress [payer.bytes, leBytes 8 (getSlot.toOption.getD 0)]
        altProgram).1 := by
  obtain ⟨recentSlot, answered, packs⟩ :=
    Action.returns_ofExcept_bind.mp returns
  obtain ⟨slotBytes, packed, creates⟩ :=
    Action.returns_ofExcept_bind.mp packs
  obtain ⟨creation, _, sends⟩ := Action.returns_ofExcept_bind.mp creates
  obtain ⟨_, _, _, filled⟩ := Action.returns_bind.mp sends
  obtain ⟨_, _, _, ends⟩ := Action.returns_bind.mp filled
  have isPacked : slotBytes = leBytes 8 recentSlot := by
    rw [structPack] at packed
    split at packed
    · exact (Except.ok.inj packed).symm
    · cases packed
  rw [answered, (Action.returns_pure.mp ends).1, isPacked]
  rfl

end Following

/-! ## What has landed -/

/-- The number of batches. -/
def batchCount (addresses : List Pubkey) : ℕ :=
  (addresses.length + extendBatch - 1) / extendBatch

/-- The addresses of the batches that were carried out, in order; batch number
`n` is in transaction `n + 1`. -/
def tableAddresses (addresses : List Pubkey) (isExecuted : ℕ → Bool) :
    List Pubkey :=
  (List.range (batchCount addresses)).flatMap fun index =>
    if isExecuted (index + 1) then
      batchAt addresses (index * extendBatch)
    else
      []

/-- The ledger with the table as far as it was carried out. -/
def AltLedger.holding (ledger : AltLedger) (payer altAddress : Pubkey)
    (addresses : List Pubkey) (isExecuted : ℕ → Bool) : AltLedger :=
  if isExecuted 0 then
    Function.update ledger altAddress
      (some ⟨some payer, tableAddresses addresses isExecuted⟩)
  else
    ledger

section Landed

variable {program : AltProgram} {env : Env} {ledger : AltLedger}
variable {payer altAddress : Pubkey} {recentSlot : ℕ} {bump : UInt8}
variable {addresses : List Pubkey} {isExecuted later : ℕ → Bool}

theorem take_batchAt (addresses : List Pubkey) (index : ℕ) :
    addresses.take (index * extendBatch) ++
        batchAt addresses (index * extendBatch) =
      addresses.take ((index + 1) * extendBatch) := by
  rw [batchAt, Nat.succ_mul, List.take_add]

theorem flatMap_batchAt (addresses : List Pubkey) (count : ℕ) :
    ((List.range count).flatMap fun index =>
        batchAt addresses (index * extendBatch)) =
      addresses.take (count * extendBatch) := by
  induction count with
  | zero => rw [Nat.zero_mul, List.take_zero, List.range_zero]; rfl
  | succ count inductionHypothesis =>
      rw [List.range_succ, List.flatMap_append, List.flatMap_singleton,
        inductionHypothesis, take_batchAt]

/-- When every batch was carried out, these are all addresses. -/
theorem tableAddresses_of_all
    (all :
      ∀ index, index < batchCount addresses →
        isExecuted (index + 1) = true) :
    tableAddresses addresses isExecuted = addresses := by
  have batches :
      tableAddresses addresses isExecuted =
        (List.range (batchCount addresses)).flatMap fun index =>
          batchAt addresses (index * extendBatch) := by
    apply List.flatMap_congr
    intro index member
    rw [if_pos (all index (List.mem_range.mp member))]
  rw [batches, flatMap_batchAt]
  apply List.take_of_length_le
  simp only [batchCount, extendBatch]
  omega

/-- What comes after the first batches adds nothing. -/
theorem tableAddresses_of_none {count : ℕ}
    (le : count ≤ batchCount addresses)
    (nothing : ∀ index, count ≤ index → isExecuted (index + 1) = false) :
    tableAddresses addresses isExecuted =
      (List.range count).flatMap fun index =>
        if isExecuted (index + 1) then
          batchAt addresses (index * extendBatch)
        else
          [] := by
  obtain ⟨more, total⟩ := Nat.exists_eq_add_of_le le
  have rest :
      (((List.range more).map fun index => count + index).flatMap
        fun index =>
          if isExecuted (index + 1) then
            batchAt addresses (index * extendBatch)
          else
            []) = [] := by
    rw [List.flatMap_eq_nil_iff, List.forall_mem_map]
    intro index _
    rw [nothing _ (Nat.le_add_right count index)]
    rfl
  rw [tableAddresses, total, List.range_add, List.flatMap_append, rest,
    List.append_nil]

/-- One more batch is carried out. -/
theorem tableAddresses_succ {number : ℕ}
    (inside : number < batchCount addresses)
    (idle : ∀ index, number ≤ index → isExecuted (index + 1) = false)
    (added : later (number + 1) = true)
    (others : ∀ index, index ≠ number + 1 →
      later index = isExecuted index) :
    tableAddresses addresses later =
      tableAddresses addresses isExecuted ++
        batchAt addresses (number * extendBatch) := by
  have idleLater :
      ∀ index, number + 1 ≤ index → later (index + 1) = false := by
    intro index after
    rw [others _ (by omega), idle index (by omega)]
  rw [tableAddresses_of_none inside idleLater, List.range_succ,
    List.flatMap_append, List.flatMap_singleton, if_pos added,
    tableAddresses_of_none inside.le idle, List.append_cancel_right_eq]
  apply List.flatMap_congr
  intro index member
  have below := List.mem_range.mp member
  rw [others _ (by omega)]

theorem length_altScript :
    (altScript payer altAddress recentSlot bump addresses).length =
      batchCount addresses + 1 := by
  rw [altScript, List.length_cons, List.length_map, rangeBy,
    List.length_map, List.length_range, batchCount]

theorem getElem?_altScript {number : ℕ} {step : AltStep}
    (isPlanned :
      (altScript payer altAddress recentSlot bump addresses)[number]? =
        some step) :
    number = 0 ∧ step = .create payer altAddress recentSlot bump ∨
      ∃ batch, number = batch + 1 ∧ batch < batchCount addresses ∧
        step =
          .extend payer altAddress
            (batchAt addresses (batch * extendBatch)) := by
  cases number with
  | zero =>
      cases isPlanned
      exact Or.inl ⟨rfl, rfl⟩
  | succ batch =>
      rw [altScript, List.getElem?_cons_succ, List.getElem?_map, rangeBy,
        List.getElem?_map, Option.map_map] at isPlanned
      obtain ⟨index, found, same⟩ := Option.map_eq_some_iff.mp isPlanned
      obtain ⟨inside, isIndex⟩ := List.getElem?_eq_some_iff.mp found
      rw [List.length_range] at inside
      rw [List.getElem_range] at isIndex
      subst isIndex
      exact Or.inr ⟨batch, rfl, inside, same.symm⟩

/-- The instructions of a step. -/
def AltStep.bundle (step : AltStep) : List ProgramInstruction :=
  [.invoke step.instruction]

theorem execute_of_bundle {step : AltStep} {before after : AltLedger}
    (reaches : step.bundle.foldlM program.execute before = some after) :
    program.execute before (.invoke step.instruction) = some after := by
  rw [AltStep.bundle, List.foldlM_cons] at reaches
  obtain ⟨reached, executes, ends⟩ := Option.bind_eq_some_iff.mp reaches
  cases ends
  exact executes

theorem holding_created (created : isExecuted 0 = true)
    (unextended : ∀ index, isExecuted (index + 1) = false) :
    ledger.holding payer altAddress addresses isExecuted =
      Function.update ledger altAddress (some ⟨some payer, []⟩) := by
  have nothing :
      tableAddresses addresses isExecuted =
        (List.range 0).flatMap fun index =>
          if isExecuted (index + 1) then
            batchAt addresses (index * extendBatch)
          else [] :=
    tableAddresses_of_none (Nat.zero_le _)
      fun index _ => unextended index
  rw [AltLedger.holding, if_pos created, nothing, List.range_zero,
    List.flatMap_nil]

/-- Only a table that was created can be extended. -/
theorem holding_extended {number : ℕ} {old : List Pubkey}
    (vacant : ledger altAddress = none)
    (held :
      ledger.holding payer altAddress addresses isExecuted altAddress =
        some ⟨some payer, old⟩)
    (inside : number < batchCount addresses)
    (idle : ∀ index, number ≤ index → isExecuted (index + 1) = false)
    (added : later (number + 1) = true)
    (others : ∀ index, index ≠ number + 1 →
      later index = isExecuted index) :
    ledger.holding payer altAddress addresses later =
      Function.update
        (ledger.holding payer altAddress addresses isExecuted) altAddress
        (some
          ⟨some payer,
            old ++ batchAt addresses (number * extendBatch)⟩) := by
  rw [AltLedger.holding] at held
  split at held
  · rename_i created
    rw [Function.update_self] at held
    cases held
    have stillCreated : later 0 = true := by
      rw [others 0 (Nat.succ_ne_zero number).symm, created]
    rw [AltLedger.holding, AltLedger.holding, if_pos stillCreated,
      if_pos created, Function.update_idem,
      tableAddresses_succ inside idle added others]
  · cases vacant.symm.trans held

/-- The ledger once a part of the script has landed, whichever of it failed. -/
theorem stateAfter_altScript {part : List AltStep}
    (vacant : ledger altAddress = none)
    (isPart :
      part <+: altScript payer altAddress recentSlot bump addresses)
    (fits : ∀ step ∈ part, step.Fits) :
    stateAfter program.execute env.fails ledger (part.map AltStep.bundle) =
      ledger.holding payer altAddress addresses
        (executed program.execute env.fails ledger
          (part.map AltStep.bundle)) := by
  apply stateAfter_of_step fun front (reached : AltLedger) =>
    reached =
      ledger.holding payer altAddress addresses
        (executed program.execute env.fails ledger
          (front.map AltStep.bundle))
  · rfl
  intro front step isFront soFar
  have isPlanned :
      (altScript payer altAddress recentSlot bump addresses)[front.length]? =
        some step :=
    getElem?_of_concat_isPrefix (isFront.trans isPart)
  have stepFits : step.Fits :=
    fits step (isFront.subset (List.mem_append_right _ List.mem_cons_self))
  rw [List.map_append, List.map_singleton]
  cases carriedOut :
      executed program.execute env.fails ledger
        (front.map AltStep.bundle ++ [step.bundle])
        (front.map AltStep.bundle).length with
  | false =>
      rw [stateAfter_concat_of_not_executed carriedOut,
        executed_concat_of_not_executed carriedOut, soFar]
  | true =>
      have executes := execute_of_bundle (foldlM_of_executed carriedOut)
      rw [List.length_map] at carriedOut
      rcases getElem?_altScript isPlanned with
        ⟨first, rfl⟩ | ⟨batch, later, inside, rfl⟩
      · rw [List.length_eq_zero_iff.mp first] at executes carriedOut ⊢
        rw [program.created stepFits vacant executes,
          holding_created carriedOut]
        intro index
        exact executed_eq_false_of_le (Nat.le_add_left 1 index)
      · obtain ⟨old, isTable, isAfter⟩ :=
          program.extended stepFits executes
        rw [soFar] at isTable isAfter
        rw [later] at carriedOut
        rw [isAfter, holding_extended vacant isTable inside _ carriedOut]
        · intro index other
          exact executed_concat_of_ne (by rwa [List.length_map, later])
        · intro index le
          apply executed_eq_false_of_le
          rw [List.length_map, later]
          exact Nat.succ_le_succ le

end Landed

/-! ## Packets -/

section Packets

variable {payer altAddress : Pubkey}
variable {recentSlot : ℕ} {bump : UInt8} {addresses : List Pubkey}

theorem length_flatMap_bytes (addresses : List Pubkey) :
    (addresses.flatMap Pubkey.bytes).length = 32 * addresses.length := by
  induction addresses with
  | nil => rfl
  | cons address addresses inductionHypothesis =>
      rw [List.flatMap_cons, List.length_append, address.length_eq,
        inductionHypothesis, List.length_cons]
      omega

theorem wireSize_extendAltIx (authority : Pubkey) :
    (ProgramInstruction.invoke
        (extendAltIx altAddress authority payer addresses)).wireSize =
      6 + (compactLength (12 + 32 * addresses.length) +
        (12 + 32 * addresses.length)) := by
  have length :
      (extendAltIx altAddress authority payer addresses).data.length =
        12 + 32 * addresses.length := by
    rw [extendAltIx, List.length_append, List.length_append,
      length_leBytes, length_leBytes, length_flatMap_bytes]
  simp only [ProgramInstruction.wireSize, ProgramInstruction.dataLength,
    length]
  rfl

theorem fitsPacket_altScript :
    ∀ step ∈ altScript payer altAddress recentSlot bump addresses,
      step.transaction.FitsPacket := by
  rw [altScript, List.forall_mem_cons, List.forall_mem_map]
  constructor
  · apply fitsPacket_of_le
    simp [AltStep.transaction, AltStep.instruction, AltStep.payer,
      BufferTransaction.requiredSigners, BufferTransaction.keys,
      ProgramInstruction.signerKeys, ProgramInstruction.keys,
      ProgramInstruction.wireSize, ProgramInstruction.accountCount,
      ProgramInstruction.dataLength, createAltIx, compactLength, packetSize]
  · intro offset _
    have short := length_batchAt_le addresses offset
    have length :=
      compactLength_le (12 + 32 * (batchAt addresses offset).length)
    have signers :
        (AltStep.extend payer altAddress
          (batchAt addresses offset)).transaction.requiredSigners.length =
            3 := rfl
    have keys :
        (AltStep.extend payer altAddress
          (batchAt addresses offset)).transaction.keys.length = 6 := rfl
    have one : compactLength 1 = 1 := rfl
    apply fitsPacket_of_le
    rw [signers, keys]
    simp only [AltStep.transaction, AltStep.instruction,
      List.map_singleton, List.sum_singleton, List.length_singleton,
      wireSize_extendAltIx, one, packetSize, extendBatch] at short ⊢
    omega

end Packets

/-! ## Every end of the command -/

/-- What the command leaves on chain, as far as its transactions have landed
and whichever of them have failed.  A normal end says that all were sent. -/
structure TableGrows (program : AltProgram) (env : Env) (ledger : AltLedger)
    (payer altAddress : Pubkey) (addresses : List Pubkey)
    (outcome : Except Exc Pubkey) (after : BufferLog) : Prop where
  inTurn : after.InTurn
  signed :
    ∀ transaction ∈ after.transactions, transaction.SignedExactly
  fits : ∀ transaction ∈ after.transactions, transaction.FitsPacket
  landed :
    ∀ landed, landed <+: after.transactions →
      ledgerAfter env program.execute ledger landed =
        ledger.holding payer altAddress addresses
          (hasExecuted env program.execute ledger landed)
  whole :
    ∀ landed,
      (∀ index, index < batchCount addresses →
        hasExecuted env program.execute ledger landed (index + 1) =
          true) →
        tableAddresses addresses
          (hasExecuted env program.execute ledger landed) = addresses
  completes :
    ∀ value, outcome = .ok value →
      value = altAddress ∧ after.Settled ∧
        after.count = batchCount addresses + 1

section Ends

variable {payer altAddress : Pubkey} {recentSlot : ℕ} {bump : UInt8}
variable {addresses : List Pubkey}

theorem signed_step (step : AltStep) : step.transaction.SignedExactly := by
  intro key
  cases step <;>
    simp [AltStep.transaction, AltStep.instruction, AltStep.payer,
      BufferTransaction.requiredSigners, ProgramInstruction.signerKeys,
      createAltIx, extendAltIx]

/-- However the command ends. -/
theorem tableGrows_of_follows {program : AltProgram} {env : Env}
    {ledger : AltLedger} {outcome : Except Exc Pubkey} {after : BufferLog}
    {sent rest : List AltStep}
    (follows :
      FollowsScript {}
        (altScript payer altAddress recentSlot bump addresses) outcome after
        sent rest)
    (vacant : ledger altAddress = none)
    (value : ∀ value, outcome = .ok value → value = altAddress) :
    TableGrows program env ledger payer altAddress addresses outcome
      after := by
  constructor
  · exact follows.inTurn
  · exact follows.forall_transactions BufferTransaction.SignedExactly
      (fun _ signed => signed) fun step _ => signed_step step
  · exact follows.forall_transactions BufferTransaction.FitsPacket
      (fun _ => fitsPacket_of_unstamped) fitsPacket_altScript
  · intro landed isLanded
    obtain ⟨part, isPart, _, instructions⟩ :=
      follows.instructions_landed isLanded
    have bundles :
        landed.map BufferTransaction.instructions =
          part.map AltStep.bundle := instructions
    have inScript :
        part <+: altScript payer altAddress recentSlot bump addresses := by
      rw [follows.split]
      exact isPart.trans (List.prefix_append _ _)
    simp only [ledgerAfter, hasExecuted, bundles]
    exact stateAfter_altScript vacant inScript fun step member =>
      follows.fits step (isPart.subset member)
  · intro landed all
    exact tableAddresses_of_all all
  · intro result isOk
    refine ⟨value result isOk, (follows.done result isOk).2, ?_⟩
    rw [BufferLog.count, follows.length_of_ok isOk, length_altScript]

end Ends

/-- Whatever the node answers, however the command ends and whichever of its
transactions fail. -/
theorem createAltWithAddresses_tableGrows
    (program : AltProgram) (env : Env) (payer : Pubkey)
    (getSlot : Except Exc ℕ)
    (findProgramAddress : List Bytes → Pubkey → Pubkey × UInt8)
    (addresses : List Pubkey) (ledger : AltLedger)
    (vacant :
      ledger
        (findProgramAddress
          [payer.bytes, leBytes 8 (getSlot.toOption.getD 0)]
          altProgram).1 = none) :
    let ended :=
      (createAltWithAddresses env payer getSlot findProgramAddress
        addresses).run.run {}
    TableGrows program env ledger payer
      (findProgramAddress
        [payer.bytes, leBytes 8 (getSlot.toOption.getD 0)] altProgram).1
      addresses ended.1 ended.2 := by
  intro ended
  obtain ⟨sent, rest, follows⟩ :=
    (endsFollowing_createAltWithAddresses settled_empty :
      (createAltWithAddresses env payer getSlot findProgramAddress
        addresses).Ends {} _)
  apply tableGrows_of_follows follows vacant
  intro value isOk
  apply returned_address
  exact Prod.ext isOk rfl

/-! ## A documented table program -/

inductive AltCommand where
  | create (recentSlot bump : ℕ)
  | extend (addresses : List Pubkey)
  deriving DecidableEq

def readAddresses : ℕ → Bytes → Option (List Pubkey)
  | 0, _ => some []
  | count + 1, data => do
      let (address, data) ← readPubkey data
      let rest ← readAddresses count data
      return address :: rest

def decodeAlt (data : Bytes) : Option AltCommand := do
  let (discriminant, data) ← readLe 4 data
  match discriminant with
  | 0 => do
      let (recentSlot, data) ← readLe 8 data
      let (bump, _) ← readLe 1 data
      return .create recentSlot bump
  | 2 => do
      let (count, data) ← readLe 8 data
      let addresses ← readAddresses count data
      return .extend addresses
  | _ => none

section Decoding

variable {altAddress authority payer : Pubkey} {recentSlot : ℕ}
variable {bump : UInt8} {addresses : List Pubkey}

theorem readAddresses_flatMap (addresses : List Pubkey) :
    readAddresses addresses.length (addresses.flatMap Pubkey.bytes) =
      some addresses := by
  induction addresses with
  | nil => rfl
  | cons address addresses inductionHypothesis =>
      rw [List.length_cons, readAddresses, List.flatMap_cons,
        readPubkey_append]
      simp only [Option.bind_eq_bind, Option.bind_some, inductionHypothesis]
      rfl

theorem decodeAlt_createAltIx (fits : recentSlot < 256 ^ 8) :
    decodeAlt
        (createAltIx payer authority recentSlot altAddress bump).data =
      some (.create recentSlot bump.toNat) := by
  have discriminant : 0 < 256 ^ 4 := by decide
  have bumpFits : bump.toNat < 256 ^ 1 := bump.toNat_lt
  have last := readLe_leBytes_append bumpFits []
  rw [List.append_nil] at last
  simp only [decodeAlt, createAltIx, List.append_assoc,
    readLe_leBytes_append discriminant, readLe_leBytes_append fits, last,
    Option.bind_eq_bind, Option.bind_some]
  rfl

theorem decodeAlt_extendAltIx (fits : addresses.length < 256 ^ 8) :
    decodeAlt (extendAltIx altAddress authority payer addresses).data =
      some (.extend addresses) := by
  have discriminant : 2 < 256 ^ 4 := by decide
  simp only [decodeAlt, extendAltIx, List.append_assoc,
    readLe_leBytes_append discriminant, readLe_leBytes_append fits,
    readAddresses_flatMap, Option.bind_eq_bind, Option.bind_some]
  rfl

end Decoding

/-- What the table program knows of the chain. -/
structure AltRules where
  findProgramAddress : List Bytes → Pubkey → Pubkey × UInt8
  isRecent : ℕ → Bool

/-- The most addresses a table can hold. -/
def lookupTableMaxAddresses : ℕ := 256

namespace AltRules

variable (rules : AltRules)

/-- Creating a table that exists changes nothing. -/
def call (ledger : AltLedger) (altAddress authority payer : AccountMeta) :
    AltCommand → Option AltLedger
  | .create recentSlot bump =>
      let derived :=
        rules.findProgramAddress
          [authority.pubkey.bytes, leBytes 8 recentSlot] altProgram
      if (ledger altAddress.pubkey).isSome then
        some ledger
      else if payer.isSigner ∧ rules.isRecent recentSlot ∧
          derived.1 = altAddress.pubkey ∧ derived.2.toNat = bump then
        some (Function.update ledger altAddress.pubkey
          (some ⟨some authority.pubkey, []⟩))
      else
        none
  | .extend addresses =>
      (ledger altAddress.pubkey).bind fun table =>
        if authority.isSigner ∧ table.authority = some authority.pubkey ∧
            addresses ≠ [] ∧
            (table.addresses ++ addresses).length ≤
              lookupTableMaxAddresses then
          some (Function.update ledger altAddress.pubkey
            (some ⟨table.authority, table.addresses ++ addresses⟩))
        else
          none

def execute (ledger : AltLedger) : ProgramInstruction → Option AltLedger
  | .createAccount _ => none
  | .invoke instruction =>
      match decodeAlt instruction.data, instruction.accounts with
      | some command, altAddress :: authority :: payer :: _ =>
          if instruction.programId = altProgram then
            rules.call ledger altAddress authority payer command
          else
            none
      | _, _ => none

end AltRules

/-- The table program with its documented refusals. -/
def documentedAlt (rules : AltRules) : AltProgram where
  execute := rules.execute
  created {ledger after payer authority altAddress recentSlot bump} fits
      vacant executes := by
    rw [AltRules.execute, decodeAlt_createAltIx fits] at executes
    simp only [createAltIx, if_true, AltRules.call, vacant, Option.isSome_none,
      Bool.false_eq_true, if_false] at executes
    split at executes
    · cases executes
      rfl
    · cases executes
  extended {ledger after payer authority altAddress addresses} fits
      executes := by
    rw [AltRules.execute, decodeAlt_extendAltIx fits] at executes
    simp only [extendAltIx, if_true, AltRules.call] at executes
    obtain ⟨table, found, enlarges⟩ := Option.bind_eq_some_iff.mp executes
    split at enlarges
    · rename_i allowed
      cases enlarges
      rw [allowed.2.1]
      refine ⟨table.addresses, ?_, rfl⟩
      rw [found, ← allowed.2.1]
    · cases enlarges

/-! A table of twenty-one addresses takes two batches. -/

/-- The table address of `walletKey` at slot 77; its bump is 249. -/
def tableKey : Pubkey :=
  .fromString "AWbysu2RvUbuCdt29W7XNNa3FnUwDzFCrY7CXvYkQSdY"

def permissiveRules : AltRules where
  findProgramAddress _ _ := (tableKey, 249)
  isRecent _ := true

def numberedAddresses : List Pubkey :=
  (List.range 21).map fun number =>
    ⟨leBytes 32 (number + 1), length_leBytes 32 (number + 1)⟩

theorem tableGrows_twoBatches :
    let ended :=
      (createAltWithAddresses smoothEnv walletKey (.ok 77)
        permissiveRules.findProgramAddress numberedAddresses).run.run {}
    (List.range 3).map
        (hasExecuted smoothEnv (documentedAlt permissiveRules).execute
          (fun _ => none) ended.2.transactions) = [true, true, true] ∧
      TableGrows (documentedAlt permissiveRules) smoothEnv
        (fun _ => none) walletKey tableKey numberedAddresses ended.1
        ended.2 := by
  refine ⟨?_, createAltWithAddresses_tableGrows
    (documentedAlt permissiveRules) smoothEnv walletKey (.ok 77)
    permissiveRules.findProgramAddress numberedAddresses (fun _ => none)
    rfl⟩
  decide +kernel

end KarstflowTests.Programs

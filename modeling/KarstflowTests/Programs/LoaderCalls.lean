import KarstflowTests.Programs.Runtime
import KarstflowTests.Programs.WriteBuffer

/-!
# Calls of the two loaders

A `LoaderCall` is one of the eight loader builders with its arguments.
`decodeCall` reads it back from the data and the accounts of an instruction:
from the data the discriminant and the numbers, from the accounts the keys by
their positions.
-/

namespace KarstflowTests.Programs

open KarstflowTests.Library

/-! ## The other builders of the upgradeable loader -/

def upgDeploy : ℕ := 2
def upgUpgrade : ℕ := 3
def upgSetAuthority : ℕ := 4
def upgClose : ℕ := 5

def sysvarClock : Pubkey :=
  .fromString "SysvarC1ock11111111111111111111111111111111"

/-- u32 disc + u64 max_data_len -/
def buildUpgDeployIx
    (payer programdata program buffer authority : Pubkey)
    (maxDataLen : ℕ) : Except Exc Instruction := do
  let discriminant ← structPack 4 upgDeploy
  let packedLen ← structPack 8 maxDataLen
  return {
    programId := bpfLoaderUpgradeable
    data := discriminant ++ packedLen
    accounts :=
      [⟨payer, true, true⟩, ⟨programdata, false, true⟩,
        ⟨program, false, true⟩, ⟨buffer, false, true⟩,
        ⟨sysvarRent, false, false⟩, ⟨sysvarClock, false, false⟩,
        ⟨systemProgram, false, false⟩, ⟨authority, true, false⟩] }

def buildUpgUpgradeIx
    (programdata program buffer spill authority : Pubkey) :
    Instruction where
  programId := bpfLoaderUpgradeable
  data := leBytes 4 upgUpgrade
  accounts :=
    [⟨programdata, false, true⟩, ⟨program, false, true⟩,
      ⟨buffer, false, true⟩, ⟨spill, false, true⟩,
      ⟨sysvarRent, false, false⟩, ⟨sysvarClock, false, false⟩,
      ⟨authority, true, false⟩]

def buildUpgSetAuthorityIx
    (account currentAuthority : Pubkey) (newAuthority : Option Pubkey) :
    Instruction where
  programId := bpfLoaderUpgradeable
  data := leBytes 4 upgSetAuthority
  accounts :=
    [⟨account, false, true⟩, ⟨currentAuthority, true, false⟩] ++
      newAuthority.toList.map fun key => ⟨key, false, false⟩

def buildUpgCloseIx (account recipient authority : Pubkey) :
    Instruction where
  programId := bpfLoaderUpgradeable
  data := leBytes 4 upgClose
  accounts :=
    [⟨account, false, true⟩, ⟨recipient, false, true⟩,
      ⟨authority, true, false⟩]

/-! ## Calls -/

inductive Loader where
  | bpfLoader
  | upgradeable
  deriving DecidableEq

def Loader.programId : Loader → Pubkey
  | .bpfLoader => Programs.bpfLoader
  | .upgradeable => bpfLoaderUpgradeable

/-- A builder and its arguments. -/
inductive LoaderCall where
  | bpfLoaderWrite (programAccount : Pubkey) (offset : ℤ) (chunk : Bytes)
  | bpfLoaderFinalize (programAccount : Pubkey)
  | upgInitBuffer (buffer authority : Pubkey)
  | upgWrite (buffer authority : Pubkey) (offset : ℤ) (chunk : Bytes)
  | upgDeploy (payer programdata program buffer authority : Pubkey)
      (maxDataLen : ℤ)
  | upgUpgrade (programdata program buffer spill authority : Pubkey)
  | upgSetAuthority (account currentAuthority : Pubkey)
      (newAuthority : Option Pubkey)
  | upgClose (account recipient authority : Pubkey)
  deriving DecidableEq

/-- An integer for an unsigned field of `struct.pack`, which refuses the
negative ones. -/
def unsigned (value : ℤ) : Except Exc ℕ :=
  if 0 ≤ value then
    .ok value.toNat
  else
    .error (.structError "argument out of range")

namespace LoaderCall

def loader : LoaderCall → Loader
  | .bpfLoaderWrite .. => .bpfLoader
  | .bpfLoaderFinalize .. => .bpfLoader
  | _ => .upgradeable

/-- Run the builder. -/
def build : LoaderCall → Except Exc Instruction
  | .bpfLoaderWrite programAccount offset chunk => do
      let offset ← unsigned offset
      buildBpfLoaderWriteIx programAccount offset chunk
  | .bpfLoaderFinalize programAccount =>
      return buildBpfLoaderFinalizeIx programAccount
  | .upgInitBuffer buffer authority =>
      return buildUpgInitBufferIx buffer authority
  | .upgWrite buffer authority offset chunk => do
      let offset ← unsigned offset
      buildUpgWriteIx buffer authority offset chunk
  | .upgDeploy payer programdata program buffer authority maxDataLen => do
      let maxDataLen ← unsigned maxDataLen
      buildUpgDeployIx payer programdata program buffer authority maxDataLen
  | .upgUpgrade programdata program buffer spill authority =>
      return buildUpgUpgradeIx programdata program buffer spill authority
  | .upgSetAuthority account currentAuthority newAuthority =>
      return buildUpgSetAuthorityIx account currentAuthority newAuthority
  | .upgClose account recipient authority =>
      return buildUpgCloseIx account recipient authority

/-- The numbers of the call fit their fields. -/
def Fits : LoaderCall → Prop
  | .bpfLoaderWrite _ offset chunk
  | .upgWrite _ _ offset chunk =>
      0 ≤ offset ∧ offset < 2 ^ 32 ∧ chunk.length < 2 ^ 64
  | .upgDeploy _ _ _ _ _ maxDataLen =>
      0 ≤ maxDataLen ∧ maxDataLen < 2 ^ 64
  | _ => True

end LoaderCall

/-! ## Reading a call back -/

/-- u32 offset + u64 length + that many bytes -/
def decodeWriteFields (fields : Bytes) : Option (ℕ × Bytes) :=
  (readLe 4 fields).bind fun (offset, fields) =>
    (readLe 8 fields).bind fun (length, bytes) =>
      if length ≤ bytes.length then
        some (offset, bytes.take length)
      else
        none

def decodeBpfLoader (data : Bytes) (keys : List Pubkey) :
    Option LoaderCall :=
  match decodeLoaderCommand data, keys with
  | some (.write offset chunk), [programAccount] =>
      some (.bpfLoaderWrite programAccount offset chunk)
  | some .finalize, [programAccount, _] =>
      some (.bpfLoaderFinalize programAccount)
  | _, _ => none

def decodeUpgradeable (discriminant : ℕ) (fields : Bytes)
    (keys : List Pubkey) : Option LoaderCall :=
  match discriminant, keys with
  | 0, [buffer, authority] => some (.upgInitBuffer buffer authority)
  | 1, [buffer, authority] =>
      (decodeWriteFields fields).map fun (offset, chunk) =>
        .upgWrite buffer authority offset chunk
  | 2, [payer, programdata, program, buffer, _, _, _, authority] =>
      (readLe 8 fields).map fun (maxDataLen, _) =>
        .upgDeploy payer programdata program buffer authority maxDataLen
  | 3, [programdata, program, buffer, spill, _, _, authority] =>
      some (.upgUpgrade programdata program buffer spill authority)
  | 4, [account, currentAuthority] =>
      some (.upgSetAuthority account currentAuthority none)
  | 4, [account, currentAuthority, newAuthority] =>
      some (.upgSetAuthority account currentAuthority (some newAuthority))
  | 5, [account, recipient, authority] =>
      some (.upgClose account recipient authority)
  | _, _ => none

def decodeCall (loader : Loader) (data : Bytes)
    (accounts : List AccountMeta) : Option LoaderCall :=
  match loader with
  | .bpfLoader => decodeBpfLoader data (accounts.map AccountMeta.pubkey)
  | .upgradeable =>
      (readLe 4 data).bind fun (discriminant, fields) =>
        decodeUpgradeable discriminant fields
          (accounts.map AccountMeta.pubkey)

/-! ## What the builders return -/

/-- A builder of natural numbers, on an integer. -/
theorem unsigned_bind_eq_ite
    {value : ℤ} {fits : ℕ → Prop} [DecidablePred fits]
    {build : ℕ → Except Exc Instruction} {made : ℕ → Instruction}
    (builds : ∀ number,
      build number =
        if fits number then
          .ok (made number)
        else
          .error (.structError "argument out of range")) :
    (unsigned value >>= build) =
      if 0 ≤ value ∧ fits value.toNat then
        .ok (made value.toNat)
      else
        .error (.structError "argument out of range") := by
  by_cases nonneg : 0 ≤ value
  · have bound : (unsigned value >>= build) = build value.toNat := by
      rw [unsigned, if_pos nonneg]
      rfl
    simp only [bound, builds, nonneg, true_and]
  · rw [unsigned, if_neg nonneg, if_neg fun both => nonneg both.1]
    rfl

/-- The deployment with a given length. -/
def upgDeployIx
    (payer programdata program buffer authority : Pubkey)
    (maxDataLen : ℕ) : Instruction where
  programId := bpfLoaderUpgradeable
  data := leBytes 4 upgDeploy ++ leBytes 8 maxDataLen
  accounts :=
    [⟨payer, true, true⟩, ⟨programdata, false, true⟩,
      ⟨program, false, true⟩, ⟨buffer, false, true⟩,
      ⟨sysvarRent, false, false⟩, ⟨sysvarClock, false, false⟩,
      ⟨systemProgram, false, false⟩, ⟨authority, true, false⟩]

theorem buildUpgDeployIx_eq
    (payer programdata program buffer authority : Pubkey)
    (maxDataLen : ℕ) :
    buildUpgDeployIx payer programdata program buffer authority
        maxDataLen =
      if maxDataLen < 2 ^ 64 then
        .ok (upgDeployIx payer programdata program buffer authority
          maxDataLen)
      else
        .error (.structError "argument out of range") := by
  have small : Programs.upgDeploy < 256 ^ 4 := by decide
  rw [buildUpgDeployIx, structPack_bind_of_lt small]
  by_cases fits : maxDataLen < 256 ^ 8
  · rw [structPack_bind_of_lt fits]
    exact (if_pos fits).symm
  · rw [structPack_bind_of_not_lt fits]
    exact (if_neg fits).symm

namespace LoaderCall

/-- The instruction of a call whose numbers fit. -/
def instruction : LoaderCall → Instruction
  | .bpfLoaderWrite programAccount offset chunk =>
      writeIx programAccount offset.toNat chunk
  | .bpfLoaderFinalize programAccount =>
      buildBpfLoaderFinalizeIx programAccount
  | .upgInitBuffer buffer authority =>
      buildUpgInitBufferIx buffer authority
  | .upgWrite buffer authority offset chunk =>
      upgWriteIx buffer authority offset.toNat chunk
  | .upgDeploy payer programdata program buffer authority maxDataLen =>
      upgDeployIx payer programdata program buffer authority
        maxDataLen.toNat
  | .upgUpgrade programdata program buffer spill authority =>
      buildUpgUpgradeIx programdata program buffer spill authority
  | .upgSetAuthority account currentAuthority newAuthority =>
      buildUpgSetAuthorityIx account currentAuthority newAuthority
  | .upgClose account recipient authority =>
      buildUpgCloseIx account recipient authority

variable {call : LoaderCall}

theorem build_bpfLoaderWrite
    (programAccount : Pubkey) (offset : ℤ) (chunk : Bytes) :
    (bpfLoaderWrite programAccount offset chunk).build =
      if 0 ≤ offset ∧ offset.toNat < 2 ^ 32 ∧ chunk.length < 2 ^ 64 then
        .ok (writeIx programAccount offset.toNat chunk)
      else
        .error (.structError "argument out of range") :=
  unsigned_bind_eq_ite fun number =>
    buildBpfLoaderWriteIx_eq programAccount number chunk

theorem build_upgWrite
    (buffer authority : Pubkey) (offset : ℤ) (chunk : Bytes) :
    (upgWrite buffer authority offset chunk).build =
      if 0 ≤ offset ∧ offset.toNat < 2 ^ 32 ∧ chunk.length < 2 ^ 64 then
        .ok (upgWriteIx buffer authority offset.toNat chunk)
      else
        .error (.structError "argument out of range") :=
  unsigned_bind_eq_ite fun number =>
    buildUpgWriteIx_eq_ite buffer authority number chunk

theorem build_upgDeploy
    (payer programdata program buffer authority : Pubkey)
    (maxDataLen : ℤ) :
    (upgDeploy payer programdata program buffer authority
        maxDataLen).build =
      if 0 ≤ maxDataLen ∧ maxDataLen.toNat < 2 ^ 64 then
        .ok (upgDeployIx payer programdata program buffer authority
          maxDataLen.toNat)
      else
        .error (.structError "argument out of range") :=
  unsigned_bind_eq_ite fun number =>
    buildUpgDeployIx_eq payer programdata program buffer authority number

theorem build_of_fits (fits : call.Fits) :
    call.build = .ok call.instruction := by
  cases call with
  | bpfLoaderWrite programAccount offset chunk =>
      obtain ⟨nonneg, below, short⟩ := fits
      have belowNat : offset.toNat < 2 ^ 32 := by omega
      rw [build_bpfLoaderWrite, if_pos ⟨nonneg, belowNat, short⟩]
      rfl
  | upgWrite buffer authority offset chunk =>
      obtain ⟨nonneg, below, short⟩ := fits
      have belowNat : offset.toNat < 2 ^ 32 := by omega
      rw [build_upgWrite, if_pos ⟨nonneg, belowNat, short⟩]
      rfl
  | upgDeploy payer programdata program buffer authority maxDataLen =>
      obtain ⟨nonneg, below⟩ := fits
      have belowNat : maxDataLen.toNat < 2 ^ 64 := by omega
      rw [build_upgDeploy, if_pos ⟨nonneg, belowNat⟩]
      rfl
  | bpfLoaderFinalize programAccount => rfl
  | upgInitBuffer buffer authority => rfl
  | upgUpgrade programdata program buffer spill authority => rfl
  | upgSetAuthority account currentAuthority newAuthority => rfl
  | upgClose account recipient authority => rfl

theorem build_of_not_fits (tooLarge : ¬ call.Fits) :
    call.build = .error (.structError "argument out of range") := by
  cases call with
  | bpfLoaderWrite programAccount offset chunk =>
      rw [build_bpfLoaderWrite, if_neg]
      intro fits
      obtain ⟨nonneg, below, short⟩ := fits
      exact tooLarge ⟨nonneg, by omega, short⟩
  | upgWrite buffer authority offset chunk =>
      rw [build_upgWrite, if_neg]
      intro fits
      obtain ⟨nonneg, below, short⟩ := fits
      exact tooLarge ⟨nonneg, by omega, short⟩
  | upgDeploy payer programdata program buffer authority maxDataLen =>
      rw [build_upgDeploy, if_neg]
      intro fits
      obtain ⟨nonneg, below⟩ := fits
      exact tooLarge ⟨nonneg, by omega⟩
  | bpfLoaderFinalize programAccount => exact absurd trivial tooLarge
  | upgInitBuffer buffer authority => exact absurd trivial tooLarge
  | upgUpgrade programdata program buffer spill authority =>
      exact absurd trivial tooLarge
  | upgSetAuthority account currentAuthority newAuthority =>
      exact absurd trivial tooLarge
  | upgClose account recipient authority => exact absurd trivial tooLarge

theorem programId_instruction (call : LoaderCall) :
    call.instruction.programId = call.loader.programId := by
  cases call with
  | bpfLoaderWrite programAccount offset chunk => rfl
  | bpfLoaderFinalize programAccount => rfl
  | upgInitBuffer buffer authority => rfl
  | upgWrite buffer authority offset chunk => rfl
  | upgDeploy payer programdata program buffer authority maxDataLen => rfl
  | upgUpgrade programdata program buffer spill authority => rfl
  | upgSetAuthority account currentAuthority newAuthority => rfl
  | upgClose account recipient authority => rfl

end LoaderCall

/-! ## The round trip -/

theorem decodeWriteFields_append {offset : ℕ} {chunk : Bytes}
    (fits : offset < 2 ^ 32) (short : chunk.length < 2 ^ 64) :
    decodeWriteFields
        (leBytes 4 offset ++ (leBytes 8 chunk.length ++ chunk)) =
      some (offset, chunk) := by
  have offsetFits : offset < 256 ^ 4 := fits
  have lengthFits : chunk.length < 256 ^ 8 := short
  simp only [decodeWriteFields, readLe_leBytes_append offsetFits,
    readLe_leBytes_append lengthFits, Option.bind_some, le_refl, if_true,
    List.take_length]

/-- The discriminant in front of the fields. -/
theorem decodeCall_upgradeable {discriminant : ℕ}
    (small : discriminant < 256 ^ 4) (fields : Bytes)
    (accounts : List AccountMeta) :
    decodeCall .upgradeable (leBytes 4 discriminant ++ fields) accounts =
      decodeUpgradeable discriminant fields
        (accounts.map AccountMeta.pubkey) := by
  rw [decodeCall, readLe_leBytes_append small, Option.bind_some]

theorem decodeCall_writeIx (programAccount : Pubkey) {offset : ℕ}
    {chunk : Bytes} (fits : offset < 2 ^ 32)
    (short : chunk.length < 2 ^ 64) :
    decodeCall .bpfLoader (writeIx programAccount offset chunk).data
        (writeIx programAccount offset chunk).accounts =
      some (.bpfLoaderWrite programAccount offset chunk) := by
  have decodes :
      decodeLoaderCommand (writeIx programAccount offset chunk).data =
        some (.write offset chunk) :=
    decode_writeIx fits short
  simp only [decodeCall, decodeBpfLoader, decodes]
  simp only [writeIx, List.map_cons, List.map_nil]

theorem decodeCall_upgWriteIx (buffer authority : Pubkey) {offset : ℕ}
    {chunk : Bytes} (fits : offset < 2 ^ 32)
    (short : chunk.length < 2 ^ 64) :
    decodeCall .upgradeable (upgWriteIx buffer authority offset chunk).data
        (upgWriteIx buffer authority offset chunk).accounts =
      some (.upgWrite buffer authority offset chunk) := by
  have small : upgWrite < 256 ^ 4 := by decide
  refine (decodeCall_upgradeable small _ _).trans ?_
  simp only [upgWriteIx, upgWrite, List.map_cons, List.map_nil,
    decodeUpgradeable, decodeWriteFields_append fits short,
    Option.map_some]

theorem decodeCall_upgDeployIx
    (payer programdata program buffer authority : Pubkey)
    {maxDataLen : ℕ} (fits : maxDataLen < 2 ^ 64) :
    decodeCall .upgradeable
        (upgDeployIx payer programdata program buffer authority
          maxDataLen).data
        (upgDeployIx payer programdata program buffer authority
          maxDataLen).accounts =
      some (.upgDeploy payer programdata program buffer authority
        maxDataLen) := by
  have small : upgDeploy < 256 ^ 4 := by decide
  have fitsBytes : maxDataLen < 256 ^ 8 := fits
  have reads := readLe_leBytes_append fitsBytes []
  rw [List.append_nil] at reads
  refine (decodeCall_upgradeable small _ _).trans ?_
  simp only [upgDeployIx, upgDeploy, List.map_cons, List.map_nil,
    decodeUpgradeable, reads, Option.map_some]

theorem decodeCall_instruction {call : LoaderCall} (fits : call.Fits) :
    decodeCall call.loader call.instruction.data
      call.instruction.accounts = some call := by
  cases call with
  | bpfLoaderWrite programAccount offset chunk =>
      obtain ⟨nonneg, below, short⟩ := fits
      lift offset to ℕ using nonneg
      exact decodeCall_writeIx programAccount (by exact_mod_cast below) short
  | bpfLoaderFinalize programAccount => rfl
  | upgInitBuffer buffer authority => rfl
  | upgWrite buffer authority offset chunk =>
      obtain ⟨nonneg, below, short⟩ := fits
      lift offset to ℕ using nonneg
      exact decodeCall_upgWriteIx buffer authority
        (by exact_mod_cast below) short
  | upgDeploy payer programdata program buffer authority maxDataLen =>
      obtain ⟨nonneg, below⟩ := fits
      lift maxDataLen to ℕ using nonneg
      exact decodeCall_upgDeployIx payer programdata program buffer
        authority (by exact_mod_cast below)
  | upgUpgrade programdata program buffer spill authority => rfl
  | upgSetAuthority account currentAuthority newAuthority =>
      cases newAuthority with
      | none => rfl
      | some key => rfl
  | upgClose account recipient authority => rfl

/-- A call is what its instruction decodes to, no other call of the loader
has this data and these accounts, and numbers that do not fit are refused. -/
structure Decodable (call : LoaderCall) : Prop where
  roundTrip :
    ∀ instruction, call.build = .ok instruction →
      instruction.programId = call.loader.programId ∧
        decodeCall call.loader instruction.data instruction.accounts =
          some call
  distinct :
    ∀ other instruction otherInstruction,
      other.loader = call.loader → call.build = .ok instruction →
        other.build = .ok otherInstruction →
          instruction.data = otherInstruction.data →
            instruction.accounts = otherInstruction.accounts →
              other = call
  accepted : (∃ instruction, call.build = .ok instruction) ↔ call.Fits
  refused :
    ¬ call.Fits → ∃ text, call.build = .error (.structError text)

theorem LoaderCall.build_eq_ok_iff {call : LoaderCall}
    {instruction : Instruction} :
    call.build = .ok instruction ↔
      call.Fits ∧ instruction = call.instruction := by
  by_cases fits : call.Fits
  · rw [build_of_fits fits, Except.ok.injEq]
    exact ⟨fun same => ⟨fits, same.symm⟩, fun same => same.2.symm⟩
  · rw [build_of_not_fits fits]
    simp [fits]

theorem every_call_decodable (call : LoaderCall) : Decodable call := by
  constructor
  · intro instruction builds
    obtain ⟨fits, rfl⟩ := LoaderCall.build_eq_ok_iff.mp builds
    exact ⟨call.programId_instruction, decodeCall_instruction fits⟩
  · intro other instruction otherInstruction sameLoader builds otherBuilds
      sameData sameAccounts
    obtain ⟨fits, rfl⟩ := LoaderCall.build_eq_ok_iff.mp builds
    obtain ⟨otherFits, rfl⟩ := LoaderCall.build_eq_ok_iff.mp otherBuilds
    have decodes := decodeCall_instruction fits
    have otherDecodes := decodeCall_instruction otherFits
    rw [sameLoader, ← sameData, ← sameAccounts, decodes] at otherDecodes
    exact (Option.some.inj otherDecodes).symm
  · constructor
    · intro accepted
      obtain ⟨instruction, builds⟩ := accepted
      exact (LoaderCall.build_eq_ok_iff.mp builds).1
    · intro fits
      exact ⟨_, LoaderCall.build_of_fits fits⟩
  · intro tooLarge
    exact ⟨_, LoaderCall.build_of_not_fits tooLarge⟩

end KarstflowTests.Programs

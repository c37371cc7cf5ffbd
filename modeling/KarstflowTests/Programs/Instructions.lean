import KarstflowTests.Library.LittleEndian
import KarstflowTests.Library.Splice
import KarstflowTests.Python.Exception

/-!
# Loader instructions

The builders produce the bytes of BPF Loader v2 instructions.  `LoaderCommand`
is what the loader reads back from the bytes, and `Account.execute` what it
does to the program account.
-/

namespace KarstflowTests.Programs

open KarstflowTests.Library

/-! ## Keys and instructions -/

structure Pubkey where
  bytes : Bytes
  length_eq : bytes.length = 32
  deriving DecidableEq

namespace Pubkey

theorem length_zeros : (List.replicate 32 (0 : UInt8)).length = 32 :=
  List.length_replicate

def base58Digits : List Char :=
  "123456789ABCDEFGHJKLMNPQRSTUVWXYZabcdefghijkmnopqrstuvwxyz".toList

/-- The key with the given base58 text. -/
def fromString (text : String) : Pubkey where
  bytes :=
    (leBytes 32 (text.toList.foldl
      (fun value digit => value * 58 + base58Digits.idxOf digit) 0)).reverse
  length_eq := by rw [List.length_reverse, length_leBytes]

end Pubkey

structure AccountMeta where
  pubkey : Pubkey
  isSigner : Bool
  isWritable : Bool
  deriving DecidableEq

structure Instruction where
  programId : Pubkey
  data : Bytes
  accounts : List AccountMeta
  deriving DecidableEq

def bpfLoader : Pubkey :=
  .fromString "BPFLoader2111111111111111111111111111111111"

def rentSysvar : Pubkey :=
  .fromString "SysvarRent111111111111111111111111111111111"

def sysvarRent : Pubkey :=
  .fromString "SysvarRent111111111111111111111111111111111"

/-- One unsigned field of `struct.pack` with the given width in bytes. -/
def structPack (width value : ℕ) : Except Exc Bytes :=
  if value < 256 ^ width then
    .ok (leBytes width value)
  else
    .error (.structError "argument out of range")

/-- disc(u32) + offset(u32) + vec_len(u64) + data -/
def buildBpfLoaderWriteIx
    (programAccount : Pubkey) (offset : ℕ) (chunk : Bytes) :
    Except Exc Instruction := do
  let discriminant ← structPack 4 0
  let packedOffset ← structPack 4 offset
  let packedLength ← structPack 8 chunk.length
  return {
    programId := bpfLoader
    data := discriminant ++ packedOffset ++ packedLength ++ chunk
    accounts := [⟨programAccount, true, true⟩] }

def buildBpfLoaderFinalizeIx (programAccount : Pubkey) : Instruction where
  programId := bpfLoader
  data := leBytes 4 1
  accounts := [⟨programAccount, true, true⟩, ⟨rentSysvar, false, false⟩]

/-! ## The loader -/

inductive LoaderCommand where
  | write (offset : ℕ) (bytes : Bytes)
  | finalize
  deriving DecidableEq

/-- Read a loader instruction: a u32 discriminant, and for a write a u32
offset, a u64 length and that many bytes. -/
def decodeLoaderCommand (data : Bytes) : Option LoaderCommand :=
  (readLe 4 data).bind fun (discriminant, data) =>
    match discriminant with
    | 0 =>
        (readLe 4 data).bind fun (offset, data) =>
          (readLe 8 data).bind fun (length, data) =>
            if length ≤ data.length then
              some (.write offset (data.take length))
            else
              none
    | 1 => some .finalize
    | _ => none

/-! ## What the builders return -/

/-- The write instruction with a given offset and chunk. -/
def writeIx (programAccount : Pubkey) (offset : ℕ) (chunk : Bytes) :
    Instruction where
  programId := bpfLoader
  data :=
    leBytes 4 0 ++ leBytes 4 offset ++ leBytes 8 chunk.length ++ chunk
  accounts := [⟨programAccount, true, true⟩]

theorem structPack_of_lt {width value : ℕ} (fits : value < 256 ^ width) :
    structPack width value = .ok (leBytes width value) := by
  rw [structPack, if_pos fits]

theorem structPack_of_not_lt
    {width value : ℕ} (tooLarge : ¬ value < 256 ^ width) :
    structPack width value =
      .error (.structError "argument out of range") := by
  rw [structPack, if_neg tooLarge]

theorem structPack_bind_of_lt {α : Type} {width value : ℕ}
    (fits : value < 256 ^ width) (next : Bytes → Except Exc α) :
    (structPack width value >>= next) = next (leBytes width value) := by
  rw [structPack_of_lt fits]
  rfl

theorem structPack_bind_of_not_lt {α : Type} {width value : ℕ}
    (tooLarge : ¬ value < 256 ^ width) (next : Bytes → Except Exc α) :
    (structPack width value >>= next) =
      .error (.structError "argument out of range") := by
  rw [structPack_of_not_lt tooLarge]
  rfl

/-- What both Write builders do with their numbers. -/
theorem packWrite {discriminant offset : ℕ} {chunk : Bytes}
    (small : discriminant < 256 ^ 4)
    (next : Bytes → Bytes → Bytes → Except Exc Instruction) :
    (do
      let discriminant ← structPack 4 discriminant
      let packedOffset ← structPack 4 offset
      let packedLength ← structPack 8 chunk.length
      next discriminant packedOffset packedLength) =
      if offset < 2 ^ 32 ∧ chunk.length < 2 ^ 64 then
        next (leBytes 4 discriminant) (leBytes 4 offset)
          (leBytes 8 chunk.length)
      else
        .error (.structError "argument out of range") := by
  rw [structPack_bind_of_lt small]
  by_cases offsetFits : offset < 256 ^ 4
  · rw [structPack_bind_of_lt offsetFits]
    by_cases lengthFits : chunk.length < 256 ^ 8
    · rw [structPack_bind_of_lt lengthFits,
        if_pos ⟨offsetFits, lengthFits⟩]
    · rw [structPack_bind_of_not_lt lengthFits]
      exact (if_neg fun fits => lengthFits fits.2).symm
  · rw [structPack_bind_of_not_lt offsetFits]
    exact (if_neg fun fits => offsetFits fits.1).symm

theorem buildBpfLoaderWriteIx_eq
    (programAccount : Pubkey) (offset : ℕ) (chunk : Bytes) :
    buildBpfLoaderWriteIx programAccount offset chunk =
      if offset < 2 ^ 32 ∧ chunk.length < 2 ^ 64 then
        .ok (writeIx programAccount offset chunk)
      else
        .error (.structError "argument out of range") :=
  packWrite (by decide) _

theorem buildBpfLoaderWriteIx_ok_iff
    {programAccount : Pubkey} {offset : ℕ} {chunk : Bytes}
    {instruction : Instruction} (short : chunk.length < 2 ^ 64) :
    buildBpfLoaderWriteIx programAccount offset chunk = .ok instruction ↔
      offset < 2 ^ 32 ∧
        instruction = writeIx programAccount offset chunk := by
  rw [buildBpfLoaderWriteIx_eq]
  by_cases fits : offset < 2 ^ 32
  · rw [if_pos ⟨fits, short⟩, Except.ok.injEq]
    simp only [fits, true_and]
    exact eq_comm
  · rw [if_neg fun both => fits both.1]
    simp only [reduceCtorEq, fits, false_and]

theorem decode_writeIx
    {programAccount : Pubkey} {offset : ℕ} {chunk : Bytes}
    (fits : offset < 2 ^ 32) (short : chunk.length < 2 ^ 64) :
    decodeLoaderCommand (writeIx programAccount offset chunk).data =
      some (.write offset chunk) := by
  have discriminantFits : 0 < 256 ^ 4 := by decide
  have offsetFits : offset < 256 ^ 4 := fits
  have lengthFits : chunk.length < 256 ^ 8 := short
  simp only [decodeLoaderCommand, writeIx, List.append_assoc,
    readLe_leBytes_append discriminantFits,
    readLe_leBytes_append offsetFits, readLe_leBytes_append lengthFits,
    Option.bind_some, le_refl, if_true, List.take_length]

theorem decode_finalizeIx (programAccount : Pubkey) :
    decodeLoaderCommand (buildBpfLoaderFinalizeIx programAccount).data =
      some .finalize := by
  rfl

/-! ## The program account -/

structure Account where
  owner : Pubkey
  lamports : ℕ
  data : Bytes
  executable : Bool
  deriving DecidableEq

structure CreateAccountParams where
  fromPubkey : Pubkey
  toPubkey : Pubkey
  lamports : ℕ
  space : ℕ
  owner : Pubkey
  deriving DecidableEq

/-- The instructions a deployment sends: the system program's account
creation, and invocations of the loader. -/
inductive ProgramInstruction where
  | createAccount (params : CreateAccountParams)
  | invoke (instruction : Instruction)
  deriving DecidableEq

/-- What a successful instruction does to the program account. -/
def ProgramInstruction.execute
    (instruction : ProgramInstruction) (account : Option Account) :
    Option Account :=
  match instruction with
  | .createAccount params =>
      some
        { owner := params.owner
          lamports := params.lamports
          data := List.replicate params.space 0
          executable := false }
  | .invoke instruction =>
      match decodeLoaderCommand instruction.data with
      | some (.write offset bytes) =>
          account.map fun account =>
            { account with data := splice account.data offset bytes }
      | some .finalize =>
          account.map fun account => { account with executable := true }
      | none => account

end KarstflowTests.Programs

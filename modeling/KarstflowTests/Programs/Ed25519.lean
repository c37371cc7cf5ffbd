import KarstflowTests.Library.Tiling
import KarstflowTests.Programs.Instructions

/-!
# Instructions for the Ed25519 precompile

The data of an instruction is a header of counts and offsets, and then the
signatures, keys and messages that the offsets point to.  The builders add the
offsets up while they append; `parseEd25519` reads the header back by its
documented layout, and `WellLaidOut` says that the ranges it finds hold what
was signed and are the rest of the data.
-/

namespace KarstflowTests.Programs

open KarstflowTests.Library

/-! ## The builders -/

structure Signature where
  bytes : Bytes
  length_eq : bytes.length = 64
  deriving DecidableEq

/-- What the builders use of a keypair. -/
structure Signer (Keypair : Type) where
  signMessage : Keypair → Bytes → Signature
  pubkey : Keypair → Pubkey

def ed25519Program : Pubkey :=
  .fromString "Ed25519SigVerify111111111111111111111111111"

/-- Instruction index 0xFFFF means "this instruction". -/
def thisInstr : ℕ := 0xFFFF

/-- The seven `u16` of one signature. -/
structure SignatureOffsets where
  signatureOffset : ℕ
  signatureInstructionIndex : ℕ := thisInstr
  publicKeyOffset : ℕ
  publicKeyInstructionIndex : ℕ := thisInstr
  messageDataOffset : ℕ
  messageDataSize : ℕ
  messageInstructionIndex : ℕ := thisInstr
  deriving DecidableEq

/-- `struct.pack("<HH HH HHH", …)` -/
def SignatureOffsets.pack (offsets : SignatureOffsets) :
    Except Exc Bytes := do
  let signatureOffset ← structPack 2 offsets.signatureOffset
  let signatureIndex ← structPack 2 offsets.signatureInstructionIndex
  let publicKeyOffset ← structPack 2 offsets.publicKeyOffset
  let publicKeyIndex ← structPack 2 offsets.publicKeyInstructionIndex
  let messageOffset ← structPack 2 offsets.messageDataOffset
  let messageSize ← structPack 2 offsets.messageDataSize
  let messageIndex ← structPack 2 offsets.messageInstructionIndex
  return signatureOffset ++ signatureIndex ++ publicKeyOffset ++
    publicKeyIndex ++ messageOffset ++ messageSize ++ messageIndex

section Builders

variable {Keypair : Type} (signer : Signer Keypair)

/-- The signature, the key and the message of one pair. -/
def signedBlock (pair : Keypair × Bytes) : Bytes :=
  (signer.signMessage pair.1 pair.2).bytes ++ (signer.pubkey pair.1).bytes ++
    pair.2

/-- The offsets of a block that starts at the given position. -/
def blockOffsets (start messageSize : ℕ) : SignatureOffsets where
  signatureOffset := start
  publicKeyOffset := start + 64
  messageDataOffset := start + 64 + 32
  messageDataSize := messageSize

def buildEd25519VerifyInstruction (keypair : Keypair) (message : Bytes) :
    Except Exc Instruction := do
  let headerSize := 2 + 14
  let numSignatures ← structPack 1 1
  let padding ← structPack 1 0
  let offsets ← (blockOffsets headerSize message.length).pack
  return {
    programId := ed25519Program
    data :=
      numSignatures ++ padding ++ offsets ++
        signedBlock signer (keypair, message)
    accounts := [] }

/-- `offsets_data` and `raw_data` -/
structure SignatureData where
  offsetsData : Bytes := []
  rawData : Bytes := []

/-- One turn of the loop. -/
def addSignature (currentOffset : ℕ) (data : SignatureData)
    (pair : Keypair × Bytes) : Except Exc SignatureData := do
  let sigOffset := currentOffset + data.rawData.length
  let offsets ← (blockOffsets sigOffset pair.2.length).pack
  return {
    offsetsData := data.offsetsData ++ offsets
    rawData := data.rawData ++ signedBlock signer pair }

def buildEd25519MultiSigInstruction
    (keypairsAndMessages : List (Keypair × Bytes)) :
    Except Exc Instruction := do
  let numSigs := keypairsAndMessages.length
  let perSigHeader := 14
  let headerSize := 2 + numSigs * perSigHeader
  let data ← keypairsAndMessages.foldlM (addSignature signer headerSize) {}
  let numSignatures ← structPack 1 numSigs
  let padding ← structPack 1 0
  return {
    programId := ed25519Program
    data := numSignatures ++ padding ++ data.offsetsData ++ data.rawData
    accounts := [] }

end Builders

/-! ## The layout -/

def readOffsets (data : Bytes) : Option (SignatureOffsets × Bytes) := do
  let (signatureOffset, data) ← readLe 2 data
  let (signatureInstructionIndex, data) ← readLe 2 data
  let (publicKeyOffset, data) ← readLe 2 data
  let (publicKeyInstructionIndex, data) ← readLe 2 data
  let (messageDataOffset, data) ← readLe 2 data
  let (messageDataSize, data) ← readLe 2 data
  let (messageInstructionIndex, data) ← readLe 2 data
  return (
    { signatureOffset, signatureInstructionIndex, publicKeyOffset,
      publicKeyInstructionIndex, messageDataOffset, messageDataSize,
      messageInstructionIndex },
    data)

def readEntries : ℕ → Bytes → Option (List SignatureOffsets)
  | 0, _ => some []
  | count + 1, data => do
      let (offsets, data) ← readOffsets data
      let rest ← readEntries count data
      return offsets :: rest

/-- A count, one byte of padding, and so many entries. -/
def parseEd25519 (data : Bytes) : Option (List SignatureOffsets) := do
  let (numSignatures, data) ← readLe 1 data
  let (_, data) ← readLe 1 data
  readEntries numSignatures data

namespace SignatureOffsets

def signatureSpan (offsets : SignatureOffsets) : Span :=
  ⟨offsets.signatureOffset, 64⟩

def publicKeySpan (offsets : SignatureOffsets) : Span :=
  ⟨offsets.publicKeyOffset, 32⟩

def messageSpan (offsets : SignatureOffsets) : Span :=
  ⟨offsets.messageDataOffset, offsets.messageDataSize⟩

def spans (offsets : SignatureOffsets) : List Span :=
  [offsets.signatureSpan, offsets.publicKeySpan, offsets.messageSpan]

/-- The signature, the key and the message, all in this instruction. -/
def resolve (offsets : SignatureOffsets) (data : Bytes) :
    Option (Bytes × Bytes × Bytes) :=
  if offsets.signatureInstructionIndex = thisInstr ∧
      offsets.publicKeyInstructionIndex = thisInstr ∧
      offsets.messageInstructionIndex = thisInstr then do
    let signature ← offsets.signatureSpan.slice data
    let publicKey ← offsets.publicKeySpan.slice data
    let message ← offsets.messageSpan.slice data
    return (signature, publicKey, message)
  else
    none

/-- All numbers fit into a `u16`. -/
structure Fits (offsets : SignatureOffsets) : Prop where
  signature : offsets.signatureOffset ≤ 65535
  publicKey : offsets.publicKeyOffset ≤ 65535
  message : offsets.messageDataOffset ≤ 65535
  size : offsets.messageDataSize ≤ 65535

def encode (offsets : SignatureOffsets) : Bytes :=
  leBytes 2 offsets.signatureOffset ++
    leBytes 2 offsets.signatureInstructionIndex ++
    leBytes 2 offsets.publicKeyOffset ++
    leBytes 2 offsets.publicKeyInstructionIndex ++
    leBytes 2 offsets.messageDataOffset ++
    leBytes 2 offsets.messageDataSize ++
    leBytes 2 offsets.messageInstructionIndex

theorem length_encode (offsets : SignatureOffsets) :
    offsets.encode.length = 14 := by
  simp [encode]

end SignatureOffsets

/-! ## Packing the offsets of a block -/

section Block

variable {start size : ℕ}

theorem fits_blockOffsets_iff :
    (blockOffsets start size).Fits ↔
      start + 64 + 32 ≤ 65535 ∧ size ≤ 65535 := by
  constructor
  · intro fits
    exact ⟨fits.message, fits.size⟩
  · intro bounds
    refine ⟨?_, ?_, bounds.1, bounds.2⟩
    · change start ≤ 65535
      omega
    · change start + 64 ≤ 65535
      omega

theorem pack_of_fits (fits : (blockOffsets start size).Fits) :
    (blockOffsets start size).pack = .ok (blockOffsets start size).encode := by
  have signature : start < 256 ^ 2 := Nat.lt_succ_of_le fits.signature
  have publicKey : start + 64 < 256 ^ 2 := Nat.lt_succ_of_le fits.publicKey
  have message : start + 64 + 32 < 256 ^ 2 := Nat.lt_succ_of_le fits.message
  have length : size < 256 ^ 2 := Nat.lt_succ_of_le fits.size
  have index : thisInstr < 256 ^ 2 := by decide
  simp only [SignatureOffsets.pack, blockOffsets,
    structPack_bind_of_lt signature, structPack_bind_of_lt publicKey,
    structPack_bind_of_lt message, structPack_bind_of_lt length,
    structPack_bind_of_lt index]
  rfl

theorem pack_of_not_fits (large : ¬ (blockOffsets start size).Fits) :
    (blockOffsets start size).pack =
      .error (.structError "argument out of range") := by
  have index : thisInstr < 256 ^ 2 := by decide
  rw [fits_blockOffsets_iff] at large
  simp only [SignatureOffsets.pack, blockOffsets]
  by_cases signature : start < 256 ^ 2
  · rw [structPack_bind_of_lt signature, structPack_bind_of_lt index]
    by_cases publicKey : start + 64 < 256 ^ 2
    · rw [structPack_bind_of_lt publicKey, structPack_bind_of_lt index]
      by_cases message : start + 64 + 32 < 256 ^ 2
      · have length : ¬ size < 256 ^ 2 := by omega
        rw [structPack_bind_of_lt message, structPack_bind_of_not_lt length]
      · rw [structPack_bind_of_not_lt message]
    · rw [structPack_bind_of_not_lt publicKey]
  · rw [structPack_bind_of_not_lt signature]

theorem readOffsets_encode
    (fits : (blockOffsets start size).Fits) (rest : Bytes) :
    readOffsets ((blockOffsets start size).encode ++ rest) =
      some (blockOffsets start size, rest) := by
  have signature : start < 256 ^ 2 := Nat.lt_succ_of_le fits.signature
  have publicKey : start + 64 < 256 ^ 2 := Nat.lt_succ_of_le fits.publicKey
  have message : start + 64 + 32 < 256 ^ 2 := Nat.lt_succ_of_le fits.message
  have length : size < 256 ^ 2 := Nat.lt_succ_of_le fits.size
  have index : thisInstr < 256 ^ 2 := by decide
  simp only [readOffsets, SignatureOffsets.encode, blockOffsets,
    List.append_assoc, readLe_leBytes_append signature,
    readLe_leBytes_append publicKey, readLe_leBytes_append message,
    readLe_leBytes_append length, readLe_leBytes_append index,
    Option.bind_eq_bind, Option.bind_some]
  rfl

end Block

/-! ## The header of a list of pairs -/

section Pairs

variable {Keypair : Type} {signer : Signer Keypair}

/-- The entries of blocks that follow each other from a position on. -/
def entriesFrom (start : ℕ) :
    List (Keypair × Bytes) → List SignatureOffsets
  | [] => []
  | pair :: rest =>
      blockOffsets start pair.2.length ::
        entriesFrom (start + (64 + 32 + pair.2.length)) rest

theorem length_signedBlock (pair : Keypair × Bytes) :
    (signedBlock signer pair).length = 64 + 32 + pair.2.length := by
  rw [signedBlock, List.length_append, List.length_append,
    Signature.length_eq, Pubkey.length_eq]

theorem length_entriesFrom
    (start : ℕ) (pairs : List (Keypair × Bytes)) :
    (entriesFrom start pairs).length = pairs.length := by
  induction pairs generalizing start with
  | nil => rfl
  | cons pair rest inductionHypothesis =>
      rw [entriesFrom, List.length_cons, List.length_cons,
        inductionHypothesis]

/-- The loop appends the entries and the blocks. -/
theorem foldlM_of_fits
    {pairs : List (Keypair × Bytes)} {currentOffset : ℕ}
    {data : SignatureData}
    (fits : ∀ offsets ∈
      entriesFrom (currentOffset + data.rawData.length) pairs, offsets.Fits) :
    pairs.foldlM (addSignature signer currentOffset) data =
      .ok
        { offsetsData :=
            data.offsetsData ++
              (entriesFrom (currentOffset + data.rawData.length)
                pairs).flatMap SignatureOffsets.encode
          rawData := data.rawData ++ pairs.flatMap (signedBlock signer) } := by
  induction pairs generalizing data with
  | nil =>
      rw [entriesFrom, List.flatMap_nil, List.flatMap_nil, List.append_nil,
        List.append_nil]
      rfl
  | cons pair rest inductionHypothesis =>
      obtain ⟨here, later⟩ := List.forall_mem_cons.mp fits
      have added :
          addSignature signer currentOffset data pair =
            .ok
              { offsetsData :=
                  data.offsetsData ++
                    (blockOffsets (currentOffset + data.rawData.length)
                      pair.2.length).encode
                rawData := data.rawData ++ signedBlock signer pair } := by
        rw [addSignature, pack_of_fits here]
        rfl
      have next :
          currentOffset + (data.rawData ++ signedBlock signer pair).length =
            currentOffset + data.rawData.length +
              (64 + 32 + pair.2.length) := by
        rw [List.length_append, length_signedBlock]
        exact (Nat.add_assoc _ _ _).symm
      rw [← next] at later
      rw [List.foldlM_cons, added]
      refine (inductionHypothesis later).trans ?_
      rw [next, entriesFrom, List.flatMap_cons, List.flatMap_cons,
        List.append_assoc, List.append_assoc]

theorem foldlM_of_not_fits
    {pairs : List (Keypair × Bytes)} {currentOffset : ℕ}
    {data : SignatureData}
    (large : ¬ ∀ offsets ∈
      entriesFrom (currentOffset + data.rawData.length) pairs, offsets.Fits) :
    pairs.foldlM (addSignature signer currentOffset) data =
      .error (.structError "argument out of range") := by
  induction pairs generalizing data with
  | nil => exact absurd (List.forall_mem_nil _) large
  | cons pair rest inductionHypothesis =>
      rw [List.foldlM_cons, addSignature]
      by_cases here :
          (blockOffsets (currentOffset + data.rawData.length)
            pair.2.length).Fits
      · rw [pack_of_fits here]
        apply inductionHypothesis
        intro later
        apply large
        refine List.forall_mem_cons.mpr ⟨here, ?_⟩
        rw [List.length_append, length_signedBlock, ← Nat.add_assoc] at later
        exact later
      · rw [pack_of_not_fits here]
        rfl

theorem readEntries_encode
    {pairs : List (Keypair × Bytes)} {start : ℕ}
    (fits : ∀ offsets ∈ entriesFrom start pairs, offsets.Fits)
    (rest : Bytes) :
    readEntries pairs.length
        ((entriesFrom start pairs).flatMap SignatureOffsets.encode ++ rest) =
      some (entriesFrom start pairs) := by
  induction pairs generalizing start with
  | nil => rfl
  | cons pair others inductionHypothesis =>
      obtain ⟨here, later⟩ := List.forall_mem_cons.mp fits
      rw [List.length_cons, readEntries, entriesFrom, List.flatMap_cons,
        List.append_assoc, readOffsets_encode here]
      simp only [Option.bind_eq_bind, Option.bind_some,
        inductionHypothesis later]
      rfl

/-! ## The ranges of a list of pairs -/

/-- What an entry is to resolve to. -/
def signedParts (signer : Signer Keypair) (pair : Keypair × Bytes) :
    Bytes × Bytes × Bytes :=
  ((signer.signMessage pair.1 pair.2).bytes, (signer.pubkey pair.1).bytes,
    pair.2)

theorem resolve_blockOffsets
    {start : ℕ} {front : Bytes} (before : front.length = start)
    (pair : Keypair × Bytes) (back : Bytes) :
    (blockOffsets start pair.2.length).resolve
        (front ++ (signedBlock signer pair ++ back)) =
      some (signedParts signer pair) := by
  have signature :
      Span.slice ⟨start, 64⟩ (front ++ (signedBlock signer pair ++ back)) =
        some (signer.signMessage pair.1 pair.2).bytes := by
    rw [signedBlock, List.append_assoc, List.append_assoc]
    exact Span.slice_append before (Signature.length_eq _)
  have publicKey :
      Span.slice ⟨start + 64, 32⟩
          (front ++ (signedBlock signer pair ++ back)) =
        some (signer.pubkey pair.1).bytes := by
    rw [signedBlock, List.append_assoc, List.append_assoc,
      ← List.append_assoc front]
    refine Span.slice_append ?_ (Pubkey.length_eq _)
    rw [List.length_append, before, Signature.length_eq]
  have message :
      Span.slice ⟨start + 64 + 32, pair.2.length⟩
          (front ++ (signedBlock signer pair ++ back)) =
        some pair.2 := by
    rw [signedBlock, List.append_assoc, ← List.append_assoc front]
    refine Span.slice_append ?_ rfl
    rw [List.length_append, List.length_append, before, Signature.length_eq,
      Pubkey.length_eq, Nat.add_assoc]
  rw [SignatureOffsets.resolve, if_pos ⟨rfl, rfl, rfl⟩]
  simp only [blockOffsets, SignatureOffsets.signatureSpan,
    SignatureOffsets.publicKeySpan, SignatureOffsets.messageSpan, signature,
    publicKey, message]
  rfl

theorem map_resolve_entriesFrom
    {start : ℕ} {front : Bytes} (before : front.length = start)
    (pairs : List (Keypair × Bytes)) :
    (entriesFrom start pairs).map
        (fun offsets =>
          offsets.resolve (front ++ pairs.flatMap (signedBlock signer))) =
      pairs.map fun pair => some (signedParts signer pair) := by
  induction pairs generalizing start front with
  | nil => rfl
  | cons pair rest inductionHypothesis =>
      have next :
          (front ++ signedBlock signer pair).length =
            start + (64 + 32 + pair.2.length) := by
        rw [List.length_append, before, length_signedBlock]
      have later := inductionHypothesis next
      rw [List.append_assoc] at later
      rw [entriesFrom, List.map_cons, List.map_cons, List.flatMap_cons,
        resolve_blockOffsets before, later]

theorem tiles_spans_entriesFrom
    (start : ℕ) (pairs : List (Keypair × Bytes)) :
    Tiles start ((entriesFrom start pairs).flatMap SignatureOffsets.spans)
      (start + (pairs.flatMap (signedBlock signer)).length) := by
  induction pairs generalizing start with
  | nil => rfl
  | cons pair rest inductionHypothesis =>
      have block :
          Tiles start (blockOffsets start pair.2.length).spans
            (start + (64 + 32 + pair.2.length)) :=
        ⟨rfl, rfl, rfl, Nat.add_assoc start (64 + 32) pair.2.length⟩
      have total :
          start + (64 + 32 + pair.2.length) +
              (rest.flatMap (signedBlock signer)).length =
            start + ((pair :: rest).flatMap (signedBlock signer)).length := by
        rw [List.flatMap_cons, List.length_append, length_signedBlock]
        exact Nat.add_assoc _ _ _
      have later := inductionHypothesis (start + (64 + 32 + pair.2.length))
      rw [total] at later
      rw [entriesFrom, List.flatMap_cons]
      exact block.append later

/-! ## What the builder returns -/

/-- No more signatures than a `u8` counts, and all numbers fit. -/
structure MultiSigFits (pairs : List (Keypair × Bytes)) : Prop where
  count : pairs.length ≤ 255
  offsets : ∀ offsets ∈ entriesFrom (2 + pairs.length * 14) pairs, offsets.Fits

/-- The bytes of the header. -/
def multiSigHeader (pairs : List (Keypair × Bytes)) : Bytes :=
  leBytes 1 pairs.length ++ leBytes 1 0 ++
    (entriesFrom (2 + pairs.length * 14) pairs).flatMap
      SignatureOffsets.encode

def multiSigIx (signer : Signer Keypair) (pairs : List (Keypair × Bytes)) :
    Instruction where
  programId := ed25519Program
  data := multiSigHeader pairs ++ pairs.flatMap (signedBlock signer)
  accounts := []

theorem length_multiSigHeader (pairs : List (Keypair × Bytes)) :
    (multiSigHeader pairs).length = 2 + pairs.length * 14 := by
  have entries :
      ((entriesFrom (2 + pairs.length * 14) pairs).flatMap
        SignatureOffsets.encode).length = pairs.length * 14 := by
    rw [List.length_flatMap]
    simp only [SignatureOffsets.length_encode, List.map_const',
      List.sum_replicate_nat, length_entriesFrom]
  rw [multiSigHeader, List.length_append, List.length_append, entries,
    length_leBytes, length_leBytes]

theorem multiSig_of_fits
    {pairs : List (Keypair × Bytes)} (fits : MultiSigFits pairs) :
    buildEd25519MultiSigInstruction signer pairs =
      .ok (multiSigIx signer pairs) := by
  have count : pairs.length < 256 ^ 1 := Nat.lt_succ_of_le fits.count
  have zero : 0 < 256 ^ 1 := by decide
  have looped :
      pairs.foldlM (addSignature signer (2 + pairs.length * 14)) {} =
        .ok
          { offsetsData :=
              (entriesFrom (2 + pairs.length * 14) pairs).flatMap
                SignatureOffsets.encode
            rawData := pairs.flatMap (signedBlock signer) } :=
    foldlM_of_fits fits.offsets
  simp only [buildEd25519MultiSigInstruction, looped]
  change (structPack 1 pairs.length >>= _) = _
  rw [structPack_bind_of_lt count, structPack_bind_of_lt zero]
  rfl

theorem multiSig_of_not_fits
    {pairs : List (Keypair × Bytes)} (large : ¬ MultiSigFits pairs) :
    buildEd25519MultiSigInstruction signer pairs =
      .error (.structError "argument out of range") := by
  simp only [buildEd25519MultiSigInstruction]
  by_cases offsets :
      ∀ offsets ∈ entriesFrom (2 + pairs.length * 14) pairs, offsets.Fits
  · have looped :
        pairs.foldlM (addSignature signer (2 + pairs.length * 14)) {} =
          .ok _ :=
      foldlM_of_fits offsets
    have count : ¬ pairs.length < 256 ^ 1 :=
      fun small => large ⟨Nat.le_of_lt_succ small, offsets⟩
    rw [looped]
    change (structPack 1 pairs.length >>= _) = _
    exact structPack_bind_of_not_lt count _
  · have looped :
        pairs.foldlM (addSignature signer (2 + pairs.length * 14)) {} =
          .error _ :=
      foldlM_of_not_fits offsets
    rw [looped]
    rfl

/-- On one pair both builders do the same. -/
theorem multiSig_singleton (keypair : Keypair) (message : Bytes) :
    buildEd25519MultiSigInstruction signer [(keypair, message)] =
      buildEd25519VerifyInstruction signer keypair message := by
  have one : 1 < 256 ^ 1 := by decide
  have zero : 0 < 256 ^ 1 := by decide
  simp only [buildEd25519VerifyInstruction, structPack_bind_of_lt one,
    structPack_bind_of_lt zero]
  by_cases fits : (blockOffsets (2 + 14) message.length).Fits
  · have multiFits : MultiSigFits [(keypair, message)] :=
      ⟨Nat.le_of_ble_eq_true rfl, List.forall_mem_singleton.mpr fits⟩
    rw [multiSig_of_fits multiFits, pack_of_fits fits, multiSigIx,
      multiSigHeader, entriesFrom, entriesFrom, List.flatMap_singleton,
      List.flatMap_singleton]
    rfl
  · have multiLarge : ¬ MultiSigFits [(keypair, message)] :=
      fun multiFits =>
        fits (List.forall_mem_singleton.mp multiFits.offsets)
    rw [multiSig_of_not_fits multiLarge, pack_of_not_fits fits]
    rfl

/-! ## The layout of the instruction -/

/-- The header, and the ranges that it points to. -/
def layoutSpans (entries : List SignatureOffsets) : List Span :=
  ⟨0, 2 + entries.length * 14⟩ :: entries.flatMap SignatureOffsets.spans

/-- The header of the data lists the pairs in order, and the ranges that it
points to are the rest of the data. -/
structure WellLaidOut (signer : Signer Keypair)
    (pairs : List (Keypair × Bytes)) (data : Bytes)
    (entries : List SignatureOffsets) : Prop where
  parsed : parseEd25519 data = some entries
  count : entries.length = pairs.length
  resolved : ∀ (index : ℕ) (pair : Keypair × Bytes),
    pairs[index]? = some pair →
      ∃ entry : SignatureOffsets, entries[index]? = some entry ∧
        entry.resolve data = some (signedParts signer pair)
  inside : ∀ span ∈ layoutSpans entries,
    span.start + span.length ≤ data.length
  disjoint : (layoutSpans entries).Pairwise Span.Disjoint
  covered : ∀ position, position < data.length →
    ∃ span ∈ layoutSpans entries, span.Contains position

theorem wellLaidOut_multiSigIx
    {pairs : List (Keypair × Bytes)} (fits : MultiSigFits pairs) :
    WellLaidOut signer pairs (multiSigIx signer pairs).data
      (entriesFrom (2 + pairs.length * 14) pairs) := by
  have tiles :
      Tiles 0 (layoutSpans (entriesFrom (2 + pairs.length * 14) pairs))
        (multiSigIx signer pairs).data.length := by
    rw [multiSigIx, List.length_append, length_multiSigHeader, layoutSpans,
      length_entriesFrom]
    refine ⟨rfl, ?_⟩
    rw [Nat.zero_add]
    exact tiles_spans_entriesFrom _ pairs
  have resolves :
      (entriesFrom (2 + pairs.length * 14) pairs).map
          (fun offsets => offsets.resolve (multiSigIx signer pairs).data) =
        pairs.map fun pair => some (signedParts signer pair) :=
    map_resolve_entriesFrom (length_multiSigHeader pairs) pairs
  refine ⟨?_, length_entriesFrom _ pairs, ?_, ?_, tiles.pairwise_disjoint, ?_⟩
  · have count : pairs.length < 256 ^ 1 := Nat.lt_succ_of_le fits.count
    have zero : 0 < 256 ^ 1 := by decide
    rw [parseEd25519, multiSigIx, multiSigHeader, List.append_assoc,
      List.append_assoc, readLe_leBytes_append count]
    simp only [Option.bind_eq_bind, Option.bind_some,
      readLe_leBytes_append zero]
    exact readEntries_encode fits.offsets _
  · intro index pair found
    have atIndex := congrArg (fun results => results[index]?) resolves
    simp only [List.getElem?_map, found, Option.map_some,
      Option.map_eq_some_iff] at atIndex
    exact atIndex
  · intro span member
    exact (tiles.within span member).2
  · intro position below
    exact tiles.covers position (Nat.zero_le position) below

/-- Either the numbers do not fit and the builder raises, or its instruction
is well laid out; and on one pair it is the other builder. -/
structure MultiSigBuilt (signer : Signer Keypair)
    (pairs : List (Keypair × Bytes)) : Prop where
  raises : ¬ MultiSigFits pairs →
    ∃ text, buildEd25519MultiSigInstruction signer pairs =
      .error (.structError text)
  builds : MultiSigFits pairs →
    ∃ instruction entries,
      buildEd25519MultiSigInstruction signer pairs = .ok instruction ∧
        WellLaidOut signer pairs instruction.data entries
  single : ∀ keypair message, pairs = [(keypair, message)] →
    buildEd25519MultiSigInstruction signer pairs =
      buildEd25519VerifyInstruction signer keypair message

end Pairs

theorem multiSig_built
    {Keypair : Type} (signer : Signer Keypair)
    (pairs : List (Keypair × Bytes)) : MultiSigBuilt signer pairs := by
  constructor
  · intro large
    exact ⟨_, multiSig_of_not_fits large⟩
  · intro fits
    exact ⟨_, _, multiSig_of_fits fits, wellLaidOut_multiSigIx fits⟩
  · intro keypair message only
    subst only
    exact multiSig_singleton keypair message

end KarstflowTests.Programs

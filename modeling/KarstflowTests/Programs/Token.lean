import KarstflowTests.Programs.Instructions

/-!
# Token instructions

The six builders produce the bytes of SPL Token instructions.
`TokenInstruction` is what the token program reads in the bytes, and `readCall`
puts it together with the accounts of the instruction.
-/

namespace KarstflowTests.Programs

open KarstflowTests.Library

def tokenProgramId : Pubkey :=
  .fromString "TokenkegQfeZyiNwAJbNbGKPFXCWuBvf9Ss623VQ5DA"

def initializeMintTag : ℕ := 0
def initializeAccountTag : ℕ := 1
def transferTag : ℕ := 3
def mintToTag : ℕ := 7
def burnTag : ℕ := 8
def closeAccountTag : ℕ := 9

/-! ## The builders -/

def buildInitializeMintIx
    (mint : Pubkey) (decimals : ℕ) (mintAuthority : Pubkey)
    (freezeAuthority : Option Pubkey) : Except Exc Instruction := do
  let tag ← structPack 1 initializeMintTag
  let packedDecimals ← structPack 1 decimals
  let data := tag ++ packedDecimals ++ mintAuthority.bytes
  -- every key is truthy in Python, the all-zero one included
  let freezeField ← match freezeAuthority with
    | some key => do
        let present ← structPack 4 1
        pure (present ++ key.bytes)
    | none => structPack 4 0
  return {
    programId := tokenProgramId
    data := data ++ freezeField
    accounts := [⟨mint, false, true⟩, ⟨sysvarRent, false, false⟩] }

def buildInitializeAccountIx
    (account mint owner : Pubkey) : Except Exc Instruction := do
  let tag ← structPack 1 initializeAccountTag
  return {
    programId := tokenProgramId
    data := tag
    accounts :=
      [⟨account, false, true⟩, ⟨mint, false, false⟩, ⟨owner, false, false⟩,
        ⟨sysvarRent, false, false⟩] }

/-- The instructions with the data of `struct.pack("<BQ", tag, amount)`. -/
def buildAmountIx (tag amount : ℕ) (accounts : List AccountMeta) :
    Except Exc Instruction := do
  let packedTag ← structPack 1 tag
  let packedAmount ← structPack 8 amount
  return {
    programId := tokenProgramId
    data := packedTag ++ packedAmount
    accounts := accounts }

def buildMintToIx
    (mint destination authority : Pubkey) (amount : ℕ) :
    Except Exc Instruction :=
  buildAmountIx mintToTag amount
    [⟨mint, false, true⟩, ⟨destination, false, true⟩, ⟨authority, true, false⟩]

def buildTokenTransferIx
    (source destination owner : Pubkey) (amount : ℕ) :
    Except Exc Instruction :=
  buildAmountIx transferTag amount
    [⟨source, false, true⟩, ⟨destination, false, true⟩, ⟨owner, true, false⟩]

def buildBurnIx
    (account mint owner : Pubkey) (amount : ℕ) :
    Except Exc Instruction :=
  buildAmountIx burnTag amount
    [⟨account, false, true⟩, ⟨mint, false, true⟩, ⟨owner, true, false⟩]

def buildCloseAccountIx
    (account destination owner : Pubkey) : Except Exc Instruction := do
  let tag ← structPack 1 closeAccountTag
  return {
    programId := tokenProgramId
    data := tag
    accounts :=
      [⟨account, false, true⟩, ⟨destination, false, true⟩,
        ⟨owner, true, false⟩] }

/-- A call of one of the six builders with its arguments. -/
inductive TokenCall where
  | initializeMint
      (mint : Pubkey) (decimals : ℕ) (mintAuthority : Pubkey)
      (freezeAuthority : Option Pubkey)
  | initializeAccount (account mint owner : Pubkey)
  | mintTo (mint destination authority : Pubkey) (amount : ℕ)
  | transfer (source destination owner : Pubkey) (amount : ℕ)
  | burn (account mint owner : Pubkey) (amount : ℕ)
  | closeAccount (account destination owner : Pubkey)
  deriving DecidableEq

namespace TokenCall

def build : TokenCall → Except Exc Instruction
  | initializeMint mint decimals mintAuthority freezeAuthority =>
      buildInitializeMintIx mint decimals mintAuthority freezeAuthority
  | initializeAccount account mint owner =>
      buildInitializeAccountIx account mint owner
  | mintTo mint destination authority amount =>
      buildMintToIx mint destination authority amount
  | transfer source destination owner amount =>
      buildTokenTransferIx source destination owner amount
  | burn account mint owner amount => buildBurnIx account mint owner amount
  | closeAccount account destination owner =>
      buildCloseAccountIx account destination owner

/-- The numbers of the call fit their fields. -/
def InRange : TokenCall → Prop
  | initializeMint _ decimals _ _ => decimals < 256
  | mintTo _ _ _ amount => amount < 2 ^ 64
  | transfer _ _ _ amount => amount < 2 ^ 64
  | burn _ _ _ amount => amount < 2 ^ 64
  | initializeAccount _ _ _ => True
  | closeAccount _ _ _ => True

def freezeAuthority : TokenCall → Option Pubkey
  | initializeMint _ _ _ freezeAuthority => freezeAuthority
  | _ => none

end TokenCall

/-! ## The token program -/

inductive TokenInstruction where
  | initializeMint
      (decimals : ℕ) (mintAuthority : Pubkey)
      (freezeAuthority : Option Pubkey)
  | initializeAccount
  | transfer (amount : ℕ)
  | mintTo (amount : ℕ)
  | burn (amount : ℕ)
  | closeAccount
  deriving DecidableEq

def readPubkey (data : Bytes) : Option (Pubkey × Bytes) :=
  if longEnough : 32 ≤ data.length then
    some
      (⟨data.take 32, List.length_take_of_le longEnough⟩, data.drop 32)
  else
    none

/-- An optional key: one byte 0, or one byte 1 and the key. -/
def readPubkeyOption : Bytes → Option (Option Pubkey)
  | 0 :: _ => some none
  | 1 :: data => (readPubkey data).map fun (key, _) => some key
  | _ => none

/-- What follows the tag of an instruction. -/
def decodeTokenFields (tag : ℕ) (data : Bytes) : Option TokenInstruction :=
  match tag with
  | 0 =>
      (readLe 1 data).bind fun (decimals, data) =>
        (readPubkey data).bind fun (mintAuthority, data) =>
          (readPubkeyOption data).map fun freezeAuthority =>
            .initializeMint decimals mintAuthority freezeAuthority
  | 1 => some .initializeAccount
  | 3 => (readLe 8 data).map fun (amount, _) => .transfer amount
  | 7 => (readLe 8 data).map fun (amount, _) => .mintTo amount
  | 8 => (readLe 8 data).map fun (amount, _) => .burn amount
  | 9 => some .closeAccount
  | _ => none

def decodeTokenInstruction (data : Bytes) : Option TokenInstruction :=
  (readLe 1 data).bind fun (tag, data) => decodeTokenFields tag data

/-- A command together with the keys of the accounts it names by position. -/
def placeAccounts (keys : List Pubkey) (command : TokenInstruction) :
    Option TokenCall :=
  match command, keys with
  | .initializeMint decimals mintAuthority freezeAuthority, mint :: _ =>
      some (.initializeMint mint decimals mintAuthority freezeAuthority)
  | .initializeAccount, account :: mint :: owner :: _ =>
      some (.initializeAccount account mint owner)
  | .mintTo amount, mint :: destination :: authority :: _ =>
      some (.mintTo mint destination authority amount)
  | .transfer amount, source :: destination :: owner :: _ =>
      some (.transfer source destination owner amount)
  | .burn amount, account :: mint :: owner :: _ =>
      some (.burn account mint owner amount)
  | .closeAccount, account :: destination :: owner :: _ =>
      some (.closeAccount account destination owner)
  | _, _ => none

/-- The call that an instruction stands for. -/
def readCall (instruction : Instruction) : Option TokenCall :=
  (decodeTokenInstruction instruction.data).bind
    (placeAccounts (instruction.accounts.map AccountMeta.pubkey))

theorem readPubkey_append (key : Pubkey) (rest : Bytes) :
    readPubkey (key.bytes ++ rest) = some (key, rest) := by
  have longEnough : 32 ≤ (key.bytes ++ rest).length := by
    rw [List.length_append, key.length_eq]
    exact Nat.le_add_right 32 rest.length
  have front : (key.bytes ++ rest).take 32 = key.bytes :=
    List.take_left' key.length_eq
  have back : (key.bytes ++ rest).drop 32 = rest :=
    List.drop_left' key.length_eq
  rw [readPubkey, dif_pos longEnough, back]
  congr

/-! ## The freeze authority field -/

def zeroKey : Pubkey where
  bytes := List.replicate 32 0
  length_eq := Pubkey.length_zeros

/-- The bytes that follow the mint authority: the option tag takes four bytes,
where the program reads one. -/
def freezeField : Option Pubkey → Bytes
  | some key => leBytes 4 1 ++ key.bytes
  | none => leBytes 4 0

/-- A list that starts with padding and goes on with itself is all padding. -/
theorem eq_replicate_of_shift
    {α : Type} {padding : α} {width size : ℕ} {items : List α}
    (positive : 0 < width) (sized : items.length = size)
    (shifted : (List.replicate width padding ++ items).take size = items) :
    items = List.replicate size padding := by
  have padded : ∀ index, index < size → items[index]? = some padding := by
    intro index
    induction index using Nat.strong_induction_on with
    | h index inductionHypothesis =>
        intro inside
        rw [← shifted, List.getElem?_take_of_lt inside]
        by_cases early : index < width
        · rw [List.getElem?_append_left (by rwa [List.length_replicate]),
            List.getElem?_replicate, if_pos early]
        · have late : width ≤ index := Nat.le_of_not_lt early
          rw [List.getElem?_append_right (by rwa [List.length_replicate]),
            List.length_replicate]
          exact inductionHypothesis (index - width) (by omega) (by omega)
  rw [List.eq_replicate_iff]
  refine ⟨sized, ?_⟩
  intro item member
  obtain ⟨index, found⟩ := List.mem_iff_getElem?.mp member
  have inside : index < size := by
    rw [← sized]
    exact (List.getElem?_eq_some_iff.mp found).1
  rw [padded index inside] at found
  exact (Option.some.inj found).symm

theorem readPubkeyOption_freezeField_iff (freezeAuthority : Option Pubkey) :
    readPubkeyOption (freezeField freezeAuthority) = some freezeAuthority ↔
      ∀ key, freezeAuthority = some key → key = zeroKey := by
  cases freezeAuthority with
  | none =>
      constructor
      · intro _ key absent
        cases absent
      · intro _
        rfl
  | some key =>
      -- the three high bytes of the tag are read as the first of the key
      have field : freezeField (some key) =
          1 :: (List.replicate 3 0 ++ key.bytes) := rfl
      have longEnough : 32 ≤ (List.replicate 3 0 ++ key.bytes).length := by
        rw [List.length_append, key.length_eq]
        omega
      rw [field, readPubkeyOption, readPubkey, dif_pos longEnough,
        Option.map_some, Option.some.injEq, Option.some.injEq]
      constructor
      · intro same other given
        have shifted := congrArg Pubkey.bytes same
        rw [← Option.some.inj given, Pubkey.mk.injEq]
        exact eq_replicate_of_shift (by decide) key.length_eq shifted
      · intro onlyZero
        have zero : key = zeroKey := onlyZero key rfl
        subst zero
        rfl

/-! ## What the builders produce -/

theorem decode_tagged {tag : ℕ} (small : tag < 256) (data : Bytes) :
    decodeTokenInstruction (leBytes 1 tag ++ data) =
      decodeTokenFields tag data := by
  have fits : tag < 256 ^ 1 := by rwa [pow_one]
  rw [decodeTokenInstruction, readLe_leBytes_append fits, Option.bind_some]

theorem buildInitializeMintIx_eq
    {mint mintAuthority : Pubkey} {decimals : ℕ}
    {freezeAuthority : Option Pubkey} (small : decimals < 256) :
    buildInitializeMintIx mint decimals mintAuthority freezeAuthority =
      .ok
        { programId := tokenProgramId
          data :=
            leBytes 1 initializeMintTag ++ leBytes 1 decimals ++
              mintAuthority.bytes ++ freezeField freezeAuthority
          accounts := [⟨mint, false, true⟩, ⟨sysvarRent, false, false⟩] } := by
  have fits : decimals < 256 ^ 1 := by rwa [pow_one]
  rw [buildInitializeMintIx, structPack_of_lt fits]
  cases freezeAuthority with
  | none => rfl
  | some key => rfl

theorem buildAmountIx_eq
    {tag amount : ℕ} (accounts : List AccountMeta)
    (small : tag < 256) (fits : amount < 2 ^ 64) :
    buildAmountIx tag amount accounts =
      .ok
        { programId := tokenProgramId
          data := leBytes 1 tag ++ leBytes 8 amount
          accounts := accounts } := by
  have tagFits : tag < 256 ^ 1 := by rwa [pow_one]
  have amountFits : amount < 256 ^ 8 := fits
  rw [buildAmountIx, structPack_of_lt tagFits, structPack_of_lt amountFits]
  rfl

theorem readLe_amount {amount : ℕ} (fits : amount < 2 ^ 64) :
    readLe 8 (leBytes 8 amount) = some (amount, []) := by
  have amountFits : amount < 256 ^ 8 := fits
  have read := readLe_leBytes_append amountFits []
  rwa [List.append_nil] at read

theorem decode_initializeMint
    {decimals : ℕ} (mintAuthority : Pubkey) (freezeAuthority : Option Pubkey)
    (small : decimals < 256) :
    decodeTokenInstruction
        (leBytes 1 initializeMintTag ++ leBytes 1 decimals ++
          mintAuthority.bytes ++ freezeField freezeAuthority) =
      (readPubkeyOption (freezeField freezeAuthority)).map fun read =>
        .initializeMint decimals mintAuthority read := by
  have fits : decimals < 256 ^ 1 := by rwa [pow_one]
  rw [List.append_assoc, List.append_assoc, decode_tagged (by decide)]
  simp only [initializeMintTag, decodeTokenFields, readLe_leBytes_append fits,
    readPubkey_append, Option.bind_some]

/-- The bytes and the accounts of a call give the call back, unless a freeze
authority is read from the wrong place. -/
theorem readCall_initializeMint_iff
    (mint mintAuthority : Pubkey) {decimals : ℕ}
    (freezeAuthority : Option Pubkey) (small : decimals < 256) :
    (∃ instruction,
        buildInitializeMintIx mint decimals mintAuthority freezeAuthority =
            .ok instruction ∧
          readCall instruction =
            some
              (.initializeMint mint decimals mintAuthority freezeAuthority)) ↔
      readPubkeyOption (freezeField freezeAuthority) =
        some freezeAuthority := by
  simp only [buildInitializeMintIx_eq small, Except.ok.injEq,
    exists_eq_left', readCall, decode_initializeMint _ _ small, List.map_cons]
  cases readPubkeyOption (freezeField freezeAuthority) with
  | none =>
      simp only [Option.map_none, Option.bind_none, reduceCtorEq]
  | some read =>
      simp only [Option.map_some, Option.bind_some, placeAccounts,
        Option.some.injEq, TokenCall.initializeMint.injEq, true_and]

theorem readCall_buildAmountIx
    {tag amount : ℕ} {accounts : List AccountMeta} {call : TokenCall}
    (small : tag < 256) (fits : amount < 2 ^ 64)
    (placed :
      (decodeTokenFields tag (leBytes 8 amount)).bind
          (placeAccounts (accounts.map AccountMeta.pubkey)) =
        some call) :
    ∃ instruction,
      buildAmountIx tag amount accounts = .ok instruction ∧
        readCall instruction = some call := by
  refine ⟨_, buildAmountIx_eq accounts small fits, ?_⟩
  rw [readCall, decode_tagged small]
  exact placed

theorem readCall_build_iff {call : TokenCall} (inRange : call.InRange) :
    (∃ instruction,
        call.build = .ok instruction ∧
          readCall instruction = some call) ↔
      ∀ key, call.freezeAuthority = some key → key = zeroKey := by
  have withoutFreeze :
      call.freezeAuthority = none →
        ∀ key, call.freezeAuthority = some key → key = zeroKey := by
    intro absent key given
    rw [absent] at given
    cases given
  cases call with
  | initializeMint mint decimals mintAuthority freezeAuthority =>
      have small : decimals < 256 := inRange
      have field := readPubkeyOption_freezeField_iff freezeAuthority
      apply Iff.trans _ field
      exact readCall_initializeMint_iff mint mintAuthority freezeAuthority
        small
  | initializeAccount account mint owner =>
      exact iff_of_true ⟨_, rfl, rfl⟩ (withoutFreeze rfl)
  | mintTo mint destination authority amount =>
      have fits : amount < 2 ^ 64 := inRange
      apply iff_of_true _ (withoutFreeze rfl)
      apply readCall_buildAmountIx (by decide) fits
      rw [mintToTag, decodeTokenFields, readLe_amount fits]
      rfl
  | transfer source destination owner amount =>
      have fits : amount < 2 ^ 64 := inRange
      apply iff_of_true _ (withoutFreeze rfl)
      apply readCall_buildAmountIx (by decide) fits
      rw [transferTag, decodeTokenFields, readLe_amount fits]
      rfl
  | burn account mint owner amount =>
      have fits : amount < 2 ^ 64 := inRange
      apply iff_of_true _ (withoutFreeze rfl)
      apply readCall_buildAmountIx (by decide) fits
      rw [burnTag, decodeTokenFields, readLe_amount fits]
      rfl
  | closeAccount account destination owner =>
      exact iff_of_true ⟨_, rfl, rfl⟩ (withoutFreeze rfl)

/-! ## A mint that can be frozen -/

def repeatedKey (byte : UInt8) : Pubkey where
  bytes := List.replicate 32 byte
  length_eq := List.length_replicate

def freezableMint (freezeAuthority : Option Pubkey) : TokenCall :=
  .initializeMint (repeatedKey 1) 6 (repeatedKey 2) freezeAuthority

theorem readCall_build_plainMint :
    (∃ instruction,
        (freezableMint none).build = .ok instruction ∧
          readCall instruction = some (freezableMint none)) ∧
      ¬ ∃ instruction,
        (freezableMint (some (repeatedKey 7))).build = .ok instruction ∧
          readCall instruction =
            some (freezableMint (some (repeatedKey 7))) := by
  have plain := @readCall_build_iff (freezableMint none)
    (show 6 < 256 by decide)
  have frozen := @readCall_build_iff (freezableMint (some (repeatedKey 7)))
    (show 6 < 256 by decide)
  constructor
  · apply plain.mpr
    intro key absent
    cases absent
  · intro readBack
    have zero := frozen.mp readBack (repeatedKey 7) rfl
    revert zero
    decide

def shiftedKey : Pubkey where
  bytes := [0, 0, 0] ++ List.replicate 29 7
  length_eq := rfl

/-- The program reads another key than the one the mint was built with. -/
theorem freezeAuthority_shifted :
    (∃ instruction,
        (freezableMint (some (repeatedKey 7))).build = .ok instruction ∧
          readCall instruction = some (freezableMint (some shiftedKey))) ∧
      ¬ ∃ instruction,
        (freezableMint (some (repeatedKey 7))).build = .ok instruction ∧
          readCall instruction =
            some (freezableMint (some (repeatedKey 7))) := by
  have different : freezableMint (some shiftedKey) ≠
      freezableMint (some (repeatedKey 7)) := by
    decide
  constructor
  · exact ⟨_, rfl, rfl⟩
  · intro ⟨instruction, built, readBack⟩
    cases built
    apply different
    exact Option.some.inj readBack

end KarstflowTests.Programs

import KarstflowTests.Programs.PdaCounterRuns

/-!
# Panics and wraps of the counter program

The program checks the instruction data before it slices a seed from it.  It
does not check the length of that seed, nor the account data before it slices a
counter from it, nor the counter before it adds to it.
-/

namespace KarstflowTests.Programs.PdaCounter

open KarstflowTests.Library

/-- The address search panics on a seed of more than 32 bytes. -/
def LongSeedsPanic (runtime : Runtime) : Prop :=
  ∀ (seed : Bytes) (programId : Pubkey), 32 < seed.length →
    runtime.findProgramAddress [seed] programId = none

/-! ## Inputs -/

/-- The length that the instruction data gives for its seed. -/
def seedLen (instructionData : Bytes) : ℕ :=
  (instructionData.getD 1 0).toNat

def seedOf (instructionData : Bytes) : Bytes :=
  (instructionData.drop 2).take (seedLen instructionData)

/-- The instruction data is long enough for its seed. -/
def HoldsSeed (instructionData : Bytes) : Prop :=
  2 ≤ instructionData.length ∧
    2 + seedLen instructionData ≤ instructionData.length

instance (instructionData : Bytes) : Decidable (HoldsSeed instructionData) :=
  inferInstanceAs (Decidable (_ ∧ _))

def counterOf (ledger : Ledger) (account : AccountMeta) : ℕ :=
  leValue ((ledger account.pubkey).data.take 8)

/-- The inputs that are to be refused. -/
inductive Malformed (accounts : List AccountMeta) (instructionData : Bytes)
    (ledger : Ledger) : Prop where
  | seed
      (command : commandOf instructionData = some .create)
      (length :
        ¬ HoldsSeed instructionData ∨ 32 < seedLen instructionData)
  | data (account : AccountMeta) (rest : List AccountMeta)
      (command :
        commandOf instructionData = some .increment ∨
          commandOf instructionData = some .read)
      (first : accounts = account :: rest)
      (short : (ledger account.pubkey).data.length < 8)
  | counter (account : AccountMeta) (rest : List AccountMeta)
      (command : commandOf instructionData = some .increment)
      (first : accounts = account :: rest)
      (full : counterOf ledger account = 2 ^ 64 - 1)

/-- The instruction ends with a result or a program error, counts without a
wrap, and refuses what is malformed. -/
structure HandledSafely (runtime : Runtime) (programId : Pubkey)
    (accounts : List AccountMeta) (instructionData : Bytes)
    (ledger : Ledger) : Prop where
  noPanic :
    processInstruction runtime programId accounts instructionData ledger ≠
      .error .panicked
  noWrap :
    ∀ account rest after message,
      commandOf instructionData = some .increment →
        accounts = account :: rest →
          processInstruction runtime programId accounts instructionData
              ledger = .ok (after, message) →
            counterOf after account = counterOf ledger account + 1
  refuses :
    Malformed accounts instructionData ledger →
      ∃ error,
        processInstruction runtime programId accounts instructionData
          ledger = .error (.error error)
  unchanged :
    Malformed accounts instructionData ledger →
      ∀ log,
        afterInstruction runtime programId ⟨ledger, log⟩ accounts
          instructionData = ⟨ledger, log⟩

/-- What the program relies on and does not check: the address search returns
for the seed, which has at most 32 bytes, and the first account holds a counter
that is not at its end. -/
structure Unchecked (runtime : Runtime) (programId : Pubkey)
    (accounts : List AccountMeta) (instructionData : Bytes)
    (ledger : Ledger) : Prop where
  seed :
    commandOf instructionData = some .create → 3 ≤ accounts.length →
      HoldsSeed instructionData →
        (seedOf instructionData).length ≤ 32 ∧
          (runtime.findProgramAddress [seedOf instructionData]
            programId).isSome = true
  data :
    commandOf instructionData = some .increment ∨
        commandOf instructionData = some .read →
      ∀ account ∈ accounts.head?, 8 ≤ (ledger account.pubkey).data.length
  counter :
    commandOf instructionData = some .increment →
      ∀ account ∈ accounts.head?, counterOf ledger account ≠ 2 ^ 64 - 1

section Instructions

variable {runtime : Runtime} {programId : Pubkey}
variable {accounts rest : List AccountMeta} {account : AccountMeta}
variable {instructionData : Bytes} {ledger : Ledger}

/-! ## Creating a counter -/

theorem initializeCounter_of_few (few : accounts.length < 3) :
    initializeCounter runtime programId accounts instructionData ledger =
      .error (.error .notEnoughAccountKeys) := by
  match accounts, few with
  | [], _ => rfl
  | [_], _ => rfl
  | [_, _], _ => rfl

variable {payer pda system : AccountMeta}

theorem initializeCounter_of_not_holdsSeed
    (truncated : ¬ HoldsSeed instructionData) :
    initializeCounter runtime programId (payer :: pda :: system :: rest)
        instructionData ledger =
      .error (.error .invalidInstructionData) := by
  by_cases header : 2 ≤ instructionData.length
  · have short : ¬ 2 + seedLen instructionData ≤ instructionData.length :=
      fun holds => truncated ⟨header, holds⟩
    simp only [seedLen] at short
    simp only [initializeCounter, nextAccountInfo, require, if_pos header,
      if_neg short, bind, Except.bind]
  · simp only [initializeCounter, nextAccountInfo, require, if_neg header,
      bind, Except.bind]

theorem initializeCounter_of_search_panics
    (holds : HoldsSeed instructionData)
    (panics :
      runtime.findProgramAddress [seedOf instructionData] programId =
        none) :
    initializeCounter runtime programId (payer :: pda :: system :: rest)
        instructionData ledger = .error .panicked := by
  obtain ⟨header, whole⟩ := holds
  simp only [seedOf, seedLen] at panics
  simp only [seedLen] at whole
  simp only [initializeCounter, nextAccountInfo, require, if_pos header,
    if_pos whole, findProgramAddress, panics, bind, Except.bind]

/-- A created account has the eight bytes that the counter needs. -/
theorem initializeCounter_of_search_returns
    (holds : HoldsSeed instructionData) {found : Pubkey × UInt8}
    (finds :
      runtime.findProgramAddress [seedOf instructionData] programId =
        some found) :
    initializeCounter runtime programId (payer :: pda :: system :: rest)
        instructionData ledger ≠ .error .panicked := by
  obtain ⟨header, whole⟩ := holds
  obtain ⟨expected, bump⟩ := found
  have derives := finds
  simp only [seedOf, seedLen] at finds
  simp only [seedLen] at whole
  simp only [initializeCounter, nextAccountInfo, require, if_pos header,
    if_pos whole, findProgramAddress, finds, bind, Except.bind]
  by_cases same : expected = pda.pubkey
  · subst same
    rw [if_pos rfl]
    dsimp only
    cases invokes :
        invokeSigned runtime programId (payer :: pda :: system :: rest)
          (counterAccount runtime programId payer.pubkey pda.pubkey)
          [[(instructionData.drop 2).take (instructionData.getD 1 0).toNat]
            ++ [[bump]]] ledger with
    | error error =>
        simp only [Except.mapError]
        intro stops
        cases stops
    | ok created =>
        have creation := (created_of_invokeSigned derives invokes).1
        have zeros : (created pda.pubkey).data = List.replicate 8 0 :=
          creation.data
        have eight : 8 ≤ (created pda.pubkey).data.length := by
          rw [zeros, List.length_replicate]
        simp only [Except.mapError, writeU64, require, if_pos eight, bind,
          Except.bind, pure, Except.pure]
        intro stops
        cases stops
  · rw [if_neg same]
    intro stops
    cases stops

theorem exists_three_accounts (enough : 3 ≤ accounts.length) :
    ∃ payer pda system rest, accounts = payer :: pda :: system :: rest := by
  match accounts, enough with
  | payer :: pda :: system :: rest, _ =>
      exact ⟨payer, pda, system, rest, rfl⟩

theorem initializeCounter_ne_panicked_iff :
    initializeCounter runtime programId accounts instructionData ledger ≠
        .error .panicked ↔
      (3 ≤ accounts.length → HoldsSeed instructionData →
        (runtime.findProgramAddress [seedOf instructionData]
          programId).isSome = true) := by
  by_cases enough : 3 ≤ accounts.length
  · obtain ⟨payer, pda, system, rest, rfl⟩ := exists_three_accounts enough
    by_cases holds : HoldsSeed instructionData
    · simp only [enough, holds, forall_const]
      cases search :
          runtime.findProgramAddress [seedOf instructionData] programId with
      | none =>
          rw [initializeCounter_of_search_panics holds search]
          simp
      | some found =>
          simp only [Option.isSome_some, iff_true]
          exact initializeCounter_of_search_returns holds search
    · rw [initializeCounter_of_not_holdsSeed holds]
      simp [holds]
  · rw [initializeCounter_of_few (Nat.not_le.mp enough)]
    simp [enough]

theorem initializeCounter_refuses
    (truncated :
      3 ≤ accounts.length → ¬ HoldsSeed instructionData) :
    ∃ error,
      initializeCounter runtime programId accounts instructionData ledger =
        .error (.error error) := by
  by_cases enough : 3 ≤ accounts.length
  · have broken := truncated enough
    obtain ⟨payer, pda, system, rest, rfl⟩ := exists_three_accounts enough
    exact ⟨_, initializeCounter_of_not_holdsSeed broken⟩
  · exact ⟨_, initializeCounter_of_few (Nat.not_le.mp enough)⟩

theorem length_seedOf (holds : HoldsSeed instructionData) :
    (seedOf instructionData).length = seedLen instructionData := by
  have whole := holds.2
  rw [seedOf, List.length_take, List.length_drop]
  omega

/-! ## Counting and reading -/

theorem increment_of_short (short : (ledger account.pubkey).data.length < 8) :
    increment (account :: rest) ledger = .error .panicked := by
  simp only [increment, nextAccountInfo, readU64, readLe,
    if_neg (Nat.not_le.mpr short), bind, Except.bind]

theorem increment_of_long
    (long : 8 ≤ (ledger account.pubkey).data.length) :
    increment (account :: rest) ledger =
      .ok (ledger.setData account.pubkey
          (splice (ledger account.pubkey).data 0
            (leBytes 8 ((counterOf ledger account + 1) % 2 ^ 64))),
        .incremented ((counterOf ledger account + 1) % 2 ^ 64)) := by
  simp only [increment, nextAccountInfo, readU64, readLe, writeU64,
    require, if_pos long, bind, Except.bind, pure, Except.pure, counterOf]

theorem readCounter_of_short
    (short : (ledger account.pubkey).data.length < 8) :
    readCounter (account :: rest) ledger = .error .panicked := by
  simp only [readCounter, nextAccountInfo, readU64, readLe,
    if_neg (Nat.not_le.mpr short), bind, Except.bind]

theorem readCounter_of_long
    (long : 8 ≤ (ledger account.pubkey).data.length) :
    readCounter (account :: rest) ledger =
      .ok (ledger, .value (counterOf ledger account)) := by
  simp only [readCounter, nextAccountInfo, readU64, readLe, if_pos long,
    bind, Except.bind, pure, Except.pure, counterOf]

theorem counterOf_lt (ledger : Ledger) (account : AccountMeta) :
    counterOf ledger account < 2 ^ 64 := by
  have width : ((ledger account.pubkey).data.take 8).length ≤ 8 := by
    rw [List.length_take]
    exact Nat.min_le_left _ _
  calc
    counterOf ledger account
        < 256 ^ ((ledger account.pubkey).data.take 8).length :=
      leValue_lt _
    _ ≤ 256 ^ 8 := Nat.pow_le_pow_right (by decide) width
    _ = 2 ^ 64 := by norm_num

theorem counterOf_setData (ledger : Ledger) (account : AccountMeta)
    (data : Bytes) {value : ℕ} (fits : value < 2 ^ 64) :
    counterOf
        (ledger.setData account.pubkey (splice data 0 (leBytes 8 value)))
        account =
      value := by
  have front : (splice data 0 (leBytes 8 value)).take 8 = leBytes 8 value := by
    rw [splice, List.take_zero, List.nil_append]
    exact List.take_left' (length_leBytes 8 value)
  have fitsBytes : value < 256 ^ 8 := fits
  rw [counterOf, setData_self, Account.withData, front,
    leValue_leBytes fitsBytes]

theorem increment_counts
    (long : 8 ≤ (ledger account.pubkey).data.length)
    (below : counterOf ledger account ≠ 2 ^ 64 - 1) {after : Ledger}
    {message : Message}
    (counts : increment (account :: rest) ledger = .ok (after, message)) :
    counterOf after account = counterOf ledger account + 1 := by
  have bound := counterOf_lt ledger account
  have fits : counterOf ledger account + 1 < 2 ^ 64 := by omega
  rw [increment_of_long long, Nat.mod_eq_of_lt fits] at counts
  cases counts
  exact counterOf_setData ledger account _ fits

/-! ## When an instruction is handled safely -/

/-- A program error leaves the chain as it was. -/
theorem afterInstruction_of_error {stop : Stop}
    (stops :
      processInstruction runtime programId accounts instructionData ledger =
        .error stop)
    (log : List (Command × Pubkey)) :
    afterInstruction runtime programId ⟨ledger, log⟩ accounts
      instructionData = ⟨ledger, log⟩ := by
  simp only [afterInstruction, execute, stops, Except.mapError, bind,
    Except.bind]

theorem HandledSafely.of_refuses
    (noPanic :
      processInstruction runtime programId accounts instructionData
        ledger ≠ .error .panicked)
    (noWrap :
      ∀ account rest after message,
        commandOf instructionData = some .increment →
          accounts = account :: rest →
            processInstruction runtime programId accounts instructionData
                ledger = .ok (after, message) →
              counterOf after account = counterOf ledger account + 1)
    (refuses :
      Malformed accounts instructionData ledger →
        ∃ error,
          processInstruction runtime programId accounts instructionData
            ledger = .error (.error error)) :
    HandledSafely runtime programId accounts instructionData ledger where
  noPanic := noPanic
  noWrap := noWrap
  refuses := refuses
  unchanged malformed log := by
    obtain ⟨error, stops⟩ := refuses malformed
    exact afterInstruction_of_error stops log

theorem handledSafely_of_unknown
    (command : commandOf instructionData = none) :
    HandledSafely runtime programId accounts instructionData ledger := by
  have refused :
      processInstruction runtime programId accounts instructionData ledger =
        .error (.error .invalidInstructionData) := by
    rw [processInstruction_eq, command]
  apply HandledSafely.of_refuses
  · rw [refused]
    simp
  · intro account rest after message isIncrement
    rw [command] at isIncrement
    cases isIncrement
  · intro _
    exact ⟨_, refused⟩

theorem handledSafely_of_create
    (command : commandOf instructionData = some .create)
    (seeded :
      3 ≤ accounts.length → HoldsSeed instructionData →
        (seedOf instructionData).length ≤ 32 ∧
          (runtime.findProgramAddress [seedOf instructionData]
            programId).isSome = true) :
    HandledSafely runtime programId accounts instructionData ledger := by
  apply HandledSafely.of_refuses
  · rw [processInstruction_create command,
      initializeCounter_ne_panicked_iff]
    intro enough holds
    exact (seeded enough holds).2
  · intro account rest after message isIncrement
    rw [command] at isIncrement
    cases isIncrement
  · intro malformed
    rw [processInstruction_create command]
    apply initializeCounter_refuses
    intro enough holds
    have short := (seeded enough holds).1
    rw [length_seedOf holds] at short
    cases malformed with
    | seed _ length =>
        rcases length with truncated | tooLong
        · exact truncated holds
        · exact Nat.not_lt.mpr short tooLong
    | data account rest other => simp [command] at other
    | counter account rest other => simp [command] at other

theorem handledSafely_of_increment
    (command : commandOf instructionData = some .increment)
    (long :
      ∀ account ∈ accounts.head?, 8 ≤ (ledger account.pubkey).data.length)
    (below :
      ∀ account ∈ accounts.head?,
        counterOf ledger account ≠ 2 ^ 64 - 1) :
    HandledSafely runtime programId accounts instructionData ledger := by
  apply HandledSafely.of_refuses
  · rw [processInstruction_increment command]
    cases accounts with
    | nil => simp [increment, nextAccountInfo, bind, Except.bind]
    | cons account rest =>
        rw [increment_of_long (long account rfl)]
        simp
  · intro account rest after message _ first counts
    subst first
    rw [processInstruction_increment command] at counts
    exact increment_counts (long account rfl) (below account rfl) counts
  · intro malformed
    exfalso
    cases malformed with
    | seed other length => simp [command] at other
    | data account rest _ first short =>
        subst first
        exact Nat.not_le.mpr short (long account rfl)
    | counter account rest _ first full =>
        subst first
        exact below account rfl full

theorem handledSafely_of_read
    (command : commandOf instructionData = some .read)
    (long :
      ∀ account ∈ accounts.head?,
        8 ≤ (ledger account.pubkey).data.length) :
    HandledSafely runtime programId accounts instructionData ledger := by
  apply HandledSafely.of_refuses
  · rw [processInstruction_read command]
    cases accounts with
    | nil => simp [readCounter, nextAccountInfo, bind, Except.bind]
    | cons account rest =>
        rw [readCounter_of_long (long account rfl)]
        simp
  · intro account rest after message isIncrement
    rw [command] at isIncrement
    cases isIncrement
  · intro malformed
    exfalso
    cases malformed with
    | seed other length => simp [command] at other
    | data account rest _ first short =>
        subst first
        exact Nat.not_le.mpr short (long account rfl)
    | counter account rest other => simp [command] at other

/-- An increment or a read of a short account panics. -/
theorem long_of_noPanic
    (command :
      commandOf instructionData = some .increment ∨
        commandOf instructionData = some .read)
    (noPanic :
      processInstruction runtime programId accounts instructionData
        ledger ≠ .error .panicked)
    (account : AccountMeta) (first : account ∈ accounts.head?) :
    8 ≤ (ledger account.pubkey).data.length := by
  obtain ⟨rest, rfl⟩ := List.head?_eq_some_iff.mp first
  by_contra short
  have below : (ledger account.pubkey).data.length < 8 :=
    Nat.not_le.mp short
  rcases command with command | command
  · rw [processInstruction_increment command] at noPanic
    exact noPanic (increment_of_short below)
  · rw [processInstruction_read command] at noPanic
    exact noPanic (readCounter_of_short below)

theorem HandledSafely.unchecked (longSeedsPanic : LongSeedsPanic runtime)
    (safely :
      HandledSafely runtime programId accounts instructionData ledger) :
    Unchecked runtime programId accounts instructionData ledger := by
  constructor
  · intro command enough holds
    have noPanic := safely.noPanic
    rw [processInstruction_create command,
      initializeCounter_ne_panicked_iff] at noPanic
    have returns := noPanic enough holds
    refine ⟨?_, returns⟩
    by_contra tooLong
    rw [longSeedsPanic _ programId (Nat.not_le.mp tooLong)] at returns
    cases returns
  · intro command
    exact long_of_noPanic command safely.noPanic
  · intro command account first full
    have long :=
      long_of_noPanic (.inl command) safely.noPanic account first
    obtain ⟨rest, rfl⟩ := List.head?_eq_some_iff.mp first
    obtain ⟨error, stops⟩ :=
      safely.refuses (.counter account rest command rfl full)
    rw [processInstruction_increment command,
      increment_of_long long] at stops
    cases stops

/-- The program handles an instruction safely when what it does not check
holds, and only then. -/
theorem handledSafely_iff (longSeedsPanic : LongSeedsPanic runtime)
    (programId : Pubkey) (accounts : List AccountMeta)
    (instructionData : Bytes) (ledger : Ledger) :
    HandledSafely runtime programId accounts instructionData ledger ↔
      Unchecked runtime programId accounts instructionData ledger := by
  constructor
  · exact HandledSafely.unchecked longSeedsPanic
  · intro unchecked
    cases command : commandOf instructionData with
    | none => exact handledSafely_of_unknown command
    | some requested =>
        cases requested with
        | create =>
            exact handledSafely_of_create command (unchecked.seed command)
        | increment =>
            exact handledSafely_of_increment command
              (unchecked.data (.inl command)) (unchecked.counter command)
        | read =>
            exact handledSafely_of_read command
              (unchecked.data (.inr command))

end Instructions

/-! ### The counter with the seed `inc_test` -/

theorem longSeedsPanic_incTest : LongSeedsPanic incTestRuntime := by
  intro seed programId long
  apply if_neg
  intro asked
  have short : seed.length ≤ 32 := by
    cases asked.1
    decide
  exact Nat.not_le.mpr long short

/-- The ledger where the counter of `inc_test` has the given data. -/
def incTestLedger (data : Bytes) : Ledger :=
  incTestGenesis.setData incTestPda data

/-- The counter goes from 41 to 42. -/
theorem handledSafely_incTest :
    HandledSafely incTestRuntime counterProgram [⟨incTestPda, false, true⟩]
      [1] (incTestLedger (leBytes 8 41)) := by
  apply (handledSafely_iff longSeedsPanic_incTest _ _ _ _).mpr
  constructor
  · intro command
    cases command
  · intro _ account first
    cases first
    decide +kernel
  · intro _ account first
    cases first
    decide +kernel

/-- A seed of 33 bytes and an account of seven bytes panic, and the last
counter wraps. -/
theorem not_handledSafely_incTest :
    LongSeedsPanic incTestRuntime ∧
      ¬ HandledSafely incTestRuntime counterProgram
          [⟨incTestPayer, true, true⟩, ⟨incTestPda, false, true⟩,
            ⟨systemProgram, false, false⟩]
          ([0, 33] ++ List.replicate 33 7) incTestGenesis ∧
      ¬ HandledSafely incTestRuntime counterProgram
          [⟨incTestPda, false, true⟩] [2]
          (incTestLedger (List.replicate 7 0)) ∧
      ¬ HandledSafely incTestRuntime counterProgram
          [⟨incTestPda, false, true⟩] [1]
          (incTestLedger (leBytes 8 (2 ^ 64 - 1))) := by
  refine ⟨longSeedsPanic_incTest, ?_, ?_, ?_⟩
  · intro safely
    have unchecked := safely.unchecked longSeedsPanic_incTest
    have holds : HoldsSeed ([0, 33] ++ List.replicate 33 7) := by decide
    have short := (unchecked.seed rfl (by decide) holds).1
    exact absurd short (by decide)
  · intro safely
    have unchecked := safely.unchecked longSeedsPanic_incTest
    have long := unchecked.data (.inr rfl) ⟨incTestPda, false, true⟩ rfl
    exact absurd long (by decide +kernel)
  · intro safely
    have unchecked := safely.unchecked longSeedsPanic_incTest
    exact unchecked.counter rfl ⟨incTestPda, false, true⟩ rfl
      (by decide +kernel)

end KarstflowTests.Programs.PdaCounter

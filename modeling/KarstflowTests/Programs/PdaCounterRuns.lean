import KarstflowTests.Library.Machine
import KarstflowTests.Programs.PdaCounter

/-!
# What the counters hold

In a run anyone sends instructions to the program, with any accounts and any
data, and other programs change the ledger in between as far as they may.  The
log keeps the commands that succeeded, with their addresses.

`Counting` is what each step keeps.
-/

namespace KarstflowTests.Programs.PdaCounter

open KarstflowTests.Library

/-! ## Runs -/

/-- The ledger, and the commands that succeeded, the latest first. -/
structure ChainState where
  ledger : Ledger
  log : List (Command × Pubkey)

inductive ChainLabel where
  | instruction (accounts : List AccountMeta) (instructionData : Bytes)
  /-- Other programs leave this ledger. -/
  | others (after : Ledger)

/-- A failed instruction leaves the state as it was. -/
def afterInstruction (runtime : Runtime) (programId : Pubkey)
    (state : ChainState) (accounts : List AccountMeta)
    (instructionData : Bytes) : ChainState :=
  match execute runtime programId accounts instructionData state.ledger with
  | .ok (after, _) =>
      ⟨after, (addressed accounts instructionData).toList ++ state.log⟩
  | .error _ => state

def chainMachine (runtime : Runtime) (programId : Pubkey)
    (genesis : Ledger) : Machine ChainState ChainLabel where
  initial := ⟨genesis, []⟩
  step state label :=
    some <|
      match label with
      | .instruction accounts instructionData =>
          afterInstruction runtime programId state accounts instructionData
      | .others after => ⟨after, state.log⟩

/-- Other programs do not touch the data and the owner of the accounts of
this one. -/
def OwnedKept (programId : Pubkey) (state : ChainState) :
    ChainLabel → Prop
  | .instruction _ _ => True
  | .others after =>
      ∀ key, (state.ledger key).owner = programId →
        (after key).owner = programId ∧
          (after key).data = (state.ledger key).data

/-- The increments of a counter since it was created. -/
def incrementsSince (log : List (Command × Pubkey)) (pda : Pubkey) : ℕ :=
  (log.takeWhile (· ≠ (.create, pda))).count (.increment, pda)

def increments (log : List (Command × Pubkey)) : ℕ :=
  log.countP fun entry => entry.1 = .increment

/-! ## The increments in the log -/

section Log

variable {log : List (Command × Pubkey)} {pda other : Pubkey}

@[simp]
theorem incrementsSince_create :
    incrementsSince ((.create, pda) :: log) pda = 0 := by
  simp [incrementsSince]

@[simp]
theorem incrementsSince_increment :
    incrementsSince ((.increment, pda) :: log) pda =
      incrementsSince log pda + 1 := by
  simp [incrementsSince]

@[simp]
theorem incrementsSince_read (other : Pubkey) :
    incrementsSince ((.read, other) :: log) pda =
      incrementsSince log pda := by
  simp [incrementsSince]

theorem incrementsSince_of_ne (different : other ≠ pda)
    (command : Command) :
    incrementsSince ((command, other) :: log) pda =
      incrementsSince log pda := by
  simp [incrementsSince, different]

theorem incrementsSince_le : incrementsSince log pda ≤ increments log := by
  have sublist :
      (log.takeWhile (· ≠ (Command.create, pda))).Sublist log :=
    List.takeWhile_sublist _
  calc
    incrementsSince log pda ≤ log.count (.increment, pda) :=
      sublist.count_le _
    _ ≤ increments log := by
      apply List.countP_mono_left
      intro entry _ same
      simp only [beq_iff_eq] at same
      simp [same]

end Log

/-! ## Other accounts -/

section Apart

variable {runtime : Runtime} {programId : Pubkey}
variable {accounts : List AccountMeta} {instructionData : Bytes}
variable {ledger after : Ledger} {key : Pubkey}

theorem setData_of_ne {changed : Pubkey} (other : key ≠ changed)
    (data : Bytes) : ledger.setData changed data key = ledger key :=
  Function.update_of_ne other _ _

theorem setData_self (data : Bytes) :
    ledger.setData key data key = (ledger key).withData data :=
  Function.update_self _ _ _

/-- The instruction is not addressed to the account. -/
def NotAddressed (accounts : List AccountMeta) (instructionData : Bytes)
    (key : Pubkey) : Prop :=
  ∀ command, addressed accounts instructionData ≠ some (command, key)

theorem Effect.apart
    (effect :
      Effect runtime programId accounts instructionData ledger after)
    (other : NotAddressed accounts instructionData key) :
    (after key).data = (ledger key).data ∧
      (after key).owner = (ledger key).owner ∧
      ((ledger key).data ≠ [] ∨ isSigner accounts key = false →
        after key = ledger key) := by
  cases effect with
  | create payer pda created addresses signs creates =>
      have notTarget : key ≠ pda := by
        rintro rfl
        exact other _ addresses
      rw [setData_of_ne notTarget]
      by_cases isPayer : key = payer
      · subst isPayer
        obtain ⟨sameData, sameOwner⟩ := creates.payer notTarget
        refine ⟨sameData, sameOwner, ?_⟩
        rintro (carries | silent)
        · exact absurd creates.payerEmpty carries
        · rcases signs with signs | isTarget
          · rw [silent] at signs
            cases signs
          · exact absurd isTarget notTarget
      · have same : created key = ledger key :=
          creates.others key notTarget isPayer
        rw [same]
        exact ⟨rfl, rfl, fun _ => rfl⟩
  | increment pda addresses =>
      have notTarget : key ≠ pda := by
        rintro rfl
        exact other _ addresses
      rw [setData_of_ne notTarget]
      exact ⟨rfl, rfl, fun _ => rfl⟩
  | read pda addresses => exact ⟨rfl, rfl, fun _ => rfl⟩

end Apart

/-! ## What every step keeps -/

/-- A created account belongs to the program and has the low bytes of its
increments. -/
structure Counting (programId : Pubkey) (ledger : Ledger)
    (log : List (Command × Pubkey)) : Prop where
  data :
    ∀ pda, (.create, pda) ∈ log →
      (ledger pda).data =
        leBytes 8 (incrementsSince log pda)
  owner :
    ∀ pda, (.create, pda) ∈ log →
      (ledger pda).owner = programId
  once : ∀ pda, log.count (.create, pda) ≤ 1

section Steps

variable {runtime : Runtime} {programId pda : Pubkey} {ledger : Ledger}
variable {log : List (Command × Pubkey)}

theorem Counting.data_ne (counting : Counting programId ledger log)
    (created : (.create, pda) ∈ log) :
    (ledger pda).data ≠ [] := by
  rw [counting.data pda created]
  apply List.ne_nil_of_length_pos
  rw [length_leBytes]
  decide

/-- One more in eight bytes, wrapped or not. -/
theorem leBytes_increment (count : ℕ) :
    leBytes 8 ((leValue ((leBytes 8 count).take 8) + 1) % 2 ^ 64) =
      leBytes 8 (count + 1) := by
  have whole : (leBytes 8 count).take 8 = leBytes 8 count :=
    List.take_of_length_le (length_leBytes 8 count).le
  have width : 2 ^ 64 = 256 ^ 8 := by norm_num
  rw [whole, width, leBytes_mod, leValue_leBytes_mod,
    ← leBytes_mod 8 (count % 256 ^ 8 + 1), Nat.mod_add_mod, leBytes_mod]

theorem splice_whole (old new : Bytes) (same : new.length = old.length) :
    splice old 0 new = new := by
  rw [splice, List.take_zero, List.nil_append, Nat.zero_add, same,
    List.drop_length, List.append_nil]

variable {accounts : List AccountMeta} {instructionData : Bytes}
variable {after : Ledger}

/-- What the log says of the accounts that an instruction is not addressed
to. -/
theorem Counting.elsewhere
    (counting : Counting programId ledger log)
    (effect :
      Effect runtime programId accounts instructionData ledger after)
    (other : NotAddressed accounts instructionData pda)
    (created : (.create, pda) ∈ log) :
    after pda = ledger pda :=
  (effect.apart other).2.2 (.inl (counting.data_ne created))

theorem notAddressed_of_ne {command : Command} {target : Pubkey}
    (addresses :
      addressed accounts instructionData = some (command, target))
    (other : pda ≠ target) : NotAddressed accounts instructionData pda := by
  intro otherCommand same
  rw [addresses] at same
  cases same
  exact other rfl

theorem Counting.create (counting : Counting programId ledger log)
    {payer target : Pubkey} {created : Ledger}
    (addresses :
      addressed accounts instructionData = some (.create, target))
    (signs : isSigner accounts payer = true ∨ payer = target)
    (creates :
      Created ledger (counterAccount runtime programId payer target)
        created) :
    Counting programId (created.setData target (leBytes 8 0))
      ((.create, target) :: log) := by
  have effect := Effect.create payer target created addresses signs creates
  have fresh : (.create, target) ∉ log :=
    fun earlier => counting.data_ne earlier creates.unused
  constructor
  · intro pda member
    by_cases same : pda = target
    · rw [same, incrementsSince_create, setData_self]
      rfl
    · have earlier : (.create, pda) ∈ log := by
        simpa [same] using member
      rw [incrementsSince_of_ne (Ne.symm same)]
      rw [counting.elsewhere effect (notAddressed_of_ne addresses same)
        earlier]
      exact counting.data pda earlier
  · intro pda member
    by_cases same : pda = target
    · rw [same, setData_self]
      exact creates.owner
    · have earlier : (.create, pda) ∈ log := by
        simpa [same] using member
      rw [counting.elsewhere effect (notAddressed_of_ne addresses same)
        earlier]
      exact counting.owner pda earlier
  · intro pda
    by_cases same : pda = target
    · rw [same, List.count_cons_self, List.count_eq_zero.mpr fresh]
    · rw [List.count_cons_of_ne (by simpa using Ne.symm same)]
      exact counting.once pda

theorem Counting.increment (counting : Counting programId ledger log)
    {target : Pubkey}
    (addresses :
      addressed accounts instructionData = some (.increment, target))
    {data : Bytes}
    (counted :
      data = splice (ledger target).data 0
        (leBytes 8
          ((leValue ((ledger target).data.take 8) + 1) % 2 ^ 64))) :
    Counting programId (ledger.setData target data)
      ((.increment, target) :: log) := by
  have earlier {pda : Pubkey}
      (member : (.create, pda) ∈ (.increment, target) :: log) :
      (.create, pda) ∈ log := by
    simpa using member
  constructor
  · intro pda member
    have before := counting.data pda (earlier member)
    by_cases same : pda = target
    · subst same
      have width :
          (leBytes 8 (incrementsSince log pda + 1)).length =
            (leBytes 8 (incrementsSince log pda)).length := by
        rw [length_leBytes, length_leBytes]
      rw [incrementsSince_increment, setData_self, counted, before,
        leBytes_increment, splice_whole _ _ width]
      rfl
    · rw [incrementsSince_of_ne (Ne.symm same), setData_of_ne same]
      exact before
  · intro pda member
    have before := counting.owner pda (earlier member)
    by_cases same : pda = target
    · rw [same, setData_self]
      rwa [same] at before
    · rwa [setData_of_ne same]
  · intro pda
    rw [List.count_cons_of_ne (by simp)]
    exact counting.once pda

theorem Counting.read (counting : Counting programId ledger log)
    (target : Pubkey) :
    Counting programId ledger ((.read, target) :: log) := by
  constructor
  · intro pda member
    rw [incrementsSince_read]
    exact counting.data pda (by simpa using member)
  · intro pda member
    exact counting.owner pda (by simpa using member)
  · intro pda
    rw [List.count_cons_of_ne (by simp)]
    exact counting.once pda

theorem Counting.effect (counting : Counting programId ledger log)
    (effect :
      Effect runtime programId accounts instructionData ledger
        after) :
    Counting programId after
      ((addressed accounts instructionData).toList ++ log) := by
  cases effect with
  | create payer target created addresses signs creates =>
      rw [addresses]
      exact counting.create addresses signs creates
  | increment target addresses =>
      rw [addresses]
      exact counting.increment addresses rfl
  | read target addresses =>
      rw [addresses]
      exact counting.read target

theorem Counting.step {genesis : Ledger} {state next : ChainState}
    (counting : Counting programId state.ledger state.log)
    {label : ChainLabel} (permitted : OwnedKept programId state label)
    (taken :
      (chainMachine runtime programId genesis).step state label =
        some next) :
    Counting programId next.ledger next.log := by
  cases taken
  cases label with
  | instruction accounts instructionData =>
      simp only [afterInstruction]
      cases executes :
          execute runtime programId accounts instructionData
            state.ledger with
      | error failure => exact counting
      | ok result => exact counting.effect (effect_of_execute executes)
  | others after =>
      constructor
      · intro pda created
        rw [(permitted pda (counting.owner pda created)).2]
        exact counting.data pda created
      · intro pda created
        exact (permitted pda (counting.owner pda created)).1
      · exact counting.once

end Steps

/-! ## The counters -/

/-- What the program guarantees in a state of the chain. -/
structure CountersHold (runtime : Runtime) (programId : Pubkey)
    (state : ChainState) : Prop where
  counts :
    ∀ pda, (.create, pda) ∈ state.log →
      (state.ledger pda).data.length = 8 ∧
        leValue (state.ledger pda).data = incrementsSince state.log pda
  once : ∀ pda, state.log.count (.create, pda) ≤ 1
  readKeeps :
    ∀ accounts instructionData after message,
      commandOf instructionData = some .read →
        execute runtime programId accounts instructionData state.ledger =
            .ok (after, message) →
          after = state.ledger
  /-- Another account keeps its data and its owner, and is not touched at
  all if it did not sign or is a counter. -/
  apart :
    ∀ accounts instructionData after message key,
      execute runtime programId accounts instructionData state.ledger =
          .ok (after, message) →
        NotAddressed accounts instructionData key →
          (after key).data = (state.ledger key).data ∧
            (after key).owner = (state.ledger key).owner ∧
            (isSigner accounts key = false ∨ (.create, key) ∈ state.log →
              after key = state.ledger key)

theorem Effect.read_keeps
    {runtime : Runtime} {programId : Pubkey}
    {accounts : List AccountMeta} {instructionData : Bytes}
    {ledger after : Ledger}
    (effect :
      Effect runtime programId accounts instructionData ledger after)
    (command : commandOf instructionData = some .read) : after = ledger := by
  cases effect with
  | create payer pda created addresses signs creates =>
      unfold addressed at addresses
      rw [command] at addresses
      cases accounts <;> cases addresses
  | increment pda addresses =>
      unfold addressed at addresses
      rw [command] at addresses
      cases accounts <;> cases addresses
  | read pda addresses => rfl

/-- Below `2 ^ 64` increments in all, every counter has its increments. -/
theorem countersHold_of_reachable
    (runtime : Runtime) (programId : Pubkey) (genesis : Ledger)
    (state : ChainState)
    (reached :
      (chainMachine runtime programId genesis).ReachableUnder
        (OwnedKept programId) state)
    (few : increments state.log < 2 ^ 64) :
    CountersHold runtime programId state := by
  have counting : Counting programId state.ledger state.log := by
    apply Machine.invariant_of_step _ _ reached
    · exact ⟨fun _ member => absurd member List.not_mem_nil,
        fun _ member => absurd member List.not_mem_nil,
        fun _ => Nat.zero_le 1⟩
    · intro source target label _ before permitted taken
      exact before.step permitted taken
  constructor
  · intro pda created
    have fits : incrementsSince state.log pda < 256 ^ 8 :=
      incrementsSince_le.trans_lt few
    rw [counting.data pda created, length_leBytes, leValue_leBytes fits]
    exact ⟨rfl, rfl⟩
  · exact counting.once
  · intro accounts instructionData after message command executes
    exact (effect_of_execute executes).read_keeps command
  · intro accounts instructionData after message key executes other
    obtain ⟨data, owner, whole⟩ := (effect_of_execute executes).apart other
    refine ⟨data, owner, ?_⟩
    rintro (silent | created)
    · exact whole (.inr silent)
    · exact whole (.inl (counting.data_ne created))

/-! ### The counter with the seed `inc_test` -/

/-- The bytes from 1 to 32. -/
def counterProgram : Pubkey where
  bytes := (List.range 32).map fun index => UInt8.ofNat (index + 1)
  length_eq := by decide

/-- The address that the seed has under `counterProgram`. -/
def incTestPda : Pubkey where
  bytes :=
    [54, 176, 165, 32, 160, 204, 44, 100, 128, 47, 238, 249, 133, 244, 191,
      60, 97, 167, 127, 56, 212, 164, 18, 46, 184, 16, 60, 239, 210, 64,
      121, 173]
  length_eq := by decide

def incTestPayer : Pubkey where
  bytes := List.replicate 32 7
  length_eq := by decide

def incTestSeed : Bytes :=
  [105, 110, 99, 95, 116, 101, 115, 116]

/-- The runtime, as far as it is asked for that address. -/
def incTestRuntime : Runtime where
  findProgramAddress seeds programId :=
    if seeds = [incTestSeed] ∧ programId = counterProgram then
      some (incTestPda, 255)
    else
      none
  createProgramAddress seeds programId :=
    if seeds = [incTestSeed, [255]] ∧ programId = counterProgram then
      some incTestPda
    else
      none
  minimumBalance space := (128 + space) * 3480 * 2
  createProgramAddress_of_find := by
    intro seeds programId address bump found
    split at found
    · rename_i asked
      obtain ⟨rfl, rfl⟩ := asked
      cases found
      rfl
    · cases found

def incTestGenesis : Ledger :=
  fun key =>
    { owner := systemProgram
      lamports := if key = incTestPayer then 10 ^ 9 else 0
      data := []
      executable := false }

def incTestCreate : ChainLabel :=
  .instruction
    [⟨incTestPayer, true, true⟩, ⟨incTestPda, false, true⟩,
      ⟨systemProgram, false, false⟩]
    ([0, 8] ++ incTestSeed)

/-- A creation, an increment, a second creation that fails, a read and
another increment. -/
def incTestRun : List ChainLabel :=
  [incTestCreate, .instruction [⟨incTestPda, false, true⟩] [1],
    incTestCreate, .instruction [⟨incTestPda, false, false⟩] [2],
    .instruction [⟨incTestPda, false, true⟩] [1]]

theorem countersHold_incTest :
    ∃ state,
      (chainMachine incTestRuntime counterProgram incTestGenesis).run
          ⟨incTestGenesis, []⟩ incTestRun = some state ∧
        state.log =
          [(.increment, incTestPda), (.read, incTestPda),
            (.increment, incTestPda), (.create, incTestPda)] ∧
        CountersHold incTestRuntime counterProgram state := by
  obtain ⟨state, evaluates⟩ :
      ∃ state,
        (chainMachine incTestRuntime counterProgram incTestGenesis).run
          ⟨incTestGenesis, []⟩ incTestRun = some state :=
    ⟨_, rfl⟩
  have logged :
      ((chainMachine incTestRuntime counterProgram incTestGenesis).run
          ⟨incTestGenesis, []⟩ incTestRun).map ChainState.log =
        some
          [(.increment, incTestPda), (.read, incTestPda),
            (.increment, incTestPda), (.create, incTestPda)] := by
    decide +kernel
  rw [evaluates, Option.map_some, Option.some.injEq] at logged
  have permitted :
      (chainMachine incTestRuntime counterProgram
        incTestGenesis).AllowedAlong (OwnedKept counterProgram)
          ⟨incTestGenesis, []⟩ incTestRun :=
    ⟨trivial, fun _ _ => ⟨trivial, fun _ _ => ⟨trivial, fun _ _ =>
      ⟨trivial, fun _ _ => ⟨trivial, fun _ _ => trivial⟩⟩⟩⟩⟩
  refine ⟨state, evaluates, logged, ?_⟩
  apply countersHold_of_reachable _ _ _ state
    (Machine.reachableUnder_of_run .initial permitted evaluates)
  rw [logged]
  decide

end KarstflowTests.Programs.PdaCounter

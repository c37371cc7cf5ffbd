import KarstflowTests.Programs.CrossProgram

/-!
# The call depth program

`cpi-depth` calls itself as often as its first data byte says, and sets the
return data at the bottom.  `depthOutcome` is what a run of it comes to: the
whole way down and up again if the stack has room, and otherwise a failure at
the level where there is none.
-/

namespace KarstflowTests.Programs

open KarstflowTests.Library

/-! ## The program -/

/-- `b"bottom"` -/
def bottom : Bytes := [0x62, 0x6f, 0x74, 0x74, 0x6f, 0x6d]

def depthLine (depth : ℕ) : String :=
  "cpi-depth: depth=" ++ toString depth

def returnedLine (depth : ℕ) : String :=
  "cpi-depth: returned from depth=" ++ toString depth

/-- `instruction_data[0]`, or zero without data -/
def depthOf : Bytes → ℕ
  | [] => 0
  | byte :: _ => byte.toNat

/-- The metas of the accounts, each with its own privileges. -/
def accountMetas (accounts : List AccountMeta) : List AccountMeta :=
  accounts.map fun account =>
    if account.isWritable then ⟨account.pubkey, account.isSigner, true⟩
    else ⟨account.pubkey, account.isSigner, false⟩

/-- `process_instruction` of `cpi-depth` -/
def cpiDepth : Program := fun programId accounts instructionData invoke => do
  let depth := depthOf instructionData
  msg (depthLine depth)
  if depth = 0 then
    msg "cpi-depth: reached bottom"
    setReturnData programId bottom
  else
    -- Build CPI to self with depth-1
    invoke
      { programId := programId
        data := [UInt8.ofNat (depth - 1)]
        accounts := accountMetas accounts }
    msg (returnedLine (depth - 1))

/-! ## What a run comes to -/

/-- The lines of the first levels, from the given depth down. -/
def descent (depth levels : ℕ) : List String :=
  (List.range levels).map fun level => depthLine (depth - level)

/-- The lines of the returns, up to the given depth. -/
def ascent (depth : ℕ) : List String :=
  (List.range depth).map returnedLine

/-- The end of a run and what it leaves, with room for `height` programs. -/
def depthOutcome (rules : CallRules) (height : ℕ) (instruction : Instruction)
    (world : World) : Except CallFailure Unit × World :=
  let depth := depthOf instruction.data
  let programId := instruction.programId
  if height = 0 then
    (.error .callDepth, world)
  else if depth = 0 ∨
      rules.mayCall instruction.accounts programId ∧ depth < height then
    (.ok (),
      (world.withLogs
        (descent depth (depth + 1) ++ ["cpi-depth: reached bottom"] ++
          ascent depth)).returning (some (programId, bottom)))
  else if rules.mayCall instruction.accounts programId then
    (.error .callDepth,
      (world.withLogs (descent depth height)).returning none)
  else
    (.error .missingAccount,
      (world.withLogs [depthLine depth]).returning none)

/-! ## The run -/

section Runs

variable {rules : CallRules} {programId : Pubkey}
variable {accounts : List AccountMeta}

theorem accountMetas_eq (accounts : List AccountMeta) :
    accountMetas accounts = accounts := by
  have same (account : AccountMeta) :
      (if account.isWritable then
        (⟨account.pubkey, account.isSigner, true⟩ : AccountMeta)
      else ⟨account.pubkey, account.isSigner, false⟩) = account := by
    obtain ⟨pubkey, isSigner, isWritable⟩ := account
    cases isWritable <;> rfl
  simp only [accountMetas, same, List.map_id']

theorem descent_succ (depth levels : ℕ) :
    descent depth (levels + 1) =
      depthLine depth :: descent (depth - 1) levels := by
  rw [descent, List.range_succ_eq_map, List.map_cons, List.map_map]
  simp only [Nat.sub_zero, List.cons.injEq, true_and]
  apply List.map_congr_left
  intro level _
  exact congrArg depthLine (by simp; omega)

theorem ascent_succ (depth : ℕ) :
    ascent (depth + 1) = ascent depth ++ [returnedLine depth] := by
  rw [ascent, List.range_succ, List.map_append]
  rfl

/-- One level of a run. -/
theorem execute_cpiDepth_succ
    (isDepth : rules.programs programId = some cpiDepth)
    (height : ℕ) (data : Bytes) (world : World) :
    (rules.execute (height + 1) ⟨programId, data, accounts⟩).outcome world =
      if depthOf data = 0 then
        (.ok (),
          (world.withLogs
            [depthLine 0, "cpi-depth: reached bottom"]).returning
              (some (programId, bottom)))
      else if rules.mayCall accounts programId then
        match (rules.execute height
            ⟨programId, [UInt8.ofNat (depthOf data - 1)], accounts⟩).outcome
              ((world.withLogs [depthLine (depthOf data)]).returning none) with
        | (.ok (), after) =>
            (.ok (), after.withLogs [returnedLine (depthOf data - 1)])
        | (.error failure, after) => (.error failure, after)
      else
        (.error .missingAccount,
          (world.withLogs [depthLine (depthOf data)]).returning none) := by
  simp only [CallRules.execute, Execution.outcome_modify_bind, isDepth,
    cpiDepth, msg]
  by_cases atBottom : depthOf data = 0
  · rw [if_pos atBottom, if_pos atBottom, atBottom]
    simp only [Execution.outcome_modify_bind, World.withLogs,
      World.returning]
    rw [List.append_assoc]
    rfl
  · rw [if_neg atBottom, if_neg atBottom, Execution.outcome_bind,
      accountMetas_eq, Execution.outcome_check_bind]
    by_cases found : rules.mayCall accounts programId
    · rw [if_pos found, if_pos found, Execution.outcome_check_bind,
        if_pos (fun _ => List.mem_map_of_mem), Execution.outcome_check_bind,
        if_pos (grants_self accounts)]
      simp only [World.withLogs, World.returning]
      generalize Execution.outcome (rules.execute height _) _ = called
      obtain ⟨result, after⟩ := called
      cases result <;> rfl
    · rw [if_neg found, if_neg found]
      rfl

theorem depthOf_ofNat {depth : ℕ} (small : depth < 256) :
    depthOf [UInt8.ofNat depth] = depth := by
  simp [depthOf, Nat.mod_eq_of_lt small]

theorem depthOf_lt (data : Bytes) : depthOf data < 256 := by
  cases data with
  | nil => decide
  | cons byte _ => exact byte.toNat_lt

/-- A run comes to its outcome, from any world and with any room. -/
theorem execute_cpiDepth
    (isDepth : rules.programs programId = some cpiDepth)
    (height : ℕ) (data : Bytes) (world : World) :
    (rules.execute height ⟨programId, data, accounts⟩).outcome world =
      depthOutcome rules height ⟨programId, data, accounts⟩ world := by
  induction height generalizing data world with
  | zero => rfl
  | succ height inductionHypothesis =>
      rw [execute_cpiDepth_succ isDepth, inductionHypothesis]
      simp only [depthOutcome, Nat.succ_ne_zero, if_false]
      by_cases atBottom : depthOf data = 0
      · rw [if_pos atBottom, if_pos (.inl atBottom), atBottom]
        rfl
      rw [if_neg atBottom]
      have small : depthOf data - 1 < 256 := by
        have bounded := depthOf_lt data
        omega
      rw [depthOf_ofNat small]
      obtain ⟨depth, isSucc⟩ := Nat.exists_eq_succ_of_ne_zero atBottom
      rw [isSucc, Nat.succ_eq_add_one, Nat.add_sub_cancel]
      by_cases found : rules.mayCall accounts programId
      · simp only [found, true_and, if_true]
        by_cases room : depth + 1 < height + 1
        · have inner : depth = 0 ∨ depth < height := .inr (by omega)
          have nonzero : height ≠ 0 := by omega
          rw [if_neg nonzero, if_pos inner, if_pos (.inr room)]
          have lines :
              [depthLine (depth + 1)] ++
                    (descent depth (depth + 1) ++
                        ["cpi-depth: reached bottom"] ++ ascent depth) ++
                  [returnedLine depth] =
                descent (depth + 1) (depth + 1 + 1) ++
                  ["cpi-depth: reached bottom"] ++ ascent (depth + 1) := by
            rw [descent_succ (depth + 1), ascent_succ, Nat.add_sub_cancel]
            simp
          simp only [World.withLogs_withLogs, World.withLogs_returning,
            World.returning_returning, lines]
        · have below : ¬ (depth + 1 = 0 ∨ depth + 1 < height + 1) := by omega
          rw [if_neg below, descent_succ (depth + 1), Nat.add_sub_cancel]
          by_cases last : height = 0
          · rw [if_pos last, last]
            rfl
          · have deeper : ¬ (depth = 0 ∨ depth < height) := by omega
            rw [if_neg last, if_neg deeper]
            simp only [World.withLogs_withLogs, World.withLogs_returning,
              World.returning_returning, List.singleton_append]
      · simp [found]

theorem depthOutcome_ledger (height : ℕ) (instruction : Instruction)
    (world : World) :
    (depthOutcome rules height instruction world).2.ledger =
      world.ledger := by
  simp only [depthOutcome]
  split
  · rfl
  · split
    · rfl
    · split <;> rfl

/-- The transaction succeeds exactly when the stack has room for every level
and each finds the program, and the return data is then that of the bottom; it
never touches the ledger. -/
theorem processTransaction_cpiDepth
    (isDepth : rules.programs programId = some cpiDepth)
    (accounts : List AccountMeta) (data : Bytes) (ledger : Ledger) :
    let instruction : Instruction := ⟨programId, data, accounts⟩
    let start : World := { ledger, logs := [], returnData := none }
    let processed := rules.processTransaction instruction ledger
    processed = depthOutcome rules rules.stackHeight instruction start ∧
      processed.2.ledger = ledger ∧
      (processed.1 = .ok () ↔
        depthOf data < rules.stackHeight ∧
          (depthOf data = 0 ∨ rules.mayCall accounts programId)) := by
  intro instruction start processed
  have isOutcome :
      processed =
        depthOutcome rules rules.stackHeight instruction start := by
    have unchanged :
        (depthOutcome rules rules.stackHeight instruction start).2.ledger =
          ledger :=
      depthOutcome_ledger rules.stackHeight instruction start
    simp only [processed, CallRules.processTransaction, instruction,
      execute_cpiDepth isDepth]
    split
    · next world reached =>
        exact reached.symm
    · next failure world reached =>
        simp only [instruction, start, reached] at unchanged ⊢
        rw [← unchanged]
  refine ⟨isOutcome, ?_, ?_⟩
  · rw [isOutcome]
    exact depthOutcome_ledger rules.stackHeight instruction start
  · rw [isOutcome]
    simp only [depthOutcome, instruction]
    by_cases none : rules.stackHeight = 0
    · simp [none]
    · rw [if_neg none]
      split
      · next room =>
          simp only [true_iff]
          rcases room with atBottom | ⟨found, below⟩
          · exact ⟨by omega, .inl atBottom⟩
          · exact ⟨below, .inr found⟩
      · next noRoom =>
          have failed :
              ¬ (depthOf data < rules.stackHeight ∧
                (depthOf data = 0 ∨ rules.mayCall accounts programId)) := by
            rintro ⟨below, atBottom | found⟩
            · exact noRoom (.inl atBottom)
            · exact noRoom (.inr ⟨found, below⟩)
          simp only [failed, iff_false]
          split <;> exact nofun

end Runs

/-! Depth three on a stack of five. -/

def depthProgram : Pubkey := ⟨List.replicate 32 9, List.length_replicate⟩

def depthCaller : AccountMeta := ⟨systemProgram, true, false⟩

def depthRules : CallRules where
  programs _ := some cpiDepth
  stackHeight := 5
  mayCall _ _ := true

theorem processTransaction_depthThree :
    let processed :=
      depthRules.processTransaction ⟨depthProgram, [3], [depthCaller]⟩
        fun _ => ⟨systemProgram, 0, [], false⟩
    processed.1 = .ok () ∧
      processed.2.returnData = some (depthProgram, bottom) := by
  intro processed
  have isDepth : depthRules.programs depthProgram = some cpiDepth := rfl
  obtain ⟨isOutcome, _, succeeds⟩ :=
    processTransaction_cpiDepth isDepth [depthCaller] [3]
      fun _ => ⟨systemProgram, 0, [], false⟩
  refine ⟨succeeds.mpr ⟨by decide, .inr rfl⟩, ?_⟩
  exact congrArg (fun run => run.2.returnData) isOutcome

end KarstflowTests.Programs

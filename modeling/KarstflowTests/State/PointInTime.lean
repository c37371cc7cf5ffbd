import Mathlib.Algebra.BigOperators.Group.List.Basic
import Mathlib.Tactic.Ring
import KarstflowTests.Library.Machine
import KarstflowTests.State.Snapshot

/-!
# When a snapshot is a state of the ledger

`captureMachine` interleaves the reads of one `snapshot` with changes of what
its two clients are answered from.  A change is harmless when it leaves alone
everything that is still to be read, or when one client's ledger state then has
everything that is read already and everything that is not.  If all changes
are, and the call begins at a moment when one ledger state has everything, the
snapshot shows one ledger state of the call.
-/

namespace KarstflowTests.State

open KarstflowTests.Library KarstflowTests.Programs

/-! ## The call and the ledger -/

structure CaptureRun where
  views : Views
  phase : SnapshotPhase
  /-- the ledger states of the call so far, of either client -/
  seen : List Bank

inductive CaptureLabel where
  | change (views : Views)
  | read (clock : ℚ)
  | fail (exc : Exc)

def SnapshotPhase.isOver : SnapshotPhase → Bool
  | .returned _ => true
  | .raised _ => true
  | _ => false

def captureMachine (tracked : Tracked) (start : Views) :
    Machine CaptureRun CaptureLabel where
  initial := { views := start, phase := .epochInfo, seen := start.banks }
  step run label :=
    if run.phase.isOver then
      none
    else
      match label with
      | .change views =>
          some { run with views, seen := run.seen ++ views.banks }
      | .read clock =>
          some { run with phase := advance tracked run.views clock run.phase }
      | .fail exc => some { run with phase := .raised exc }

/-! ## The property -/

/-- Every field of the snapshot is that of the bank. -/
structure TakenFrom
    (tracked : Tracked) (bank : Bank) (snapshot : ValidatorSnapshot) :
    Prop where
  slot : snapshot.slot = bank.epochInfo.absoluteSlot
  blockHeight : snapshot.blockHeight = bank.epochInfo.blockHeight
  epoch : snapshot.epoch = bank.epochInfo.epoch
  transactionCount : snapshot.transactionCount = bank.transactionCount
  balances : snapshot.balances = tracked.mapValues bank.balance
  accounts : snapshot.accounts = tracked.mapValues bank.entry

/-- What a transfer makes of the balances. -/
structure Transfer
    (sender receiver : Pubkey) (amount fee : ℤ) (before after : Bank) :
    Prop where
  different : sender ≠ receiver
  pays : after.balance sender = before.balance sender - amount - fee
  receives : after.balance receiver = before.balance receiver + amount
  others :
    ∀ pubkey, pubkey ≠ sender → pubkey ≠ receiver →
      after.balance pubkey = before.balance pubkey

/-- The sum of a snapshot's balances. -/
def ValidatorSnapshot.totalBalance (snapshot : ValidatorSnapshot) : ℤ :=
  (snapshot.balances.entries.map Prod.snd).sum

/-- The sum of the balances of the tracked accounts. -/
def trackedTotal (tracked : Tracked) (bank : Bank) : ℤ :=
  (tracked.entries.map fun entry => bank.balance entry.2).sum

/-- The account is tracked under exactly one name. -/
def TrackedOnce (tracked : Tracked) (pubkey : Pubkey) : Prop :=
  (tracked.entries.map Prod.snd).count pubkey = 1

/-- The snapshot is a ledger state of the call; so its balances are the
lamports of its accounts, and a transfer between two tracked accounts changes
their sum by the fee at most. -/
structure PointInTime
    (tracked : Tracked) (seen : List Bank) (snapshot : ValidatorSnapshot) :
    Prop where
  taken : ∃ bank ∈ seen, TakenFrom tracked bank snapshot
  lamports :
    ∀ name entry, snapshot.accountOf name = some entry →
      snapshot.balanceOf name = entry.lamports
  conserved :
    ∀ sender receiver amount fee before,
      TrackedOnce tracked sender → TrackedOnce tracked receiver →
        (∀ bank ∈ seen,
          bank = before ∨ Transfer sender receiver amount fee before bank) →
        snapshot.totalBalance = trackedTotal tracked before ∨
          snapshot.totalBalance = trackedTotal tracked before - fee

section Taken

variable {tracked : Tracked} {bank : Bank} {snapshot : ValidatorSnapshot}

theorem TakenFrom.balanceOf_eq
    (taken : TakenFrom tracked bank snapshot) {name : String}
    {entry : AccountEntry} (present : snapshot.accountOf name = some entry) :
    snapshot.balanceOf name = entry.lamports := by
  rw [ValidatorSnapshot.accountOf, taken.accounts,
    OrderedDict.get?_mapValues] at present
  rw [ValidatorSnapshot.balanceOf, taken.balances, OrderedDict.get?_mapValues]
  cases address : tracked.get? name with
  | none =>
      rw [address] at present
      cases present
  | some pubkey =>
      rw [address] at present
      have isEntry : bank.entry pubkey = some entry := present
      rw [Option.map_some, Option.getD_some, Bank.balance, isEntry]
      rfl

theorem TakenFrom.totalBalance_eq (taken : TakenFrom tracked bank snapshot) :
    snapshot.totalBalance = trackedTotal tracked bank := by
  rw [ValidatorSnapshot.totalBalance, taken.balances, OrderedDict.mapValues,
    List.map_map]
  rfl

/-- How the sum over a list of addresses changes by a transfer. -/
theorem sum_balance_transfer
    {sender receiver : Pubkey} {amount fee : ℤ} {before after : Bank}
    (transfer : Transfer sender receiver amount fee before after)
    (pubkeys : List Pubkey) :
    (pubkeys.map after.balance).sum =
      (pubkeys.map before.balance).sum -
        pubkeys.count sender * (amount + fee) +
        pubkeys.count receiver * amount := by
  induction pubkeys with
  | nil => simp
  | cons pubkey pubkeys inductionHypothesis =>
      rw [List.map_cons, List.map_cons, List.sum_cons, List.sum_cons,
        inductionHypothesis, List.count_cons, List.count_cons]
      by_cases isSender : pubkey = sender
      · have notReceiver : pubkey ≠ receiver := by
          rw [isSender]
          exact transfer.different
        rw [isSender] at notReceiver ⊢
        simp only [beq_self_eq_true, if_true, beq_iff_eq, notReceiver, if_false,
          transfer.pays]
        push_cast
        ring
      · by_cases isReceiver : pubkey = receiver
        · rw [isReceiver] at isSender ⊢
          simp only [beq_self_eq_true, if_true, beq_iff_eq, isSender, if_false,
            transfer.receives]
          push_cast
          ring
        · simp only [beq_iff_eq, isSender, isReceiver, if_false,
            transfer.others pubkey isSender isReceiver]
          push_cast
          ring

theorem trackedTotal_transfer
    {sender receiver : Pubkey} {amount fee : ℤ} {before after : Bank}
    (senderOnce : TrackedOnce tracked sender)
    (receiverOnce : TrackedOnce tracked receiver)
    (transfer : Transfer sender receiver amount fee before after) :
    trackedTotal tracked after = trackedTotal tracked before - fee := by
  have sums :=
    sum_balance_transfer transfer (tracked.entries.map Prod.snd)
  rw [senderOnce, receiverOnce, List.map_map, List.map_map] at sums
  have total (bank : Bank) :
      trackedTotal tracked bank =
        (tracked.entries.map (bank.balance ∘ Prod.snd)).sum := rfl
  rw [total, total, sums]
  push_cast
  ring

theorem pointInTime_of_taken
    {seen : List Bank} (isSeen : bank ∈ seen)
    (taken : TakenFrom tracked bank snapshot) :
    PointInTime tracked seen snapshot where
  taken := ⟨bank, isSeen, taken⟩
  lamports := by
    intro name entry present
    exact taken.balanceOf_eq present
  conserved := by
    intro sender receiver amount fee before senderOnce receiverOnce onlyThis
    rw [taken.totalBalance_eq]
    rcases onlyThis bank isSeen with same | transfer
    · exact Or.inl (by rw [same])
    · exact Or.inr (trackedTotal_transfer senderOnce receiverOnce transfer)

end Taken

/-! ## What is read and what is still to be read -/

/-- The local variables hold what the bank has for the accounts listed. -/
structure LocalsMatch
    (bank : Bank) (locals : SnapshotLocals)
    (balancesDone accountsDone : List (String × Pubkey)) : Prop where
  epochInfo : locals.epochInfo = bank.epochInfo
  txCount : locals.txCount = bank.transactionCount
  balances :
    locals.balances.entries =
      balancesDone.map fun item => (item.1, bank.balance item.2)
  accounts :
    locals.accounts.entries =
      accountsDone.map fun item => (item.1, bank.entry item.2)

/-- Everything that is read already agrees with the bank. -/
def Matches (tracked : Tracked) (bank : Bank) : SnapshotPhase → Prop
  | .epochInfo => True
  | .transactionCount epochInfo => epochInfo = bank.epochInfo
  | .balance locals name pubkey rest =>
      ∃ done, tracked.entries = done ++ (name, pubkey) :: rest ∧
        LocalsMatch bank locals done done
  | .account locals name pubkey rest =>
      ∃ done, tracked.entries = done ++ (name, pubkey) :: rest ∧
        LocalsMatch bank locals (done ++ [(name, pubkey)]) done
  | .returned snapshot => TakenFrom tracked bank snapshot
  | .raised _ => True

def AgreeOnAccounts (first second : Bank) (items : List (String × Pubkey)) :
    Prop :=
  ∀ item ∈ items, first.entry item.2 = second.entry item.2

/-- Everything that is still to be read is the same in both views. -/
def AgreeAhead (tracked : Tracked) (first second : Views) :
    SnapshotPhase → Prop
  | .epochInfo =>
      first.rpc.epochInfo = second.rpc.epochInfo ∧
        first.rpc.transactionCount = second.rpc.transactionCount ∧
          AgreeOnAccounts first.solana second.solana tracked.entries
  | .transactionCount _ =>
      first.rpc.transactionCount = second.rpc.transactionCount ∧
        AgreeOnAccounts first.solana second.solana tracked.entries
  | .balance _ name pubkey rest =>
      AgreeOnAccounts first.solana second.solana ((name, pubkey) :: rest)
  | .account _ name pubkey rest =>
      AgreeOnAccounts first.solana second.solana ((name, pubkey) :: rest)
  | .returned _ => True
  | .raised _ => True

/-- The bank has everything that is read already, and everything that the two
clients have still to read. -/
structure HasAll
    (tracked : Tracked) (views : Views) (phase : SnapshotPhase)
    (bank : Bank) : Prop where
  read : Matches tracked bank phase
  ahead : AgreeAhead tracked (.both bank) views phase

/-- Before the first read every change is harmless; the first read is when one
client's bank has all that the call reads.  A later change leaves alone what
is still to be read, or makes one client's bank have everything. -/
def Harmless (tracked : Tracked) (run : CaptureRun) : CaptureLabel → Prop
  | .change views =>
      run.phase = .epochInfo ∨
        AgreeAhead tracked run.views views run.phase ∨
          ∃ bank ∈ views.banks, HasAll tracked views run.phase bank
  | .read _ =>
      run.phase = .epochInfo →
        ∃ bank ∈ run.views.banks, HasAll tracked run.views .epochInfo bank
  | .fail _ => True

/-! ## The invariant -/

/-- Once something is read, one ledger state of the call has everything that
is read already and everything that is not. -/
structure ShowsOneState (tracked : Tracked) (run : CaptureRun) : Prop where
  seen : run.views.banks ⊆ run.seen
  shown :
    run.phase = .epochInfo ∨
      ∃ bank ∈ run.seen, HasAll tracked run.views run.phase bank

section Invariant

variable {tracked : Tracked} {bank : Bank} {views : Views}

theorem agreeAhead_refl (tracked : Tracked) (views : Views)
    (phase : SnapshotPhase) : AgreeAhead tracked views views phase := by
  cases phase with
  | epochInfo => exact ⟨rfl, rfl, fun _ _ => rfl⟩
  | transactionCount epochInfo => exact ⟨rfl, fun _ _ => rfl⟩
  | balance locals name pubkey rest => exact fun _ _ => rfl
  | account locals name pubkey rest => exact fun _ _ => rfl
  | returned snapshot => exact trivial
  | raised exc => exact trivial

/-- Where both clients read one ledger state, it has everything as soon as it
has what is read already. -/
theorem hasAll_of_both
    {phase : SnapshotPhase} (read : Matches tracked bank phase) :
    ∃ other ∈ (Views.both bank).banks,
      HasAll tracked (.both bank) phase other :=
  ⟨bank, List.mem_cons_self, read, agreeAhead_refl tracked _ phase⟩

theorem AgreeOnAccounts.trans
    {first second third : Bank} {items : List (String × Pubkey)}
    (left : AgreeOnAccounts first second items)
    (right : AgreeOnAccounts second third items) :
    AgreeOnAccounts first third items := by
  intro item member
  exact (left item member).trans (right item member)

theorem AgreeAhead.trans
    {first second third : Views} {phase : SnapshotPhase}
    (left : AgreeAhead tracked first second phase)
    (right : AgreeAhead tracked second third phase) :
    AgreeAhead tracked first third phase := by
  cases phase with
  | epochInfo =>
      exact ⟨left.1.trans right.1, left.2.1.trans right.2.1,
        left.2.2.trans right.2.2⟩
  | transactionCount epochInfo =>
      exact ⟨left.1.trans right.1, left.2.trans right.2⟩
  | balance locals name pubkey rest =>
      exact AgreeOnAccounts.trans left right
  | account locals name pubkey rest =>
      exact AgreeOnAccounts.trans left right
  | returned snapshot => exact trivial
  | raised exc => exact trivial

/-- Entering the loop with the accounts listed done. -/
theorem loopHead_spec
    {locals : SnapshotLocals} {clock : ℚ}
    {done rest : List (String × Pubkey)}
    (split : tracked.entries = done ++ rest)
    (soFar : LocalsMatch bank locals done done)
    (ahead : AgreeOnAccounts bank views.solana rest) :
    HasAll tracked views (loopHead locals clock rest) bank := by
  cases rest with
  | nil =>
      rw [List.append_nil] at split
      refine ⟨?_, trivial⟩
      exact
        { slot := congrArg EpochInfo.absoluteSlot soFar.epochInfo
          blockHeight := congrArg EpochInfo.blockHeight soFar.epochInfo
          epoch := congrArg EpochInfo.epoch soFar.epochInfo
          transactionCount := soFar.txCount
          balances := by
            apply OrderedDict.eq_of_entries
            have balances := soFar.balances
            rwa [← split] at balances
          accounts := by
            apply OrderedDict.eq_of_entries
            have accounts := soFar.accounts
            rwa [← split] at accounts }
  | cons item rest => exact ⟨⟨done, split, soFar⟩, ahead⟩

/-- The next name is not among those that are done. -/
theorem not_mem_done
    {name : String} {pubkey : Pubkey} {done rest : List (String × Pubkey)}
    (split : tracked.entries = done ++ (name, pubkey) :: rest) :
    name ∉ done.map Prod.fst := by
  have distinct := tracked.distinct
  rw [split, List.map_append, List.map_cons] at distinct
  intro member
  exact List.disjoint_of_nodup_append distinct member List.mem_cons_self

theorem balance_eq_of_entry_eq
    {pubkey : Pubkey} {other : Bank}
    (same : bank.entry pubkey = other.entry pubkey) :
    other.balance pubkey = bank.balance pubkey := by
  rw [Bank.balance, Bank.balance, same]

/-- A read takes what the bank has. -/
theorem advance_spec
    {clock : ℚ} {phase : SnapshotPhase}
    (hasAll : HasAll tracked views phase bank) :
    HasAll tracked views (advance tracked views clock phase) bank := by
  obtain ⟨soFar, ahead⟩ := hasAll
  cases phase with
  | epochInfo => exact ⟨ahead.1.symm, ahead.2⟩
  | transactionCount epochInfo =>
      have nothingDone : tracked.entries = [] ++ tracked.entries := rfl
      apply loopHead_spec nothingDone _ ahead.2
      exact ⟨soFar, ahead.1.symm, rfl, rfl⟩
  | balance locals name pubkey rest =>
      obtain ⟨done, split, holds⟩ := soFar
      have isNew := not_mem_done split
      have same : bank.entry pubkey = views.solana.entry pubkey :=
        ahead (name, pubkey) List.mem_cons_self
      have absent : name ∉ locals.balances.entries.map Prod.fst := by
        rw [holds.balances, List.map_map]
        exact isNew
      refine ⟨⟨done, split, ?_⟩, ahead⟩
      exact
        { epochInfo := holds.epochInfo
          txCount := holds.txCount
          balances := by
            rw [OrderedDict.entries_set_of_not_mem _ absent, holds.balances,
              List.map_append, balance_eq_of_entry_eq same]
            rfl
          accounts := holds.accounts }
  | account locals name pubkey rest =>
      obtain ⟨done, split, holds⟩ := soFar
      have isNew := not_mem_done split
      have same : bank.entry pubkey = views.solana.entry pubkey :=
        ahead (name, pubkey) List.mem_cons_self
      have absent : name ∉ locals.accounts.entries.map Prod.fst := by
        rw [holds.accounts, List.map_map]
        exact isNew
      have splitNext : tracked.entries =
          (done ++ [(name, pubkey)]) ++ rest := by
        rw [split, List.append_assoc]
        rfl
      apply loopHead_spec splitNext
      · exact
          { epochInfo := holds.epochInfo
            txCount := holds.txCount
            balances := holds.balances
            accounts := by
              rw [OrderedDict.entries_set_of_not_mem _ absent, holds.accounts,
                List.map_append, ← same]
              rfl }
      · intro item member
        exact ahead item (List.mem_cons_of_mem _ member)
  | returned snapshot => exact ⟨soFar, ahead⟩
  | raised exc => exact ⟨soFar, ahead⟩

theorem showsOneState_step
    {start : Views} {run target : CaptureRun} {label : CaptureLabel}
    (holds : ShowsOneState tracked run)
    (harmless : Harmless tracked run label)
    (taken : (captureMachine tracked start).step run label = some target) :
    ShowsOneState tracked target := by
  obtain ⟨seen, shown⟩ := holds
  simp only [captureMachine] at taken
  split at taken
  · cases taken
  · cases label with
    | change changed =>
        cases taken
        refine ⟨List.subset_append_right _ _, ?_⟩
        rcases harmless with isFirst | leavesAhead | ⟨bank, isView, hasAll⟩
        · exact Or.inl isFirst
        · rcases shown with isFirst | ⟨bank, isSeen, soFar, ahead⟩
          · exact Or.inl isFirst
          · exact Or.inr
              ⟨bank, List.mem_append_left _ isSeen, soFar,
                ahead.trans leavesAhead⟩
        · exact Or.inr ⟨bank, List.mem_append_right _ isView, hasAll⟩
    | read clock =>
        cases taken
        refine ⟨seen, Or.inr ?_⟩
        rcases shown with isFirst | ⟨bank, isSeen, hasAll⟩
        · obtain ⟨bank, isView, hasAll⟩ := harmless isFirst
          rw [← isFirst] at hasAll
          exact ⟨bank, seen isView, advance_spec hasAll⟩
        · exact ⟨bank, isSeen, advance_spec hasAll⟩
    | fail exc =>
        cases taken
        refine ⟨seen, Or.inr ⟨run.views.rpc, seen List.mem_cons_self, ?_⟩⟩
        exact ⟨trivial, trivial⟩

theorem showsOneState_of_reachable
    {start : Views} {run : CaptureRun}
    (reached :
      (captureMachine tracked start).ReachableUnder (Harmless tracked) run) :
    ShowsOneState tracked run := by
  apply Machine.invariant_of_step _ _ reached
  · exact ⟨fun _ member => member, Or.inl rfl⟩
  · intro source target label _ holds harmless taken
    exact showsOneState_step holds harmless taken

end Invariant

/-- In a run whose changes and first read are all harmless, a snapshot that is
returned shows one ledger state of the call. -/
theorem pointInTime_of_reachable
    {tracked : Tracked} {start : Views} {run : CaptureRun}
    {snapshot : ValidatorSnapshot}
    (reached :
      (captureMachine tracked start).ReachableUnder (Harmless tracked) run)
    (returned : run.phase = .returned snapshot) :
    PointInTime tracked run.seen snapshot := by
  obtain ⟨_, isFirst | ⟨bank, isSeen, hasAll⟩⟩ :=
    showsOneState_of_reachable reached
  · rw [returned] at isFirst
    cases isFirst
  · have soFar := hasAll.read
    rw [returned] at soFar
    exact pointInTime_of_taken isSeen soFar

/-! ## A transfer during the call -/

def aliceKey : Pubkey := ⟨List.replicate 32 1, rfl⟩
def bobKey : Pubkey := ⟨List.replicate 32 2, rfl⟩
def systemKey : Pubkey := ⟨List.replicate 32 0, rfl⟩

def aliceAndBob : Tracked where
  entries := [("alice", aliceKey), ("bob", bobKey)]
  distinct := by decide

def bankOf (transactionCount : ℤ) (alice bob : ℕ) : Bank where
  epochInfo := ⟨7, 7, 0⟩
  transactionCount := transactionCount
  accounts := fun pubkey =>
    if pubkey = aliceKey then
      some ⟨systemKey, alice, [], false⟩
    else if pubkey = bobKey then
      some ⟨systemKey, bob, [], false⟩
    else
      none

def entryOf (lamports : ℤ) : Option AccountEntry :=
  some ⟨lamports, systemKey, false⟩

def snapshotOf (transactionCount alice bob : ℤ) : ValidatorSnapshot where
  slot := 7
  blockHeight := 7
  epoch := 0
  transactionCount := transactionCount
  balances := ⟨[("alice", alice), ("bob", bob)], by simp⟩
  accounts := ⟨[("alice", entryOf alice), ("bob", entryOf bob)], by simp⟩
  timestamp := 0

/-- Reads of two clients that see one ledger state. -/
theorem harmless_reads
    {tracked : Tracked} {start : Views} {bank : Bank} (count : ℕ)
    {run : CaptureRun} (same : run.views = .both bank) :
    (captureMachine tracked start).AllowedAlong (Harmless tracked) run
      (List.replicate count (.read 0)) := by
  induction count generalizing run with
  | zero => exact trivial
  | succ count inductionHypothesis =>
      constructor
      · intro _
        rw [same]
        exact hasAll_of_both trivial
      · intro next taken
        simp only [captureMachine] at taken
        split at taken
        · cases taken
        · cases taken
          exact inductionHypothesis same

/-- A transfer just before the first read. -/
theorem pointInTime_transferFirst :
    PointInTime aliceAndBob
      [bankOf 3 10 2, bankOf 3 10 2, bankOf 4 5 6, bankOf 4 5 6]
      (snapshotOf 4 5 6) := by
  let call := captureMachine aliceAndBob (.both (bankOf 3 10 2))
  let labels : List CaptureLabel :=
    .change (.both (bankOf 4 5 6)) :: List.replicate 6 (.read 0)
  have run :
      call.run call.initial labels =
        some
          { views := .both (bankOf 4 5 6)
            phase := .returned (snapshotOf 4 5 6)
            seen :=
              [bankOf 3 10 2, bankOf 3 10 2, bankOf 4 5 6,
                bankOf 4 5 6] } := rfl
  have permitted :
      call.AllowedAlong (Harmless aliceAndBob) call.initial labels := by
    refine ⟨Or.inl rfl, ?_⟩
    intro next taken
    cases taken
    exact harmless_reads 6 rfl
  have reached :=
    Machine.reachableUnder_of_run Machine.ReachableUnder.initial permitted run
  exact pointInTime_of_reachable reached rfl

theorem not_pointInTime_of_apart
    {tracked : Tracked} {seen : List Bank} {snapshot : ValidatorSnapshot}
    (apart :
      ∀ bank ∈ seen, snapshot.totalBalance ≠ trackedTotal tracked bank ∨
        snapshot.transactionCount ≠ bank.transactionCount) :
    ¬ PointInTime tracked seen snapshot := by
  intro pointInTime
  obtain ⟨bank, isSeen, taken⟩ := pointInTime.taken
  rcases apart bank isSeen with otherTotal | otherCount
  · exact otherTotal taken.totalBalance_eq
  · exact otherCount taken.transactionCount

/-- The transfer of 4 with fee 1 falls between the two accounts: the snapshot
shows 16 lamports, where the ledger had 12 and then 11.  If it is confirmed and
not yet finalized, its transaction is counted without its balances, though
nothing changes during the call. -/
theorem torn_by_transfer :
    (∃ run,
      (captureMachine aliceAndBob (.both (bankOf 3 10 2))).Reachable run ∧
        run.phase = .returned (snapshotOf 3 10 6) ∧
        ¬ PointInTime aliceAndBob run.seen (snapshotOf 3 10 6)) ∧
    ∃ run,
      (captureMachine aliceAndBob ⟨bankOf 4 5 6, bankOf 3 10 2⟩).run
          (captureMachine aliceAndBob
            ⟨bankOf 4 5 6, bankOf 3 10 2⟩).initial
          (List.replicate 6 (.read 0)) = some run ∧
        run.phase = .returned (snapshotOf 4 10 2) ∧
        ¬ PointInTime aliceAndBob run.seen (snapshotOf 4 10 2) := by
  have between :
      (captureMachine aliceAndBob (.both (bankOf 3 10 2))).run
          (captureMachine aliceAndBob (.both (bankOf 3 10 2))).initial
          (List.replicate 4 (.read 0) ++
            .change (.both (bankOf 4 5 6)) :: List.replicate 2 (.read 0)) =
        some
          { views := .both (bankOf 4 5 6)
            phase := .returned (snapshotOf 3 10 6)
            seen :=
              [bankOf 3 10 2, bankOf 3 10 2, bankOf 4 5 6,
                bankOf 4 5 6] } := rfl
  constructor
  · refine
      ⟨_, Machine.reachable_of_run Machine.ReachableUnder.initial between, rfl,
        not_pointInTime_of_apart ?_⟩
    intro bank isSeen
    simp only [List.mem_cons, List.not_mem_nil, or_false] at isSeen
    rcases isSeen with rfl | rfl | rfl | rfl <;> decide
  · refine ⟨_, rfl, rfl, not_pointInTime_of_apart ?_⟩
    intro bank isSeen
    rcases List.mem_pair.mp isSeen with rfl | rfl <;> decide

end KarstflowTests.State

import KarstflowTests.Python.Action
import KarstflowTests.State.PointInTime

/-!
# Histories of tracking and snapshots

A snapshot records names only.  `Capture` keeps beside it the tracked set of
that moment and the ledger states of the call, so that one can say which
address was observed under a name; the code keeps neither.
-/

namespace KarstflowTests.State

open KarstflowTests.Library KarstflowTests.Programs

/-! ## Tracking accounts -/

/-- What `track_account` accepts in the place of an address. -/
inductive AccountKey where
  | pubkey (pubkey : Pubkey)
  | text (text : String)

section Tracking

-- `Pubkey.from_string`
variable (fromString : String → Except Exc Pubkey)

def AccountKey.resolve : AccountKey → Except Exc Pubkey
  | .pubkey address => .ok address
  | .text shown => fromString shown

/-- Track an account by name for inclusion in snapshots. -/
def trackAccount (name : String) (key : AccountKey) : Action Tracked Unit := do
  let pubkey ← Action.ofExcept (key.resolve fromString)
  modify fun tracked => tracked.set name pubkey

/-- Track multiple accounts by name for inclusion in snapshots. -/
def trackAccounts (accounts : OrderedDict String AccountKey) :
    Action Tracked Unit :=
  accounts.entries.forM fun item => trackAccount fromString item.1 item.2

end Tracking

/-! ## Histories -/

/-- A snapshot with the tracked set it was taken under and the ledger states
of its call. -/
structure Capture where
  tracked : Tracked
  seen : List Bank
  snapshot : ValidatorSnapshot

structure CaptureHistory where
  tracked : Tracked
  captures : List Capture

inductive HistoryLabel where
  | trackAccount (name : String) (key : AccountKey)
  | trackAccounts (accounts : OrderedDict String AccountKey)
  /-- one whole call, with what the ledger does meanwhile -/
  | snapshot (start : Views) (reads : List CaptureLabel)

/-- What a snapshot call that is over leaves behind. -/
def CaptureHistory.close (history : CaptureHistory) (run : CaptureRun) :
    Option CaptureHistory :=
  match run.phase with
  | .returned snapshot =>
      some
        { history with
          captures :=
            history.captures ++ [⟨history.tracked, run.seen, snapshot⟩] }
  | .raised _ => some history
  | _ => none

def historyMachine (fromString : String → Except Exc Pubkey) :
    Machine CaptureHistory HistoryLabel where
  initial := { tracked := .empty, captures := [] }
  step history label :=
    match label with
    | .trackAccount name key =>
        let ended := (trackAccount fromString name key).run.run history.tracked
        some { history with tracked := ended.2 }
    | .trackAccounts accounts =>
        let ended := (trackAccounts fromString accounts).run.run history.tracked
        some { history with tracked := ended.2 }
    | .snapshot start reads =>
        let call := captureMachine history.tracked start
        (call.run call.initial reads).bind history.close

/-! ## The property -/

/-- The snapshot looked at the address under that name and noted `entry`. -/
structure Capture.ObservedAccount
    (capture : Capture) (name : String) (pubkey : Pubkey)
    (entry : Option AccountEntry) : Prop where
  tracked : capture.tracked.get? name = some pubkey
  noted : capture.snapshot.accounts.get? name = some entry
  read : ∃ bank ∈ capture.seen, entry = bank.entry pubkey

/-- The snapshot looked at the address under that name and noted `balance`. -/
structure Capture.ObservedBalance
    (capture : Capture) (name : String) (pubkey : Pubkey) (balance : ℤ) :
    Prop where
  tracked : capture.tracked.get? name = some pubkey
  noted : capture.snapshot.balances.get? name = some balance
  read : ∃ bank ∈ capture.seen, balance = bank.balance pubkey

/-- Whatever the difference says of a name was observed, both times at one
address. -/
structure FaithfulDiff (first second : Capture) : Prop where
  created :
    ∀ name ∈ (diff first.snapshot second.snapshot).accountsCreated,
      ∃ pubkey entry, first.ObservedAccount name pubkey none ∧
        second.ObservedAccount name pubkey (some entry)
  removed :
    ∀ name ∈ (diff first.snapshot second.snapshot).accountsRemoved,
      ∃ pubkey entry, first.ObservedAccount name pubkey (some entry) ∧
        second.ObservedAccount name pubkey none
  balanceChanges :
    ∀ name change,
      (diff first.snapshot second.snapshot).balanceChanges.get? name =
          some change →
        ∃ pubkey old new, first.ObservedBalance name pubkey old ∧
          second.ObservedBalance name pubkey new ∧ change = new - old

/-- A name whose tracking changed between the snapshots has one balance and
one existence in both, where an untracked name counts as absent with
balance 0. -/
def Comparable (first second : Capture) : Prop :=
  ∀ name, first.tracked.get? name ≠ second.tracked.get? name →
    first.snapshot.balanceOf name = second.snapshot.balanceOf name ∧
      ((first.snapshot.accountOf name).isSome ↔
        (second.snapshot.accountOf name).isSome)

/-! ## What the difference lists -/

section Diff

variable {before after : ValidatorSnapshot} {name : String}

theorem mem_appeared
    {absent present : ValidatorSnapshot} :
    name ∈ appeared absent present ↔
      (present.accountOf name).isSome ∧ (absent.accountOf name).isNone := by
  rw [appeared, List.mem_filter, Bool.and_eq_true]
  constructor
  · intro holds
    exact holds.2
  · intro holds
    refine ⟨?_, holds⟩
    rw [OrderedDict.mem_keys_iff_isSome]
    cases found : present.accounts.get? name with
    | none =>
        rw [ValidatorSnapshot.accountOf, found] at holds
        cases holds.1
    | some entry => rfl

/-- One name in the loop over the balances: it gets its own difference, and
no other name is touched. -/
theorem get?_foldl_changes
    (names : List String) (changes : OrderedDict String ℤ) :
    (names.foldl
        (fun changes name =>
          let old := before.balanceOf name
          let new := after.balanceOf name
          if old ≠ new then changes.set name (new - old) else changes)
        changes).get? name =
      if name ∈ names ∧ before.balanceOf name ≠ after.balanceOf name then
        some (after.balanceOf name - before.balanceOf name)
      else
        changes.get? name := by
  induction names generalizing changes with
  | nil => simp
  | cons first names inductionHypothesis =>
      rw [List.foldl_cons, inductionHypothesis]
      by_cases differs : before.balanceOf name ≠ after.balanceOf name
      · by_cases isFirst : name = first
        · subst isFirst
          simp [differs, OrderedDict.get?_set]
        · simp only [List.mem_cons, isFirst, false_or]
          by_cases firstDiffers :
              before.balanceOf first ≠ after.balanceOf first
          · simp [firstDiffers, OrderedDict.get?_set, isFirst]
          · simp [firstDiffers]
      · by_cases firstDiffers : before.balanceOf first ≠ after.balanceOf first
        · have isOther : name ≠ first := by
            rintro rfl
            exact differs firstDiffers
          simp [differs, firstDiffers, OrderedDict.get?_set, isOther]
        · simp [differs, firstDiffers]

theorem mem_balanceNames_of_ne
    (differs : before.balanceOf name ≠ after.balanceOf name) :
    name ∈ balanceNames before after := by
  rw [balanceNames, List.mem_append, List.mem_filter, decide_eq_true_eq]
  by_cases inBefore : name ∈ before.balances.keys
  · exact Or.inl inBefore
  · refine Or.inr ⟨?_, inBefore⟩
    by_contra inAfter
    apply differs
    rw [ValidatorSnapshot.balanceOf, ValidatorSnapshot.balanceOf,
      OrderedDict.get?_eq_none_of_not_mem inBefore,
      OrderedDict.get?_eq_none_of_not_mem inAfter]

theorem get?_balanceChanges :
    (balanceChanges before after).get? name =
      if before.balanceOf name ≠ after.balanceOf name then
        some (after.balanceOf name - before.balanceOf name)
      else
        none := by
  rw [balanceChanges, get?_foldl_changes, OrderedDict.get?_empty]
  by_cases differs : before.balanceOf name ≠ after.balanceOf name
  · rw [if_pos ⟨mem_balanceNames_of_ne differs, differs⟩, if_pos differs]
  · rw [if_neg (fun both => differs both.2), if_neg differs]

end Diff

/-! ## What a snapshot notes -/

/-- The dict has the names of the accounts listed, and for each what `read`
gave for its address in a ledger state of the call. -/
def Noted
    {Value : Type} (seen : List Bank) (read : Bank → Pubkey → Value)
    (done : List (String × Pubkey)) (dict : OrderedDict String Value) : Prop :=
  ∀ name,
    match done.lookup name with
    | none => dict.get? name = none
    | some pubkey => ∃ bank ∈ seen, dict.get? name = some (read bank pubkey)

/-- The dicts of the locals have the accounts that are done. -/
def NotedSoFar (tracked : Tracked) (seen : List Bank) : SnapshotPhase → Prop
  | .balance locals name pubkey rest =>
      ∃ done, tracked.entries = done ++ (name, pubkey) :: rest ∧
        Noted seen Bank.balance done locals.balances ∧
          Noted seen Bank.entry done locals.accounts
  | .account locals name pubkey rest =>
      ∃ done, tracked.entries = done ++ (name, pubkey) :: rest ∧
        Noted seen Bank.balance (done ++ [(name, pubkey)]) locals.balances ∧
          Noted seen Bank.entry done locals.accounts
  | .returned snapshot =>
      Noted seen Bank.balance tracked.entries snapshot.balances ∧
        Noted seen Bank.entry tracked.entries snapshot.accounts
  | _ => True

section Noting

variable {Value : Type} {read : Bank → Pubkey → Value}
variable {seen more : List Bank} {tracked : Tracked}

theorem Noted.mono
    {done : List (String × Pubkey)} {dict : OrderedDict String Value}
    (noted : Noted seen read done dict) (grows : seen ⊆ more) :
    Noted more read done dict := by
  intro name
  have here := noted name
  cases address : done.lookup name with
  | none =>
      rw [address] at here
      exact here
  | some pubkey =>
      rw [address] at here
      obtain ⟨bank, isSeen, found⟩ := here
      exact ⟨bank, grows isSeen, found⟩

theorem NotedSoFar.mono
    {phase : SnapshotPhase} (noted : NotedSoFar tracked seen phase)
    (grows : seen ⊆ more) : NotedSoFar tracked more phase := by
  cases phase with
  | epochInfo => exact trivial
  | transactionCount epochInfo => exact trivial
  | balance locals name pubkey rest =>
      obtain ⟨done, split, balances, accounts⟩ := noted
      exact ⟨done, split, balances.mono grows, accounts.mono grows⟩
  | account locals name pubkey rest =>
      obtain ⟨done, split, balances, accounts⟩ := noted
      exact ⟨done, split, balances.mono grows, accounts.mono grows⟩
  | returned snapshot => exact ⟨noted.1.mono grows, noted.2.mono grows⟩
  | raised exc => exact trivial

theorem noted_empty : Noted seen read [] .empty :=
  fun _ => rfl

theorem Noted.set
    {done : List (String × Pubkey)} {dict : OrderedDict String Value}
    {name : String} {pubkey : Pubkey} {bank : Bank}
    (noted : Noted seen read done dict) (isNew : name ∉ done.map Prod.fst)
    (isSeen : bank ∈ seen) :
    Noted seen read (done ++ [(name, pubkey)])
      (dict.set name (read bank pubkey)) := by
  intro other
  rw [List.lookup_append, lookup_cons_ite, OrderedDict.get?_set]
  by_cases isName : other = name
  · have notDone : done.lookup name = none := by
      rw [← Option.not_isSome_iff_eq_none, lookup_isSome_iff_mem_keys]
      exact isNew
    rw [isName, notDone, if_pos rfl]
    exact ⟨bank, isSeen, if_pos rfl⟩
  · have here := noted other
    rw [if_neg isName, List.lookup_nil, Option.or_none, if_neg isName]
    exact here

theorem noted_loopHead
    {locals : SnapshotLocals} {clock : ℚ}
    {done rest : List (String × Pubkey)}
    (split : tracked.entries = done ++ rest)
    (balances : Noted seen Bank.balance done locals.balances)
    (accounts : Noted seen Bank.entry done locals.accounts) :
    NotedSoFar tracked seen (loopHead locals clock rest) := by
  cases rest with
  | nil =>
      rw [List.append_nil] at split
      rw [← split] at balances accounts
      exact ⟨balances, accounts⟩
  | cons item rest => exact ⟨done, split, balances, accounts⟩

theorem noted_advance
    {views : Views} {clock : ℚ} {phase : SnapshotPhase}
    (noted : NotedSoFar tracked seen phase) (isSeen : views.solana ∈ seen) :
    NotedSoFar tracked seen (advance tracked views clock phase) := by
  cases phase with
  | epochInfo => exact trivial
  | transactionCount epochInfo =>
      have nothingDone : tracked.entries = [] ++ tracked.entries := rfl
      exact noted_loopHead nothingDone noted_empty noted_empty
  | balance locals name pubkey rest =>
      obtain ⟨done, split, balances, accounts⟩ := noted
      have isNew := not_mem_done split
      exact ⟨done, split, balances.set isNew isSeen, accounts⟩
  | account locals name pubkey rest =>
      obtain ⟨done, split, balances, accounts⟩ := noted
      have isNew := not_mem_done split
      have splitNext : tracked.entries =
          (done ++ [(name, pubkey)]) ++ rest := by
        rw [split, List.append_assoc]
        rfl
      exact noted_loopHead splitNext balances (accounts.set isNew isSeen)
  | returned snapshot => exact noted
  | raised exc => exact noted

theorem noted_of_reachable
    {start : Views} {run : CaptureRun}
    (reached : (captureMachine tracked start).Reachable run) :
    run.views.solana ∈ run.seen ∧ NotedSoFar tracked run.seen run.phase := by
  apply Machine.invariant_of_step _ _ reached
  · have isView : start.solana ∈ start.banks := by simp [Views.banks]
    exact ⟨isView, trivial⟩
  · intro source target label _ holds _ taken
    obtain ⟨isSeen, noted⟩ := holds
    simp only [captureMachine] at taken
    split at taken
    · cases taken
    · cases label with
      | change views =>
          cases taken
          have grows : source.seen ⊆ source.seen ++ views.banks :=
            List.subset_append_left source.seen views.banks
          have isView : views.solana ∈ views.banks := by simp [Views.banks]
          exact ⟨List.mem_append_right _ isView, noted.mono grows⟩
      | read clock =>
          cases taken
          exact ⟨isSeen, noted_advance noted isSeen⟩
      | fail exc =>
          cases taken
          exact ⟨isSeen, trivial⟩

end Noting

/-! ## The invariant of a history -/

/-- The snapshot notes the tracked names, each as it was at some moment of the
call. -/
structure Capture.Faithful (capture : Capture) : Prop where
  balances :
    Noted capture.seen Bank.balance capture.tracked.entries
      capture.snapshot.balances
  accounts :
    Noted capture.seen Bank.entry capture.tracked.entries
      capture.snapshot.accounts

theorem faithful_step
    {fromString : String → Except Exc Pubkey}
    {history target : CaptureHistory} {label : HistoryLabel}
    (faithful : ∀ capture ∈ history.captures, capture.Faithful)
    (taken : (historyMachine fromString).step history label = some target) :
    ∀ capture ∈ target.captures, capture.Faithful := by
  cases label with
  | trackAccount name key =>
      cases taken
      exact faithful
  | trackAccounts accounts =>
      cases taken
      exact faithful
  | snapshot start reads =>
      obtain ⟨run, evaluates, closes⟩ := Option.bind_eq_some_iff.mp taken
      have reached :=
        Machine.reachable_of_run Machine.ReachableUnder.initial evaluates
      have noted := (noted_of_reachable reached).2
      cases phase : run.phase with
      | returned snapshot =>
          simp only [CaptureHistory.close, phase, Option.some.injEq] at closes
          rw [phase] at noted
          subst closes
          intro capture member
          rcases List.mem_append.mp member with isEarlier | isNew
          · exact faithful capture isEarlier
          · rw [List.mem_singleton.mp isNew]
            exact ⟨noted.1, noted.2⟩
      | raised exc =>
          simp only [CaptureHistory.close, phase, Option.some.injEq] at closes
          subst closes
          exact faithful
      | _ => simp [CaptureHistory.close, phase] at closes

theorem faithful_of_reachable
    {fromString : String → Except Exc Pubkey} {history : CaptureHistory}
    (reached : (historyMachine fromString).Reachable history) :
    ∀ capture ∈ history.captures, capture.Faithful := by
  apply Machine.invariant_of_step _ _ reached
  · intro capture member
    cases member
  · intro source target label _ faithful _ taken
    exact faithful_step faithful taken

/-! ## When the difference is faithful -/

section Comparing

variable {capture first second : Capture} {name : String}

theorem Capture.Faithful.untracked
    (faithful : capture.Faithful)
    (untracked : capture.tracked.get? name = none) :
    capture.snapshot.balanceOf name = 0 ∧
      capture.snapshot.accountOf name = none := by
  have noBalance := faithful.balances name
  have noAccount := faithful.accounts name
  have notListed : capture.tracked.entries.lookup name = none := untracked
  rw [notListed] at noBalance noAccount
  simp only [ValidatorSnapshot.balanceOf, ValidatorSnapshot.accountOf,
    noBalance, noAccount, Option.getD_none, and_self]

theorem Capture.Faithful.observed
    (faithful : capture.Faithful) {pubkey : Pubkey}
    (tracked : capture.tracked.get? name = some pubkey) :
    capture.ObservedBalance name pubkey (capture.snapshot.balanceOf name) ∧
      capture.ObservedAccount name pubkey
        (capture.snapshot.accountOf name) := by
  have balance := faithful.balances name
  have account := faithful.accounts name
  have listed : capture.tracked.entries.lookup name = some pubkey := tracked
  rw [listed] at balance account
  obtain ⟨balanceBank, balanceSeen, balanceNoted⟩ := balance
  obtain ⟨accountBank, accountSeen, accountNoted⟩ := account
  have balanceOf :
      capture.snapshot.balanceOf name = balanceBank.balance pubkey := by
    rw [ValidatorSnapshot.balanceOf, balanceNoted, Option.getD_some]
  have accountOf :
      capture.snapshot.accountOf name = accountBank.entry pubkey := by
    rw [ValidatorSnapshot.accountOf, accountNoted, Option.getD_some]
  constructor
  · rw [balanceOf]
    exact ⟨tracked, balanceNoted, balanceBank, balanceSeen, rfl⟩
  · rw [accountOf]
    exact ⟨tracked, accountNoted, accountBank, accountSeen, rfl⟩

/-- A name that the two snapshots tell apart is tracked at one address in
both. -/
theorem Comparable.tracked
    (comparable : Comparable first second)
    (faithful : first.Faithful) (faithfulNext : second.Faithful)
    (differs :
      first.snapshot.balanceOf name ≠ second.snapshot.balanceOf name ∨
        ¬ ((first.snapshot.accountOf name).isSome ↔
          (second.snapshot.accountOf name).isSome)) :
    ∃ pubkey, first.tracked.get? name = some pubkey ∧
      second.tracked.get? name = some pubkey := by
  have same : first.tracked.get? name = second.tracked.get? name := by
    by_contra different
    obtain ⟨sameBalance, sameExistence⟩ := comparable name different
    rcases differs with balanceDiffers | existenceDiffers
    · exact balanceDiffers sameBalance
    · exact existenceDiffers sameExistence
  cases address : first.tracked.get? name with
  | some pubkey => exact ⟨pubkey, rfl, same ▸ address⟩
  | none =>
      obtain ⟨balance, account⟩ := faithful.untracked address
      obtain ⟨nextBalance, nextAccount⟩ :=
        faithfulNext.untracked (same ▸ address)
      rw [balance, account, nextBalance, nextAccount] at differs
      simp at differs

theorem Comparable.symm (comparable : Comparable first second) :
    Comparable second first := by
  intro name different
  obtain ⟨sameBalance, sameExistence⟩ := comparable name (Ne.symm different)
  exact ⟨sameBalance.symm, sameExistence.symm⟩

/-- An account that appears was observed, absent and then present. -/
theorem Comparable.observed_of_appeared
    (comparable : Comparable first second)
    (faithful : first.Faithful) (faithfulNext : second.Faithful)
    (listed : name ∈ appeared first.snapshot second.snapshot) :
    ∃ pubkey entry, first.ObservedAccount name pubkey none ∧
      second.ObservedAccount name pubkey (some entry) := by
  obtain ⟨present, absent⟩ := mem_appeared.mp listed
  obtain ⟨entry, found⟩ := Option.isSome_iff_exists.mp present
  have missing := Option.isNone_iff_eq_none.mp absent
  have differs :
      ¬ ((first.snapshot.accountOf name).isSome ↔
        (second.snapshot.accountOf name).isSome) := by
    simp [found, missing]
  obtain ⟨pubkey, tracked, trackedNext⟩ :=
    comparable.tracked faithful faithfulNext (Or.inr differs)
  have before := (faithful.observed tracked).2
  have after := (faithfulNext.observed trackedNext).2
  rw [missing] at before
  rw [found] at after
  exact ⟨pubkey, entry, before, after⟩

theorem Comparable.observed_of_change
    (comparable : Comparable first second)
    (faithful : first.Faithful) (faithfulNext : second.Faithful)
    {change : ℤ}
    (found :
      (balanceChanges first.snapshot second.snapshot).get? name =
        some change) :
    ∃ pubkey old new, first.ObservedBalance name pubkey old ∧
      second.ObservedBalance name pubkey new ∧ change = new - old := by
  rw [get?_balanceChanges] at found
  split at found
  · rename_i differs
    cases found
    obtain ⟨pubkey, tracked, trackedNext⟩ :=
      comparable.tracked faithful faithfulNext (Or.inl differs)
    exact
      ⟨pubkey, _, _, (faithful.observed tracked).1,
        (faithfulNext.observed trackedNext).1, rfl⟩
  · cases found

theorem FaithfulDiff.comparable (faithful : FaithfulDiff first second) :
    Comparable first second := by
  intro name different
  have notCreated :
      name ∉ appeared first.snapshot second.snapshot := by
    intro listed
    obtain ⟨pubkey, entry, absent, present⟩ := faithful.created name listed
    exact different (absent.tracked.trans present.tracked.symm)
  have notRemoved :
      name ∉ appeared second.snapshot first.snapshot := by
    intro listed
    obtain ⟨pubkey, entry, present, absent⟩ := faithful.removed name listed
    exact different (present.tracked.trans absent.tracked.symm)
  constructor
  · by_contra differs
    have found :
        (State.balanceChanges first.snapshot second.snapshot).get? name =
          some (second.snapshot.balanceOf name -
            first.snapshot.balanceOf name) := by
      rw [get?_balanceChanges, if_pos differs]
    obtain ⟨pubkey, old, new, before, after, _⟩ :=
      faithful.balanceChanges name _ found
    exact different (before.tracked.trans after.tracked.symm)
  · rw [mem_appeared] at notCreated notRemoved
    cases inFirst : first.snapshot.accountOf name <;>
      cases inSecond : second.snapshot.accountOf name <;>
        simp_all

end Comparing

/-- For any two snapshots of a history, the difference is faithful exactly when
they are comparable. -/
theorem faithfulDiff_iff_comparable
    {fromString : String → Except Exc Pubkey} {history : CaptureHistory}
    {first second : Capture}
    (reached : (historyMachine fromString).Reachable history)
    (isFirst : first ∈ history.captures)
    (isSecond : second ∈ history.captures) :
    FaithfulDiff first second ↔ Comparable first second := by
  have faithful := faithful_of_reachable reached first isFirst
  have faithfulNext := faithful_of_reachable reached second isSecond
  constructor
  · intro faithfulDiff
    exact faithfulDiff.comparable
  · intro comparable
    refine ⟨?_, ?_, ?_⟩
    · intro name listed
      exact comparable.observed_of_appeared faithful faithfulNext listed
    · intro name listed
      obtain ⟨pubkey, entry, absent, present⟩ :=
        comparable.symm.observed_of_appeared faithfulNext faithful listed
      exact ⟨pubkey, entry, present, absent⟩
    · intro name change found
      exact comparable.observed_of_change faithful faithfulNext found

/-! ## An account that is tracked later -/

def aliceOnly : Tracked where
  entries := [("alice", aliceKey)]
  distinct := by simp

/-- What a snapshot of the ledger `bankOf transactionCount alice 2` notes. -/
def aliceCapture (transactionCount : ℤ) (alice : ℕ) : Capture where
  tracked := aliceOnly
  seen := [bankOf transactionCount alice 2, bankOf transactionCount alice 2]
  snapshot :=
    { slot := 7
      blockHeight := 7
      epoch := 0
      transactionCount := transactionCount
      balances := ⟨[("alice", alice)], by simp⟩
      accounts := ⟨[("alice", entryOf alice)], by simp⟩ }

def untrackedCapture : Capture where
  tracked := .empty
  seen := [bankOf 3 10 2, bankOf 3 10 2]
  snapshot :=
    { slot := 7
      blockHeight := 7
      epoch := 0
      transactionCount := 3 }

/-- Takes no text for an address. -/
def noAddress (_ : String) : Except Exc Pubkey :=
  .error (.other "ValueError" "String is the wrong size")

/-- Two snapshots of the tracked account, before and after it has paid. -/
def alicePays : CaptureHistory where
  tracked := aliceOnly
  captures := [aliceCapture 3 10, aliceCapture 4 5]

theorem reachable_alicePays :
    (historyMachine noAddress).Reachable alicePays := by
  have run :
      (historyMachine noAddress).run (historyMachine noAddress).initial
          [.trackAccount "alice" (.pubkey aliceKey),
            .snapshot (.both (bankOf 3 10 2)) (List.replicate 4 (.read 0)),
            .snapshot (.both (bankOf 4 5 2)) (List.replicate 4 (.read 0))] =
        some alicePays := rfl
  exact Machine.reachable_of_run Machine.ReachableUnder.initial run

/-- Between the two snapshots of the tracked account its balance drops. -/
theorem faithfulDiff_alicePays :
    FaithfulDiff (aliceCapture 3 10) (aliceCapture 4 5) := by
  have isFirst : aliceCapture 3 10 ∈ alicePays.captures := by
    simp [alicePays]
  have isSecond : aliceCapture 4 5 ∈ alicePays.captures := by
    simp [alicePays]
  apply (faithfulDiff_iff_comparable reachable_alicePays isFirst
    isSecond).mpr
  intro name different
  exact absurd rfl different

/-- The account with its 10 lamports was there all along; the difference lists
it as created and funded. -/
theorem created_by_tracking :
    ∃ history,
      (historyMachine noAddress).Reachable history ∧
        untrackedCapture ∈ history.captures ∧
        aliceCapture 3 10 ∈ history.captures ∧
        (diff untrackedCapture.snapshot
          (aliceCapture 3 10).snapshot).accountsCreated = ["alice"] ∧
        (diff untrackedCapture.snapshot
          (aliceCapture 3 10).snapshot).balanceChanges.entries =
            [("alice", 10)] ∧
        ¬ FaithfulDiff untrackedCapture (aliceCapture 3 10) := by
  have run :
      (historyMachine noAddress).run (historyMachine noAddress).initial
          [.snapshot (.both (bankOf 3 10 2)) (List.replicate 2 (.read 0)),
            .trackAccount "alice" (.pubkey aliceKey),
            .snapshot (.both (bankOf 3 10 2)) (List.replicate 4 (.read 0))] =
        some
          { tracked := aliceOnly
            captures := [untrackedCapture, aliceCapture 3 10] } := rfl
  refine
    ⟨_, Machine.reachable_of_run Machine.ReachableUnder.initial run,
      List.mem_cons_self, by simp, by decide, by decide, ?_⟩
  intro faithful
  obtain ⟨pubkey, entry, absent, _⟩ :=
    faithful.created "alice" (by decide)
  cases absent.tracked

end KarstflowTests.State

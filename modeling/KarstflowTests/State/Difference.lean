import KarstflowTests.State.Tracking

/-!
# The difference of two snapshots as a difference

Going back negates every delta and exchanges the two account lists; going on
adds the deltas up, where a name that is not listed counts as 0.
`has_changes` looks at some fields of a difference only: `ComparedAgrees`
speaks of these and `RestAgrees` of the others.
-/

namespace KarstflowTests.State

open KarstflowTests.Library KarstflowTests.Programs

/-! ## The algebra of differences -/

/-- `balance_changes.get(name, 0)` -/
def StateDiff.balanceChange (diff : StateDiff) (name : String) : ℤ :=
  (diff.balanceChanges.get? name).getD 0

/-- The second difference undoes the first. -/
structure Reverses (there back : StateDiff) : Prop where
  slotDelta : back.slotDelta = -there.slotDelta
  blockHeightDelta : back.blockHeightDelta = -there.blockHeightDelta
  epochChanged : back.epochChanged = there.epochChanged
  txCountDelta : back.txCountDelta = -there.txCountDelta
  balanceChanges :
    ∀ name, back.balanceChanges.get? name =
      (there.balanceChanges.get? name).map fun change => -change
  accountsCreated : back.accountsCreated = there.accountsRemoved
  accountsRemoved : back.accountsRemoved = there.accountsCreated

/-- The third difference is made of the first and then the second. -/
structure Composes (first second both : StateDiff) : Prop where
  slotDelta : both.slotDelta = first.slotDelta + second.slotDelta
  blockHeightDelta :
    both.blockHeightDelta = first.blockHeightDelta + second.blockHeightDelta
  txCountDelta : both.txCountDelta = first.txCountDelta + second.txCountDelta
  balanceChange :
    ∀ name, both.balanceChange name =
      first.balanceChange name + second.balanceChange name
  listed :
    ∀ name, name ∈ both.balanceChanges.keys ↔
      first.balanceChange name + second.balanceChange name ≠ 0

section Algebra

variable (before between after : ValidatorSnapshot) (name : String)

theorem get?_balanceChanges_symm :
    (balanceChanges after before).get? name =
      ((balanceChanges before after).get? name).map fun change => -change := by
  rw [get?_balanceChanges, get?_balanceChanges]
  by_cases differs : before.balanceOf name ≠ after.balanceOf name
  · rw [if_pos differs, if_pos differs.symm, Option.map_some, neg_sub]
  · rw [if_neg differs, if_neg (fun other => differs (Ne.symm other)),
      Option.map_none]

/-- An unlisted name has the same balance on both sides, so that 0 is its
change too. -/
theorem balanceChange_diff :
    (diff before after).balanceChange name =
      after.balanceOf name - before.balanceOf name := by
  have found := @get?_balanceChanges before after name
  rw [StateDiff.balanceChange]
  by_cases differs : before.balanceOf name ≠ after.balanceOf name
  · rw [if_pos differs] at found
    rw [diff, found, Option.getD_some]
  · rw [if_neg differs] at found
    have same : before.balanceOf name = after.balanceOf name :=
      not_not.mp differs
    rw [diff, found, Option.getD_none, same, sub_self]

theorem mem_balanceChanges :
    name ∈ (diff before after).balanceChanges.keys ↔
      before.balanceOf name ≠ after.balanceOf name := by
  have found := @get?_balanceChanges before after name
  rw [OrderedDict.mem_keys_iff_isSome, diff, found]
  by_cases differs : before.balanceOf name ≠ after.balanceOf name
  · simp [differs]
  · simp [not_not.mp differs]

theorem reverses_diff :
    Reverses (diff before after) (diff after before) where
  slotDelta := (neg_sub after.slot before.slot).symm
  blockHeightDelta := (neg_sub after.blockHeight before.blockHeight).symm
  epochChanged := bne_comm
  txCountDelta :=
    (neg_sub after.transactionCount before.transactionCount).symm
  balanceChanges := get?_balanceChanges_symm before after
  accountsCreated := rfl
  accountsRemoved := rfl

theorem composes_diff :
    Composes (diff before between) (diff between after)
      (diff before after) where
  slotDelta := (sub_add_sub_cancel' _ _ _).symm
  blockHeightDelta := (sub_add_sub_cancel' _ _ _).symm
  txCountDelta := (sub_add_sub_cancel' _ _ _).symm
  balanceChange := by
    intro name
    rw [balanceChange_diff, balanceChange_diff, balanceChange_diff]
    exact (sub_add_sub_cancel' _ _ _).symm
  listed := by
    intro name
    rw [mem_balanceChanges, balanceChange_diff, balanceChange_diff,
      sub_add_sub_cancel', sub_ne_zero]
    exact ne_comm

end Algebra

/-- For any three snapshots, whatever names they hold. -/
theorem diff_isDifference (before between after : ValidatorSnapshot) :
    Reverses (diff before between) (diff between before) ∧
      Composes (diff before between) (diff between after)
        (diff before after) :=
  ⟨reverses_diff before between, composes_diff before between after⟩

/-! ## What the verdict overlooks -/

/-- The two snapshots are equal in everything but the timestamp. -/
structure AgreeButTimestamp (first second : ValidatorSnapshot) : Prop where
  slot : first.slot = second.slot
  blockHeight : first.blockHeight = second.blockHeight
  epoch : first.epoch = second.epoch
  transactionCount : first.transactionCount = second.transactionCount
  balances : ∀ name, first.balances.get? name = second.balances.get? name
  accounts : ∀ name, first.accounts.get? name = second.accounts.get? name

/-- What `has_changes` looks at is the same in the two snapshots. -/
structure ComparedAgrees (first second : ValidatorSnapshot) : Prop where
  slot : first.slot = second.slot
  transactionCount : first.transactionCount = second.transactionCount
  balances : ∀ name, first.balanceOf name = second.balanceOf name
  existence :
    ∀ name, (first.accountOf name).isSome = (second.accountOf name).isSome

/-- What `has_changes` does not look at is the same in the two snapshots. -/
structure RestAgrees (first second : ValidatorSnapshot) : Prop where
  blockHeight : first.blockHeight = second.blockHeight
  epoch : first.epoch = second.epoch
  entries : ∀ name, first.accountOf name = second.accountOf name

section Verdict

variable {before after : ValidatorSnapshot}

theorem balanceChanges_eq_nil_iff :
    (balanceChanges before after).entries = [] ↔
      ∀ name, before.balanceOf name = after.balanceOf name := by
  have listed :
      ∀ name, name ∈ (balanceChanges before after).keys ↔
        before.balanceOf name ≠ after.balanceOf name :=
    mem_balanceChanges before after
  constructor
  · intro empty name
    by_contra differs
    have member := (listed name).mpr differs
    rw [OrderedDict.keys, empty] at member
    cases member
  · intro same
    have noKeys : (balanceChanges before after).keys = [] := by
      rw [List.eq_nil_iff_forall_not_mem]
      intro name member
      exact (listed name).mp member (same name)
    exact List.map_eq_nil_iff.mp noKeys

theorem appeared_eq_nil_iff {absent present : ValidatorSnapshot} :
    appeared absent present = [] ↔
      ∀ name, (present.accountOf name).isSome →
        (absent.accountOf name).isSome := by
  rw [List.eq_nil_iff_forall_not_mem]
  constructor
  · intro none name isPresent
    by_contra isAbsent
    rw [Option.not_isSome_iff_eq_none, ← Option.isNone_iff_eq_none] at isAbsent
    exact none name (mem_appeared.mpr ⟨isPresent, isAbsent⟩)
  · intro carries name listed
    obtain ⟨isPresent, isAbsent⟩ := mem_appeared.mp listed
    have isThere := carries name isPresent
    rw [Option.isNone_iff_eq_none] at isAbsent
    rw [isAbsent] at isThere
    cases isThere

theorem hasChanges_eq_false_iff :
    (diff before after).hasChanges = false ↔ ComparedAgrees before after := by
  simp only [StateDiff.hasChanges, Bool.or_eq_false_iff, diff,
    bne_eq_false_iff_eq, sub_eq_zero, Bool.not_eq_false', List.isEmpty_iff,
    balanceChanges_eq_nil_iff, appeared_eq_nil_iff]
  constructor
  · rintro ⟨⟨⟨⟨slot, count⟩, balances⟩, notCreated⟩, notRemoved⟩
    refine ⟨slot.symm, count.symm, balances, ?_⟩
    intro name
    exact Bool.eq_iff_iff.mpr ⟨notRemoved name, notCreated name⟩
  · rintro ⟨slot, count, balances, existence⟩
    refine ⟨⟨⟨⟨slot.symm, count.symm⟩, balances⟩, ?_⟩, ?_⟩
    · intro name isPresent
      rw [existence name]
      exact isPresent
    · intro name isPresent
      rw [← existence name]
      exact isPresent

/-- The dicts of two snapshots of the same tracked accounts have the same
names, so that reading with a default loses nothing. -/
theorem get?_eq_of_getD_eq
    {Value : Type} {read : Bank → Pubkey → Value} {default : Value}
    {seen seenNext : List Bank} {tracked trackedNext : Tracked}
    {dict dictNext : OrderedDict String Value} {name : String}
    (noted : Noted seen read tracked.entries dict)
    (notedNext : Noted seenNext read trackedNext.entries dictNext)
    (sameTracked : tracked.get? name = trackedNext.get? name)
    (same :
      (dict.get? name).getD default = (dictNext.get? name).getD default) :
    dict.get? name = dictNext.get? name := by
  have here := noted name
  have there := notedNext name
  rw [show trackedNext.entries.lookup name = tracked.entries.lookup name from
    sameTracked.symm] at there
  cases address : tracked.entries.lookup name with
  | none =>
      rw [address] at here there
      rw [here, there]
  | some pubkey =>
      rw [address] at here there
      obtain ⟨bank, _, found⟩ := here
      obtain ⟨bankNext, _, foundNext⟩ := there
      rw [found, foundNext, Option.getD_some, Option.getD_some] at same
      rw [found, foundNext, same]

theorem agreeButTimestamp_iff
    {first second : Capture}
    (faithful : first.Faithful) (faithfulNext : second.Faithful)
    (sameTracked :
      ∀ name, first.tracked.get? name = second.tracked.get? name) :
    AgreeButTimestamp first.snapshot second.snapshot ↔
      ComparedAgrees first.snapshot second.snapshot ∧
        RestAgrees first.snapshot second.snapshot := by
  constructor
  · intro agree
    have sameEntry :
        ∀ name, first.snapshot.accountOf name =
          second.snapshot.accountOf name := by
      intro name
      rw [ValidatorSnapshot.accountOf, agree.accounts name]
      rfl
    refine
      ⟨⟨agree.slot, agree.transactionCount, ?_, ?_⟩,
        ⟨agree.blockHeight, agree.epoch, sameEntry⟩⟩
    · intro name
      rw [ValidatorSnapshot.balanceOf, agree.balances name]
      rfl
    · intro name
      rw [sameEntry name]
  · rintro ⟨compared, rest⟩
    refine
      ⟨compared.slot, rest.blockHeight, rest.epoch,
        compared.transactionCount, ?_, ?_⟩
    · intro name
      exact get?_eq_of_getD_eq faithful.balances faithfulNext.balances
        (sameTracked name) (compared.balances name)
    · intro name
      exact get?_eq_of_getD_eq faithful.accounts faithfulNext.accounts
        (sameTracked name) (rest.entries name)

end Verdict

/-- If nothing changed according to `has_changes`, nothing did. -/
def HasChangesComplete (first second : ValidatorSnapshot) : Prop :=
  (diff first second).hasChanges = false → AgreeButTimestamp first second

/-- For any two snapshots of a history with the same tracked accounts: that
nothing changed, as `has_changes` has it, is right exactly when what it does
not look at changed only together with something it does look at. -/
theorem hasChanges_complete_iff
    {fromString : String → Except Exc Pubkey} {history : CaptureHistory}
    {first second : Capture}
    (reached : (historyMachine fromString).Reachable history)
    (isFirst : first ∈ history.captures)
    (isSecond : second ∈ history.captures)
    (sameTracked :
      ∀ name, first.tracked.get? name = second.tracked.get? name) :
    HasChangesComplete first.snapshot second.snapshot ↔
      (ComparedAgrees first.snapshot second.snapshot →
        RestAgrees first.snapshot second.snapshot) := by
  have faithful := faithful_of_reachable reached first isFirst
  have faithfulNext := faithful_of_reachable reached second isSecond
  rw [HasChangesComplete, hasChanges_eq_false_iff,
    agreeButTimestamp_iff faithful faithfulNext sameTracked]
  constructor
  · intro complete compared
    exact (complete compared).2
  · intro rest compared
    exact ⟨compared, rest compared⟩

/-! ## An account that is given to a program -/

def newOwnerKey : Pubkey := ⟨List.replicate 32 3, rfl⟩

/-- The ledger of `bankOf 3 10 2` after a transaction, paid for at `bobKey`,
that assigned the first account to another program. -/
def assignedBank : Bank where
  epochInfo := ⟨7, 7, 0⟩
  transactionCount := 4
  accounts := fun pubkey =>
    if pubkey = aliceKey then
      some ⟨newOwnerKey, 10, [], false⟩
    else if pubkey = bobKey then
      some ⟨systemKey, 1, [], false⟩
    else
      none

/-- The transaction count was read before the transaction and the account
after it. -/
def assignedCapture : Capture where
  tracked := aliceOnly
  seen := [bankOf 3 10 2, bankOf 3 10 2, assignedBank, assignedBank]
  snapshot :=
    { (aliceCapture 3 10).snapshot with
      accounts := ⟨[("alice", some ⟨10, newOwnerKey, false⟩)], by simp⟩ }

/-- Between these two snapshots the balance changed as well. -/
theorem hasChanges_complete_alicePays :
    HasChangesComplete (aliceCapture 3 10).snapshot
      (aliceCapture 4 5).snapshot := by
  have isFirst : aliceCapture 3 10 ∈ alicePays.captures := by
    simp [alicePays]
  have isSecond : aliceCapture 4 5 ∈ alicePays.captures := by
    simp [alicePays]
  apply (hasChanges_complete_iff reachable_alicePays isFirst isSecond
    fun _ => rfl).mpr
  intro compared
  have sameCount := compared.transactionCount
  exact absurd sameCount (by decide)

/-- The owner of the tracked account changed; `has_changes` says that nothing
did. -/
theorem hasChanges_overlooks_owner :
    ∃ history,
      (historyMachine noAddress).Reachable history ∧
        aliceCapture 3 10 ∈ history.captures ∧
        assignedCapture ∈ history.captures ∧
        (aliceCapture 3 10).tracked = assignedCapture.tracked ∧
        (diff (aliceCapture 3 10).snapshot
          assignedCapture.snapshot).hasChanges = false ∧
        (aliceCapture 3 10).snapshot.accounts.get? "alice" ≠
          assignedCapture.snapshot.accounts.get? "alice" ∧
        ¬ HasChangesComplete (aliceCapture 3 10).snapshot
          assignedCapture.snapshot := by
  have run :
      (historyMachine noAddress).run (historyMachine noAddress).initial
          [.trackAccount "alice" (.pubkey aliceKey),
            .snapshot (.both (bankOf 3 10 2)) (List.replicate 4 (.read 0)),
            .snapshot (.both (bankOf 3 10 2))
              [.read 0, .read 0, .change (.both assignedBank), .read 0,
                .read 0]] =
        some
          { tracked := aliceOnly
            captures := [aliceCapture 3 10, assignedCapture] } := rfl
  have otherOwner :
      (aliceCapture 3 10).snapshot.accounts.get? "alice" ≠
        assignedCapture.snapshot.accounts.get? "alice" := by decide
  have unchanged :
      (diff (aliceCapture 3 10).snapshot
        assignedCapture.snapshot).hasChanges = false := by decide
  refine
    ⟨_, Machine.reachable_of_run Machine.ReachableUnder.initial run,
      List.mem_cons_self, by simp, rfl, unchanged, otherOwner, ?_⟩
  intro complete
  exact otherOwner ((complete unchanged).accounts "alice")

end KarstflowTests.State

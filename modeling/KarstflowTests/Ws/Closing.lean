import KarstflowTests.Ws.Registry

/-!
# Closing a client

`close` takes the registered subscriptions one by one: it sends an unsubscribe
request, waits for a message, and forgets the subscription whatever comes of
it.  Then it drops the connection.  Between two of its steps the server does
what it likes.
-/

namespace KarstflowTests.Ws

open KarstflowTests.Library

/-! ## What is registered -/

/-- Each registered id is kept as the object that `subscribe` returned, and
each registered method is that of a request. -/
structure Session.Recorded (session : Session) : Prop where
  objects :
    ∀ key subId, session.subIds.get? key = some subId →
      subId.asKey = .ok key
  present :
    ∀ key, (session.client.subscriptions.get? key).isSome →
      (session.subIds.get? key).isSome
  methods :
    ∀ key method, session.client.subscriptions.get? key = some method →
      ∃ request ∈ session.attempted, request.method = method
  waiting :
    ∀ request method, session.activity = .subscribing request method →
      ∃ sent ∈ session.attempted, sent.method = method

section Recorded

variable {session target : Session}

theorem Session.Recorded.keep
    (recorded : session.Recorded)
    (subscriptions :
      target.client.subscriptions = session.client.subscriptions)
    (subIds : target.subIds = session.subIds)
    (attempted : session.attempted ⊆ target.attempted)
    (waiting :
      ∀ request method, target.activity = .subscribing request method →
        ∃ sent ∈ target.attempted, sent.method = method) :
    target.Recorded where
  objects := subIds ▸ recorded.objects
  present := by
    rw [subscriptions, subIds]
    exact recorded.present
  methods := by
    intro key method found
    rw [subscriptions] at found
    obtain ⟨request, sent, same⟩ := recorded.methods key method found
    exact ⟨request, attempted sent, same⟩
  waiting := waiting

/-- Nothing changes but the connection. -/
theorem Session.Recorded.relink
    (recorded : session.Recorded) (link : Option Link) :
    ({ session with link := link } : Session).Recorded :=
  recorded.keep rfl rfl (List.Subset.refl _) recorded.waiting

/-- No more than the state of the connection changes. -/
theorem Session.loseUnlessTimeout_eq (session : Session) (exc : Exc) :
    ∃ link, link.isSome = session.link.isSome ∧
      session.loseUnlessTimeout exc = { session with link := link } := by
  simp only [Session.loseUnlessTimeout]
  split
  · exact ⟨session.link, rfl, rfl⟩
  · exact ⟨session.link.map Link.lose, Option.isSome_map, rfl⟩

theorem Session.Recorded.finish
    (recorded : session.Recorded) (result : CallResult) :
    (session.finish result).Recorded := by
  refine recorded.keep rfl rfl (List.Subset.refl _) ?_
  intro request method subscribing
  cases subscribing

theorem recorded_finishUnsubscribe
    {result : Bool} {continuation : Continuation}
    (recorded : session.Recorded) :
    (session.finishUnsubscribe result continuation).Recorded := by
  cases continuation with
  | finish => exact recorded.finish _
  | closeRest rest =>
      refine recorded.keep rfl rfl (List.Subset.refl _) ?_
      intro request method subscribing
      cases subscribing

theorem recorded_endUnsubscribe
    {key : PyKey} {continuation : Continuation} {received : Except Exc Json}
    (recorded : session.Recorded) :
    (session.endUnsubscribe key continuation received).Recorded := by
  apply recorded_finishUnsubscribe
  refine ⟨?_, ?_, ?_, recorded.waiting⟩
  · intro other subId found
    rw [OrderedDict.get?_erase] at found
    split at found
    · cases found
    · exact recorded.objects other subId found
  · intro other
    simp only [WsClient.forget, OrderedDict.get?_erase]
    split
    · intro absent
      cases absent
    · exact recorded.present other
  · intro other method found
    simp only [WsClient.forget, OrderedDict.get?_erase] at found
    split at found
    · cases found
    · exact recorded.methods other method found

/-- The request is noted before anything comes of it. -/
theorem recorded_attempt
    (recorded : session.Recorded) (asked : Request × WsClient)
    (same : asked.2.subscriptions = session.client.subscriptions) :
    (session.attempt asked).Recorded := by
  refine recorded.keep same rfl (List.subset_append_left _ _) ?_
  intro request method subscribing
  obtain ⟨sent, member, isMethod⟩ :=
    recorded.waiting request method subscribing
  exact ⟨sent, List.mem_append_left _ member, isMethod⟩

theorem recorded_callSubscribe
    {method : String} {params : Option (List Json)}
    {sending : Except Exc Unit} (recorded : session.Recorded) :
    (session.callSubscribe method params sending).Recorded := by
  simp only [Session.callSubscribe]
  split
  · exact recorded.finish _
  · have asked :=
      recorded_attempt recorded
        (session.client.subscribeRequest method params) rfl
    cases sending with
    | ok done =>
        refine asked.keep rfl rfl (List.Subset.refl _) ?_
        intro request other subscribing
        cases subscribing
        exact ⟨_, List.mem_append_right _ (List.mem_singleton_self _), rfl⟩
    | error exc => exact (asked.relink _).finish _

/-- A new id is filed under its own key. -/
theorem recorded_set
    {method : String} {subId : Json} {key : PyKey}
    (recorded : session.Recorded)
    (sent : ∃ request ∈ session.attempted, request.method = method)
    (filed : subId.asKey = .ok key) :
    ({ session with
        client :=
          { session.client with
            subscriptions := session.client.subscriptions.set key method }
        subIds := noteId session.subIds (.ok subId) } : Session).Recorded := by
  refine ⟨?_, ?_, ?_, recorded.waiting⟩
  · intro other kept found
    rw [get?_noteId filed] at found
    split at found
    · next same =>
        cases found
        subst same
        rcases absent : session.subIds.get? other with _ | old
        · exact filed
        · exact recorded.objects other old absent
    · exact recorded.objects other kept found
  · intro other present
    rw [get?_noteId filed]
    rw [OrderedDict.get?_set] at present
    split
    · rfl
    · next different =>
        rw [if_neg different] at present
        exact recorded.present other present
  · intro other stored found
    rw [OrderedDict.get?_set] at found
    split at found
    · cases found
      exact sent
    · exact recorded.methods other stored found

theorem recorded_finishSubscribe
    {method : String} {message : ServerMessage}
    (recorded : session.Recorded)
    (sent : ∃ request ∈ session.attempted, request.method = method) :
    (session.finishSubscribe method message).Recorded := by
  simp only [Session.finishSubscribe, WsClient.subscribed]
  apply Session.Recorded.finish
  rcases readSubscribed message.json with exc | subId
  · exact recorded.keep rfl rfl (List.Subset.refl _) recorded.waiting
  · rcases filed : subId.asKey with exc | key
    · simp only [bind, Except.bind, filed]
      exact recorded.keep rfl rfl (List.Subset.refl _) recorded.waiting
    · simp only [bind, Except.bind, pure, Except.pure, filed]
      exact recorded_set recorded sent filed

theorem recorded_callUnsubscribeItem
    {item : Registered} {continuation : Continuation}
    {sending : Except Exc Unit} (recorded : session.Recorded) :
    (session.callUnsubscribeItem item continuation sending).Recorded := by
  simp only [Session.callUnsubscribeItem]
  split
  · exact recorded_finishUnsubscribe recorded
  · have asked :=
      recorded_attempt recorded
        (session.client.unsubscribeRequest item.subId item.method) rfl
    cases sending with
    | ok done =>
        refine asked.keep rfl rfl (List.Subset.refl _) ?_
        intro request other subscribing
        cases subscribing
    | error exc => exact recorded_endUnsubscribe (asked.relink _)

theorem recorded_take
    {message : ServerMessage} (recorded : session.Recorded)
    (taken : session.take message = some target) : target.Recorded := by
  rcases of_take taken with
    ⟨request, method, subscribing, rfl⟩ | ⟨request, key, continuation, _, rfl⟩
  · exact recorded_finishSubscribe recorded
      (recorded.waiting request method subscribing)
  · exact recorded_endUnsubscribe recorded

theorem recorded_step
    {label : SessionLabel} (recorded : session.Recorded)
    (taken : session.step label = some target) : target.Recorded := by
  cases label with
  | connect outcome =>
      obtain ⟨_, rfl⟩ := of_onIdle taken
      cases outcome with
      | ok done => exact (recorded.relink _).finish _
      | error exc => exact recorded.finish _
  | subscribe method params sending =>
      obtain ⟨_, rfl⟩ := of_onIdle taken
      exact recorded_callSubscribe recorded
  | unsubscribe subscription sending =>
      obtain ⟨_, rfl⟩ := of_onIdle taken
      simp only [Session.callUnsubscribe]
      split
      · exact recorded.finish _
      · exact recorded_callUnsubscribeItem recorded
  | close =>
      obtain ⟨_, rfl⟩ := of_onIdle taken
      simp only [Session.callClose]
      split
      · exact recorded.finish _
      · refine recorded.keep rfl rfl (List.Subset.refl _) ?_
        intro request method subscribing
        cases subscribing
  | proceed sending =>
      obtain ⟨rest, _, rfl⟩ := of_proceed taken
      cases rest with
      | nil => exact (recorded.relink none).finish _
      | cons item rest => exact recorded_callUnsubscribeItem recorded
  | read =>
      obtain ⟨link, message, next, _, _, taken⟩ := of_receive taken
      exact recorded_take (recorded.relink _) taken
  | recvFails exc =>
      rcases of_recvFails taken with
        ⟨request, method, _, rfl⟩ | ⟨request, key, continuation, _, rfl⟩
      · exact (recorded.relink _).finish _
      · obtain ⟨link, -, relinked⟩ := session.loseUnlessTimeout_eq exc
        rw [relinked]
        exact recorded_endUnsubscribe (recorded.relink link)
  | recvNotification =>
      obtain ⟨link, message, next, _, _, taken⟩ := of_receive taken
      obtain ⟨_, rfl⟩ := of_onIdle taken
      exact recorded.relink _
  | reply body =>
      obtain ⟨link, next, _, _, rfl⟩ := of_onLink taken
      exact recorded.relink _
  | ignore =>
      obtain ⟨link, next, _, _, rfl⟩ := of_onLink taken
      exact recorded.relink _
  | notify notification =>
      obtain ⟨link, next, _, _, rfl⟩ := of_onLink taken
      exact recorded.relink _
  | drop subscription =>
      obtain ⟨link, next, _, _, rfl⟩ := of_onLink taken
      exact recorded.relink _
  | lose =>
      obtain ⟨link, next, _, _, rfl⟩ := of_onLink taken
      exact recorded.relink _

theorem recorded_of_reachable
    (reached : sessionMachine.Reachable session) : session.Recorded := by
  refine Machine.invariant_of_step ?_ ?_ reached
  · exact ⟨nofun, nofun, nofun, nofun⟩
  · intro source next label _ recorded _ taken
    exact recorded_step recorded (step_of_sessionMachine taken)

end Recorded

def Registered.entry (item : Registered) : PyKey × String :=
  (item.key, item.method)

theorem map_entry_registered (session : Session) :
    session.registered.map Registered.entry =
      session.client.subscriptions.entries := by
  simp [Session.registered, Registered.entry, Function.comp_def]

/-- The items are the registered ids, each once, with the objects that stand
for them and the methods of earlier requests. -/
structure RegisteredOnce (session : Session) : Prop where
  complete :
    ∀ key method,
      session.client.subscriptions.get? key = some method ↔
        ∃ item ∈ session.registered, item.key = key ∧ item.method = method
  distinct : (session.registered.map Registered.key).Nodup
  objects : ∀ item ∈ session.registered, item.subId.asKey = .ok item.key
  methods :
    ∀ item ∈ session.registered,
      ∃ request ∈ session.attempted, request.method = item.method

theorem Session.Recorded.registeredOnce
    {session : Session} (recorded : session.Recorded) :
    RegisteredOnce session where
  complete := by
    intro key method
    rw [OrderedDict.get?_eq_some_iff, ← map_entry_registered, List.mem_map]
    simp [Registered.entry]
  distinct := by
    have distinct := session.client.subscriptions.distinct
    rw [← map_entry_registered, List.map_map] at distinct
    exact distinct
  objects := by
    intro item member
    obtain ⟨entry, listed, rfl⟩ := List.mem_map.mp member
    have stored : session.client.subscriptions.get? entry.1 = some entry.2 :=
      OrderedDict.get?_eq_some_iff.mpr listed
    have present := recorded.present entry.1 (by rw [stored]; rfl)
    obtain ⟨subId, found⟩ := Option.isSome_iff_exists.mp present
    simp only [found, Option.getD_some]
    exact recorded.objects entry.1 subId found
  methods := by
    intro item member
    obtain ⟨entry, listed, rfl⟩ := List.mem_map.mp member
    exact recorded.methods entry.1 entry.2
      (OrderedDict.get?_eq_some_iff.mpr listed)

/-! ## The course of the call -/

/-- The name of a subscribe method without its `Subscribe`. -/
def subscriptionKinds : List String :=
  ["account", "logs", "program", "root", "signature", "slot", "slotsUpdates",
    "vote", "block"]

theorem unsubscribeMethod_kind :
    ∀ kind ∈ subscriptionKinds,
      unsubscribeMethod (kind ++ "Subscribe") = kind ++ "Unsubscribe" := by
  decide

/-- The request that gives up a registered subscription. -/
structure GivesUp (item : Registered) (request : Request) : Prop where
  params : request.params = some [item.subId]
  method : request.method = unsubscribeMethod item.method
  dual :
    ∀ kind ∈ subscriptionKinds, item.method = kind ++ "Subscribe" →
      request.method = kind ++ "Unsubscribe"

/-- One request for each of the items, in their order. -/
def Attempts (before session : Session) (items : List Registered) : Prop :=
  ∃ requests, session.attempted = before.attempted ++ requests ∧
    List.Forall₂ GivesUp items requests

/-- Where a call of `close` is. -/
inductive CloseStage (before session : Session) : Prop
  | turning (ended rest : List Registered)
      (split : before.registered = ended ++ rest)
      (attempts : Attempts before session ended)
      (connected : session.link.isSome)
      (results : session.results = before.results)
      (activity : session.activity = .closing rest)
      (left :
        session.client.subscriptions.entries = rest.map Registered.entry)
  | waiting (ended rest : List Registered) (item : Registered)
      (request : Request)
      (split : before.registered = ended ++ item :: rest)
      (attempts : Attempts before session (ended ++ [item]))
      (connected : session.link.isSome)
      (results : session.results = before.results)
      (activity :
        session.activity =
          .unsubscribing request item.key (.closeRest rest))
      (left :
        session.client.subscriptions.entries =
          (item :: rest).map Registered.entry)
  | drained
      (attempts : Attempts before session before.registered)
      (disconnected : session.link = none)
      (results : session.results = before.results ++ [.close])
      (activity : session.activity = .idle)
      (left : session.client.subscriptions.entries = [])

/-- The label begins a call. -/
def SessionLabel.startsCall : SessionLabel → Bool
  | .connect _ => true
  | .subscribe _ _ _ => true
  | .unsubscribe _ _ => true
  | .close => true
  | .recvNotification => true
  | _ => false

/-- The label goes on with the call under way. -/
def SessionLabel.continuesCall : SessionLabel → Bool
  | .proceed _ => true
  | .read => true
  | .recvFails _ => true
  | _ => false

/-- How many steps `close` has still to take, at most. -/
def Activity.closeSteps : Activity → ℕ
  | .closing rest => 2 * rest.length + 1
  | .unsubscribing _ _ (.closeRest rest) => 2 * rest.length + 2
  | _ => 0

section Course

variable {before session target : Session}

theorem Attempts.keep
    {items : List Registered} (attempts : Attempts before session items)
    (same : target.attempted = session.attempted) :
    Attempts before target items := by
  obtain ⟨requests, attempted, givesUp⟩ := attempts
  exact ⟨requests, same.trans attempted, givesUp⟩

/-- One more item is asked for. -/
theorem Attempts.snoc
    {items : List Registered} {item : Registered} {request : Request}
    (attempts : Attempts before session items) (givesUp : GivesUp item request)
    (noted : target.attempted = session.attempted ++ [request]) :
    Attempts before target (items ++ [item]) := by
  obtain ⟨requests, attempted, each⟩ := attempts
  refine ⟨requests ++ [request], ?_, ?_⟩
  · rw [noted, attempted, List.append_assoc]
  · exact List.rel_append each (.cons givesUp .nil)

theorem givesUp_unsubscribeRequest (client : WsClient) (item : Registered) :
    GivesUp item (client.unsubscribeRequest item.subId item.method).1 where
  params := rfl
  method := rfl
  dual := by
    intro kind known subscribed
    simp only [WsClient.unsubscribeRequest, subscribed]
    exact unsubscribeMethod_kind kind known

/-- An item is forgotten, whatever its request came to. -/
theorem turning_endUnsubscribe
    {ended rest : List Registered} {item : Registered}
    (received : Except Exc Json)
    (split : before.registered = ended ++ item :: rest)
    (attempts : Attempts before session (ended ++ [item]))
    (connected : session.link.isSome)
    (results : session.results = before.results)
    (left :
      session.client.subscriptions.entries =
        (item :: rest).map Registered.entry) :
    CloseStage before
      (session.endUnsubscribe item.key (.closeRest rest) received) := by
  apply CloseStage.turning (ended ++ [item]) rest
  · rw [split, List.append_assoc, List.singleton_append]
  · exact attempts.keep rfl
  · exact connected
  · exact results
  · rfl
  · exact OrderedDict.entries_erase_head left

theorem closeStage_proceed
    {ended rest : List Registered} (sending : Except Exc Unit)
    (split : before.registered = ended ++ rest)
    (attempts : Attempts before session ended)
    (connected : session.link.isSome)
    (results : session.results = before.results)
    (left :
      session.client.subscriptions.entries = rest.map Registered.entry) :
    CloseStage before (session.proceed sending rest) := by
  cases rest with
  | nil =>
      apply CloseStage.drained
      · rw [split, List.append_nil]
        exact attempts.keep rfl
      · rfl
      · simp [Session.proceed, Session.finish, results]
      · rfl
      · exact left
  | cons item rest =>
      obtain ⟨link, linked⟩ := Option.isSome_iff_exists.mp connected
      have asked :
          Attempts before
            (session.attempt
              (session.client.unsubscribeRequest item.subId item.method))
            (ended ++ [item]) :=
        attempts.snoc (givesUp_unsubscribeRequest session.client item) rfl
      simp only [Session.proceed, Session.callUnsubscribeItem, linked]
      cases sending with
      | ok done =>
          exact CloseStage.waiting ended rest item _ split (asked.keep rfl) rfl
            results rfl left
      | error exc =>
          exact turning_endUnsubscribe _ split (asked.keep rfl)
            (Option.isSome_map.trans connected) results left

/-- The connection may change under the call. -/
theorem closeStage_relink
    (stage : CloseStage before session) {link : Option Link}
    (same : link.isSome = session.link.isSome) :
    CloseStage before { session with link := link } := by
  cases stage with
  | turning ended rest split attempts connected results activity left =>
      exact CloseStage.turning ended rest split (attempts.keep rfl)
        (same.trans connected) results activity left
  | waiting ended rest item request split attempts connected results activity
      left =>
      exact CloseStage.waiting ended rest item request split
        (attempts.keep rfl) (same.trans connected) results activity left
  | drained attempts disconnected results activity left =>
      rw [disconnected, Option.isSome_none, Option.isSome_eq_false_iff,
        Option.isNone_iff_eq_none] at same
      exact CloseStage.drained (attempts.keep rfl) same results activity left

/-- The wait for the reply to a request of `close` is over. -/
def GaveUp (session target : Session) : Prop :=
  ∃ link request key rest received,
    link.isSome = session.link.isSome ∧
      session.activity = .unsubscribing request key (.closeRest rest) ∧
        target =
          ({ session with link := link } : Session).endUnsubscribe key
            (.closeRest rest) received

/-- What `close` may wait for. -/
theorem CloseStage.waits
    (stage : CloseStage before session) :
    (∀ request method, session.activity ≠ .subscribing request method) ∧
      ∀ request key continuation,
        session.activity = .unsubscribing request key continuation →
          ∃ rest, continuation = .closeRest rest := by
  cases stage with
  | turning ended rest split attempts connected results activity left =>
      simp [activity]
  | waiting ended rest item request split attempts connected results activity
      left =>
      simp [activity]
  | drained attempts disconnected results activity left =>
      simp [activity]

theorem gaveUp_of_take
    {message : ServerMessage} (stage : CloseStage before session)
    (taken : session.take message = some target) :
    GaveUp session target := by
  rcases of_take taken with
    ⟨request, method, subscribing, _⟩ |
    ⟨request, key, continuation, unsubscribing, ended⟩
  · exact absurd subscribing (stage.waits.1 request method)
  · obtain ⟨rest, rfl⟩ := stage.waits.2 request key continuation unsubscribing
    exact ⟨session.link, request, key, rest, _, rfl, unsubscribing, ended⟩

theorem gaveUp_of_recvFails
    {exc : Exc} (stage : CloseStage before session)
    (taken : session.recvFails exc = some target) :
    GaveUp session target := by
  rcases of_recvFails taken with
    ⟨request, method, subscribing, _⟩ |
    ⟨request, key, continuation, unsubscribing, ended⟩
  · exact absurd subscribing (stage.waits.1 request method)
  · obtain ⟨rest, rfl⟩ := stage.waits.2 request key continuation unsubscribing
    obtain ⟨link, same, relinked⟩ := session.loseUnlessTimeout_eq exc
    rw [relinked] at ended
    exact ⟨link, request, key, rest, _, same, unsubscribing, ended⟩

theorem closeStage_gaveUp
    (stage : CloseStage before session) (gaveUp : GaveUp session target) :
    CloseStage before target := by
  obtain ⟨link, request, key, rest, received, same, waiting, rfl⟩ := gaveUp
  cases stage with
  | turning ended others split attempts connected results activity left =>
      cases activity.symm.trans waiting
  | waiting ended others item asked split attempts connected results activity
      left =>
      cases activity.symm.trans waiting
      exact turning_endUnsubscribe _ split (attempts.keep rfl)
        (same.trans connected) results left
  | drained attempts disconnected results activity left =>
      cases activity.symm.trans waiting

theorem closeStage_step
    {label : SessionLabel} (stage : CloseStage before session)
    (continues : label.startsCall = false)
    (taken : session.step label = some target) :
    CloseStage before target := by
  cases label with
  | connect outcome => cases continues
  | subscribe method params sending => cases continues
  | unsubscribe subscription sending => cases continues
  | close => cases continues
  | recvNotification => cases continues
  | proceed sending =>
      obtain ⟨rest, closing, rfl⟩ := of_proceed taken
      cases stage with
      | turning ended others split attempts connected results activity left =>
          cases activity.symm.trans closing
          exact closeStage_proceed sending split attempts connected results
            left
      | waiting ended others item request split attempts connected results
          activity left =>
          cases activity.symm.trans closing
      | drained attempts disconnected results activity left =>
          cases activity.symm.trans closing
  | read =>
      obtain ⟨link, message, next, linked, _, taken⟩ := of_receive taken
      have relinked :
          CloseStage before { session with link := some next } :=
        closeStage_relink stage (Option.isSome_of_eq_some linked).symm
      exact closeStage_gaveUp relinked (gaveUp_of_take relinked taken)
  | recvFails exc =>
      exact closeStage_gaveUp stage (gaveUp_of_recvFails stage taken)
  | reply body =>
      obtain ⟨link, next, linked, _, rfl⟩ := of_onLink taken
      exact closeStage_relink stage (Option.isSome_of_eq_some linked).symm
  | ignore =>
      obtain ⟨link, next, linked, _, rfl⟩ := of_onLink taken
      exact closeStage_relink stage (Option.isSome_of_eq_some linked).symm
  | notify notification =>
      obtain ⟨link, next, linked, _, rfl⟩ := of_onLink taken
      exact closeStage_relink stage (Option.isSome_of_eq_some linked).symm
  | drop subscription =>
      obtain ⟨link, next, linked, _, rfl⟩ := of_onLink taken
      exact closeStage_relink stage (Option.isSome_of_eq_some linked).symm
  | lose =>
      obtain ⟨link, next, linked, _, rfl⟩ := of_onLink taken
      exact closeStage_relink stage (Option.isSome_of_eq_some linked).symm

theorem closeSteps_callUnsubscribeItem
    (item : Registered) (rest : List Registered)
    (sending : Except Exc Unit) :
    (session.callUnsubscribeItem item (.closeRest rest) sending
      ).activity.closeSteps ≤ 2 * rest.length + 2 := by
  simp only [Session.callUnsubscribeItem]
  split
  · exact Nat.le_succ _
  · cases sending with
    | ok done => exact le_rfl
    | error exc => exact Nat.le_succ _

theorem closeSteps_gaveUp (gaveUp : GaveUp session target) :
    1 + target.activity.closeSteps ≤ session.activity.closeSteps := by
  obtain ⟨link, request, key, rest, received, -, waiting, rfl⟩ := gaveUp
  rw [waiting, Nat.add_comm]
  exact le_rfl

/-- Each step of the call brings it nearer to its end. -/
theorem closeSteps_step
    {label : SessionLabel} (stage : CloseStage before session)
    (continues : label.startsCall = false)
    (taken : session.step label = some target) :
    (if label.continuesCall then 1 else 0) + target.activity.closeSteps ≤
      session.activity.closeSteps := by
  cases label with
  | connect outcome => cases continues
  | subscribe method params sending => cases continues
  | unsubscribe subscription sending => cases continues
  | close => cases continues
  | recvNotification => cases continues
  | proceed sending =>
      obtain ⟨rest, closing, rfl⟩ := of_proceed taken
      rw [closing]
      cases rest with
      | nil => exact le_rfl
      | cons item rest =>
          have fewer :
              (session.proceed sending (item :: rest)).activity.closeSteps ≤
                2 * rest.length + 2 :=
            closeSteps_callUnsubscribeItem item rest sending
          have atHead :
              (Activity.closing (item :: rest)).closeSteps =
                2 * (rest.length + 1) + 1 := rfl
          simp only [SessionLabel.continuesCall, if_true]
          omega
  | read =>
      obtain ⟨link, message, next, linked, _, taken⟩ := of_receive taken
      have relinked :
          CloseStage before { session with link := some next } :=
        closeStage_relink stage (Option.isSome_of_eq_some linked).symm
      have fewer := closeSteps_gaveUp (gaveUp_of_take relinked taken)
      exact fewer
  | recvFails exc =>
      exact closeSteps_gaveUp (gaveUp_of_recvFails stage taken)
  | reply body =>
      obtain ⟨link, next, linked, _, rfl⟩ := of_onLink taken
      exact (Nat.zero_add _).le
  | ignore =>
      obtain ⟨link, next, linked, _, rfl⟩ := of_onLink taken
      exact (Nat.zero_add _).le
  | notify notification =>
      obtain ⟨link, next, linked, _, rfl⟩ := of_onLink taken
      exact (Nat.zero_add _).le
  | drop subscription =>
      obtain ⟨link, next, linked, _, rfl⟩ := of_onLink taken
      exact (Nat.zero_add _).le
  | lose =>
      obtain ⟨link, next, linked, _, rfl⟩ := of_onLink taken
      exact (Nat.zero_add _).le

theorem callClose_of_connected (connected : before.link.isSome) :
    before.callClose =
      { before with activity := .closing before.registered } := by
  obtain ⟨link, linked⟩ := Option.isSome_iff_exists.mp connected
  rw [Session.callClose, linked]

/-- The call begins with all that is registered. -/
theorem closeStage_callClose (connected : before.link.isSome) :
    CloseStage before before.callClose := by
  rw [callClose_of_connected connected]
  apply CloseStage.turning [] before.registered
  · rfl
  · exact ⟨[], (List.append_nil _).symm, .nil⟩
  · exact connected
  · rfl
  · rfl
  · exact (map_entry_registered before).symm

end Course

/-! ## The end of the call -/

/-- The client as `close` leaves it. -/
structure Closed (before session : Session) : Prop where
  attempts : Attempts before session before.registered
  subscriptions : session.client.subscriptions.entries = []
  disconnected : session.link = none
  results : session.results = before.results ++ [.close]
  unsubscribe :
    ∀ subscription sending,
      session.step (.unsubscribe subscription sending) =
        some (session.finish (.unsubscribe false))
  again : session.step .close = some (session.finish .close)

/-- The call goes on: to the next turn of its loop, whatever `send` does, or
at the latest with the timeout of its `recv`. -/
def GoesOn (session : Session) : Prop :=
  (∀ sending, Uncancelled sending = true →
    (sessionMachine.step session (.proceed sending)).isSome) ∨
  ∀ exc, exc.isException = true →
    (sessionMachine.step session (.recvFails exc)).isSome

theorem closed_or_goesOn
    {before session : Session} (stage : CloseStage before session) :
    Closed before session ∨ GoesOn session := by
  cases stage with
  | turning ended rest split attempts connected results activity left =>
      right
      left
      intro sending uncancelled
      simp [sessionMachine, SessionLabel.uncancelled, uncancelled,
        Session.step, activity]
  | waiting ended rest item request split attempts connected results activity
      left =>
      right
      right
      intro exc isException
      simp [sessionMachine, SessionLabel.uncancelled, isException,
        Session.step, Session.recvFails, activity]
  | drained attempts disconnected results activity left =>
      left
      refine ⟨attempts, left, disconnected, results, ?_, ?_⟩
      · intro subscription sending
        have absent :
            session.client.subscriptions.get? (idKey subscription) = none := by
          rw [OrderedDict.get?, left, List.lookup_nil]
        simp [Session.step, Session.onIdle, activity,
          Session.callUnsubscribe, absent]
      · simp [Session.step, Session.onIdle, activity, Session.callClose,
          disconnected]

/-- A call of `close` and what the server does meanwhile. -/
structure ClosesOrderly (before session : Session)
    (labels : List SessionLabel) : Prop where
  registered : RegisteredOnce before
  steps :
    labels.countP SessionLabel.continuesCall ≤
      2 * before.registered.length + 1
  course : Closed before session ∨ GoesOn session

/-- `close` ends after at most two steps for each subscription and one more,
with one request for each of them, whatever the server and the connection do;
the client then has nothing left to give up. -/
theorem close_drains
    {before session : Session} {labels : List SessionLabel}
    (reached : sessionMachine.Reachable before)
    (connected : before.link.isSome)
    (continues : ∀ label ∈ labels, label.startsCall = false)
    (ran : sessionMachine.run before (.close :: labels) = some session) :
    ClosesOrderly before session labels := by
  obtain ⟨first, taken, ran⟩ := Option.bind_eq_some_iff.mp ran
  obtain ⟨_, rfl⟩ := of_onIdle (step_of_sessionMachine taken)
  have atCall := closeStage_callClose connected
  have preserved :
      ∀ {state next label}, label ∈ labels → CloseStage before state →
        sessionMachine.step state label = some next →
          CloseStage before next := by
    intro state next label member stage taken
    exact closeStage_step stage (continues label member)
      (step_of_sessionMachine taken)
  refine ⟨(recorded_of_reachable reached).registeredOnce, ?_, ?_⟩
  · have lowers :
        ∀ {state next label}, label ∈ labels → CloseStage before state →
          sessionMachine.step state label = some next →
            (if label.continuesCall then 1 else 0) +
              next.activity.closeSteps ≤ state.activity.closeSteps := by
      intro state next label member stage taken
      exact closeSteps_step stage (continues label member)
        (step_of_sessionMachine taken)
    have bounded :
        labels.countP SessionLabel.continuesCall +
            session.activity.closeSteps ≤
          before.callClose.activity.closeSteps :=
      @Machine.countP_add_measure_le _ _ sessionMachine (CloseStage before) _
        (fun state => state.activity.closeSteps) _ _ _ preserved lowers atCall
        ran
    have atMost :
        before.callClose.activity.closeSteps =
          2 * before.registered.length + 1 := by
      rw [callClose_of_connected connected]
      rfl
    omega
  · exact closed_or_goesOn (Machine.invariant_of_run preserved atCall ran)

/-- Three subscriptions. -/
def threeSubscriptions : List SessionLabel :=
  [.connect (.ok ()),
    .subscribe "slotSubscribe" none (.ok ()), .reply (.subscribed 5), .read,
    .subscribe "rootSubscribe" none (.ok ()), .reply (.subscribed 6), .read,
    .subscribe "voteSubscribe" none (.ok ()), .reply (.subscribed 7), .read]

/-- The first request is not answered, a slot comes in the place of the second
reply, and the third request is not sent, since the connection is lost. -/
def troubledClose : List SessionLabel :=
  [.proceed (.ok ()), .ignore, .recvFails (.timeoutError []),
    .proceed (.ok ()), .notify ⟨"slotNotification", 5, .null⟩, .read,
    .proceed (.error (.other "ConnectionClosedError" "no close frame")),
    .proceed (.ok ())]

theorem close_drains_troubled :
    ∃ before session,
      sessionMachine.run {} threeSubscriptions = some before ∧
        sessionMachine.run before (.close :: troubledClose) = some session ∧
          ClosesOrderly before session troubledClose ∧
            (session.attempted.drop 3).map Request.method =
              ["slotUnsubscribe", "rootUnsubscribe", "voteUnsubscribe"] := by
  refine ⟨_, _, rfl, rfl, ?_, rfl⟩
  apply close_drains
  · have opened :
        sessionMachine.run {} threeSubscriptions = some _ := rfl
    exact Machine.reachable_of_run .initial opened
  · rfl
  · decide
  · rfl

end KarstflowTests.Ws

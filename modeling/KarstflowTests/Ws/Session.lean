import KarstflowTests.Library.Machine
import KarstflowTests.Ws.Client

/-!
# A client over several connections

`connect`, `subscribe`, `unsubscribe`, `recv_notification` and `close` of one
client, one call at a time.  A connection is two FIFO channels and the
subscriptions that the server holds open on it.  The server answers or ignores
each request, sends notifications and ends subscriptions when it likes.  The
connection may be lost at any time, and then the server holds nothing open on
it; a `send` or `recv` that raises finds it lost, unless a `recv` has only
timed out.  No call is cancelled.
-/

namespace KarstflowTests.Ws

open KarstflowTests.Library

/-! ## The two ends of a connection -/

/-- What a request asks of the server. -/
inductive Errand where
  | subscribe (method : String)
  | unsubscribe (subId : Json)

/-- A request on its way. -/
structure Posted where
  request : Request
  errand : Errand

structure Link where
  /-- from the client to the server -/
  outgoing : List Posted := []
  /-- from the server to the client -/
  incoming : List ServerMessage := []
  /-- the open subscriptions of the server, with the methods that opened them -/
  opened : OrderedDict ℤ String := .empty
  /-- whether the client has noticed it or not -/
  lost : Bool := false

/-- Whether the server may reply in this way. -/
def Errand.fits (body : Reply) : Errand → Bool
  | .subscribe _ => body.subscribeOutcome.isSome
  | .unsubscribe _ => body.unsubscribeOutcome.isSome

/-- The open subscriptions after a reply. -/
def Errand.openedBy (opened : OrderedDict ℤ String) :
    Errand → Reply → OrderedDict ℤ String
  | .subscribe method, .subscribed subscription =>
      opened.set subscription method
  | .unsubscribe (.int subscription), .unsubscribed true =>
      opened.erase subscription
  | _, _ => opened

namespace Link

/-- What is sent over a lost connection reaches nobody. -/
def post (link : Link) (posted : Posted) : Link :=
  if link.lost then
    link
  else
    { link with outgoing := link.outgoing ++ [posted] }

/-- The server is gone; what has arrived from it can still be taken. -/
def lose (link : Link) : Link :=
  { link with outgoing := [], opened := .empty, lost := true }

/-- The server replies to the next request. -/
def reply (link : Link) (body : Reply) : Option Link :=
  match link.outgoing with
  | [] => none
  | posted :: rest =>
      if posted.errand.fits body then
        some
          { link with
            outgoing := rest
            incoming := link.incoming ++ [.reply posted.request.id body]
            opened := posted.errand.openedBy link.opened body }
      else
        none

/-- The server drops the next request. -/
def ignore (link : Link) : Option Link :=
  match link.outgoing with
  | [] => none
  | _ :: rest => some { link with outgoing := rest }

def notify (link : Link) (notification : Notification) : Option Link :=
  if (link.opened.get? notification.subscription).isSome then
    some
      { link with incoming := link.incoming ++ [.notification notification] }
  else
    none

/-- The server ends a subscription by itself, as that to a signature after its
notification. -/
def drop (link : Link) (subscription : ℤ) : Option Link :=
  if (link.opened.get? subscription).isSome then
    some { link with opened := link.opened.erase subscription }
  else
    none

/-- The client takes the next message. -/
def receive (link : Link) : Option (ServerMessage × Link) :=
  match link.incoming with
  | [] => none
  | message :: rest => some (message, { link with incoming := rest })

end Link

/-! ## The client and its calls -/

/-- An item of `_subscriptions`, with the object that is its key. -/
structure Registered where
  key : PyKey
  subId : Json
  method : String

/-- What follows an `_unsubscribe`: the return from `unsubscribe`, or the rest
of the loop of `close`. -/
inductive Continuation where
  | finish
  | closeRest (rest : List Registered)

inductive Activity where
  | idle
  /-- in the `recv` of `subscribe` -/
  | subscribing (request : Request) (method : String)
  /-- in the `recv` of `_unsubscribe` -/
  | unsubscribing (request : Request) (key : PyKey)
      (continuation : Continuation)
  /-- at the head of the loop of `close` -/
  | closing (rest : List Registered)

def Continuation.activity : Continuation → Activity
  | .finish => .idle
  | .closeRest rest => .closing rest

/-- What a call that is over returned or raised. -/
inductive CallResult where
  | connect (outcome : Except Exc Unit)
  | subscribe (outcome : Except Exc Json)
  | unsubscribe (result : Bool)
  | close

structure Session where
  client : WsClient := {}
  /-- the key objects of `_subscriptions` -/
  subIds : OrderedDict PyKey Json := .empty
  /-- `_conn` -/
  link : Option Link := none
  activity : Activity := .idle
  /-- the requests that the client tried to send -/
  attempted : List Request := []
  results : List CallResult := []

/-- The dict key of a subscription id. -/
def idKey (subscription : ℤ) : PyKey :=
  .number (.finite subscription)

/-- An assignment keeps the key object that is there. -/
def noteId (subIds : OrderedDict PyKey Json) (outcome : Except Exc Json) :
    OrderedDict PyKey Json :=
  match outcome with
  | .error _ => subIds
  | .ok subId =>
      match subId.asKey with
      | .error _ => subIds
      | .ok key =>
          if (subIds.get? key).isSome then subIds else subIds.set key subId

theorem get?_noteId
    {subId : Json} {key : PyKey} (filed : subId.asKey = .ok key)
    (subIds : OrderedDict PyKey Json) (other : PyKey) :
    (noteId subIds (.ok subId)).get? other =
      if other = key then
        some ((subIds.get? key).getD subId)
      else
        subIds.get? other := by
  simp only [noteId, filed]
  split
  · next present =>
      obtain ⟨kept, found⟩ := Option.isSome_iff_exists.mp present
      by_cases same : other = key
      · rw [if_pos same, same, found, Option.getD_some]
      · rw [if_neg same]
  · next absent =>
      rw [OrderedDict.get?_set]
      rw [Bool.not_eq_true, Option.isSome_eq_false_iff,
        Option.isNone_iff_eq_none] at absent
      rw [absent, Option.getD_none]

namespace Session

/-- `self._subscriptions.items()` -/
def registered (session : Session) : List Registered :=
  session.client.subscriptions.entries.map fun entry =>
    ⟨entry.1, (session.subIds.get? entry.1).getD .null, entry.2⟩

def finish (session : Session) (result : CallResult) : Session :=
  { session with
    activity := .idle
    results := session.results ++ [result] }

/-- The request has its id and goes to `send`. -/
def attempt (session : Session) (asked : Request × WsClient) : Session :=
  { session with
    client := asked.2
    attempted := session.attempted ++ [asked.1] }

def lose (session : Session) : Session :=
  { session with link := session.link.map Link.lose }

/-- A `recv` that raises anything but its timeout finds the connection lost. -/
def loseUnlessTimeout (session : Session) : Exc → Session
  | .timeoutError _ => session
  | _ => session.lose

def callConnect (session : Session) (outcome : Except Exc Unit) : Session :=
  match outcome with
  | .ok _ => { session with link := some {} }.finish (.connect outcome)
  | .error _ => session.finish (.connect outcome)

/-- `subscribe` up to its `recv`. -/
def callSubscribe (session : Session) (method : String)
    (params : Option (List Json)) (sending : Except Exc Unit) : Session :=
  match session.link with
  | none =>
      session.finish
        (.subscribe
          (.error
            (.other "AssertionError"
              "Not connected — call connect() first")))
  | some link =>
      let asked := session.client.subscribeRequest method params
      match sending with
      | .ok _ =>
          { session.attempt asked with
            link := some (link.post ⟨asked.1, .subscribe method⟩)
            activity := .subscribing asked.1 method }
      | .error exc =>
          (session.attempt asked).lose.finish (.subscribe (.error exc))

/-- `subscribe` from its `recv` on. -/
def finishSubscribe (session : Session) (method : String)
    (message : ServerMessage) : Session :=
  let (outcome, client) := session.client.subscribed method message.json
  { session with client, subIds := noteId session.subIds outcome }.finish
    (.subscribe outcome)

def finishUnsubscribe (session : Session) (result : Bool) :
    Continuation → Session
  | .finish => session.finish (.unsubscribe result)
  | .closeRest rest => { session with activity := .closing rest }

/-- `_unsubscribe` after its `try` block, on what `recv` yields or what was
raised in its place. -/
def endUnsubscribe (session : Session) (key : PyKey)
    (continuation : Continuation) (received : Except Exc Json) : Session :=
  { session with
    client := session.client.forget key
    subIds := session.subIds.erase key }.finishUnsubscribe
      (readUnsubscribed received) continuation

/-- `_unsubscribe` up to its `recv`. -/
def callUnsubscribeItem (session : Session) (item : Registered)
    (continuation : Continuation) (sending : Except Exc Unit) : Session :=
  match session.link with
  | none => session.finishUnsubscribe false continuation
  | some link =>
      let asked := session.client.unsubscribeRequest item.subId item.method
      match sending with
      | .ok _ =>
          { session.attempt asked with
            link := some (link.post ⟨asked.1, .unsubscribe item.subId⟩)
            activity := .unsubscribing asked.1 item.key continuation }
      | .error exc =>
          (session.attempt asked).lose.endUnsubscribe item.key continuation
            (.error exc)

def callUnsubscribe (session : Session) (subscription : ℤ)
    (sending : Except Exc Unit) : Session :=
  match session.client.subscriptions.get? (idKey subscription) with
  | none => session.finish (.unsubscribe false)
  | some method =>
      session.callUnsubscribeItem
        ⟨idKey subscription, .int subscription, method⟩ .finish sending

/-- `close` up to the head of its loop. -/
def callClose (session : Session) : Session :=
  match session.link with
  | none => session.finish .close
  | some _ => { session with activity := .closing session.registered }

/-- `close` from the head of its loop on. -/
def proceed (session : Session) (sending : Except Exc Unit) :
    List Registered → Session
  | [] => { session with link := none }.finish .close
  | item :: rest =>
      session.callUnsubscribeItem item (.closeRest rest) sending

/-- The call under way takes a message. -/
def take (session : Session) (message : ServerMessage) : Option Session :=
  match session.activity with
  | .subscribing _ method => some (session.finishSubscribe method message)
  | .unsubscribing _ key continuation =>
      some (session.endUnsubscribe key continuation (.ok message.json))
  | _ => none

/-- The `recv` of the call under way raises; only that of `_unsubscribe` has a
timeout. -/
def recvFails (session : Session) (exc : Exc) : Option Session :=
  match session.activity with
  | .subscribing _ _ => some (session.lose.finish (.subscribe (.error exc)))
  | .unsubscribing _ key continuation =>
      some
        ((session.loseUnlessTimeout exc).endUnsubscribe key continuation
          (.error exc))
  | _ => none

/-- A step of the server, or of the channels. -/
def onLink (session : Session) (change : Link → Option Link) :
    Option Session :=
  (session.link.bind change).map fun link =>
    { session with link := some link }

end Session

/-! ## The machine -/

inductive SessionLabel where
  | connect (outcome : Except Exc Unit)
  | subscribe (method : String) (params : Option (List Json))
      (sending : Except Exc Unit)
  | unsubscribe (subscription : ℤ) (sending : Except Exc Unit)
  | close
  /-- the next turn of the loop of `close` -/
  | proceed (sending : Except Exc Unit)
  /-- the call under way takes the next message -/
  | read
  /-- the `recv` of the call under way times out or fails -/
  | recvFails (exc : Exc)
  /-- `recv_notification` takes the next message -/
  | recvNotification
  /-- the server replies to the next request -/
  | reply (body : Reply)
  /-- the server drops the next request -/
  | ignore
  | notify (notification : Notification)
  /-- the server ends a subscription by itself -/
  | drop (subscription : ℤ)
  /-- the connection is lost -/
  | lose

/-- The outcome is no cancellation. -/
def Uncancelled : Except Exc Unit → Bool
  | .ok _ => true
  | .error exc => exc.isException

/-- Nothing cancels the call. -/
def SessionLabel.uncancelled : SessionLabel → Bool
  | .connect outcome => Uncancelled outcome
  | .subscribe _ _ sending => Uncancelled sending
  | .unsubscribe _ sending => Uncancelled sending
  | .proceed sending => Uncancelled sending
  | .recvFails exc => exc.isException
  | _ => true

def Session.onIdle (session target : Session) : Option Session :=
  match session.activity with
  | .idle => some target
  | _ => none

def Session.step (session : Session) : SessionLabel → Option Session
  | .connect outcome => session.onIdle (session.callConnect outcome)
  | .subscribe method params sending =>
      session.onIdle (session.callSubscribe method params sending)
  | .unsubscribe subscription sending =>
      session.onIdle (session.callUnsubscribe subscription sending)
  | .close => session.onIdle session.callClose
  | .proceed sending =>
      match session.activity with
      | .closing rest => some (session.proceed sending rest)
      | _ => none
  | .read =>
      (session.link.bind Link.receive).bind fun received =>
        { session with link := some received.2 }.take received.1
  | .recvFails exc => session.recvFails exc
  | .recvNotification =>
      (session.link.bind Link.receive).bind fun received =>
        session.onIdle { session with link := some received.2 }
  | .reply body => session.onLink fun link => link.reply body
  | .ignore => session.onLink Link.ignore
  | .notify notification =>
      session.onLink fun link => link.notify notification
  | .drop subscription => session.onLink fun link => link.drop subscription
  | .lose => session.onLink fun link => some link.lose

def sessionMachine : Machine Session SessionLabel where
  initial := {}
  step session label :=
    if label.uncancelled then session.step label else none

end KarstflowTests.Ws

import KarstflowTests.Library.OrderedDict
import KarstflowTests.Python.Exception

/-!
# The WebSocket client

`WsClient` sends a request and takes the next message of the connection for
its reply; `recv_notification` takes the next message for a notification.
Neither looks at the `id` of what it reads.

The second part evaluates the readers on the messages of a server: the replies
and the notifications of the JSON-RPC PubSub interface.
-/

namespace KarstflowTests.Ws

open KarstflowTests.Library

/-! ## Requests -/

/-- Map subscribe methods to their unsubscribe counterparts. -/
def unsubscribeMap : List (String × String) :=
  [("accountSubscribe", "accountUnsubscribe"),
    ("logsSubscribe", "logsUnsubscribe"),
    ("programSubscribe", "programUnsubscribe"),
    ("rootSubscribe", "rootUnsubscribe"),
    ("signatureSubscribe", "signatureUnsubscribe"),
    ("slotSubscribe", "slotUnsubscribe"),
    ("slotsUpdatesSubscribe", "slotsUpdatesUnsubscribe"),
    ("voteSubscribe", "voteUnsubscribe"),
    ("blockSubscribe", "blockUnsubscribe")]

/-- The counterpart from the map, or else with `Subscribe` replaced. -/
def unsubscribeMethod (subscribeMethod : String) : String :=
  match unsubscribeMap.lookup subscribeMethod with
  | some method => method
  | none => subscribeMethod.replace "Subscribe" "Unsubscribe"

structure Request where
  id : ℕ
  method : String
  params : Option (List Json)

def Request.json (request : Request) : Json :=
  .obj
    ([("jsonrpc", .str "2.0"), ("id", .int request.id),
        ("method", .str request.method)] ++
      match request.params with
      | some params => [("params", .arr params)]
      | none => [])

/-! ## The client -/

structure WsClient where
  requestId : ℕ := 0
  /-- `_subscriptions`, from subscription ids to subscribe methods -/
  subscriptions : OrderedDict PyKey String := .empty

/-- `subscribe` up to its `recv`, without the payload it sends. -/
def readSubscribed (response : Json) : Except Exc Json := do
  if ← response.contains "error" then
    let code ← (← response.getItem "error").getItem "code"
    let message ← (← response.getItem "error").getItem "message"
    throw (.wsError code message)
  response.getItem "result"

/-- The `try` block of `_unsubscribe`, on what `recv` yields within its
timeout. -/
def readUnsubscribed (received : Except Exc Json) : Bool :=
  match received >>= fun response => response.get "result" (.bool false) with
  | .ok result => result.truthy
  | .error _ => false

/-- `recv_notification` on the message that it receives. -/
def readNotification (message : Json) : Except Exc Json :=
  message.getItem "params"

namespace WsClient

/-- The payload of `subscribe`. -/
def subscribeRequest (client : WsClient) (method : String)
    (params : Option (List Json)) : Request × WsClient :=
  let id := client.requestId + 1
  (⟨id, method, params⟩, { client with requestId := id })

/-- The payload of `_unsubscribe`. -/
def unsubscribeRequest (client : WsClient) (subscription : Json)
    (method : String) : Request × WsClient :=
  let id := client.requestId + 1
  (⟨id, unsubscribeMethod method, some [subscription]⟩,
    { client with requestId := id })

/-- `subscribe` from its `recv` on. -/
def subscribed (client : WsClient) (method : String) (response : Json) :
    Except Exc Json × WsClient :=
  let registered := do
    let subId ← readSubscribed response
    return (subId, ← subId.asKey)
  match registered with
  | .ok (subId, key) =>
      (.ok subId,
        { client with subscriptions := client.subscriptions.set key method })
  | .error exc => (.error exc, client)

/-- `self._subscriptions.pop(sub_id, None)` -/
def forget (client : WsClient) (key : PyKey) : WsClient :=
  { client with subscriptions := client.subscriptions.erase key }

@[simp]
theorem requestId_subscribed
    (client : WsClient) (method : String) (response : Json) :
    (client.subscribed method response).2.requestId = client.requestId := by
  simp only [subscribed]
  split <;> rfl

end WsClient

/-! ## Messages of the server -/

/-- A reply: a subscription id, an acknowledgement or an error. -/
inductive Reply where
  | subscribed (subscription : ℤ)
  | unsubscribed (acknowledged : Bool)
  | failed (code : ℤ) (message : String)
  deriving DecidableEq

structure Notification where
  method : String
  subscription : ℤ
  result : Json
  deriving DecidableEq

inductive ServerMessage where
  | reply (id : ℕ) (body : Reply)
  | notification (notification : Notification)
  deriving DecidableEq

def Reply.json : Reply → String × Json
  | .subscribed subscription => ("result", .int subscription)
  | .unsubscribed acknowledged => ("result", .bool acknowledged)
  | .failed code message =>
      ("error", .obj [("code", .int code), ("message", .str message)])

def Notification.params (notification : Notification) : Json :=
  .obj
    [("result", notification.result),
      ("subscription", .int notification.subscription)]

def ServerMessage.json : ServerMessage → Json
  | .reply id body =>
      .obj [("jsonrpc", .str "2.0"), body.json, ("id", .int id)]
  | .notification notice =>
      .obj
        [("jsonrpc", .str "2.0"), ("method", .str notice.method),
          ("params", notice.params)]

/-! ## What the readers make of a message -/

/-- What `subscribe` should do with its reply. -/
def Reply.subscribeOutcome : Reply → Option (Except Exc Json)
  | .subscribed subscription => some (.ok (.int subscription))
  | .failed code message =>
      some (.error (.wsError (.int code) (.str message)))
  | .unsubscribed _ => none

/-- What `_unsubscribe` should return on its reply. -/
def Reply.unsubscribeOutcome : Reply → Option Bool
  | .unsubscribed acknowledged => some acknowledged
  | .failed _ _ => some false
  | .subscribed _ => none

theorem subscribed_reply
    {client : WsClient} {method : String} {id : ℕ} {body : Reply}
    {outcome : Except Exc Json}
    (expected : body.subscribeOutcome = some outcome) :
    (client.subscribed method (ServerMessage.reply id body).json).1 =
      outcome := by
  cases body with
  | subscribed subscription =>
      cases expected
      rfl
  | failed code message =>
      cases expected
      rfl
  | unsubscribed acknowledged => cases expected

theorem readUnsubscribed_reply
    {id : ℕ} {body : Reply} {acknowledged : Bool}
    (expected : body.unsubscribeOutcome = some acknowledged) :
    readUnsubscribed (.ok (ServerMessage.reply id body).json) =
      acknowledged := by
  cases body with
  | subscribed subscription => cases expected
  | failed code message =>
      cases expected
      rfl
  | unsubscribed result =>
      cases expected
      rfl

/-- An acknowledgement is a reply to an unsubscribe request. -/
theorem unsubscribeOutcome_eq_true_iff {body : Reply} :
    body.unsubscribeOutcome = some true ↔ body = .unsubscribed true := by
  cases body <;> simp [Reply.unsubscribeOutcome]

theorem readNotification_notification (notification : Notification) :
    readNotification (ServerMessage.notification notification).json =
      .ok notification.params :=
  rfl

end KarstflowTests.Ws

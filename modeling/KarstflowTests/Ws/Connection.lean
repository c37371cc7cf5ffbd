import Mathlib.Data.List.Infix
import KarstflowTests.Library.Machine
import KarstflowTests.Ws.Client

/-!
# One connection

A client makes one call at a time on a connection of two FIFO channels.  The
server takes the requests in order and replies to them or ignores them; between
its replies it sends notifications for open subscriptions at any time.
`connectionMachine` runs all interleavings and keeps the history of both
sides; `Move` lists what one step can do.
-/

namespace KarstflowTests.Ws

open KarstflowTests.Library

/-! ## The parties -/

/-- What a request is about. -/
inductive Purpose where
  | subscribe (method : String)
  | unsubscribe (subscription : ℤ)
  deriving DecidableEq

/-- A request on its way. -/
structure Sent where
  request : Request
  purpose : Purpose

/-- What the client is doing: nothing, waiting for a reply, or receiving
notifications, with those collected so far and the number of those to come
after the next one. -/
inductive Control where
  | idle
  | awaiting (sent : Sent)
  | receiving (collected : List Json) (remaining : ℕ)

/-- A finished call and what it returned or raised; an `unsubscribe` that sent
nothing has no id. -/
inductive FinishedCall where
  | subscribe (id : ℕ) (outcome : Except Exc Json)
  | unsubscribe (id : Option ℕ) (result : Bool)
  deriving DecidableEq

def FinishedCall.id : FinishedCall → Option ℕ
  | subscribe id _ => some id
  | unsubscribe id _ => id

structure Connection where
  client : WsClient := {}
  control : Control := .idle
  /-- from the client to the server -/
  outgoing : List Sent := []
  /-- from the server to the client -/
  incoming : List ServerMessage := []
  /-- the open subscriptions of the server -/
  opened : List ℤ := []
  /-- every reply that the server sent, with the id of its request -/
  replies : List (ℕ × Reply) := []
  /-- every notification that the server sent -/
  notified : List Notification := []
  /-- the `subscribe` and `unsubscribe` calls that are over -/
  finished : List FinishedCall := []
  /-- the notifications that `recv_notification(s)` returned -/
  delivered : List Json := []
  /-- the messages that `recv_notification(s)` took off the stream -/
  taken : List ServerMessage := []

/-! ## Steps of the client -/

namespace Connection

def ask (connection : Connection) (asked : Request × WsClient)
    (purpose : Purpose) : Connection :=
  { connection with
    client := asked.2
    control := .awaiting ⟨asked.1, purpose⟩
    outgoing := connection.outgoing ++ [⟨asked.1, purpose⟩] }

def callSubscribe (connection : Connection) (method : String)
    (params : Option (List Json)) : Connection :=
  connection.ask (connection.client.subscribeRequest method params)
    (.subscribe method)

/-- `unsubscribe` of an id that is not registered returns `False` at once. -/
def callUnsubscribe (connection : Connection) (subscription : ℤ) :
    Connection :=
  match connection.client.subscriptions.get?
      (.number (.finite subscription)) with
  | some method =>
      connection.ask
        (connection.client.unsubscribeRequest (.int subscription) method)
        (.unsubscribe subscription)
  | none =>
      { connection with
        finished := connection.finished ++ [.unsubscribe none false] }

/-- `recv_notifications(count)`; `recv_notification` is the case of one. -/
def callReceive (connection : Connection) : ℕ → Connection
  | 0 => connection
  | remaining + 1 =>
      { connection with control := .receiving [] remaining }

def finishSubscribe (connection : Connection) (id : ℕ) (method : String)
    (message : ServerMessage) : Connection :=
  let (outcome, client) := connection.client.subscribed method message.json
  { connection with
    client
    control := .idle
    finished := connection.finished ++ [.subscribe id outcome] }

def finishUnsubscribe (connection : Connection) (id : ℕ)
    (subscription : ℤ) (received : Except Exc Json) : Connection :=
  { connection with
    client := connection.client.forget (.number (.finite subscription))
    control := .idle
    finished :=
      connection.finished ++
        [.unsubscribe (some id) (readUnsubscribed received)] }

/-- A message for `recv_notifications`; an exception drops what it has
collected. -/
def receive (connection : Connection) (collected : List Json)
    (remaining : ℕ) (message : ServerMessage) : Connection :=
  let connection :=
    { connection with taken := connection.taken ++ [message] }
  match readNotification message.json, remaining with
  | .error _, _ => { connection with control := .idle }
  | .ok params, 0 =>
      { connection with
        control := .idle
        delivered := connection.delivered ++ (collected ++ [params]) }
  | .ok params, remaining + 1 =>
      { connection with
        control := .receiving (collected ++ [params]) remaining }

/-- The call under way takes the next message. -/
def take (connection : Connection) (message : ServerMessage) :
    Option Connection :=
  match connection.control with
  | .idle => none
  | .awaiting ⟨request, .subscribe method⟩ =>
      some (connection.finishSubscribe request.id method message)
  | .awaiting ⟨request, .unsubscribe subscription⟩ =>
      some
        (connection.finishUnsubscribe request.id subscription
          (.ok message.json))
  | .receiving collected remaining =>
      some (connection.receive collected remaining message)

/-- The `wait_for` of the call under way times out; `subscribe` has none. -/
def timeOut (connection : Connection) : Option Connection :=
  match connection.control with
  | .awaiting ⟨request, .unsubscribe subscription⟩ =>
      some
        (connection.finishUnsubscribe request.id subscription
          (.error (.timeoutError [])))
  | .receiving _ _ => some { connection with control := .idle }
  | _ => none

/-! ## Steps of the server -/

def Fits (purpose : Purpose) (body : Reply) : Bool :=
  match purpose with
  | .subscribe _ => body.subscribeOutcome.isSome
  | .unsubscribe _ => body.unsubscribeOutcome.isSome

/-- The open subscriptions after a reply. -/
def openedBy (opened : List ℤ) (purpose : Purpose) (body : Reply) :
    List ℤ :=
  match purpose, body with
  | .subscribe _, .subscribed subscription => opened ++ [subscription]
  | .unsubscribe subscription, .unsubscribed true =>
      opened.filter (· ≠ subscription)
  | _, _ => opened

def answer (connection : Connection) (sent : Sent) (rest : List Sent)
    (body : Reply) : Connection :=
  { connection with
    outgoing := rest
    incoming := connection.incoming ++ [.reply sent.request.id body]
    opened := openedBy connection.opened sent.purpose body
    replies := connection.replies ++ [(sent.request.id, body)] }

def notify (connection : Connection) (notification : Notification) :
    Connection :=
  { connection with
    incoming := connection.incoming ++ [.notification notification]
    notified := connection.notified ++ [notification] }

end Connection

/-! ## The machine -/

inductive Label where
  | subscribe (method : String) (params : Option (List Json))
  | unsubscribe (subscription : ℤ)
  | recvNotification
  | recvNotifications (count : ℕ)
  /-- the call under way takes the next message -/
  | read
  | timeout
  /-- the server replies to the next request -/
  | reply (body : Reply)
  /-- the server drops the next request -/
  | ignore
  | notify (notification : Notification)

def step (connection : Connection) : Label → Option Connection
  | .subscribe method params =>
      match connection.control with
      | .idle => some (connection.callSubscribe method params)
      | _ => none
  | .unsubscribe subscription =>
      match connection.control with
      | .idle => some (connection.callUnsubscribe subscription)
      | _ => none
  | .recvNotification =>
      match connection.control with
      | .idle => some (connection.callReceive 1)
      | _ => none
  | .recvNotifications count =>
      match connection.control with
      | .idle => some (connection.callReceive count)
      | _ => none
  | .read =>
      match connection.incoming with
      | [] => none
      | message :: rest => { connection with incoming := rest }.take message
  | .timeout => connection.timeOut
  | .reply body =>
      match connection.outgoing with
      | [] => none
      | sent :: rest =>
          if Connection.Fits sent.purpose body then
            some (connection.answer sent rest body)
          else
            none
  | .ignore =>
      match connection.outgoing with
      | [] => none
      | _ :: rest => some { connection with outgoing := rest }
  | .notify notification =>
      if notification.subscription ∈ connection.opened then
        some (connection.notify notification)
      else
        none

def connectionMachine : Machine Connection Label where
  initial := {}
  step := step

/-- Everything that one step can do. -/
inductive Move (source : Connection) : Label → Connection → Prop
  | asked {label : Label} (request : Request) (client : WsClient)
      (purpose : Purpose) :
      source.control = .idle →
      request.id = source.client.requestId + 1 →
      client.requestId = request.id →
      Move source label (source.ask (request, client) purpose)
  | refused (subscription : ℤ) :
      source.control = .idle →
      source.client.subscriptions.get? (.number (.finite subscription)) =
        none →
      Move source (.unsubscribe subscription)
        { source with
          finished := source.finished ++ [.unsubscribe none false] }
  | received {label : Label} (count : ℕ) :
      source.control = .idle →
      Move source label (source.callReceive count)
  | tookReply (message : ServerMessage) (rest : List ServerMessage)
      (request : Request) (method : String) :
      source.incoming = message :: rest →
      source.control = .awaiting ⟨request, .subscribe method⟩ →
      Move source .read
        ({ source with incoming := rest }.finishSubscribe request.id method
          message)
  | tookAcknowledgement (message : ServerMessage)
      (rest : List ServerMessage) (request : Request) (subscription : ℤ) :
      source.incoming = message :: rest →
      source.control = .awaiting ⟨request, .unsubscribe subscription⟩ →
      Move source .read
        ({ source with incoming := rest }.finishUnsubscribe request.id
          subscription (.ok message.json))
  | tookNotification (message : ServerMessage) (rest : List ServerMessage)
      (collected : List Json) (remaining : ℕ) :
      source.incoming = message :: rest →
      source.control = .receiving collected remaining →
      Move source .read
        ({ source with incoming := rest }.receive collected remaining
          message)
  | gaveUp (request : Request) (subscription : ℤ) :
      source.control = .awaiting ⟨request, .unsubscribe subscription⟩ →
      Move source .timeout
        (source.finishUnsubscribe request.id subscription
          (.error (.timeoutError [])))
  | stopped (collected : List Json) (remaining : ℕ) :
      source.control = .receiving collected remaining →
      Move source .timeout { source with control := .idle }
  | replied (sent : Sent) (rest : List Sent) (body : Reply) :
      source.outgoing = sent :: rest →
      Connection.Fits sent.purpose body →
      Move source (.reply body) (source.answer sent rest body)
  | ignored (sent : Sent) (rest : List Sent) :
      source.outgoing = sent :: rest →
      Move source .ignore { source with outgoing := rest }
  | notified (notification : Notification) :
      notification.subscription ∈ source.opened →
      Move source (.notify notification) (source.notify notification)

theorem move_of_callUnsubscribe
    {source : Connection} {subscription : ℤ}
    (idle : source.control = .idle) :
    Move source (.unsubscribe subscription)
      (source.callUnsubscribe subscription) := by
  rw [Connection.callUnsubscribe]
  rcases registered : source.client.subscriptions.get?
      (.number (.finite subscription)) with _ | method
  · exact .refused subscription idle registered
  · exact .asked _ _ _ idle rfl rfl

theorem move_of_read
    {source target : Connection} {message : ServerMessage}
    {rest : List ServerMessage}
    (next : source.incoming = message :: rest)
    (taken :
      { source with incoming := rest }.take message = some target) :
    Move source .read target := by
  simp only [Connection.take] at taken
  split at taken
  · cases taken
  · next request method waits =>
      cases taken
      exact .tookReply message rest request method next waits
  · next request subscription waits =>
      cases taken
      exact .tookAcknowledgement message rest request subscription next waits
  · next collected remaining receives =>
      cases taken
      exact .tookNotification message rest collected remaining next receives

theorem move_of_timeOut
    {source target : Connection}
    (taken : source.timeOut = some target) :
    Move source .timeout target := by
  simp only [Connection.timeOut] at taken
  split at taken
  · next request subscription waits =>
      cases taken
      exact .gaveUp request subscription waits
  · next collected remaining receives =>
      cases taken
      exact .stopped collected remaining receives
  · cases taken

theorem move_of_step
    {source target : Connection} {label : Label}
    (taken : step source label = some target) :
    Move source label target := by
  cases label with
  | timeout => exact move_of_timeOut taken
  | notify notification =>
      simp only [step] at taken
      split at taken
      · next isOpen =>
          cases taken
          exact .notified notification isOpen
      · cases taken
  | reply body =>
      simp only [step] at taken
      split at taken
      · cases taken
      · next sent rest queued =>
          split at taken
          · next fits =>
              cases taken
              exact .replied sent rest body queued fits
          · cases taken
  | ignore =>
      simp only [step] at taken
      split at taken
      · cases taken
      · next sent rest queued =>
          cases taken
          exact .ignored sent rest queued
  | read =>
      simp only [step] at taken
      split at taken
      · cases taken
      · next message rest queued => exact move_of_read queued taken
  | subscribe method params =>
      simp only [step] at taken
      split at taken
      · next idle =>
          cases taken
          exact .asked _ _ _ idle rfl rfl
      · cases taken
  | unsubscribe subscription =>
      simp only [step] at taken
      split at taken
      · next idle =>
          cases taken
          exact move_of_callUnsubscribe idle
      · cases taken
  | recvNotification =>
      simp only [step] at taken
      split at taken
      · next idle =>
          cases taken
          exact .received 1 idle
      · cases taken
  | recvNotifications count =>
      simp only [step] at taken
      split at taken
      · next idle =>
          cases taken
          exact .received count idle
      · cases taken

end KarstflowTests.Ws

import KarstflowTests.Ws.Connection

/-!
# Orderly runs

A step is orderly if it neither lets `subscribe` or `unsubscribe` take a
notification nor lets a reply come too late.  In orderly runs there is at most
one reply on the stream, and it is the one that the client waits for.
-/

namespace KarstflowTests.Ws

open KarstflowTests.Library

/-! ## The messages on the stream -/

def ServerMessage.asReply : ServerMessage → Option (ℕ × Reply)
  | .reply id body => some (id, body)
  | .notification _ => none

def ServerMessage.asNotification : ServerMessage → Option Notification
  | .reply _ _ => none
  | .notification notice => some notice

namespace Connection

def pending (connection : Connection) : List (ℕ × Reply) :=
  connection.incoming.filterMap ServerMessage.asReply

def queued (connection : Connection) : List Notification :=
  connection.incoming.filterMap ServerMessage.asNotification

/-- The ids of the requests that were answered or are still on their way. -/
def requestIds (connection : Connection) : List ℕ :=
  connection.replies.map Prod.fst ++
    connection.outgoing.map fun sent => sent.request.id

end Connection

section Control

variable {connection : Connection}

theorem free_of_idle
    (idle : connection.control = .idle) (sent : Sent) :
    connection.control ≠ .awaiting sent := by
  rw [idle]
  exact Control.noConfusion

theorem free_of_receiving
    {collected : List Json} {remaining : ℕ}
    (receives : connection.control = .receiving collected remaining)
    (sent : Sent) :
    connection.control ≠ .awaiting sent := by
  rw [receives]
  exact Control.noConfusion

end Control

/-! ## Orderly steps -/

/-- A call that waits for a reply finds no notification when it reads; the
server replies to a request only while the client waits for it; and no wait
times out when its reply is on the stream. -/
def Orderly (connection : Connection) : Label → Prop
  | .read =>
      ∀ sent, connection.control = .awaiting sent →
        ∀ notice rest, connection.incoming ≠ .notification notice :: rest
  | .reply _ =>
      ∀ sent rest, connection.outgoing = sent :: rest →
        connection.control = .awaiting sent
  | .timeout =>
      ∀ sent, connection.control = .awaiting sent → connection.pending = []
  | _ => True

section Steps

variable {connection : Connection}

/-- It is orderly to take a reply. -/
theorem orderly_read
    {id : ℕ} {body : Reply} {rest : List ServerMessage}
    (next : connection.incoming = .reply id body :: rest) :
    Orderly connection .read := by
  intro sent waits notice others queued
  rw [next] at queued
  cases queued

/-- It is orderly to reply to the request that the client waits for. -/
theorem orderly_reply
    {sent : Sent} {rest : List Sent} {body : Reply}
    (next : connection.outgoing = sent :: rest)
    (waits : connection.control = .awaiting sent) :
    Orderly connection (.reply body) := by
  intro other others queued
  rw [next] at queued
  cases queued
  exact waits

/-- A client that does not wait for a reply may read anything. -/
theorem orderly_read_of_receiving
    {collected : List Json} {remaining : ℕ}
    (receives : connection.control = .receiving collected remaining) :
    Orderly connection .read := by
  intro sent waits
  exact absurd waits (free_of_receiving receives sent)

end Steps

/-- What is outstanding: the replies on the stream are the last ones sent, and
belong to the request that the client waits for. -/
structure Outstanding (connection : Connection) : Prop where
  last : connection.pending <:+ connection.replies
  distinct : connection.requestIds.Nodup
  issued :
    ∀ id ∈ connection.requestIds, id ≤ connection.client.requestId
  expected :
    ∀ entry ∈ connection.pending,
      ∃ sent, connection.control = .awaiting sent ∧
        entry.1 = sent.request.id ∧ Connection.Fits sent.purpose entry.2
  current :
    ∀ sent, connection.control = .awaiting sent →
      sent.request.id ≤ connection.client.requestId
  unread :
    ∀ sent, connection.control = .awaiting sent →
      ∀ body, (sent.request.id, body) ∈ connection.replies →
        (sent.request.id, body) ∈ connection.pending

namespace Outstanding

variable {source target : Connection} {label : Label}

theorem replies_distinct (outstanding : Outstanding source) :
    (source.replies.map Prod.fst).Nodup :=
  (List.nodup_append.mp outstanding.distinct).1

/-- Nothing is pending for a client that does not wait. -/
theorem pending_of_not_awaiting
    (outstanding : Outstanding source)
    (free : ∀ sent, source.control ≠ .awaiting sent) :
    source.pending = [] := by
  rw [List.eq_nil_iff_forall_not_mem]
  intro entry member
  obtain ⟨sent, waits, _⟩ := outstanding.expected entry member
  exact free sent waits

/-- A client that waits has at most one reply pending, its own. -/
theorem pending_of_awaiting
    (outstanding : Outstanding source) {sent : Sent}
    (waits : source.control = .awaiting sent) :
    source.pending = [] ∨
      ∃ body, source.pending = [(sent.request.id, body)] ∧
        Connection.Fits sent.purpose body := by
  have own :
      ∀ entry ∈ source.pending,
        entry.1 = sent.request.id ∧
          Connection.Fits sent.purpose entry.2 := by
    intro entry member
    obtain ⟨other, otherWaits, sameId, fits⟩ :=
      outstanding.expected entry member
    rw [waits] at otherWaits
    cases otherWaits
    exact ⟨sameId, fits⟩
  have distinct : (source.pending.map Prod.fst).Nodup :=
    outstanding.replies_distinct.sublist
      (outstanding.last.sublist.map Prod.fst)
  match here : source.pending with
  | [] => exact Or.inl rfl
  | [(id, body)] =>
      rw [here] at own
      obtain ⟨rfl, fits⟩ := own (id, body) List.mem_cons_self
      exact Or.inr ⟨body, rfl, fits⟩
  | first :: second :: rest =>
      -- two replies to one request
      rw [here] at own distinct
      have ownFirst := own first List.mem_cons_self
      have ownSecond :=
        own second (List.mem_cons_of_mem first List.mem_cons_self)
      have same : first.1 = second.1 := ownFirst.1.trans ownSecond.1.symm
      simp [same] at distinct

/-- A step after which the client does not wait and nothing is pending. -/
theorem quiet
    (outstanding : Outstanding source)
    (sameReplies : target.replies = source.replies)
    (sameOutgoing : target.outgoing = source.outgoing)
    (sameId : target.client.requestId = source.client.requestId)
    (free : ∀ sent, target.control ≠ .awaiting sent)
    (nothing : target.pending = []) :
    Outstanding target := by
  have sameIds : target.requestIds = source.requestIds := by
    rw [Connection.requestIds, sameReplies, sameOutgoing]
    rfl
  refine ⟨?_, ?_, ?_, ?_, ?_, ?_⟩
  · rw [nothing]
    exact List.nil_suffix
  · rw [sameIds]
    exact outstanding.distinct
  · rw [sameIds, sameId]
    exact outstanding.issued
  · rw [nothing]
    simp
  · intro sent waits
    exact absurd waits (free sent)
  · intro sent waits
    exact absurd waits (free sent)

/-- The client sends a request. -/
theorem ask
    (outstanding : Outstanding source) (idle : source.control = .idle)
    {request : Request} {client : WsClient} {purpose : Purpose}
    (nextId : request.id = source.client.requestId + 1)
    (sameId : client.requestId = request.id) :
    Outstanding (source.ask (request, client) purpose) := by
  have nothing : source.pending = [] :=
    outstanding.pending_of_not_awaiting (free_of_idle idle)
  have fresh : request.id ∉ source.requestIds := by
    intro member
    have bound := outstanding.issued _ member
    omega
  have ids :
      (source.ask (request, client) purpose).requestIds =
        source.requestIds ++ [request.id] := by
    simp [Connection.requestIds, Connection.ask]
  refine ⟨outstanding.last, ?_, ?_, ?_, ?_, ?_⟩
  · rw [ids]
    exact List.nodup_append.mpr
      ⟨outstanding.distinct, List.nodup_singleton _, by
        rintro id member _ (⟨_⟩ | ⟨_, ⟨⟩⟩) rfl
        exact fresh member⟩
  · rw [ids]
    intro id member
    have bound : (source.ask (request, client) purpose).client.requestId =
        request.id := sameId
    rcases List.mem_append.mp member with old | new
    · have below := outstanding.issued id old
      omega
    · rw [List.mem_singleton.mp new, bound]
  · intro entry member
    have impossible : entry ∈ source.pending := member
    rw [nothing] at impossible
    cases impossible
  · intro sent waits
    cases waits
    exact sameId.ge
  · intro sent waits body answered
    cases waits
    have member : request.id ∈ source.requestIds :=
      List.mem_append_left _ (List.mem_map_of_mem answered)
    exact absurd member fresh

/-- The server replies to the request that the client waits for. -/
theorem answer
    (outstanding : Outstanding source)
    {sent : Sent} {rest : List Sent} {body : Reply}
    (next : source.outgoing = sent :: rest)
    (fits : Connection.Fits sent.purpose body)
    (waits : source.control = .awaiting sent) :
    Outstanding (source.answer sent rest body) := by
  have ids :
      (source.answer sent rest body).requestIds = source.requestIds := by
    simp [Connection.requestIds, Connection.answer, next]
  have unanswered : ∀ other, (sent.request.id, other) ∉ source.replies := by
    intro other answered
    have distinct := outstanding.distinct
    rw [Connection.requestIds, next, List.nodup_append] at distinct
    exact distinct.2.2 _ (List.mem_map_of_mem answered) _
      (List.mem_map_of_mem (List.mem_cons_self ..)) rfl
  have nothing : source.pending = [] := by
    obtain empty | ⟨other, pending, _⟩ := outstanding.pending_of_awaiting waits
    · exact empty
    · have answered := outstanding.last.mem
        (pending ▸ List.mem_singleton_self (sent.request.id, other))
      exact absurd answered (unanswered other)
  have pending :
      (source.answer sent rest body).pending =
        [(sent.request.id, body)] := by
    have appended :
        (source.answer sent rest body).pending =
          source.pending ++ [(sent.request.id, body)] := by
      simp [Connection.pending, Connection.answer, ServerMessage.asReply]
    rw [appended, nothing, List.nil_append]
  refine ⟨?_, ?_, ?_, ?_, outstanding.current, ?_⟩
  · rw [pending]
    exact List.suffix_append source.replies _
  · rw [ids]
    exact outstanding.distinct
  · rw [ids]
    exact outstanding.issued
  · rw [pending]
    intro entry member
    rw [List.mem_singleton.mp member]
    exact ⟨sent, waits, rfl, fits⟩
  · intro other otherWaits reply answered
    have same : source.control = .awaiting other := otherWaits
    rw [waits] at same
    cases same
    rw [pending]
    rcases List.mem_append.mp answered with old | new
    · exact absurd old (unanswered reply)
    · exact new

/-- The server drops a request. -/
theorem ignore
    (outstanding : Outstanding source)
    {sent : Sent} {rest : List Sent}
    (next : source.outgoing = sent :: rest) :
    Outstanding { source with outgoing := rest } := by
  have fewer :
      List.Sublist
        (Connection.requestIds { source with outgoing := rest })
        source.requestIds := by
    simp only [Connection.requestIds, next]
    exact (List.Sublist.refl _).append
      ((List.sublist_cons_self _ _).map _)
  exact ⟨outstanding.last, outstanding.distinct.sublist fewer,
    fun id member => outstanding.issued id (fewer.mem member),
    outstanding.expected, outstanding.current, outstanding.unread⟩

/-- A notification leaves the replies as they are. -/
theorem notify
    (outstanding : Outstanding source) (notification : Notification) :
    Outstanding (source.notify notification) := by
  have pending :
      (source.notify notification).pending = source.pending := by
    simp [Connection.pending, Connection.notify, ServerMessage.asReply]
  refine ⟨?_, outstanding.distinct, outstanding.issued, ?_,
    outstanding.current, ?_⟩
  · rw [pending]
    exact outstanding.last
  · rw [pending]
    exact outstanding.expected
  · rw [pending]
    exact outstanding.unread

/-- In orderly runs a client that waits for a reply takes its own. -/
theorem reply_of_read
    (outstanding : Outstanding source) (orderly : Orderly source .read)
    {sent : Sent} (waits : source.control = .awaiting sent)
    {message : ServerMessage} {rest : List ServerMessage}
    (next : source.incoming = message :: rest) :
    ∃ body, message = .reply sent.request.id body ∧
      Connection.Fits sent.purpose body ∧
      (sent.request.id, body) ∈ source.replies ∧
      rest.filterMap ServerMessage.asReply = [] := by
  cases message with
  | notification notice => exact absurd next (orderly sent waits notice rest)
  | reply id body =>
      have pending :
          source.pending =
            (id, body) :: rest.filterMap ServerMessage.asReply := by
        simp [Connection.pending, next, ServerMessage.asReply]
      obtain empty | ⟨other, own, fits⟩ :=
        outstanding.pending_of_awaiting waits
      · rw [empty] at pending
        cases pending
      · rw [own] at pending
        obtain ⟨same, none⟩ := List.cons.inj pending
        cases same
        refine ⟨body, rfl, fits, ?_, none.symm⟩
        exact outstanding.last.mem (own ▸ List.mem_singleton_self _)

/-- In orderly runs a client that receives takes a notification. -/
theorem notification_of_read
    (outstanding : Outstanding source)
    {collected : List Json} {remaining : ℕ}
    (receives : source.control = .receiving collected remaining)
    {message : ServerMessage} {rest : List ServerMessage}
    (next : source.incoming = message :: rest) :
    ∃ notice, message = .notification notice ∧
      rest.filterMap ServerMessage.asReply = [] := by
  have nothing : source.pending = [] :=
    outstanding.pending_of_not_awaiting (free_of_receiving receives)
  rw [Connection.pending, next] at nothing
  cases message with
  | reply id body => cases nothing
  | notification notice => exact ⟨notice, rfl, nothing⟩

end Outstanding

/-- `recv_notification(s)` touches neither the client nor the replies. -/
theorem receive_frame
    (connection : Connection) (collected : List Json) (remaining : ℕ)
    (message : ServerMessage) :
    let target := connection.receive collected remaining message
    target.client = connection.client ∧
      target.outgoing = connection.outgoing ∧
      target.incoming = connection.incoming ∧
      target.replies = connection.replies ∧
      target.notified = connection.notified ∧
      target.finished = connection.finished ∧
      target.taken = connection.taken ++ [message] ∧
      ∀ sent, target.control ≠ .awaiting sent := by
  simp only [Connection.receive]
  split <;> simp

theorem Outstanding.move
    {source target : Connection} {label : Label}
    (outstanding : Outstanding source) (orderly : Orderly source label)
    (move : Move source label target) :
    Outstanding target := by
  cases move with
  | asked request client purpose idle nextId sameId =>
      exact outstanding.ask idle nextId sameId
  | refused subscription idle unknown =>
      exact ⟨outstanding.last, outstanding.distinct, outstanding.issued,
        outstanding.expected, outstanding.current, outstanding.unread⟩
  | received count idle =>
      have nothing : source.pending = [] :=
        outstanding.pending_of_not_awaiting (free_of_idle idle)
      cases count with
      | zero => exact outstanding
      | succ remaining =>
          exact outstanding.quiet rfl rfl rfl (free_of_receiving rfl) nothing
  | tookReply message rest request method next waits =>
      obtain ⟨body, _, _, _, none⟩ :=
        outstanding.reply_of_read orderly waits next
      exact outstanding.quiet rfl rfl (WsClient.requestId_subscribed ..)
        (free_of_idle rfl) none
  | tookAcknowledgement message rest request subscription next waits =>
      obtain ⟨body, _, _, _, none⟩ :=
        outstanding.reply_of_read orderly waits next
      exact outstanding.quiet rfl rfl rfl (free_of_idle rfl) none
  | tookNotification message rest collected remaining next receives =>
      obtain ⟨notice, _, none⟩ :=
        outstanding.notification_of_read receives next
      obtain ⟨client, outgoing, incoming, replies, _, _, _, free⟩ :=
        receive_frame { source with incoming := rest } collected remaining
          message
      have sameId := congrArg WsClient.requestId client
      apply outstanding.quiet replies outgoing sameId free
      rw [Connection.pending, incoming]
      exact none
  | gaveUp request subscription waits =>
      have nothing : source.pending = [] := orderly _ waits
      exact outstanding.quiet rfl rfl rfl (free_of_idle rfl) nothing
  | stopped collected remaining receives =>
      have nothing : source.pending = [] :=
        outstanding.pending_of_not_awaiting (free_of_receiving receives)
      exact outstanding.quiet rfl rfl rfl (free_of_idle rfl) nothing
  | replied sent rest body next fits =>
      exact outstanding.answer next fits (orderly sent rest next)
  | ignored sent rest next =>
      exact outstanding.ignore next
  | notified notification isOpen =>
      exact outstanding.notify notification

theorem outstanding_initial : Outstanding {} := by
  refine ⟨List.suffix_rfl, List.nodup_nil, ?_, ?_, ?_, ?_⟩ <;>
    simp [Connection.requestIds, Connection.pending]

/-- In every orderly run the reply on the stream is the one that the client
waits for. -/
theorem outstanding_of_reachable
    {state : Connection}
    (reached : connectionMachine.ReachableUnder Orderly state) :
    Outstanding state := by
  refine Machine.invariant_of_step outstanding_initial ?_ reached
  intro source target label _ outstanding orderly taken
  exact outstanding.move orderly (move_of_step taken)

end KarstflowTests.Ws

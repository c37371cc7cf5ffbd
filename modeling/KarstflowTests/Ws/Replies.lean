import KarstflowTests.Ws.Orderly

/-!
# Replies reach their calls

`RepliesMatched` is what a caller needs of `subscribe` and `unsubscribe`: each
call returns what the server replied to its own request.  It holds in orderly
runs.  Without the order a notification that is queued when `subscribe` reads
is taken for the reply, and the reply stays on the stream for the next call.
-/

namespace KarstflowTests.Ws

open KarstflowTests.Library

/-! ## Matching -/

/-- The call returned what the server replied to its request. -/
def FinishedCall.Matches (replies : List (ℕ × Reply)) : FinishedCall → Prop
  | .subscribe id outcome =>
      ∃ body, (id, body) ∈ replies ∧ body.subscribeOutcome = some outcome
  | .unsubscribe (some id) result =>
      result = true ↔ (id, .unsubscribed true) ∈ replies
  | .unsubscribe none result => result = false

/-- No request is answered twice, and every call returned what its reply
says. -/
structure RepliesMatched (connection : Connection) : Prop where
  once : (connection.replies.map Prod.fst).Nodup
  calls :
    ∀ call ∈ connection.finished, call.Matches connection.replies

/-- The finished calls match, and no later reply can concern them. -/
structure CallsSettled (connection : Connection) : Prop where
  matched :
    ∀ call ∈ connection.finished, call.Matches connection.replies
  past :
    ∀ call ∈ connection.finished, ∀ id, call.id = some id →
      id ≤ connection.client.requestId ∧
        ∀ sent, connection.control = .awaiting sent →
          id ≠ sent.request.id

section Settled

variable {source target : Connection} {label : Label}

/-- A reply to another request does not concern the call. -/
theorem FinishedCall.Matches.append
    {call : FinishedCall} {replies : List (ℕ × Reply)} {id : ℕ}
    {body : Reply}
    (matched : call.Matches replies) (other : call.id ≠ some id) :
    call.Matches (replies ++ [(id, body)]) := by
  cases call with
  | subscribe own outcome =>
      obtain ⟨reply, member, expected⟩ := matched
      exact ⟨reply, List.mem_append_left _ member, expected⟩
  | unsubscribe own result =>
      cases own with
      | none => exact matched
      | some own =>
          have away : own ≠ id := fun same => other (congrArg some same)
          have decides : result = true ↔
              (own, Reply.unsubscribed true) ∈ replies :=
            matched
          simp [FinishedCall.Matches, decides, away]

/-- A call ends with a result that matches. -/
theorem CallsSettled.finish
    (settled : CallsSettled source) (outstanding : Outstanding source)
    {sent : Sent} (waits : source.control = .awaiting sent)
    {call : FinishedCall} (own : call.id = some sent.request.id)
    (matched : call.Matches source.replies)
    (sameId : target.client.requestId = source.client.requestId)
    (sameReplies : target.replies = source.replies)
    (ends : target.finished = source.finished ++ [call])
    (free : ∀ sent, target.control ≠ .awaiting sent) :
    CallsSettled target := by
  constructor
  · rw [ends, sameReplies]
    intro other member
    rcases List.mem_append.mp member with old | new
    · exact settled.matched other old
    · rw [List.mem_singleton.mp new]
      exact matched
  · rw [ends, sameId]
    intro other member id hasId
    refine ⟨?_, fun sent waits => absurd waits (free sent)⟩
    rcases List.mem_append.mp member with old | new
    · exact (settled.past other old id hasId).1
    · rw [List.mem_singleton.mp new, own] at hasId
      cases hasId
      exact outstanding.current sent waits

/-- A step that ends no call and starts no wait. -/
theorem CallsSettled.keep
    (settled : CallsSettled source)
    (sameId : target.client.requestId = source.client.requestId)
    (sameReplies : target.replies = source.replies)
    (sameCalls : target.finished = source.finished)
    (noNewWait :
      ∀ sent, target.control = .awaiting sent →
        source.control = .awaiting sent) :
    CallsSettled target := by
  constructor
  · rw [sameCalls, sameReplies]
    exact settled.matched
  · rw [sameCalls, sameId]
    intro call member id hasId
    obtain ⟨bound, away⟩ := settled.past call member id hasId
    exact ⟨bound, fun sent waits => away sent (noNewWait sent waits)⟩

/-- The reply that an unsubscribe call reads decides what it returns. -/
theorem matches_unsubscribe
    (outstanding : Outstanding source) {id : ℕ} {body : Reply}
    {acknowledged : Bool}
    (answered : (id, body) ∈ source.replies)
    (expected : body.unsubscribeOutcome = some acknowledged) :
    FinishedCall.Matches source.replies
      (.unsubscribe (some id) acknowledged) := by
  have only :
      ∀ other, (id, other) ∈ source.replies → other = body := by
    intro other member
    have same :=
      List.inj_on_of_nodup_map outstanding.replies_distinct member answered
        rfl
    exact congrArg Prod.snd same
  constructor
  · rintro rfl
    rw [unsubscribeOutcome_eq_true_iff] at expected
    rw [← expected]
    exact answered
  · intro member
    rw [← only _ member] at expected
    exact (Option.some.inj expected).symm

/-- The id of a new request is past every finished call. -/
theorem CallsSettled.ask
    (settled : CallsSettled source)
    {request : Request} {client : WsClient} {purpose : Purpose}
    (nextId : request.id = source.client.requestId + 1)
    (sameId : client.requestId = request.id) :
    CallsSettled (source.ask (request, client) purpose) := by
  refine ⟨settled.matched, ?_⟩
  intro call member id hasId
  have bound := (settled.past call member id hasId).1
  have newId :
      (source.ask (request, client) purpose).client.requestId =
        source.client.requestId + 1 :=
    sameId.trans nextId
  refine ⟨by omega, ?_⟩
  intro sent waits
  cases waits
  have later : id < request.id := by omega
  exact later.ne

/-- An `unsubscribe` that sends nothing returns `False`. -/
theorem CallsSettled.refuse (settled : CallsSettled source) :
    CallsSettled
      { source with
        finished := source.finished ++ [.unsubscribe none false] } := by
  constructor
  · intro call member
    rcases List.mem_append.mp member with old | new
    · exact settled.matched call old
    · rw [List.mem_singleton.mp new]
      rfl
  · intro call member id hasId
    rcases List.mem_append.mp member with old | new
    · exact settled.past call old id hasId
    · rw [List.mem_singleton.mp new] at hasId
      cases hasId

/-- The server replies to the request that the client waits for, which no
finished call has made. -/
theorem CallsSettled.answer
    (settled : CallsSettled source) {sent : Sent} {rest : List Sent}
    {body : Reply} (waits : source.control = .awaiting sent) :
    CallsSettled (source.answer sent rest body) := by
  refine ⟨?_, settled.past⟩
  intro call member
  apply (settled.matched call member).append
  intro own
  exact (settled.past call member _ own).2 sent waits rfl

/-- A wait that times out without a reply ends with `False`. -/
theorem CallsSettled.giveUp
    (settled : CallsSettled source) (outstanding : Outstanding source)
    {request : Request} {subscription : ℤ}
    (waits :
      source.control = .awaiting ⟨request, .unsubscribe subscription⟩)
    (nothing : source.pending = []) :
    CallsSettled
      (source.finishUnsubscribe request.id subscription
        (.error (.timeoutError []))) := by
  have unanswered :
      (request.id, Reply.unsubscribed true) ∉ source.replies := by
    intro answered
    have pending := outstanding.unread _ waits _ answered
    rw [nothing] at pending
    cases pending
  have matched :
      FinishedCall.Matches source.replies
        (.unsubscribe (some request.id) false) :=
    iff_of_false Bool.false_ne_true unanswered
  exact settled.finish outstanding waits rfl matched rfl rfl rfl
    (free_of_idle rfl)

theorem CallsSettled.move
    (settled : CallsSettled source) (outstanding : Outstanding source)
    (orderly : Orderly source label) (move : Move source label target) :
    CallsSettled target := by
  cases move with
  | asked request client purpose idle nextId sameId =>
      exact settled.ask nextId sameId
  | refused subscription idle unknown =>
      exact settled.refuse
  | received count idle =>
      cases count with
      | zero => exact settled
      | succ remaining =>
          exact settled.keep rfl rfl rfl fun sent waits =>
            absurd waits (free_of_receiving rfl sent)
  | tookReply message rest request method next waits =>
      obtain ⟨body, rfl, fits, answered, _⟩ :=
        outstanding.reply_of_read orderly waits next
      obtain ⟨outcome, expected⟩ := Option.isSome_iff_exists.mp fits
      refine settled.finish outstanding waits rfl ?_
        (WsClient.requestId_subscribed ..) rfl rfl (free_of_idle rfl)
      refine ⟨body, answered, ?_⟩
      rw [expected]
      exact congrArg some (subscribed_reply expected).symm
  | tookAcknowledgement message rest request subscription next waits =>
      obtain ⟨body, rfl, fits, answered, _⟩ :=
        outstanding.reply_of_read orderly waits next
      obtain ⟨acknowledged, expected⟩ := Option.isSome_iff_exists.mp fits
      refine settled.finish outstanding waits rfl ?_ rfl rfl rfl
        (free_of_idle rfl)
      rw [readUnsubscribed_reply expected]
      exact matches_unsubscribe outstanding answered expected
  | tookNotification message rest collected remaining next receives =>
      obtain ⟨client, _, _, replies, _, finished, _, free⟩ :=
        receive_frame { source with incoming := rest } collected remaining
          message
      have sameId := congrArg WsClient.requestId client
      exact settled.keep sameId replies finished
        fun sent waits => absurd waits (free sent)
  | gaveUp request subscription waits =>
      have nothing : source.pending = [] := orderly _ waits
      exact settled.giveUp outstanding waits nothing
  | stopped collected remaining receives =>
      exact settled.keep rfl rfl rfl fun sent waits =>
        absurd waits (free_of_idle rfl sent)
  | replied sent rest body next fits =>
      exact settled.answer (orderly sent rest next)
  | ignored sent rest next =>
      exact settled.keep rfl rfl rfl fun _ waits => waits
  | notified notification isOpen =>
      exact settled.keep rfl rfl rfl fun _ waits => waits

theorem callsSettled_of_reachable
    (reached : connectionMachine.ReachableUnder Orderly source) :
    CallsSettled source := by
  have initially : CallsSettled {} := by
    refine ⟨?_, ?_⟩ <;> simp
  refine Machine.invariant_of_step initially ?_ reached
  intro source target label reached settled orderly taken
  exact settled.move (outstanding_of_reachable reached) orderly
    (move_of_step taken)

end Settled

/-- In every orderly run `subscribe` and `unsubscribe` return what the server
replied to their own requests. -/
theorem repliesMatched_of_reachable
    {state : Connection}
    (reached : connectionMachine.ReachableUnder Orderly state) :
    RepliesMatched state := by
  refine ⟨(outstanding_of_reachable reached).replies_distinct, ?_⟩
  exact (callsSettled_of_reachable reached).matched

/-! Two subscriptions on one connection. -/

def slotNotification : Notification :=
  ⟨"slotNotification", 5, .obj [("slot", .int 7)]⟩

/-- A slot comes behind the second reply, and is received before the next
request. -/
def quietRun : List Label :=
  [.subscribe "slotSubscribe" none, .reply (.subscribed 5), .read,
    .subscribe "rootSubscribe" none, .reply (.subscribed 6),
    .notify slotNotification, .read, .recvNotification, .read,
    .unsubscribe 5, .reply (.unsubscribed true), .read]

/-- The server sends a slot before it replies to the second request. -/
def slotBetween : List Label :=
  [.subscribe "slotSubscribe" none, .reply (.subscribed 5), .read,
    .subscribe "rootSubscribe" none, .notify slotNotification, .read,
    .reply (.subscribed 6)]

theorem repliesMatched_quietRun :
    ∃ state, connectionMachine.run {} quietRun = some state ∧
      state.finished =
        [.subscribe 1 (.ok (.int 5)), .subscribe 2 (.ok (.int 6)),
          .unsubscribe (some 3) true] ∧
      RepliesMatched state := by
  have orderly : connectionMachine.AllowedAlong Orderly {} quietRun := by
    apply Machine.AllowedAlong.cons trivial rfl
    apply Machine.AllowedAlong.cons (orderly_reply rfl rfl) rfl
    apply Machine.AllowedAlong.cons (orderly_read rfl) rfl
    apply Machine.AllowedAlong.cons trivial rfl
    apply Machine.AllowedAlong.cons (orderly_reply rfl rfl) rfl
    -- the slot is on the stream, but behind the reply
    apply Machine.AllowedAlong.cons trivial rfl
    apply Machine.AllowedAlong.cons (orderly_read rfl) rfl
    apply Machine.AllowedAlong.cons trivial rfl
    apply Machine.AllowedAlong.cons (orderly_read_of_receiving rfl) rfl
    apply Machine.AllowedAlong.cons trivial rfl
    apply Machine.AllowedAlong.cons (orderly_reply rfl rfl) rfl
    apply Machine.AllowedAlong.cons (orderly_read rfl) rfl
    exact trivial
  refine ⟨_, rfl, rfl, repliesMatched_of_reachable ?_⟩
  exact Machine.reachableUnder_of_run .initial orderly rfl

/-- The second call raises `KeyError`, although its reply carries an id. -/
theorem repliesMatched_fails_of_slotBetween :
    ∃ state, connectionMachine.run {} slotBetween = some state ∧
      state.replies = [(1, .subscribed 5), (2, .subscribed 6)] ∧
      ¬ RepliesMatched state := by
  refine ⟨_, rfl, rfl, fun holds => ?_⟩
  have matched :=
    holds.calls (.subscribe 2 (.error (.keyError "result"))) (by decide)
  obtain ⟨body, member, expected⟩ := matched
  cases body <;> cases expected

end KarstflowTests.Ws

import KarstflowTests.Ws.Orderly

/-!
# No notification is lost

`NotificationsKept` says that `recv_notification(s)` return what the server
sent, in order and without gaps, and take nothing else off the stream.  It
holds in the orderly runs in which no `recv_notifications` times out with
notifications in hand.
-/

namespace KarstflowTests.Ws

open KarstflowTests.Library

/-! ## What has become of the notifications -/

/-- What a call of `recv_notifications` has collected so far. -/
def Control.inHand : Control → List Json
  | .receiving collected _ => collected
  | _ => []

/-- Every notification that the server sent was returned, is in the hand of
the call under way or is on the stream, in this order. -/
structure NotificationsKept (connection : Connection) : Prop where
  inOrder :
    connection.delivered <+: connection.notified.map Notification.params
  nothingLost :
    connection.delivered ++
        (connection.control.inHand ++
          connection.queued.map Notification.params) =
      connection.notified.map Notification.params
  onlyNotifications :
    ∀ message ∈ connection.taken,
      ∃ notice, message = .notification notice

/-- An orderly step that does not time out with notifications in hand. -/
def Lossless (connection : Connection) (label : Label) : Prop :=
  Orderly connection label ∧
    (label = .timeout → connection.control.inHand = [])

section Kept

variable {source target : Connection} {label : Label}

theorem inHand_of_idle (idle : source.control = .idle) :
    source.control.inHand = [] := by
  rw [idle]
  rfl

theorem inHand_of_awaiting
    {sent : Sent} (waits : source.control = .awaiting sent) :
    source.control.inHand = [] := by
  rw [waits]
  rfl

/-- Taking a reply leaves the notifications on the stream. -/
theorem queued_of_reply
    {id : ℕ} {body : Reply} {rest : List ServerMessage}
    (next : source.incoming = .reply id body :: rest) :
    rest.filterMap ServerMessage.asNotification = source.queued := by
  rw [Connection.queued, next]
  rfl

/-- The order of the returned notifications follows from the balance. -/
theorem NotificationsKept.of_balance
    (nothingLost :
      target.delivered ++
          (target.control.inHand ++
            target.queued.map Notification.params) =
        target.notified.map Notification.params)
    (onlyNotifications :
      ∀ message ∈ target.taken, ∃ notice, message = .notification notice) :
    NotificationsKept target where
  inOrder := ⟨_, nothingLost⟩
  nothingLost := nothingLost
  onlyNotifications := onlyNotifications

/-- A step that takes or sends no notification and keeps those in hand. -/
theorem NotificationsKept.keep
    (kept : NotificationsKept source)
    (sameDelivered : target.delivered = source.delivered)
    (sameHand : target.control.inHand = source.control.inHand)
    (sameQueue : target.queued = source.queued)
    (sameNotified : target.notified = source.notified)
    (sameTaken : target.taken = source.taken) :
    NotificationsKept target := by
  apply NotificationsKept.of_balance
  · rw [sameDelivered, sameHand, sameQueue, sameNotified]
    exact kept.nothingLost
  · rw [sameTaken]
    exact kept.onlyNotifications

/-- The call under way takes a notification. -/
theorem NotificationsKept.receive
    (kept : NotificationsKept source)
    {notice : Notification} {rest : List ServerMessage}
    {collected : List Json} {remaining : ℕ}
    (next : source.incoming = .notification notice :: rest)
    (receives : source.control = .receiving collected remaining) :
    NotificationsKept
      ({ source with incoming := rest }.receive collected remaining
        (.notification notice)) := by
  have balance := kept.nothingLost
  have queued :
      source.queued =
        notice :: rest.filterMap ServerMessage.asNotification := by
    simp [Connection.queued, next, ServerMessage.asNotification]
  rw [receives, queued] at balance
  have taken :
      ∀ message ∈ source.taken ++ [.notification notice],
        ∃ other, message = .notification other := by
    intro message member
    rcases List.mem_append.mp member with old | new
    · exact kept.onlyNotifications message old
    · exact ⟨notice, List.mem_singleton.mp new⟩
  cases remaining with
  | zero =>
      refine .of_balance ?_ taken
      simpa [Connection.receive, readNotification_notification,
        Control.inHand, Connection.queued] using balance
  | succ remaining =>
      refine .of_balance ?_ taken
      simpa [Connection.receive, readNotification_notification,
        Control.inHand, Connection.queued] using balance

theorem NotificationsKept.notify
    (kept : NotificationsKept source) (notification : Notification) :
    NotificationsKept (source.notify notification) := by
  refine .of_balance ?_ kept.onlyNotifications
  have queued :
      (source.notify notification).queued =
        source.queued ++ [notification] := by
    simp [Connection.queued, Connection.notify,
      ServerMessage.asNotification]
  rw [queued]
  simp only [Connection.notify, List.map_append, ← kept.nothingLost,
    List.append_assoc]

theorem NotificationsKept.move
    (kept : NotificationsKept source) (outstanding : Outstanding source)
    (lossless : Lossless source label) (move : Move source label target) :
    NotificationsKept target := by
  obtain ⟨orderly, nothingInHand⟩ := lossless
  cases move with
  | asked request client purpose idle nextId sameId =>
      have emptyHanded := inHand_of_idle idle
      exact kept.keep rfl emptyHanded.symm rfl rfl rfl
  | refused subscription idle unknown =>
      exact kept.keep rfl rfl rfl rfl rfl
  | received count idle =>
      cases count with
      | zero => exact kept
      | succ remaining =>
          have emptyHanded := inHand_of_idle idle
          exact kept.keep rfl emptyHanded.symm rfl rfl rfl
  | tookReply message rest request method next waits =>
      obtain ⟨body, rfl, _⟩ := outstanding.reply_of_read orderly waits next
      have emptyHanded := inHand_of_awaiting waits
      have sameQueue := queued_of_reply next
      exact kept.keep rfl emptyHanded.symm sameQueue rfl rfl
  | tookAcknowledgement message rest request subscription next waits =>
      obtain ⟨body, rfl, _⟩ := outstanding.reply_of_read orderly waits next
      have emptyHanded := inHand_of_awaiting waits
      have sameQueue := queued_of_reply next
      exact kept.keep rfl emptyHanded.symm sameQueue rfl rfl
  | tookNotification message rest collected remaining next receives =>
      obtain ⟨notice, rfl, _⟩ :=
        outstanding.notification_of_read receives next
      exact kept.receive next receives
  | gaveUp request subscription waits =>
      have emptyHanded := inHand_of_awaiting waits
      exact kept.keep rfl emptyHanded.symm rfl rfl rfl
  | stopped collected remaining receives =>
      have emptyHanded := nothingInHand rfl
      exact kept.keep rfl emptyHanded.symm rfl rfl rfl
  | replied sent rest body next fits =>
      refine kept.keep rfl rfl ?_ rfl rfl
      simp [Connection.queued, Connection.answer,
        ServerMessage.asNotification]
  | ignored sent rest next =>
      exact kept.keep rfl rfl rfl rfl rfl
  | notified notification isOpen =>
      exact kept.notify notification

end Kept

/-- In every lossless run `recv_notification(s)` return the notifications of
the server in order, none of them is lost, and no reply is taken for one. -/
theorem notificationsKept_of_reachable
    {state : Connection}
    (reached : connectionMachine.ReachableUnder Lossless state) :
    NotificationsKept state := by
  have initially : NotificationsKept {} := by
    refine .of_balance ?_ ?_ <;> simp [Connection.queued, Control.inHand]
  refine Machine.invariant_of_step initially ?_ reached
  intro source target label reached kept lossless taken
  have orderlyRun : connectionMachine.ReachableUnder Orderly source :=
    reached.mono fun _ _ permitted => permitted.1
  exact kept.move (outstanding_of_reachable orderlyRun) lossless
    (move_of_step taken)

/-! A second subscription beside one that is cancelled. -/

def rootNotification (root : ℤ) : Notification :=
  ⟨"rootNotification", 6, .int root⟩

/-- Two roots arrive for `recv_notifications(2)`, the second one while it
waits. -/
def twoRoots : List Label :=
  [.subscribe "rootSubscribe" none, .reply (.subscribed 6), .read,
    .notify (rootNotification 3), .recvNotifications 2, .read,
    .notify (rootNotification 4), .read]

/-- A root arrives before the slot subscription is cancelled. -/
def rootBeforeCancel : List Label :=
  [.subscribe "slotSubscribe" none, .reply (.subscribed 5), .read,
    .subscribe "rootSubscribe" none, .reply (.subscribed 6), .read,
    .notify (rootNotification 3), .unsubscribe 5, .read,
    .reply (.unsubscribed true), .recvNotification, .read]

theorem notificationsKept_twoRoots :
    ∃ state, connectionMachine.run {} twoRoots = some state ∧
      state.delivered =
        [(rootNotification 3).params, (rootNotification 4).params] ∧
      NotificationsKept state := by
  have lossless :
      connectionMachine.AllowedAlong Lossless {} twoRoots := by
    apply Machine.AllowedAlong.cons ⟨trivial, nofun⟩ rfl
    apply Machine.AllowedAlong.cons ⟨orderly_reply rfl rfl, nofun⟩ rfl
    apply Machine.AllowedAlong.cons ⟨orderly_read rfl, nofun⟩ rfl
    apply Machine.AllowedAlong.cons ⟨trivial, nofun⟩ rfl
    apply Machine.AllowedAlong.cons ⟨trivial, nofun⟩ rfl
    apply Machine.AllowedAlong.cons ⟨orderly_read_of_receiving rfl, nofun⟩ rfl
    apply Machine.AllowedAlong.cons ⟨trivial, nofun⟩ rfl
    apply Machine.AllowedAlong.cons ⟨orderly_read_of_receiving rfl, nofun⟩ rfl
    exact trivial
  refine ⟨_, rfl, rfl, notificationsKept_of_reachable ?_⟩
  exact Machine.reachableUnder_of_run .initial lossless rfl

/-- `unsubscribe` takes the root and `recv_notification` its reply. -/
theorem notificationsKept_fails_of_rootBeforeCancel :
    ∃ state, connectionMachine.run {} rootBeforeCancel = some state ∧
      state.finished.getLast? = some (.unsubscribe (some 3) false) ∧
      state.taken = [.reply 3 (.unsubscribed true)] ∧
      ¬ NotificationsKept state := by
  refine ⟨_, rfl, by decide, by decide, fun holds => ?_⟩
  have balance := holds.nothingLost
  revert balance
  decide

end KarstflowTests.Ws

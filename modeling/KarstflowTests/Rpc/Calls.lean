import KarstflowTests.Library.Machine
import KarstflowTests.Rpc.Wrappers

/-!
# Concurrent calls on one client

Several coroutines share one `RpcClient`.  A call builds all its payloads in
one step, since nothing is awaited in between, and then makes its POSTs, each
of which may complete at any later moment.  `callMachine` runs all
interleavings of these steps.

The ids of the payloads are the values of the counter one after the other, so
that they are distinct and those of a batch are consecutive.
-/

namespace KarstflowTests.Rpc

open KarstflowTests.Library

/-! ## One call -/

/-- A call is about to make an attempt, or the wire has given it its answer. -/
inductive Progress where
  | sending (attempt : ℕ)
  | finished (sent : Except Exc Json)
  deriving DecidableEq

structure Call where
  dispatch : Dispatch
  payloads : List Json
  progress : Progress

def settle : Sending → Progress
  | .attempting attempt => .sending attempt
  | .sent result => .finished result

def Call.start (policy : RetryPolicy) (dispatch : Dispatch)
    (payloads : List Json) : Call where
  dispatch := dispatch
  payloads := payloads
  progress :=
    match dispatch with
    | .single _ _ => settle (Sending.start policy)
    | .batch _ => .sending 0

/-- The progress after one more POST; a batch is never retried. -/
def Call.post (policy : RetryPolicy) (call : Call) (met : Attempt) :
    Option Progress :=
  match call.progress, call.dispatch with
  | .finished _, _ => none
  | .sending attempt, .single _ _ =>
      some (settle (Sending.step policy (.attempting attempt) met))
  | .sending _, .batch _ => some (.finished (respond met.post))

/-- What the caller gets from the answer. -/
def Dispatch.outcome (dispatch : Dispatch) (sent : Except Exc Json) :
    Except Exc Returned :=
  match dispatch with
  | .single _ raw => readAnswer raw sent
  | .batch _ => do
      let data ← sent
      return .responses (← readBatch data)

/-! ## The machine -/

structure ClientState where
  requestId : ℕ
  /-- every call made so far, in the order in which they started -/
  calls : List Call

inductive Label where
  | start (operation : Operation)
  | post (index : ℕ) (met : Attempt)

def startCall (policy : RetryPolicy) (default : Commitment)
    (state : ClientState) (operation : Operation) : ClientState :=
  let dispatch := operation.dispatch default
  let (payloads, requestId) :=
    (dispatch.requests.mapM buildPayload).run state.requestId
  { requestId
    calls := state.calls ++ [Call.start policy dispatch payloads] }

def postCall (policy : RetryPolicy) (state : ClientState)
    (index : ℕ) (met : Attempt) : Option ClientState := do
  let call ← state.calls[index]?
  let progress ← call.post policy met
  return { state with calls := state.calls.set index { call with progress } }

def callMachine (policy : RetryPolicy) (default : Commitment) :
    Machine ClientState Label where
  initial := { requestId := 0, calls := [] }
  step state
    | .start operation => some (startCall policy default state operation)
    | .post index met => postCall policy state index met

/-! ## What the calls have put on the wire -/

/-- The ids of a call's payloads, in request order. -/
def Call.ids (call : Call) : List ℤ := call.payloads.filterMap messageId

/-- Every id issued so far, in the order of issue. -/
def ClientState.issued (state : ClientState) : List ℤ :=
  state.calls.flatMap Call.ids

/-- What a call sends: fixed when it starts, and sent again by every retry. -/
def Call.sends (call : Call) : Dispatch × List Json :=
  (call.dispatch, call.payloads)

section Steps

variable {policy : RetryPolicy} {default : Commitment}

theorem filterMap_messageId
    (requests : List Request) (requestId : ℕ) :
    (List.zipWith payload (nextIds requestId requests.length)
        requests).filterMap messageId =
      (nextIds requestId requests.length).map fun id : ℕ => (id : ℤ) := by
  induction requests generalizing requestId with
  | nil => rfl
  | cons request requests inductionHypothesis =>
      have first :
          messageId (payload (requestId + 1) request) =
            some ((requestId + 1 : ℕ) : ℤ) :=
        rfl
      simp only [nextIds, List.length_cons, List.range'_succ,
        List.zipWith_cons_cons, List.map_cons]
      rw [List.filterMap_cons_some first]
      exact congrArg _ (inductionHypothesis (requestId + 1))

theorem startCall_eq (state : ClientState) (operation : Operation) :
    startCall policy default state operation =
      let dispatch := operation.dispatch default
      let count := dispatch.requests.length
      { requestId := state.requestId + count
        calls :=
          state.calls ++
            [Call.start policy dispatch
              (List.zipWith payload (nextIds state.requestId count)
                dispatch.requests)] } := by
  simp only [startCall, mapM_buildPayload]

theorem postCall_eq_some
    {state target : ClientState} {index : ℕ} {met : Attempt}
    (taken : postCall policy state index met = some target) :
    ∃ call progress, state.calls[index]? = some call ∧
      call.post policy met = some progress ∧
      target =
        { state with
          calls := state.calls.set index { call with progress } } := by
  simp only [postCall, bind, Option.bind_eq_some_iff] at taken
  obtain ⟨call, found, progress, posts, taken⟩ := taken
  cases taken
  exact ⟨call, progress, found, posts, rfl⟩

/-- A POST changes nothing but the progress of its call. -/
theorem sends_of_postCall
    {state target : ClientState} {index : ℕ} {met : Attempt}
    (taken : postCall policy state index met = some target) :
    target.requestId = state.requestId ∧
      target.calls.map Call.sends = state.calls.map Call.sends := by
  obtain ⟨call, progress, found, _, rfl⟩ := postCall_eq_some taken
  refine ⟨rfl, ?_⟩
  obtain ⟨inside, rfl⟩ := List.getElem?_eq_some_iff.mp found
  have insideMap : index < (state.calls.map Call.sends).length := by
    rwa [List.length_map]
  have unchanged :
      Call.sends { state.calls[index] with progress } =
        (state.calls.map Call.sends)[index] := by
    rw [List.getElem_map]
    rfl
  rw [List.map_set, unchanged, List.set_getElem_self]

end Steps

/-! ## The ids are the values of the counter -/

/-- The payloads of every call carry consecutive ids, and the ids of all calls
are the values that the counter has passed. -/
structure IdsInvariant (state : ClientState) : Prop where
  issued :
    state.issued = (nextIds 0 state.requestId).map fun id : ℕ => (id : ℤ)
  built :
    ∀ sent ∈ state.calls.map Call.sends, ∃ requestId,
      sent.2 =
        List.zipWith payload
          (nextIds requestId sent.1.requests.length) sent.1.requests

section Reachable

variable {policy : RetryPolicy} {default : Commitment}

/-- The issued ids can be read from what the calls send. -/
theorem issued_eq (state : ClientState) :
    state.issued =
      (state.calls.map Call.sends).flatMap fun sent =>
        sent.2.filterMap messageId := by
  rw [ClientState.issued, List.flatMap_map]
  rfl

theorem IdsInvariant.start
    {state : ClientState} (invariant : IdsInvariant state)
    (operation : Operation) :
    IdsInvariant (startCall policy default state operation) := by
  obtain ⟨issued, built⟩ := invariant
  rw [startCall_eq]
  constructor
  · have appended :
        nextIds 0 state.requestId ++ nextIds state.requestId
            (operation.dispatch default).requests.length =
          nextIds 0 (state.requestId +
            (operation.dispatch default).requests.length) := by
      simp only [nextIds, Nat.zero_add]
      rw [Nat.add_comm state.requestId 1]
      exact List.range'_append_1
    rw [ClientState.issued] at issued ⊢
    simp only [List.flatMap_append, issued, List.flatMap_singleton]
    simp only [Call.ids, Call.start]
    rw [filterMap_messageId, ← List.map_append, appended]
  · simp only [List.map_append, List.map_singleton, List.mem_append,
      List.mem_singleton]
    rintro sent (earlier | rfl)
    · exact built sent earlier
    · exact ⟨state.requestId, rfl⟩

theorem IdsInvariant.post
    {state target : ClientState} {index : ℕ} {met : Attempt}
    (invariant : IdsInvariant state)
    (taken : postCall policy state index met = some target) :
    IdsInvariant target := by
  obtain ⟨sameId, sameSends⟩ := sends_of_postCall taken
  constructor
  · rw [issued_eq, sameSends, sameId, ← issued_eq]
    exact invariant.issued
  · rw [sameSends]
    exact invariant.built

theorem idsInvariant_of_reachable
    {state : ClientState}
    (reached : (callMachine policy default).Reachable state) :
    IdsInvariant state := by
  refine Machine.invariant_of_step ?_ ?_ reached
  · exact ⟨rfl, by simp [callMachine]⟩
  · intro state target label _ invariant _ taken
    cases label with
    | start operation =>
        cases taken
        exact invariant.start operation
    | post index met =>
        exact invariant.post taken

end Reachable

/-! ## Batches come back in request order -/

/-- The `i`-th of these is the server's answer to the `i`-th request. -/
structure BatchAnswers (call : Call) (answers : List Json) : Prop where
  wellFormed : ∀ answer ∈ answers, Answer answer
  inOrder : answers.map messageId = call.ids.map some

/-- The next POST of the batch, answered by any arrangement of the answers,
returns one response per request, in request order. -/
def ReturnsInOrder (policy : RetryPolicy) (call : Call)
    (answers : List Json) : Prop :=
  ∀ (arrangement : List Json) (status : ℕ) (cancelled : Bool),
    arrangement.Perm answers → 200 ≤ status → status < 300 →
      ∃ sent,
        call.post policy
            ⟨.reply status (some (.arr arrangement)), cancelled⟩ =
          some (.finished sent) ∧
        call.dispatch.outcome sent =
          .ok (.responses (answers.map parsed))

/-- The ids of a call are consecutive, in request order. -/
def ConsecutiveIds (call : Call) : Prop :=
  ∃ before,
    call.ids =
      (nextIds before call.dispatch.requests.length).map fun id : ℕ =>
        (id : ℤ)

section Order

variable {policy : RetryPolicy} {default : Commitment}

theorem nextIds_increasing (requestId count : ℕ) :
    (nextIds requestId count).Pairwise (· < ·) :=
  List.pairwise_lt_range'

theorem issued_nodup {state : ClientState} (invariant : IdsInvariant state) :
    state.issued.Nodup := by
  rw [invariant.issued]
  exact (nextIds_increasing 0 state.requestId).imp ne_of_lt |>.map _
    fun _ _ different same => different (Int.ofNat_inj.mp same)

theorem consecutiveIds
    {state : ClientState} (invariant : IdsInvariant state)
    {call : Call} (member : call ∈ state.calls) :
    ConsecutiveIds call := by
  obtain ⟨before, built⟩ :=
    invariant.built call.sends (List.mem_map_of_mem member)
  refine ⟨before, ?_⟩
  rw [Call.ids, show call.payloads = _ from built]
  exact filterMap_messageId _ _

theorem returnsInOrder_of_consecutive
    {call : Call} (consecutive : ConsecutiveIds call)
    {requests : List Request} (isBatch : call.dispatch = .batch requests)
    {attempt : ℕ} (inFlight : call.progress = .sending attempt)
    {answers : List Json} (answered : BatchAnswers call answers) :
    ReturnsInOrder policy call answers := by
  intro arrangement status cancelled arranged success below
  obtain ⟨before, ids⟩ := consecutive
  have inOrder := answered.inOrder
  rw [ids, List.map_map] at inOrder
  have reads : readBatch (.arr arrangement) = .ok (answers.map parsed) :=
    readBatch_of_perm (nextIds_increasing _ _) answered.wellFormed inOrder
      arranged
  refine ⟨.ok (.arr arrangement), ?_, ?_⟩
  · simp [Call.post, inFlight, isBatch, respond, success, below]
  · simp [isBatch, Dispatch.outcome, reads, bind, Except.bind, pure,
      Except.pure]

end Order

/-- In every interleaving of calls on one client the issued ids are distinct
and those of a call consecutive, and a batch returns the answer to its `i`-th
request in the `i`-th place whatever the order in which the answers come. -/
theorem batch_returnsInOrder_of_reachable
    {policy : RetryPolicy} {default : Commitment} {state : ClientState}
    (reached : (callMachine policy default).Reachable state) :
    state.issued.Nodup ∧
      ∀ call ∈ state.calls,
        ConsecutiveIds call ∧
          ∀ requests attempt answers,
            call.dispatch = .batch requests →
            call.progress = .sending attempt →
            BatchAnswers call answers →
              answers.length = requests.length ∧
                ReturnsInOrder policy call answers := by
  have invariant := idsInvariant_of_reachable reached
  refine ⟨issued_nodup invariant, fun call member => ?_⟩
  have consecutive := consecutiveIds invariant member
  refine ⟨consecutive, ?_⟩
  intro requests attempt answers isBatch inFlight answered
  refine ⟨?_, returnsInOrder_of_consecutive consecutive isBatch inFlight
    answered⟩
  obtain ⟨before, ids⟩ := consecutive
  have sameLength := congrArg List.length answered.inOrder
  simp only [List.length_map, ids, isBatch, Dispatch.requests, nextIds,
    List.length_range'] at sameLength
  exact sameLength

def mixedBatch : List Request :=
  [⟨"getSlot", none⟩, ⟨"nonExistentMethod", none⟩, ⟨"getHealth", none⟩]

def mixedAnswers : List Json :=
  [.obj [("id", .int 2), ("result", .int 7)],
    .obj [("id", .int 3), ("error", .obj [("code", .int (-32601))])],
    .obj [("id", .int 4), ("result", .str "ok")]]

def mixedCall : Call :=
  Call.start {} (.batch mixedBatch)
    (List.zipWith payload [2, 3, 4] mixedBatch)

/-- A request and a batch of valid and invalid requests, both in flight. -/
def mixedState : ClientState where
  requestId := 4
  calls :=
    [Call.start {} (.single ⟨"getSlot", none⟩ false)
      [payload 1 ⟨"getSlot", none⟩], mixedCall]

theorem batch_returnsInOrder_mixed :
    mixedState.issued.Nodup ∧ ReturnsInOrder {} mixedCall mixedAnswers := by
  have started :
      (callMachine {} .confirmed).run (callMachine {} .confirmed).initial
          [.start (.request ⟨"getSlot", none⟩), .start (.batch mixedBatch)] =
        some mixedState :=
    rfl
  have reached : (callMachine {} .confirmed).Reachable mixedState :=
    Machine.reachable_of_run Machine.ReachableUnder.initial started
  have answered : BatchAnswers mixedCall mixedAnswers := by
    refine ⟨?_, rfl⟩
    simp only [mixedAnswers, List.forall_mem_cons]
    exact ⟨.result rfl, .error rfl, .result rfl, by simp⟩
  obtain ⟨distinct, each⟩ := batch_returnsInOrder_of_reachable reached
  have ofBatch :=
    (each mixedCall (by simp [mixedState])).2 mixedBatch 0 mixedAnswers
      rfl rfl answered
  exact ⟨distinct, ofBatch.2⟩

end KarstflowTests.Rpc

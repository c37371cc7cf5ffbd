import Mathlib.Data.List.Range
import KarstflowTests.Python.Sorting
import KarstflowTests.Rpc.Response
import KarstflowTests.Rpc.Retry

/-!
# The JSON-RPC client

A call builds its payloads from the client's id counter, sends them and reads
the answer.  `batch` puts the answers of a batch into request order by sorting
on their ids and checks nothing else; `batch_malformed_iff` says what that
makes of a reply that is not one answer per request.
-/

namespace KarstflowTests.Rpc

open KarstflowTests.Library

/-! ## Payloads -/

structure Request where
  method : String
  params : Option (List Json)
  deriving DecidableEq

/-- `_next_id` on the counter `_request_id`. -/
def nextId : StateM ℕ ℕ := do
  modify (· + 1)
  get

def payload (id : ℕ) (request : Request) : Json :=
  .obj
    ([("jsonrpc", .str "2.0"), ("id", .int id),
        ("method", .str request.method)] ++
      match request.params with
      | some params => [("params", .arr params)]
      | none => [])

def buildPayload (request : Request) : StateM ℕ Json := do
  let id ← nextId
  return payload id request

/-- The next `count` ids of a client. -/
def nextIds (requestId count : ℕ) : List ℕ :=
  List.range' (requestId + 1) count

/-- The payloads of a batch carry the next ids, in request order. -/
theorem mapM_buildPayload (requests : List Request) (requestId : ℕ) :
    (requests.mapM buildPayload).run requestId =
      (List.zipWith payload (nextIds requestId requests.length) requests,
        requestId + requests.length) := by
  induction requests generalizing requestId with
  | nil => rfl
  | cons request requests inductionHypothesis =>
      have builds :
          ((request :: requests).mapM buildPayload).run requestId =
            let rest := (requests.mapM buildPayload).run (requestId + 1)
            (payload (requestId + 1) request :: rest.1, rest.2) := by
        rw [List.mapM_cons]
        rfl
      simp only [builds, inductionHypothesis, nextIds, List.length_cons,
        List.range'_succ, List.zipWith_cons_cons]
      exact congrArg (Prod.mk _)
        (Nat.add_right_comm requestId 1 requests.length)

/-! ## Reading an answer -/

/-- What a call returns to its caller. -/
inductive Returned where
  | result (value : Json)
  | response (response : RpcResponse)
  | responses (responses : List RpcResponse)
  deriving DecidableEq

/-- The end of `request` and `request_raw`, on what `_send_with_retry` gave. -/
def readAnswer (raw : Bool) (sent : Except Exc Json) :
    Except Exc Returned := do
  let data ← sent
  let response ← parseResponse data
  if raw then
    return .response response
  else
    return .result (← response.unwrap)

/-- The end of `batch`, on the JSON of the reply. -/
def readBatch (body : Json) : Except Exc (List RpcResponse) := do
  let results ←
    match body with
    | .arr results =>
        sortByKey (fun answer => answer.get "id" (.int 0)) results
    | body => pure [body]
  results.mapM parseResponse

/-! ## Sequential calls -/

/-- A batch seen from outside: what it put on the wire, the counter it leaves
and what it returns. -/
structure BatchRun where
  payloads : List Json
  requestId : ℕ
  returned : Except Exc (List RpcResponse)

/-- Send a batch of JSON-RPC requests. -/
def batch (requestId : ℕ) (requests : List Request)
    (outcome : PostOutcome) : BatchRun :=
  let (payloads, requestId) :=
    (requests.mapM buildPayload).run requestId
  { payloads, requestId
    returned := respond outcome >>= readBatch }

theorem batch_returned
    (requestId : ℕ) (requests : List Request) (body : Json) :
    (batch requestId requests (.reply 200 (some body))).returned =
      readBatch body :=
  rfl

/-! ## Answers of a batch -/

/-- The id of a message, if it is an integer. -/
def messageId (message : Json) : Option ℤ :=
  match answerId message with
  | some (.int id) => some id
  | _ => none

/-- The members of a batch reply. -/
def replyItems : Json → List Json
  | .arr items => items
  | body => [body]

/-- `response` is the answer that the reply holds for the request `id`. -/
structure AnswersRequest
    (body : Json) (id : ℕ) (response : RpcResponse) : Prop where
  sameId : response.id = .int id
  fromReply : ∃ item ∈ replyItems body, parseResponse item = .ok response

/-- The reply is an array with exactly one answer for each request. -/
def OneAnswerEach (ids : List ℕ) (body : Json) : Prop :=
  ∃ answers, body = .arr answers ∧ (∀ answer ∈ answers, Answer answer) ∧
    (answers.map messageId).Perm (ids.map fun id : ℕ => some (id : ℤ))

/-- What a caller of `batch` needs: one entry per request, in request order,
or an RPC error. -/
def AlignedOrRpcError (ids : List ℕ) (body : Json) :
    Except Exc (List RpcResponse) → Prop
  | .ok responses => List.Forall₂ (AnswersRequest body) ids responses
  | .error exc => ∃ code message data, exc = .rpcCallError code message data

/-- A single request, answered by a bare object that carries its id. -/
def SingleAnswer (ids : List ℕ) (body : Json) : Prop :=
  ∃ id : ℕ, ids = [id] ∧ Answer body ∧ messageId body = some (id : ℤ)

section Batch

variable {ids : List ℕ} {body : Json}

theorem messageId_eq_some_iff {message : Json} {id : ℤ} :
    messageId message = some id ↔ answerId message = some (.int id) := by
  rw [messageId]
  split <;> simp_all

theorem parsed_id {item : Json} (answer : Answer item) :
    (parsed item).id = (answerId item).getD (.int 0) := by
  cases answer <;> rfl

/-- A positive id in a parsed answer was a member of the answer. -/
theorem messageId_of_parsed
    {item : Json} {id : ℕ} (answer : Answer item) (positive : 0 < id)
    (sameId : (parsed item).id = .int id) :
    messageId item = some (id : ℤ) := by
  rw [parsed_id answer] at sameId
  rw [messageId_eq_some_iff]
  rcases here : answerId item with _ | value
  · rw [here, Option.getD_none, Json.int.injEq] at sameId
    omega
  · rw [here, Option.getD_some] at sameId
    rw [sameId]

theorem not_rpcError_of_isTypeError {exc : Exc}
    (typeError : IsTypeError exc) :
    ¬ ∃ code message data, exc = .rpcCallError code message data := by
  obtain ⟨text, rfl | rfl⟩ := typeError <;>
    simp

theorem isTypeError_of_mapM_parse
    {items : List Json} {exc : Exc}
    (fails : items.mapM parseResponse = .error exc) :
    IsTypeError exc := by
  obtain ⟨_, _, failsThere⟩ := exists_error_of_mapM fails
  exact isTypeError_of_parseResponse failsThere

theorem isTypeError_of_sort
    {items : List Json} {exc : Exc}
    (fails :
      sortByKey (fun answer => answer.get "id" (.int 0)) items =
        .error exc) :
    IsTypeError exc := by
  rcases sortByKey_error fails with ⟨item, _, failsThere⟩ | rfl
  · by_cases isObj : ∃ members, item = .obj members
    · obtain ⟨members, rfl⟩ := isObj
      cases failsThere
    · obtain ⟨other, failsWith, typeError⟩ :=
        get_of_not_obj "id" (.int 0) (not_exists.mp isObj)
      cases failsThere.symm.trans failsWith
      exact typeError
  · exact ⟨_, Or.inl rfl⟩

/-- A batch that fails on the body of a reply fails with a type error. -/
theorem isTypeError_of_readBatch {exc : Exc}
    (fails : readBatch body = .error exc) :
    IsTypeError exc := by
  cases body with
  | arr items =>
      rcases sorts :
          sortByKey (fun answer => answer.get "id" (.int 0)) items with
        failure | sorted
      · simp only [readBatch, sorts, bind, Except.bind] at fails
        cases fails
        exact isTypeError_of_sort sorts
      · simp only [readBatch, sorts, bind, Except.bind] at fails
        exact isTypeError_of_mapM_parse fails
  | _ => exact isTypeError_of_mapM_parse fails

/-- A batch that returns has parsed the items of the reply in some order. -/
theorem readBatch_ok
    {responses : List RpcResponse}
    (reads : readBatch body = .ok responses) :
    ∃ arranged, (replyItems body).Perm arranged ∧
      List.Forall₂
        (fun item response => Answer item ∧ response = parsed item)
        arranged responses := by
  have parses {items : List Json}
      (all : items.mapM parseResponse = .ok responses) :
      List.Forall₂
        (fun item response => Answer item ∧ response = parsed item)
        items responses := by
    rw [mapM_eq_ok_iff] at all
    exact all.imp fun _ _ parse => parseResponse_eq_ok_iff.mp parse
  cases body with
  | arr items =>
      rcases sorts :
          sortByKey (fun answer => answer.get "id" (.int 0)) items with
        failure | sorted
      · simp [readBatch, sorts, bind, Except.bind] at reads
      · simp only [readBatch, sorts, bind, Except.bind] at reads
        exact ⟨sorted, perm_of_sortByKey sorts, parses reads⟩
  | _ => exact ⟨_, List.Perm.refl _, parses reads⟩

/-- An aligned list of responses comes from a reply with exactly one answer
for each request. -/
theorem answerIds_of_aligned
    {items : List Json} {responses : List RpcResponse}
    (positive : ∀ id ∈ ids, 0 < id)
    (parses :
      List.Forall₂
        (fun item response => Answer item ∧ response = parsed item)
        items responses)
    (aligned : List.Forall₂ (AnswersRequest body) ids responses) :
    (∀ item ∈ items, Answer item) ∧
      items.map messageId = ids.map fun id : ℕ => some (id : ℤ) := by
  induction parses generalizing ids with
  | nil =>
      cases aligned
      simp
  | @cons item response items responses here _ inductionHypothesis =>
      cases aligned with
      | @cons id _ ids _ answers alignedRest =>
          obtain ⟨answer, rfl⟩ := here
          obtain ⟨restAnswers, restIds⟩ :=
            inductionHypothesis
              (fun later member =>
                positive later (List.mem_cons_of_mem id member))
              alignedRest
          have sameId :=
            messageId_of_parsed answer
              (positive id List.mem_cons_self) answers.sameId
          rw [List.map_cons, List.map_cons, sameId, restIds]
          exact ⟨List.forall_mem_cons.mpr ⟨answer, restAnswers⟩, rfl⟩

theorem singleAnswer_of_answerIds
    {arranged : List Json} (permuted : [body].Perm arranged)
    (answers : ∀ item ∈ arranged, Answer item)
    (sameIds :
      arranged.map messageId = ids.map fun id : ℕ => some (id : ℤ)) :
    SingleAnswer ids body := by
  have alone : arranged = [body] := List.perm_singleton.mp permuted.symm
  rw [alone, List.map_singleton] at sameIds
  obtain ⟨id, single, sameId⟩ := List.map_eq_singleton_iff.mp sameIds.symm
  exact ⟨id, single, answers body (by simp [alone]), sameId.symm⟩

theorem readBatch_of_answer (answer : Answer body) :
    readBatch body = .ok [parsed body] := by
  have parses : parseResponse body = .ok (parsed body) :=
    parseResponse_of_answer answer
  have readsOne : readBatch body = [body].mapM parseResponse := by
    cases answer <;> rfl
  rw [readsOne, mapM_eq_ok_iff]
  exact List.Forall₂.cons parses List.Forall₂.nil

/-- Sorting by id undoes any arrangement of the answers. -/
theorem readBatch_of_perm
    {answers arrangement : List Json}
    (increasing : ids.Pairwise (· < ·))
    (wellFormed : ∀ answer ∈ answers, Answer answer)
    (answered :
      answers.map messageId = ids.map fun id : ℕ => some (id : ℤ))
    (arranged : arrangement.Perm answers) :
    readBatch (.arr arrangement) = .ok (answers.map parsed) := by
  let number : Json → ℤ := fun answer => (messageId answer).getD 0
  have numbers : answers.map number = ids.map fun id : ℕ => (id : ℤ) := by
    have mapped :=
      congrArg (List.map fun id : Option ℤ => id.getD 0) answered
    rwa [List.map_map, List.map_map] at mapped
  have keyed :
      ∀ answer ∈ arrangement,
        answer.get "id" (.int 0) = .ok (.int (number answer)) := by
    intro answer member
    have inAnswers := arranged.subset member
    obtain ⟨id, _, sameId⟩ :=
      List.mem_map.mp (answered ▸ List.mem_map_of_mem inAnswers)
    have found := messageId_eq_some_iff.mp sameId.symm
    simp only [number, ← sameId, Option.getD_some]
    cases wellFormed answer inAnswers <;>
      · simp only [answerId] at found
        simp [found]
  have increasingNumbers :
      answers.Pairwise fun first second => number first < number second := by
    rw [← List.pairwise_map, numbers, List.pairwise_map]
    exact increasing.imp fun below => Int.ofNat_lt.mpr below
  have parses :
      answers.mapM parseResponse = .ok (answers.map parsed) := by
    rw [mapM_eq_ok_iff, List.forall₂_map_right_iff, List.forall₂_same]
    exact fun answer member =>
      parseResponse_of_answer (wellFormed answer member)
  have sorts := sortByKey_of_perm keyed arranged increasingNumbers
  simp only [readBatch, sorts, bind, Except.bind]
  exact parses

end Batch

/-- On a reply that is not one answer per request, `batch` keeps its promise
only for a single request answered by a bare object with its id. -/
theorem batch_malformed_iff
    (requestId : ℕ) (requests : List Request) (body : Json)
    (malformed :
      ¬ OneAnswerEach (nextIds requestId requests.length) body) :
    AlignedOrRpcError (nextIds requestId requests.length) body
        (batch requestId requests (.reply 200 (some body))).returned ↔
      SingleAnswer (nextIds requestId requests.length) body := by
  have positive : ∀ id ∈ nextIds requestId requests.length, 0 < id := by
    intro id member
    simp only [nextIds, List.mem_range'_1] at member
    omega
  rw [batch_returned]
  constructor
  · intro aligned
    rcases reads : readBatch body with exc | responses
    · rw [reads] at aligned
      exact absurd aligned
        (not_rpcError_of_isTypeError (isTypeError_of_readBatch reads))
    · rw [reads] at aligned
      obtain ⟨arranged, permuted, parses⟩ := readBatch_ok reads
      obtain ⟨answers, sameIds⟩ :=
        answerIds_of_aligned positive parses aligned
      cases body with
      | arr items =>
          -- an aligned array is exactly what `malformed` excludes
          refine absurd ⟨items, rfl, fun item member => ?_, ?_⟩ malformed
          · exact answers item (permuted.subset member)
          · rw [← sameIds]
            exact permuted.map messageId
      | _ => exact singleAnswer_of_answerIds permuted answers sameIds
  · intro holds
    rcases holds with ⟨id, single, answer, sameId⟩
    rw [readBatch_of_answer answer, single]
    have parsedId : (parsed body).id = .int id := by
      rw [parsed_id answer, messageId_eq_some_iff.mp sameId,
        Option.getD_some]
    have fromReply : body ∈ replyItems body := by
      cases answer <;> exact List.mem_singleton_self _
    exact List.Forall₂.cons
      ⟨parsedId, body, fromReply, parseResponse_of_answer answer⟩
      List.Forall₂.nil

/-- One request, answered by a bare object with its id. -/
theorem batch_malformed_bareAnswer :
    ¬ OneAnswerEach (nextIds 0 1) (.obj [("id", .int 1)]) ∧
      AlignedOrRpcError (nextIds 0 1) (.obj [("id", .int 1)])
        (batch 0 [⟨"getHealth", none⟩]
          (.reply 200 (some (.obj [("id", .int 1)])))).returned := by
  have malformed :
      ¬ OneAnswerEach (nextIds 0 1) (.obj [("id", .int 1)]) := by
    intro holds
    rcases holds with ⟨answers, isArray, _⟩
    cases isArray
  refine ⟨malformed, ?_⟩
  exact (batch_malformed_iff 0 [⟨"getHealth", none⟩] _ malformed).mpr
    ⟨1, rfl, Answer.result rfl, rfl⟩

/-- The error object that answers a batch as a whole. -/
def invalidRequest : Json :=
  .obj [("jsonrpc", .str "2.0"), ("id", .null),
    ("error", .obj [("code", .int (-32600)),
      ("message", .str "Invalid request")])]

/-- Two requests and one error object for both of them: the list is one entry
long. -/
theorem batch_returns_shortened :
    ¬ OneAnswerEach (nextIds 0 2) invalidRequest ∧
      ¬ AlignedOrRpcError (nextIds 0 2) invalidRequest
        (batch 0 [⟨"getSlot", none⟩, ⟨"getHealth", none⟩]
          (.reply 200 (some invalidRequest))).returned := by
  have answer : Answer invalidRequest := Answer.error rfl
  refine ⟨?_, fun aligned => ?_⟩
  · intro holds
    rcases holds with ⟨answers, isArray, _⟩
    cases isArray
  · rw [batch_returned, readBatch_of_answer answer] at aligned
    exact absurd aligned.length_eq (by decide)

end KarstflowTests.Rpc

import KarstflowTests.Python.Exception

/-!
# JSON-RPC responses

`RpcResponse` keeps whatever JSON the server put into the members of its
answer; the source annotates `id` and `code` as integers but checks nothing.
-/

namespace KarstflowTests.Rpc

/-- Structured RPC error. -/
structure RpcErrorData where
  code : Json
  message : Json
  data : Json := .null
  deriving DecidableEq

/-- Raw JSON-RPC response wrapper. -/
structure RpcResponse where
  id : Json
  result : Json
  error : Option RpcErrorData := none
  deriving DecidableEq

def RpcResponse.ok (response : RpcResponse) : Bool := response.error.isNone

/-- Return result or raise on error. -/
def RpcResponse.unwrap (response : RpcResponse) : Except Exc Json :=
  match response.error with
  | some error =>
      .error (.rpcCallError error.code error.message error.data)
  | none => .ok response.result

def parseError (data : Json) : Except Exc (Option RpcErrorData) := do
  if ← data.contains "error" then
    let err ← data.getItem "error"
    return some
      { code := ← err.get "code" (.int (-1))
        message := ← err.get "message" (.str "unknown")
        data := ← err.get "data" .null }
  return none

def parseResponse (data : Json) : Except Exc RpcResponse := do
  let error ← parseError data
  return {
    id := ← data.get "id" (.int 0)
    result := ← data.get "result" .null
    error }

/-! ## Answers -/

/-- A JSON-RPC answer: an object whose `error` member, if there is one, is an
object. -/
inductive Answer : Json → Prop
  | result {members : List (String × Json)} :
      members.lookup "error" = none → Answer (.obj members)
  | error {members errorMembers : List (String × Json)} :
      members.lookup "error" = some (.obj errorMembers) →
      Answer (.obj members)

/-- The `id` member of an answer. -/
def answerId : Json → Option Json
  | .obj members => members.lookup "id"
  | _ => none

/-- The error object of an answer, with the defaults of `_parse_response`. -/
def parsedError : Json → RpcErrorData
  | .obj members =>
      { code := (members.lookup "code").getD (.int (-1))
        message := (members.lookup "message").getD (.str "unknown")
        data := (members.lookup "data").getD .null }
  | _ => ⟨.null, .null, .null⟩

/-- What `_parse_response` makes of an answer. -/
def parsed : Json → RpcResponse
  | .obj members =>
      { id := (members.lookup "id").getD (.int 0)
        result := (members.lookup "result").getD .null
        error := (members.lookup "error").map parsedError }
  | _ => ⟨.null, .null, none⟩

/-- The exceptions of an operation on a value of the wrong type. -/
def IsTypeError (exc : Exc) : Prop :=
  ∃ text, exc = .typeError text ∨ exc = .attributeError text

theorem parseResponse_of_answer {data : Json} (answer : Answer data) :
    parseResponse data = .ok (parsed data) := by
  cases answer with
  | result absent =>
      simp [parseResponse, parseError, absent, parsed, bind, Except.bind,
        pure, Except.pure]
  | error present =>
      simp [parseResponse, parseError, present, Json.getItem, parsed,
        parsedError, bind, Except.bind, pure, Except.pure]

theorem get_of_not_obj {value : Json} (key : String) (default : Json)
    (notObj : ∀ members, value ≠ .obj members) :
    ∃ exc, value.get key default = .error exc ∧ IsTypeError exc := by
  cases value with
  | obj members => exact absurd rfl (notObj members)
  | _ => exact ⟨_, rfl, _, Or.inr rfl⟩

/-- On anything but an object the search for an error fails or finds none. -/
theorem parseError_of_not_obj {data : Json}
    (notObj : ∀ members, data ≠ .obj members) :
    parseError data = .ok none ∨
      ∃ exc, parseError data = .error exc ∧ IsTypeError exc := by
  have found {value : Bool} (contains : data.contains "error" = .ok value)
      (fails : ∃ exc, data.getItem "error" = .error exc ∧ IsTypeError exc) :
      parseError data = .ok none ∨
        ∃ exc, parseError data = .error exc ∧ IsTypeError exc := by
    obtain ⟨exc, getFails, typeError⟩ := fails
    cases value with
    | false =>
        exact Or.inl (by simp [parseError, contains, bind, Except.bind,
          pure, Except.pure])
    | true =>
        exact Or.inr ⟨exc, by simp [parseError, contains, getFails, bind,
          Except.bind], typeError⟩
  cases data with
  | obj members => exact absurd rfl (notObj members)
  | arr items => exact found rfl ⟨_, rfl, _, Or.inl rfl⟩
  | str text => exact found rfl ⟨_, rfl, _, Or.inl rfl⟩
  | _ => exact Or.inr ⟨_, rfl, _, Or.inl rfl⟩

/-- Anything but an answer fails with a type error. -/
theorem parseResponse_of_not_answer
    {data : Json} (notAnswer : ¬ Answer data) :
    ∃ exc, parseResponse data = .error exc ∧ IsTypeError exc := by
  by_cases isObj : ∃ members, data = .obj members
  · obtain ⟨members, rfl⟩ := isObj
    rcases present : members.lookup "error" with _ | error
    · exact absurd (Answer.result present) notAnswer
    · have errorNotObj : ∀ errorMembers, error ≠ .obj errorMembers := by
        rintro errorMembers rfl
        exact notAnswer (Answer.error present)
      obtain ⟨exc, fails, typeError⟩ :=
        get_of_not_obj "code" (.int (-1)) errorNotObj
      refine ⟨exc, ?_, typeError⟩
      simp [parseResponse, parseError, present, Json.getItem, fails, bind,
        Except.bind]
  · have notObj : ∀ members, data ≠ .obj members := not_exists.mp isObj
    rcases parseError_of_not_obj notObj with noError | failsFirst
    · obtain ⟨exc, fails, typeError⟩ :=
        get_of_not_obj "id" (.int 0) notObj
      exact ⟨exc, by simp [parseResponse, noError, fails, bind,
        Except.bind], typeError⟩
    · obtain ⟨exc, fails, typeError⟩ := failsFirst
      exact ⟨exc, by simp [parseResponse, fails, bind, Except.bind],
        typeError⟩

theorem parseResponse_eq_ok_iff {data : Json} {response : RpcResponse} :
    parseResponse data = .ok response ↔
      Answer data ∧ response = parsed data := by
  by_cases answer : Answer data
  · rw [parseResponse_of_answer answer, Except.ok.injEq]
    exact ⟨fun same => ⟨answer, same.symm⟩, fun same => same.2.symm⟩
  · obtain ⟨exc, fails, _⟩ := parseResponse_of_not_answer answer
    simp [fails, answer]

theorem isTypeError_of_parseResponse {data : Json} {exc : Exc}
    (fails : parseResponse data = .error exc) :
    IsTypeError exc := by
  by_cases answer : Answer data
  · rw [parseResponse_of_answer answer] at fails
    cases fails
  · obtain ⟨other, failsWith, typeError⟩ :=
      parseResponse_of_not_answer answer
    rw [failsWith] at fails
    cases fails
    exact typeError

end KarstflowTests.Rpc

import KarstflowTests.Rpc.CustomRpc

/-!
# Custom calls that share a list

`custom_rpc` changes the list that it is given, and `request` sends that list.
A later call with the same list sends what the earlier one left there, unless
it puts its own commitment in the same place.
-/

namespace KarstflowTests.Rpc

/-! ## A sequence of calls -/

structure CustomCall where
  method : String
  commitment : Option Commitment := none

/-- The id counter of the client, and the list that every call is given. -/
structure SharedParams where
  requestId : ℕ := 0
  params : List Json

namespace CustomCall

/-- The list after the first half of `custom_rpc`. -/
def inject (call : CustomCall) (params : List Json) : List Json :=
  match call.commitment with
  | some commitment => injectCommitment commitment params
  | none => params

/-- The request of the call by itself. -/
def request (call : CustomCall) (params : List Json) : Request :=
  customRpc call.method (some params) call.commitment

theorem request_eq (call : CustomCall) (params : List Json) :
    call.request params = ⟨call.method, some (call.inject params)⟩ := by
  rcases call with ⟨method, _ | commitment⟩ <;> rfl

/-- `custom_rpc` on the shared list: the payload that it sends. -/
def send (call : CustomCall) : StateM SharedParams Json := fun shared =>
  -- the list that goes into the payload is the caller's own
  let params := call.inject shared.params
  let (sent, requestId) :=
    (buildPayload ⟨call.method, some params⟩).run shared.requestId
  (sent, { requestId, params })

end CustomCall

def sendAll (calls : List CustomCall) : StateM SharedParams (List Json) :=
  calls.mapM CustomCall.send

/-- Every payload is that of the call by itself, and the caller's list is as it
was. -/
structure Undisturbed (shared : SharedParams) (calls : List CustomCall) :
    Prop where
  payloads :
    ((sendAll calls).run shared).1 =
      List.zipWith payload (nextIds shared.requestId calls.length)
        (calls.map fun call => call.request shared.params)
  kept : ((sendAll calls).run shared).2.params = shared.params

/-- Wherever a call changes the list, the next call puts its own commitment
there. -/
def Covered (params : List Json) : List CustomCall → Prop
  | [] => True
  | call :: later =>
      (∀ commitment, call.commitment = some commitment →
        HoldsCommitment commitment params ∨
          ∃ next rest, later = next :: rest ∧ next.commitment.isSome) ∧
        Covered params later

/-! ## What a call leaves to the next -/

theorem sendAll_cons
    (call : CustomCall) (calls : List CustomCall) (shared : SharedParams) :
    (sendAll (call :: calls)).run shared =
      let later :=
        (sendAll calls).run
          ⟨shared.requestId + 1, call.inject shared.params⟩
      (payload (shared.requestId + 1)
          ⟨call.method, some (call.inject shared.params)⟩ :: later.1,
        later.2) := by
  rw [sendAll, List.mapM_cons]
  rfl

theorem payload_params_inj {id : ℕ} {method : String} {left right : List Json} :
    payload id ⟨method, some left⟩ = payload id ⟨method, some right⟩ ↔
      left = right := by
  simp [payload]

/-- The first call finds the list as the caller made it, unless it brings a
commitment. -/
def StartsFresh (params current : List Json) : List CustomCall → Prop
  | [] => current = params
  | call :: _ => call.commitment = none → current = params

theorem startsFresh_inject_iff
    {params : List Json} {commitment : Commitment} {later : List CustomCall} :
    StartsFresh params (injectCommitment commitment params) later ↔
      HoldsCommitment commitment params ∨
        ∃ next rest, later = next :: rest ∧ next.commitment.isSome := by
  cases later with
  | nil => simp [StartsFresh, injectCommitment_eq_self_iff]
  | cons next rest =>
      rcases given : next.commitment with _ | other
      · simp [StartsFresh, injectCommitment_eq_self_iff, given]
      · simp [StartsFresh, given]

/-- On a list that differs from the caller's at most by a commitment. -/
theorem sendAll_undisturbed_iff
    (calls : List CustomCall) (params current : List Json) (requestId : ℕ)
    (alike :
      ∀ commitment,
        injectCommitment commitment current =
          injectCommitment commitment params) :
    (((sendAll calls).run ⟨requestId, current⟩).1 =
        List.zipWith payload (nextIds requestId calls.length)
          (calls.map fun call => call.request params) ∧
      ((sendAll calls).run ⟨requestId, current⟩).2.params = params) ↔
      StartsFresh params current calls ∧ Covered params calls := by
  induction calls generalizing current requestId with
  | nil => exact ⟨fun run => ⟨run.2, trivial⟩, fun fresh => ⟨rfl, fresh.1⟩⟩
  | cons call later inductionHypothesis =>
      have ids :
          nextIds requestId (call :: later).length =
            (requestId + 1) :: nextIds (requestId + 1) later.length := by
        simp [nextIds, List.range'_succ]
      have first :
          payload (requestId + 1) ⟨call.method, some (call.inject current)⟩ =
              payload (requestId + 1) (call.request params) ↔
            call.inject current = call.inject params := by
        rw [CustomCall.request_eq, payload_params_inj]
      rw [sendAll_cons, ids]
      simp only [List.map_cons, List.zipWith_cons_cons, List.cons.injEq,
        first, and_assoc]
      rcases given : call.commitment with _ | commitment
      · -- the call sends the list as it finds it
        have same : ∀ values, call.inject values = values := by
          intro values
          rw [CustomCall.inject, given]
        rw [same, same, inductionHypothesis current (requestId + 1) alike]
        simp only [StartsFresh, Covered, given, reduceCtorEq, false_imp_iff,
          implies_true, true_and, true_imp_iff]
        constructor
        · intro run
          exact ⟨run.1, run.2.2⟩
        · intro run
          refine ⟨run.1, ?_, run.2⟩
          cases later with
          | nil => exact run.1
          | cons next rest => exact fun _ => run.1
      · -- the call sends its own commitment, and leaves it in the list
        have same :
            ∀ values,
              call.inject values = injectCommitment commitment values := by
          intro values
          rw [CustomCall.inject, given]
        rw [same, same, alike commitment, inductionHypothesis]
        · rw [startsFresh_inject_iff]
          simp only [StartsFresh, Covered, given, reduceCtorEq,
            false_imp_iff, true_and, Option.some.injEq, forall_eq']
        · intro other
          rw [injectCommitment_injectCommitment]

/-- The calls do not disturb each other exactly when each change of the list is
covered by the next call; the last call has none to cover it. -/
theorem undisturbed_iff (shared : SharedParams) (calls : List CustomCall) :
    Undisturbed shared calls ↔ Covered shared.params calls := by
  have run :=
    sendAll_undisturbed_iff calls shared.params shared.params
      shared.requestId (fun _ => rfl)
  have fresh : StartsFresh shared.params shared.params calls := by
    cases calls with
    | nil => rfl
    | cons call later => exact fun _ => rfl
  rw [and_iff_right fresh] at run
  rw [← run]
  constructor
  · intro undisturbed
    exact ⟨undisturbed.payloads, undisturbed.kept⟩
  · intro both
    exact ⟨both.1, both.2⟩

/-- A commitment stays in the list for a later call without one. -/
theorem not_undisturbed :
    ¬ Undisturbed { params := [.str "owner"] }
      [{ method := "getBalance", commitment := some .finalized },
        { method := "getBalance" }] := by
  intro undisturbed
  have kept := undisturbed.kept
  revert kept
  decide

end KarstflowTests.Rpc

import KarstflowTests.Comparison.DeepCompare
import KarstflowTests.Rpc.Response

/-!
# Comparing one call against two endpoints

`compare` sees the outcome of the same request on both sides: a response, or
the exception the request raised.  An exception becomes an error with code
`-1`, and two errors with equal codes count as no difference.
`MatchesOnlyAnswers` is what a green comparison should mean;
`matchesOnlyAnswers_iff` says when it does.
-/

namespace KarstflowTests.Comparison

open KarstflowTests.Rpc

/-! ## Results -/

/-- The dict `{"code": ..., "message": ...}` kept for a failed side. -/
structure CallError where
  code : Json
  message : Json
  deriving DecidableEq

def CallError.asDict : Option CallError → Json
  | some error => .obj [("code", error.code), ("message", error.message)]
  | none => .null

/-- Result of comparing a single RPC call against two endpoints. -/
structure ComparisonResult where
  method : String
  params : Option (List Json)
  referenceResult : Json
  targetResult : Json
  referenceError : Option CallError
  targetError : Option CallError
  diffs : List FieldDiff

namespace ComparisonResult

def «matches» (result : ComparisonResult) : Bool :=
  result.diffs.length == 0

def kind (result : ComparisonResult) : DiffKind :=
  match result.referenceError, result.targetError with
  | some reference, some target =>
      if reference.code.pyEq target.code then .bothError else .errorMismatch
  | some _, none => .referenceError
  | none, some _ => .targetError
  | none, none => if result.matches then .match else .valueMismatch

end ComparisonResult

/-! ## One comparison -/

/-- The error recorded for one side. -/
def sideError (rendering : Rendering) :
    Except Exc RpcResponse → Option CallError
  | .error exc => some ⟨.int (-1), .str (exc.str rendering)⟩
  | .ok response =>
      response.error.map fun error => ⟨error.code, error.message⟩

/-- The result recorded for one side. -/
def sideResult : Except Exc RpcResponse → Json
  | .error _ => .null
  | .ok response => response.result

def compareSides (ignore : Finset String)
    (referenceError targetError : Option CallError)
    (referenceResult targetResult : Json) : List FieldDiff :=
  match referenceError, targetError with
  | some reference, some target =>
      if ¬ reference.code.pyEq target.code then
        [⟨"error.code", .valueMismatch, reference.code, target.code⟩]
      else
        []
  | none, none => deepCompare ignore referenceResult targetResult ""
  | _, _ =>
      [⟨"error", .errorMismatch, CallError.asDict referenceError,
        CallError.asDict targetError⟩]

structure ComparisonClient where
  ignore : Finset String
  results : List ComparisonResult

/-- `ignore_fields or default`: an empty set selects the default. -/
def ignoreOr (ignoreFields : Option (Finset String))
    (default : Finset String) : Finset String :=
  match ignoreFields with
  | some fields => if fields = ∅ then default else fields
  | none => default

namespace ComparisonClient

def init (ignoreFields : Option (Finset String)) : ComparisonClient where
  ignore := ignoreOr ignoreFields DEFAULT_IGNORE_FIELDS
  results := []

/-- Run a single RPC call against both endpoints and compare; `reference` and
`target` are what `request_raw` returned or raised on the two sides. -/
def compare (rendering : Rendering) (client : ComparisonClient)
    (method : String) (params : Option (List Json))
    (ignoreFields : Option (Finset String))
    (reference target : Except Exc RpcResponse) :
    ComparisonResult × ComparisonClient :=
  let ignore := ignoreOr ignoreFields client.ignore
  let referenceError := sideError rendering reference
  let targetError := sideError rendering target
  let referenceResult := sideResult reference
  let targetResult := sideResult target
  let result : ComparisonResult :=
    { method, params, referenceResult, targetResult, referenceError,
      targetError
      diffs :=
        compareSides ignore referenceError targetError referenceResult
          targetResult }
  (result, { client with results := client.results ++ [result] })

end ComparisonClient

/-! ## The report -/

/-- `str(diff)` -/
def FieldDiff.str (rendering : Rendering) (diff : FieldDiff) : String :=
  match diff.kind with
  | .missingField =>
      "  " ++ diff.path ++ ": missing in target (ref=" ++
        rendering.repr diff.referenceValue ++ ")"
  | .extraField =>
      "  " ++ diff.path ++ ": extra in target (target=" ++
        rendering.repr diff.targetValue ++ ")"
  | _ =>
      "  " ++ diff.path ++ ": ref=" ++ rendering.repr diff.referenceValue ++
        " vs target=" ++ rendering.repr diff.targetValue

def ComparisonResult.reportLines (rendering : Rendering)
    (result : ComparisonResult) : List String :=
  let status := if result.matches then "OK" else "DIFF"
  ("  [" ++ status ++ "] " ++ result.method) ::
    if result.matches then
      []
    else
      (result.diffs.take 5).map (fun diff =>
        "    " ++ FieldDiff.str rendering diff) ++
      if 5 < result.diffs.length then
        ["    ... and " ++ toString (result.diffs.length - 5) ++
          " more diffs"]
      else
        []

/-- `sum(1 for r in results if r.matches)` -/
def matchedCount (results : List ComparisonResult) : ℕ :=
  results.countP fun result => result.matches

/-- Generate a human-readable comparison report. -/
def ComparisonClient.report (rendering : Rendering)
    (client : ComparisonClient) : String :=
  if client.results.isEmpty then
    "No comparison results."
  else
    String.intercalate "\n"
      (("Comparison Report: " ++ toString (matchedCount client.results) ++
          "/" ++ toString client.results.length ++ " methods match") ::
        String.ofList (List.replicate 60 '=') ::
        client.results.flatMap (ComparisonResult.reportLines rendering))

/-! ## What a match means -/

/-- A match says that both endpoints answered; two unreachable endpoints are
no match, neither by `matches` nor by `kind` nor in the report's count. -/
structure MatchesOnlyAnswers
    (reference target : Except Exc RpcResponse)
    (before : ComparisonClient)
    (compared : ComparisonResult × ComparisonClient) : Prop where
  answered :
    compared.1.matches → reference.isOk ∧ target.isOk
  unreachable :
    ¬ reference.isOk → ¬ target.isOk →
      ¬ compared.1.matches ∧ compared.1.kind ≠ .match ∧
        matchedCount compared.2.results = matchedCount before.results

/-- The side ends in an error that is recorded with code `-1`: its request
raised, or it answered with that code. -/
def FailsWithMinusOne : Except Exc RpcResponse → Prop
  | .error _ => True
  | .ok response =>
      ∃ error, response.error = some error ∧ error.code.pyEq (.int (-1))

section Match

variable {rendering : Rendering} {client : ComparisonClient}
variable {method : String} {params : Option (List Json)}
variable {ignoreFields : Option (Finset String)}
variable {reference target : Except Exc RpcResponse}

/-- Once a request raised, the call matches when both sides end in an error
recorded with code `-1`. -/
theorem matches_iff_of_raised
    (raised : ¬ reference.isOk ∨ ¬ target.isOk) :
    (client.compare rendering method params ignoreFields
        reference target).1.matches ↔
      FailsWithMinusOne reference ∧ FailsWithMinusOne target := by
  have emptyDiffs (diffs : List FieldDiff) :
      (diffs.length == 0) = true ↔ diffs = [] := by
    rw [beq_iff_eq, List.length_eq_zero_iff]
  simp only [ComparisonClient.compare, ComparisonResult.matches, emptyDiffs]
  cases reference with
  | error referenceExc =>
      cases target with
      | error targetExc =>
          simp [compareSides, sideError, FailsWithMinusOne]
      | ok response =>
          rcases noError : response.error with _ | error
          · simp [compareSides, sideError, noError, FailsWithMinusOne]
          · simp [compareSides, sideError, noError, FailsWithMinusOne,
              Json.pyEq_int_comm]
  | ok response =>
      cases target with
      | error targetExc =>
          rcases noError : response.error with _ | error
          · simp [compareSides, sideError, noError, FailsWithMinusOne]
          · simp [compareSides, sideError, noError, FailsWithMinusOne]
      | ok other =>
          exact absurd raised (by simp [Except.isOk, Except.toBool])

end Match

/-- A match means that both endpoints answered, unless a request raised and
the other one raised as well or answered an error with code `-1`. -/
theorem matchesOnlyAnswers_iff
    (rendering : Rendering) (client : ComparisonClient)
    (method : String) (params : Option (List Json))
    (ignoreFields : Option (Finset String))
    (reference target : Except Exc RpcResponse) :
    MatchesOnlyAnswers reference target client
        (client.compare rendering method params ignoreFields
          reference target) ↔
      ¬ ((¬ reference.isOk ∨ ¬ target.isOk) ∧
        FailsWithMinusOne reference ∧ FailsWithMinusOne target) := by
  constructor
  · rintro ⟨answered, _⟩ ⟨raised, fails⟩
    obtain ⟨referenceOk, targetOk⟩ :=
      answered ((matches_iff_of_raised raised).mpr fails)
    rcases raised with notOk | notOk
    · exact notOk referenceOk
    · exact notOk targetOk
  · intro noCollision
    refine ⟨fun isMatch => ?_, fun referenceRaised targetRaised => ?_⟩
    · by_contra notBoth
      have raised := not_and_or.mp notBoth
      exact noCollision ⟨raised, (matches_iff_of_raised raised).mp isMatch⟩
    · -- two raised requests are themselves a collision
      refine absurd ⟨Or.inl referenceRaised, ?_, ?_⟩ noCollision
      · cases reference with
        | error => trivial
        | ok => exact absurd rfl referenceRaised
      · cases target with
        | error => trivial
        | ok => exact absurd rfl targetRaised

/-- `request_raw` against an unreachable endpoint. -/
def unreachable : Except Exc RpcResponse :=
  .error (.connectionError "RPC request failed after 4 attempts")

/-- `getEpochSchedule` against two unreachable endpoints is reported as a
match. -/
theorem compare_matches_of_unreachable :
    ¬ MatchesOnlyAnswers unreachable unreachable
      (ComparisonClient.init none)
      ((ComparisonClient.init none).compare
        ⟨Json.typeName, Json.typeName⟩ "getEpochSchedule" none none
        unreachable unreachable) := by
  intro holds
  rcases holds with ⟨answered, _⟩
  have bothOk := answered (by decide)
  exact absurd bothOk.1 (by decide)

end KarstflowTests.Comparison

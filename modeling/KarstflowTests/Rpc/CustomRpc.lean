import KarstflowTests.Rpc.RequestBuilder

/-!
# Custom calls with a commitment

`ValidatorClient.custom_rpc` puts the commitment into the list of parameters
that it is given: into the last element if that is a dict, else as a new
element.  A call without a list goes out without the commitment.

The builder keeps the config entries apart and sends them last; the two agree
when there are config entries, or positional values that do not end in a dict.
-/

namespace KarstflowTests.Rpc

open KarstflowTests.Library

/-! ## `custom_rpc` -/

/-- Inject commitment into last dict param or append. -/
def injectCommitment (commitment : Commitment) (params : List Json) :
    List Json :=
  match params.getLast? with
  | some (.obj members) =>
      params.dropLast ++
        [.obj (setEntry "commitment" (.str commitment.value) members)]
  | _ => params ++ [.obj [("commitment", .str commitment.value)]]

/-- The caller's list when `custom_rpc` sends it. -/
def sentParams (params : Option (List Json))
    (commitment : Option Commitment) : Option (List Json) :=
  match commitment, params with
  | some commitment, some params => some (injectCommitment commitment params)
  | _, params => params

/-- The request of `custom_rpc`. -/
def customRpc (method : String) (params : Option (List Json))
    (commitment : Option Commitment := none) : Request :=
  ⟨method, sentParams params commitment⟩

section Inject

variable (commitment : Commitment) (values : List Json)

theorem injectCommitment_obj (members : List (String × Json)) :
    injectCommitment commitment (values ++ [.obj members]) =
      values ++
        [.obj (setEntry "commitment" (.str commitment.value) members)] := by
  rw [injectCommitment, List.getLast?_concat, List.dropLast_concat]

/-- A list that does not end in a dict. -/
def EndsPlain (values : List Json) : Prop :=
  ∀ front members, values ≠ front ++ [.obj members]

variable {values}

theorem injectCommitment_plain (plain : EndsPlain values) :
    injectCommitment commitment values =
      values ++ [.obj [("commitment", .str commitment.value)]] := by
  rw [injectCommitment]
  split
  · next members last =>
      obtain ⟨front, isLast⟩ := List.getLast?_eq_some_iff.mp last
      exact absurd isLast (plain front members)
  · rfl

/-- A list ends in a dict, or it does not. -/
theorem plain_or_obj (values : List Json) :
    EndsPlain values ∨ ∃ front members, values = front ++ [.obj members] := by
  by_cases plain : EndsPlain values
  · exact .inl plain
  · simp only [EndsPlain, not_forall, not_not] at plain
    exact .inr plain

end Inject

/-- The list holds the commitment where `custom_rpc` puts it. -/
def HoldsCommitment (commitment : Commitment) (values : List Json) : Prop :=
  ∃ front members,
    values = front ++ [.obj members] ∧
      members.lookup "commitment" = some (.str commitment.value)

theorem injectCommitment_eq_self_iff
    {commitment : Commitment} {values : List Json} :
    injectCommitment commitment values = values ↔
      HoldsCommitment commitment values := by
  rcases plain_or_obj values with plain | ⟨front, members, rfl⟩
  · rw [injectCommitment_plain commitment plain]
    constructor
    · intro unchanged
      have lengths := congrArg List.length unchanged
      simp at lengths
    · intro holds
      obtain ⟨front, members, isLast, _⟩ := holds
      exact absurd isLast (plain front members)
  · rw [injectCommitment_obj, HoldsCommitment]
    have samePlace :
        (∃ others objects,
          front ++ [Json.obj members] = others ++ [.obj objects] ∧
            objects.lookup "commitment" = some (.str commitment.value)) ↔
          members.lookup "commitment" = some (.str commitment.value) := by
      constructor
      · intro holds
        obtain ⟨others, objects, same, found⟩ := holds
        have lasts := (List.append_inj' same rfl).2
        cases lasts
        exact found
      · intro found
        exact ⟨front, members, rfl, found⟩
    rw [samePlace, ← setEntry_eq_self_iff]
    simp

/-- Only the last commitment that was put in remains. -/
theorem injectCommitment_injectCommitment
    (later earlier : Commitment) (values : List Json) :
    injectCommitment later (injectCommitment earlier values) =
      injectCommitment later values := by
  rcases plain_or_obj values with plain | ⟨front, members, rfl⟩
  · rw [injectCommitment_plain earlier plain,
      injectCommitment_plain later plain, injectCommitment_obj]
    simp [setEntry]
  · rw [injectCommitment_obj, injectCommitment_obj, injectCommitment_obj,
      setEntry_setEntry]

/-! ## The same call from the builder -/

/-- `RequestBuilder(method)` with positional values, config entries and a
commitment. -/
def commitmentBuilder (method : String) (values : List Json)
    (config : OrderedDict String Json) (commitment : Commitment) :
    RequestBuilder :=
  let positional := values.foldl RequestBuilder.withPositional { method }
  let configured :=
    config.entries.foldl
      (fun builder entry => builder.withParam entry.1 entry.2) positional
  configured.withCommitment commitment.value

/-- The list that a caller of `custom_rpc` makes for the same call. -/
def callerParams (values : List Json) (config : OrderedDict String Json) :
    Option (List Json) :=
  if config.entries ≠ [] then some (values ++ [.obj config.entries])
  else if values ≠ [] then some values
  else none

section Alike

variable (method : String) (values : List Json)
variable (config : OrderedDict String Json) (commitment : Commitment)

/-- The request of `RpcClient.execute`. -/
def executedRequest : Request :=
  (commitmentBuilder method values config commitment).build.request

/-- The request of `custom_rpc`. -/
def customRequest : Request :=
  customRpc method (callerParams values config) (some commitment)

/-- The positional values, and behind them the config object with the
commitment. -/
def trailingConfig : List Json :=
  values ++
    [.obj (config.set "commitment" (.str commitment.value)).entries]

/-- Both ways send the same payload, with the commitment in a trailing config
object. -/
structure SentAlike : Prop where
  payloads :
    ∀ requestId,
      (buildPayload (executedRequest method values config commitment)).run
          requestId =
        (buildPayload (customRequest method values config commitment)).run
          requestId
  executed :
    (executedRequest method values config commitment).params =
      some (trailingConfig values config commitment)
  custom :
    (customRequest method values config commitment).params =
      some (trailingConfig values config commitment)

theorem foldl_withPositional (builder : RequestBuilder) :
    values.foldl RequestBuilder.withPositional builder =
      { builder with positional := builder.positional ++ values } := by
  induction values generalizing builder with
  | nil => simp
  | cons value rest inductionHypothesis =>
      rw [List.foldl_cons, inductionHypothesis]
      simp [RequestBuilder.withPositional]

theorem foldl_withParam
    (entries : List (String × Json)) (builder : RequestBuilder) :
    entries.foldl
        (fun builder entry => builder.withParam entry.1 entry.2) builder =
      { builder with
        config :=
          entries.foldl (fun dict entry => dict.set entry.1 entry.2)
            builder.config } := by
  induction entries generalizing builder with
  | nil => rfl
  | cons entry rest inductionHypothesis =>
      rw [List.foldl_cons, inductionHypothesis]
      rfl

theorem commitmentBuilder_eq :
    commitmentBuilder method values config commitment =
      { method, positional := values, config
        commitment := some commitment.value } := by
  have sameConfig :
      config.entries.foldl (fun dict entry => dict.set entry.1 entry.2)
        .empty = config := by
    apply OrderedDict.eq_of_entries
    exact OrderedDict.entries_foldl_set config.distinct
  simp only [commitmentBuilder, foldl_withPositional, foldl_withParam,
    sameConfig]
  rfl

theorem set_entries_ne_nil (key : String) (value : Json) :
    (config.set key value).entries ≠ [] := by
  intro empty
  have found := OrderedDict.get?_set config key key value
  rw [if_pos rfl, OrderedDict.get?, empty] at found
  cases found

theorem value_ne_empty (commitment : Commitment) : commitment.value ≠ "" := by
  cases commitment <;> decide

theorem executedRequest_eq :
    executedRequest method values config commitment =
      ⟨method, some (trailingConfig values config commitment)⟩ := by
  have final :
      RequestBuilder.finalConfig
          { method, positional := values, config
            commitment := some commitment.value } =
        config.set "commitment" (.str commitment.value) := by
    simp [RequestBuilder.finalConfig, RequestBuilder.override,
      value_ne_empty commitment]
  have nonempty :=
    set_entries_ne_nil config "commitment" (.str commitment.value)
  simp [executedRequest, RpcRequestSpec.request, RequestBuilder.build, final,
    nonempty, commitmentBuilder_eq, trailingConfig]

theorem customRequest_params_iff :
    (customRequest method values config commitment).params =
        some (trailingConfig values config commitment) ↔
      config.entries ≠ [] ∨ (values ≠ [] ∧ EndsPlain values) := by
  simp only [customRequest, customRpc, callerParams, trailingConfig]
  by_cases noConfig : config.entries = []
  · have onlyCommitment :
        (config.set "commitment" (.str commitment.value)).entries =
          [("commitment", .str commitment.value)] := by
      simp [OrderedDict.set, noConfig, setEntry]
    simp only [noConfig, ne_eq, not_true_eq_false, if_false, false_or,
      onlyCommitment]
    by_cases noValues : values = []
    · simp [noValues, sentParams]
    · rw [if_pos noValues, sentParams, Option.some.injEq]
      rcases plain_or_obj values with plain | ⟨front, members, rfl⟩
      · simp [injectCommitment_plain commitment plain, noValues, plain]
      · rw [injectCommitment_obj]
        constructor
        · intro same
          have lengths := congrArg List.length same
          simp at lengths
        · intro both
          exact absurd rfl (both.2 front members)
  · rw [if_pos noConfig, sentParams, injectCommitment_obj]
    simp [noConfig, OrderedDict.set]

theorem sentAlike_iff :
    SentAlike method values config commitment ↔
      config.entries ≠ [] ∨ (values ≠ [] ∧ EndsPlain values) := by
  rw [← customRequest_params_iff method values config commitment]
  constructor
  · exact SentAlike.custom
  · intro custom
    have executed := executedRequest_eq method values config commitment
    have same :
        executedRequest method values config commitment =
          customRequest method values config commitment := by
      rw [executed, ← custom]
      rfl
    refine ⟨?_, ?_, custom⟩
    · intro requestId
      rw [same]
    · rw [executed]

end Alike

/-- The commitment of a `getSlot` without parameters is lost, and that of a
`getTokenAccountsByOwner` lands in the mint filter. -/
theorem not_sentAlike :
    ¬ SentAlike "getSlot" [] .empty .finalized ∧
      ¬ SentAlike "getTokenAccountsByOwner"
        [.str "owner", .obj [("mint", .str "So1")]] .empty .finalized := by
  constructor
  · intro alike
    have custom := alike.custom
    revert custom
    decide
  · intro alike
    have custom := alike.custom
    revert custom
    decide

end KarstflowTests.Rpc

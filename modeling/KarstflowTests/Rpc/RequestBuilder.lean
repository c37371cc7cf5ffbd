import KarstflowTests.Library.OrderedDict
import KarstflowTests.Python.Sameness
import KarstflowTests.Rpc.Client

/-!
# The request builder

`RequestBuilder` collects positional values, config entries, a commitment and
an encoding, and `build` puts them together.  Setters that touch different
parts commute, so only the order within each part matters.
-/

namespace KarstflowTests.Rpc

open KarstflowTests.Library

/-! ## The builder -/

/-- Immutable specification for an RPC request. -/
structure RpcRequestSpec where
  method : String
  params : Option (List Json) := none
  commitment : Option String := none
  encoding : Option String := none
  extra : OrderedDict String Json := .empty

structure RequestBuilder where
  method : String
  positional : List Json := []
  config : OrderedDict String Json := .empty
  commitment : Option String := none
  encoding : Option String := none

namespace RequestBuilder

/-- Add a pubkey as the first positional param. -/
def withPubkey (builder : RequestBuilder) (pubkey : String) :
    RequestBuilder :=
  { builder with positional := .str pubkey :: builder.positional }

/-- Add multiple pubkeys as first positional param. -/
def withPubkeys (builder : RequestBuilder) (pubkeys : List String) :
    RequestBuilder :=
  { builder with
    positional := .arr (pubkeys.map .str) :: builder.positional }

def withCommitment (builder : RequestBuilder) (commitment : String) :
    RequestBuilder :=
  { builder with commitment := some commitment }

def withEncoding (builder : RequestBuilder) (encoding : String) :
    RequestBuilder :=
  { builder with encoding := some encoding }

/-- Add a named config parameter. -/
def withParam (builder : RequestBuilder) (key : String) (value : Json) :
    RequestBuilder :=
  { builder with config := builder.config.set key value }

/-- Add a raw positional parameter. -/
def withPositional (builder : RequestBuilder) (value : Json) :
    RequestBuilder :=
  { builder with positional := builder.positional ++ [value] }

def withDataSlice (builder : RequestBuilder) (offset length : ℤ) :
    RequestBuilder :=
  builder.withParam "dataSlice"
    (.obj [("offset", .int offset), ("length", .int length)])

def withFilters (builder : RequestBuilder) (filters : List Json) :
    RequestBuilder :=
  builder.withParam "filters" (.arr filters)

def withLimit (builder : RequestBuilder) (limit : ℤ) : RequestBuilder :=
  builder.withParam "limit" (.int limit)

def withMinContextSlot (builder : RequestBuilder) (slot : ℤ) :
    RequestBuilder :=
  builder.withParam "minContextSlot" (.int slot)

/-- Set `maxSupportedTransactionVersion`. -/
def withTxVersion (builder : RequestBuilder) (version : ℤ := 0) :
    RequestBuilder :=
  builder.withParam "maxSupportedTransactionVersion" (.int version)

/-- `if text: config[key] = text` -/
def override (config : OrderedDict String Json) (key : String) :
    Option String → OrderedDict String Json
  | some text => if text = "" then config else config.set key (.str text)
  | none => config

/-- The config object that `build` sends. -/
def finalConfig (builder : RequestBuilder) : OrderedDict String Json :=
  override (override builder.config "commitment" builder.commitment)
    "encoding" builder.encoding

/-- Build the immutable request spec. -/
def build (builder : RequestBuilder) : RpcRequestSpec :=
  let config := builder.finalConfig.entries
  { method := builder.method
    params :=
      if builder.positional ≠ [] ∨ config ≠ [] then
        some
          (if config ≠ [] then builder.positional ++ [.obj config]
          else builder.positional)
      else
        none
    commitment := builder.commitment
    encoding := builder.encoding
    extra := builder.config }

end RequestBuilder

/-- `RpcClient.execute` reads two fields of a spec. -/
def RpcRequestSpec.request (spec : RpcRequestSpec) : Request :=
  ⟨spec.method, spec.params⟩

/-- `==` of two specs, a frozen dataclass. -/
def RpcRequestSpec.pyEq (first second : RpcRequestSpec) : Bool :=
  first.method == second.method &&
    (match first.params, second.params with
      | some left, some right => Json.pyEqItems left right
      | none, none => true
      | _, _ => false) &&
    first.commitment == second.commitment &&
    first.encoding == second.encoding &&
    Json.pyEq (.obj first.extra.entries) (.obj second.extra.entries)

/-! ## Chains of calls -/

/-- A call of a setter. -/
inductive BuilderCall where
  | withPubkey (pubkey : String)
  | withPubkeys (pubkeys : List String)
  | withCommitment (commitment : String)
  | withEncoding (encoding : String)
  | withParam (key : String) (value : JsonValue)
  | withPositional (value : JsonValue)
  | withDataSlice (offset length : ℤ)
  | withFilters (filters : List JsonValue)
  | withLimit (limit : ℤ)
  | withMinContextSlot (slot : ℤ)
  | withTxVersion (version : ℤ := 0)

namespace BuilderCall

def apply (builder : RequestBuilder) : BuilderCall → RequestBuilder
  | withPubkey pubkey => builder.withPubkey pubkey
  | withPubkeys pubkeys => builder.withPubkeys pubkeys
  | withCommitment commitment => builder.withCommitment commitment
  | withEncoding encoding => builder.withEncoding encoding
  | withParam key value => builder.withParam key value.json
  | withPositional value => builder.withPositional value.json
  | withDataSlice offset length => builder.withDataSlice offset length
  | withFilters filters => builder.withFilters (filters.map JsonValue.json)
  | withLimit limit => builder.withLimit limit
  | withMinContextSlot slot => builder.withMinContextSlot slot
  | withTxVersion version => builder.withTxVersion version

/-- What the call inserts at the front. -/
def front : BuilderCall → Option Json
  | withPubkey pubkey => some (.str pubkey)
  | withPubkeys pubkeys => some (.arr (pubkeys.map .str))
  | _ => none

/-- What the call appends. -/
def positional : BuilderCall → Option Json
  | withPositional value => some value.json
  | _ => none

def commitment : BuilderCall → Option String
  | withCommitment commitment => some commitment
  | _ => none

def encoding : BuilderCall → Option String
  | withEncoding encoding => some encoding
  | _ => none

/-- The config entry that the call writes. -/
def entry : BuilderCall → Option (String × Json)
  | withParam key value => some (key, value.json)
  | withDataSlice offset length =>
      some
        ("dataSlice",
          .obj [("offset", .int offset), ("length", .int length)])
  | withFilters filters =>
      some ("filters", .arr (filters.map JsonValue.json))
  | withLimit limit => some ("limit", .int limit)
  | withMinContextSlot slot => some ("minContextSlot", .int slot)
  | withTxVersion version =>
      some ("maxSupportedTransactionVersion", .int version)
  | _ => none

/-- What the call writes under one config key. -/
def written (key : String) (call : BuilderCall) : Option Json :=
  match call.entry with
  | some entry => if entry.1 = key then some entry.2 else none
  | none => none

end BuilderCall

/-- `RequestBuilder(method)` after a chain of calls. -/
def built (method : String) (calls : List BuilderCall) : RequestBuilder :=
  calls.foldl BuilderCall.apply { method }

/-- What one call does to each part of the builder. -/
theorem apply_eq (builder : RequestBuilder) (call : BuilderCall) :
    call.apply builder =
      { method := builder.method
        positional :=
          call.front.toList ++ builder.positional ++ call.positional.toList
        config :=
          call.entry.elim builder.config fun entry =>
            builder.config.set entry.1 entry.2
        commitment := call.commitment <|> builder.commitment
        encoding := call.encoding <|> builder.encoding } := by
  cases call with
  | withPositional value => rfl
  | _ =>
      simp only [BuilderCall.positional, Option.toList_none, List.append_nil]
      rfl

theorem built_snoc (method : String) (calls : List BuilderCall)
    (call : BuilderCall) :
    built method (calls ++ [call]) = call.apply (built method calls) := by
  rw [built, List.foldl_append]
  rfl

section Parts

variable (method : String) (calls : List BuilderCall)

theorem method_built : (built method calls).method = method := by
  induction calls using List.reverseRecOn with
  | nil => rfl
  | append_singleton calls call inductionHypothesis =>
      rw [built_snoc, apply_eq]
      exact inductionHypothesis

/-- The calls that insert at the front act in reverse. -/
theorem positional_built :
    (built method calls).positional =
      (calls.filterMap BuilderCall.front).reverse ++
        calls.filterMap BuilderCall.positional := by
  induction calls using List.reverseRecOn with
  | nil => rfl
  | append_singleton calls call inductionHypothesis =>
      rw [built_snoc, apply_eq, inductionHypothesis]
      rcases first : call.front with _ | value <;>
        rcases last : call.positional with _ | other <;>
        simp [first, last]

/-- The last write of a part counts. -/
theorem commitment_built :
    (built method calls).commitment =
      (calls.filterMap BuilderCall.commitment).getLast? := by
  induction calls using List.reverseRecOn with
  | nil => rfl
  | append_singleton calls call inductionHypothesis =>
      rw [built_snoc, apply_eq, inductionHypothesis]
      rcases written : call.commitment with _ | value <;> simp [written]

theorem encoding_built :
    (built method calls).encoding =
      (calls.filterMap BuilderCall.encoding).getLast? := by
  induction calls using List.reverseRecOn with
  | nil => rfl
  | append_singleton calls call inductionHypothesis =>
      rw [built_snoc, apply_eq, inductionHypothesis]
      rcases written : call.encoding with _ | value <;> simp [written]

theorem config_built (key : String) :
    (built method calls).config.get? key =
      (calls.filterMap (BuilderCall.written key)).getLast? := by
  induction calls using List.reverseRecOn with
  | nil => rfl
  | append_singleton calls call inductionHypothesis =>
      rw [built_snoc, apply_eq]
      rcases written : call.entry with _ | entry
      · simp [BuilderCall.written, written, inductionHypothesis]
      · simp only [Option.elim_some, OrderedDict.get?_set]
        by_cases same : key = entry.1
        · simp [BuilderCall.written, written, same]
        · rw [if_neg same, inductionHypothesis]
          simp [BuilderCall.written, written, Ne.symm same]

end Parts

/-! ## The config object -/

/-- A text that an `if` lets through. -/
def givenText (text : Option String) : Option String :=
  text.filter (· ≠ "")

theorem get?_override
    (config : OrderedDict String Json) (name key : String)
    (text : Option String) :
    (RequestBuilder.override config name text).get? key =
      if key = name then
        (givenText text).map .str <|> config.get? key
      else
        config.get? key := by
  rcases text with _ | text
  · simp [RequestBuilder.override, givenText]
  · by_cases empty : text = ""
    · simp [RequestBuilder.override, givenText, empty, Option.filter_some]
    · by_cases same : key = name
      · simp [RequestBuilder.override, givenText, empty, same,
          OrderedDict.get?_set, Option.filter_some]
      · simp [RequestBuilder.override, empty, same, OrderedDict.get?_set]

/-- What a chain of calls puts under a key of the config object. -/
def configOf (calls : List BuilderCall) (key : String) : Option Json :=
  let text :=
    if key = "encoding" then
      (calls.filterMap BuilderCall.encoding).getLast?
    else if key = "commitment" then
      (calls.filterMap BuilderCall.commitment).getLast?
    else
      none
  (givenText text).map .str <|>
    (calls.filterMap (BuilderCall.written key)).getLast?

theorem finalConfig_built
    (method : String) (calls : List BuilderCall) (key : String) :
    (built method calls).finalConfig.get? key = configOf calls key := by
  simp only [RequestBuilder.finalConfig, get?_override, commitment_built,
    encoding_built, config_built, configOf]
  by_cases isEncoding : key = "encoding"
  · simp [isEncoding]
  · by_cases isCommitment : key = "commitment"
    · simp [isCommitment]
    · simp [isEncoding, isCommitment, givenText]

/-! ## The parameters -/

/-- The front values in reverse, the positional values in order, and the config
object unless it is empty; `None` when there is nothing. -/
def orderedParams (calls : List BuilderCall)
    (config : List (String × Json)) : Option (List Json) :=
  let values :=
    (calls.filterMap BuilderCall.front).reverse ++
      calls.filterMap BuilderCall.positional ++
        if config = [] then [] else [.obj config]
  if values = [] then none else some values

/-- The parameters of a spec are those of the chain that built it. -/
def ParamsInOrder (calls : List BuilderCall) (spec : RpcRequestSpec) : Prop :=
  ∃ config : OrderedDict String Json,
    (∀ key, config.get? key = configOf calls key) ∧
      spec.params = orderedParams calls config.entries

theorem paramsInOrder_build (method : String) (calls : List BuilderCall) :
    ParamsInOrder calls (built method calls).build := by
  refine ⟨(built method calls).finalConfig, finalConfig_built method calls, ?_⟩
  simp only [RequestBuilder.build, orderedParams, ← positional_built method]
  by_cases noConfig : (built method calls).finalConfig.entries = []
  · by_cases noValues : (built method calls).positional = []
    · simp [noConfig, noValues]
    · simp [noConfig, noValues]
  · simp [noConfig]

/-! ## The order of the calls -/

/-- The same calls in another order, which is the same among the calls that
insert at the front, among those that append, that set the commitment, that set
the encoding, and among those that write one config key. -/
structure Rearranged (first second : List BuilderCall) : Prop where
  reordered : first.Perm second
  fronts :
    first.filter (fun call => call.front.isSome) =
      second.filter fun call => call.front.isSome
  positionals :
    first.filter (fun call => call.positional.isSome) =
      second.filter fun call => call.positional.isSome
  commitments :
    first.filter (fun call => call.commitment.isSome) =
      second.filter fun call => call.commitment.isSome
  encodings :
    first.filter (fun call => call.encoding.isSome) =
      second.filter fun call => call.encoding.isSome
  keys :
    ∀ key,
      first.filter (fun call => (call.written key).isSome) =
        second.filter fun call => (call.written key).isSome

/-- What a part of the calls says can be read off that part. -/
theorem filterMap_eq_of_filter_eq
    {Value : Type} {read : BuilderCall → Option Value}
    {first second : List BuilderCall}
    (same :
      first.filter (fun call => (read call).isSome) =
        second.filter fun call => (read call).isSome) :
    first.filterMap read = second.filterMap read := by
  have part : ∀ calls : List BuilderCall,
      (calls.filter fun call => (read call).isSome).filterMap read =
        calls.filterMap read := by
    intro calls
    rw [List.filterMap_filter]
    congr 1
    funext call
    cases read call <;> rfl
  rw [← part first, same, part]

theorem Rearranged.configOf_eq
    {first second : List BuilderCall} (rearranged : Rearranged first second)
    (key : String) : configOf first key = configOf second key := by
  simp only [configOf, filterMap_eq_of_filter_eq rearranged.commitments,
    filterMap_eq_of_filter_eq rearranged.encodings,
    filterMap_eq_of_filter_eq (rearranged.keys key)]

/-! ## Equal specs -/

theorem wf_int_pair (first second : String) (different : first ≠ second)
    (left right : ℤ) :
    (Json.obj [(first, .int left), (second, .int right)]).WF := by
  apply Json.wf_obj
  · simp [different]
  · simp [Json.WF]

/-- Every value of a call is a Python value. -/
theorem BuilderCall.wf_entry
    {call : BuilderCall} {entry : String × Json}
    (writes : call.entry = some entry) : entry.2.WF := by
  cases call with
  | withParam key value =>
      cases writes
      exact value.wf
  | withDataSlice offset length =>
      cases writes
      exact wf_int_pair "offset" "length" (by decide) offset length
  | withFilters filters =>
      cases writes
      apply Json.wf_arr
      intro item member
      obtain ⟨filter, _, rfl⟩ := List.mem_map.mp member
      exact filter.wf
  | withLimit limit =>
      cases writes
      simp [Json.WF]
  | withMinContextSlot slot =>
      cases writes
      simp [Json.WF]
  | withTxVersion version =>
      cases writes
      simp [Json.WF]
  | _ => cases writes

theorem BuilderCall.wf_positional
    {call : BuilderCall} {value : Json}
    (appends : call.positional = some value) : value.WF := by
  cases call <;> cases appends
  next value => exact value.wf

theorem BuilderCall.wf_front
    {call : BuilderCall} {value : Json}
    (inserts : call.front = some value) : value.WF := by
  cases call with
  | withPubkey pubkey =>
      cases inserts
      simp [Json.WF]
  | withPubkeys pubkeys =>
      cases inserts
      apply Json.wf_arr
      intro item member
      obtain ⟨pubkey, _, rfl⟩ := List.mem_map.mp member
      simp [Json.WF]
  | _ => cases inserts

theorem wf_positional_built
    {method : String} {calls : List BuilderCall} {value : Json}
    (member : value ∈ (built method calls).positional) : value.WF := by
  rw [positional_built, List.mem_append, List.mem_reverse,
    List.mem_filterMap, List.mem_filterMap] at member
  rcases member with ⟨call, _, inserts⟩ | ⟨call, _, appends⟩
  · exact BuilderCall.wf_front inserts
  · exact BuilderCall.wf_positional appends

theorem BuilderCall.wf_written
    {call : BuilderCall} {key : String} {value : Json}
    (writes : call.written key = some value) : value.WF := by
  rcases entry : call.entry with _ | pair
  · simp [BuilderCall.written, entry] at writes
  · simp only [BuilderCall.written, entry, Option.ite_none_right_eq_some,
      Option.some.injEq] at writes
    exact writes.2 ▸ BuilderCall.wf_entry entry

theorem wf_configOf
    {calls : List BuilderCall} {key : String} {value : Json}
    (found : configOf calls key = some value) : value.WF := by
  simp only [configOf, Option.orElse_eq_some] at found
  rcases found with isText | ⟨_, isWritten⟩
  · obtain ⟨text, _, rfl⟩ := Option.map_eq_some_iff.mp isText
    simp [Json.WF]
  · obtain ⟨call, _, writes⟩ :=
      List.mem_filterMap.mp (List.mem_of_getLast? isWritten)
    exact BuilderCall.wf_written writes

section Equal

variable {first second : RequestBuilder}

/-- The config objects may differ in the order of their keys. -/
structure SameParts (first second : RequestBuilder) : Prop where
  method : first.method = second.method
  positional : first.positional = second.positional
  commitment : first.commitment = second.commitment
  encoding : first.encoding = second.encoding
  config : first.config.entries.Perm second.config.entries
  finalConfig :
    first.finalConfig.entries.Perm second.finalConfig.entries

theorem pyEq_params
    (same : SameParts first second)
    (values : ∀ value ∈ first.positional, value.WF)
    (config : (Json.obj first.finalConfig.entries).WF) :
    (match first.build.params, second.build.params with
      | some left, some right => Json.pyEqItems left right
      | none, none => true
      | _, _ => false) = true := by
  have together :
      first.finalConfig.entries = [] ↔ second.finalConfig.entries = [] := by
    constructor
    · intro empty
      exact (empty ▸ same.finalConfig).symm.eq_nil
    · intro empty
      exact (empty ▸ same.finalConfig).eq_nil
  have positional : ∀ value ∈ first.positional, value.pyEq value = true := by
    intro value member
    exact Json.pyEq_refl (values value member)
  simp only [RequestBuilder.build, ← same.positional, ne_eq, ← together]
  by_cases noConfig : first.finalConfig.entries = []
  · by_cases noValues : first.positional = []
    · simp [noConfig, noValues]
    · simp only [noConfig, noValues, Json.pyEqItems_iff, not_true_eq_false,
        not_false_eq_true, or_false, if_true, if_false]
      exact List.forall₂_same.mpr positional
  · simp only [noConfig, not_false_eq_true, or_true, if_true,
      Json.pyEqItems_iff]
    apply List.rel_append (List.forall₂_same.mpr positional)
    exact .cons (Json.pyEq_obj_of_perm config same.finalConfig) .nil

theorem pyEq_build
    (same : SameParts first second)
    (values : ∀ value ∈ first.positional, value.WF)
    (config : (Json.obj first.config.entries).WF)
    (finalConfig : (Json.obj first.finalConfig.entries).WF) :
    first.build.pyEq second.build = true := by
  have params := pyEq_params same values finalConfig
  have extra := Json.pyEq_obj_of_perm config same.config
  simp only [RpcRequestSpec.pyEq, params, Bool.and_true]
  simp [RequestBuilder.build, same.method, same.commitment, same.encoding,
    extra]

end Equal

theorem Rearranged.sameParts
    {first second : List BuilderCall} (rearranged : Rearranged first second)
    (method : String) :
    SameParts (built method first) (built method second) where
  method := by rw [method_built, method_built]
  positional := by
    rw [positional_built, positional_built,
      filterMap_eq_of_filter_eq rearranged.fronts,
      filterMap_eq_of_filter_eq rearranged.positionals]
  commitment := by
    rw [commitment_built, commitment_built,
      filterMap_eq_of_filter_eq rearranged.commitments]
  encoding := by
    rw [encoding_built, encoding_built,
      filterMap_eq_of_filter_eq rearranged.encodings]
  config := by
    apply OrderedDict.perm_entries
    intro key
    rw [config_built, config_built,
      filterMap_eq_of_filter_eq (rearranged.keys key)]
  finalConfig := by
    apply OrderedDict.perm_entries
    intro key
    rw [finalConfig_built, finalConfig_built, rearranged.configOf_eq key]

theorem wf_config_built (method : String) (calls : List BuilderCall) :
    (Json.obj (built method calls).config.entries).WF := by
  apply Json.wf_obj (built method calls).config.distinct
  intro entry listed
  have found := OrderedDict.get?_eq_some_iff.mpr listed
  rw [config_built] at found
  obtain ⟨call, _, writes⟩ :=
    List.mem_filterMap.mp (List.mem_of_getLast? found)
  exact BuilderCall.wf_written writes

theorem wf_finalConfig_built (method : String) (calls : List BuilderCall) :
    (Json.obj (built method calls).finalConfig.entries).WF := by
  apply Json.wf_obj (built method calls).finalConfig.distinct
  intro entry listed
  have found := OrderedDict.get?_eq_some_iff.mpr listed
  rw [finalConfig_built] at found
  exact wf_configOf found

theorem pyEq_build_of_rearranged
    {first second : List BuilderCall} (rearranged : Rearranged first second)
    (method : String) :
    (built method first).build.pyEq (built method second).build = true :=
  pyEq_build (rearranged.sameParts method)
    (fun _ member => wf_positional_built member)
    (wf_config_built method first) (wf_finalConfig_built method first)

/-- Chains that differ only in the order of calls that touch different parts
build equal specs; and the parameters of every spec come in the same order. -/
theorem build_respects_order (method : String) :
    (∀ first second, Rearranged first second →
      (built method first).build.pyEq (built method second).build = true) ∧
    ∀ calls, ParamsInOrder calls (built method calls).build := by
  constructor
  · intro first second rearranged
    exact pyEq_build_of_rearranged rearranged method
  · intro calls
    exact paramsInOrder_build method calls

/-- The positional values of a `getTokenAccountsByOwner`. -/
def ownerCalls : List BuilderCall :=
  [.withPositional
      ⟨.obj [("mint", .str "So1")], by simp [Json.WF, Json.WFMembers]⟩,
    .withPubkey "owner"]

/-- Its config object; the second slice replaces the first. -/
def sliceCalls : List BuilderCall :=
  [.withDataSlice 0 32, .withEncoding "base64", .withDataSlice 0 64,
    .withCommitment "confirmed"]

theorem build_respects_order_owner :
    (built "getTokenAccountsByOwner" (ownerCalls ++ sliceCalls)).build.pyEq
        (built "getTokenAccountsByOwner"
          (sliceCalls ++ ownerCalls)).build = true ∧
      ParamsInOrder (ownerCalls ++ sliceCalls)
        (built "getTokenAccountsByOwner"
          (ownerCalls ++ sliceCalls)).build := by
  have order := build_respects_order "getTokenAccountsByOwner"
  refine ⟨order.1 _ _ ⟨List.perm_append_comm, rfl, rfl, rfl, rfl, ?_⟩,
    order.2 _⟩
  intro key
  by_cases slice : "dataSlice" = key
  · simp [ownerCalls, sliceCalls, BuilderCall.written, BuilderCall.entry,
      slice]
  · simp [ownerCalls, sliceCalls, BuilderCall.written, BuilderCall.entry,
      slice]

end KarstflowTests.Rpc

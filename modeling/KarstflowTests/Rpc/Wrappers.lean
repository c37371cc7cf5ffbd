import KarstflowTests.Rpc.Client

/-!
# The typed wrappers

Every typed wrapper of `RpcClient` is `self.request(method, params)` with its
own method and parameters.  `TypedCall` lists the wrappers with their
arguments; `TypedCall.request` is the request each of them makes on a client
with the given default commitment.
-/

namespace KarstflowTests.Rpc

/-- A call of a typed wrapper. -/
inductive TypedCall where
  | getHealth
  | getVersion
  | getGenesisHash
  | getSlot (commitment : Option Commitment := none)
  | getBlockHeight (commitment : Option Commitment := none)
  | getEpochInfo (commitment : Option Commitment := none)
  | getBalance (pubkey : String) (commitment : Option Commitment := none)
  | getAccountInfo (pubkey : String) (encoding : String := "base64")
      (commitment : Option Commitment := none)
  | getMultipleAccounts (pubkeys : List String)
      (encoding : String := "base64")
      (commitment : Option Commitment := none)
  | sendTransaction (txBase64 : String)
  | simulateTransaction (txBase64 : String)
  | getTransaction (signature : String) (encoding : String := "json")
      (commitment : Option Commitment := none)
  | getSignaturesForAddress (address : String) (limit : ℤ := 10)
  | getSignatureStatuses (signatures : List String)
      (searchHistory : Bool := true)
  | getBlock (slot : ℤ) (encoding : String := "json")
  | getBlockTime (slot : ℤ)
  | requestAirdrop (pubkey : String) (lamports : ℤ)
  | getLeaderSchedule
  | getEpochSchedule
  | getMinimumBalanceForRentExemption (dataLen : ℤ)
  | getSupply
  | getClusterNodes
  | getVoteAccounts
  | getIdentity
  | getInflationRate
  | getRecentPerformanceSamples (limit : ℤ := 10)
  | getBlockProduction (identity : Option String := none)
  | getBlockCommitment (slot : ℤ)
  | getFirstAvailableBlock
  | getHighestSnapshotSlot
  | getLargestAccounts (filterType : Option String := none)
  | getProgramAccounts (programId : String) (encoding : String := "base64")
      (filters : Option (List Json) := none)
  | getTokenAccountBalance (pubkey : String)
  | getTokenAccountsByOwner (owner : String) (mint : Option String := none)
      (programId : Option String := none) (encoding : String := "base64")
  | getTokenSupply (mint : String)
  | getTransactionCount (commitment : Option Commitment := none)
  | getStakeActivation (pubkey : String) (epoch : Option ℤ := none)
  | getStakeMinimumDelegation
  | getInflationGovernor
  | getInflationReward (addresses : List String) (epoch : Option ℤ := none)
  | getFees
  | getFeeForMessage (messageB64 : String)
  | getBlocks (startSlot : ℤ) (endSlot : Option ℤ := none)
  | getBlocksWithLimit (startSlot limit : ℤ)
  | getRecentPrioritizationFees (addresses : Option (List String) := none)
  | getMaxRetransmitSlot
  | getMaxShredInsertSlot
  | minimumLedgerSlot
  | getSlotLeader (commitment : Option Commitment := none)
  | getSlotLeaders (startSlot limit : ℤ)
  | getTokenAccountsByDelegate (delegate : String)
      (mint : Option String := none) (programId : Option String := none)
      (encoding : String := "base64")
  | getTokenLargestAccounts (mint : String)
  | isBlockhashValid (blockhash : String)
      (commitment : Option Commitment := none)

/-! ## Parameters -/

def strings (texts : List String) : Json := .arr (texts.map .str)

/-- `{"commitment": c.value}` with `c = commitment or self.commitment`. -/
def commitmentMember (default : Commitment)
    (commitment : Option Commitment) : String × Json :=
  ("commitment", .str (commitment.getD default).value)

/-- The text of an optional argument that an `if` lets through. -/
def nonEmpty (text : Option String) : Option String :=
  text.filter (· ≠ "")

/-- The mint if there is one, else the program id if there is one. -/
def tokenFilter (mint programId : Option String) : Json :=
  match nonEmpty mint, nonEmpty programId with
  | some mint, _ => .obj [("mint", .str mint)]
  | none, some programId => .obj [("programId", .str programId)]
  | none, none => .obj []

def epochConfig (epoch : Option ℤ) : List Json :=
  match epoch with
  | some epoch => [.obj [("epoch", .int epoch)]]
  | none => []

namespace TypedCall

/-- The request a wrapper makes. -/
def request (default : Commitment) : TypedCall → Request
  | getHealth => ⟨"getHealth", none⟩
  | getVersion => ⟨"getVersion", none⟩
  | getGenesisHash => ⟨"getGenesisHash", none⟩
  | getSlot commitment =>
      ⟨"getSlot", some [.obj [commitmentMember default commitment]]⟩
  | getBlockHeight commitment =>
      ⟨"getBlockHeight", some [.obj [commitmentMember default commitment]]⟩
  | getEpochInfo commitment =>
      ⟨"getEpochInfo", some [.obj [commitmentMember default commitment]]⟩
  | getBalance pubkey commitment =>
      ⟨"getBalance",
        some [.str pubkey, .obj [commitmentMember default commitment]]⟩
  | getAccountInfo pubkey encoding commitment =>
      ⟨"getAccountInfo",
        some [.str pubkey,
          .obj [("encoding", .str encoding),
            commitmentMember default commitment]]⟩
  | getMultipleAccounts pubkeys encoding commitment =>
      ⟨"getMultipleAccounts",
        some [strings pubkeys,
          .obj [("encoding", .str encoding),
            commitmentMember default commitment]]⟩
  | sendTransaction txBase64 =>
      ⟨"sendTransaction",
        some [.str txBase64, .obj [("encoding", .str "base64")]]⟩
  | simulateTransaction txBase64 =>
      ⟨"simulateTransaction",
        some [.str txBase64, .obj [("encoding", .str "base64")]]⟩
  | getTransaction signature encoding commitment =>
      ⟨"getTransaction",
        some [.str signature,
          .obj [("encoding", .str encoding),
            commitmentMember default commitment,
            ("maxSupportedTransactionVersion", .int 0)]]⟩
  | getSignaturesForAddress address limit =>
      ⟨"getSignaturesForAddress",
        some [.str address, .obj [("limit", .int limit)]]⟩
  | getSignatureStatuses signatures searchHistory =>
      ⟨"getSignatureStatuses",
        some [strings signatures,
          .obj [("searchTransactionHistory", .bool searchHistory)]]⟩
  | getBlock slot encoding =>
      ⟨"getBlock",
        some [.int slot,
          .obj [("encoding", .str encoding),
            ("maxSupportedTransactionVersion", .int 0)]]⟩
  | getBlockTime slot => ⟨"getBlockTime", some [.int slot]⟩
  | requestAirdrop pubkey lamports =>
      ⟨"requestAirdrop", some [.str pubkey, .int lamports]⟩
  | getLeaderSchedule => ⟨"getLeaderSchedule", none⟩
  | getEpochSchedule => ⟨"getEpochSchedule", none⟩
  | getMinimumBalanceForRentExemption dataLen =>
      ⟨"getMinimumBalanceForRentExemption", some [.int dataLen]⟩
  | getSupply => ⟨"getSupply", none⟩
  | getClusterNodes => ⟨"getClusterNodes", none⟩
  | getVoteAccounts => ⟨"getVoteAccounts", none⟩
  | getIdentity => ⟨"getIdentity", none⟩
  | getInflationRate => ⟨"getInflationRate", none⟩
  | getRecentPerformanceSamples limit =>
      ⟨"getRecentPerformanceSamples", some [.int limit]⟩
  | getBlockProduction identity =>
      ⟨"getBlockProduction",
        (nonEmpty identity).map fun identity =>
          [.obj [("identity", .str identity)]]⟩
  | getBlockCommitment slot => ⟨"getBlockCommitment", some [.int slot]⟩
  | getFirstAvailableBlock => ⟨"getFirstAvailableBlock", none⟩
  | getHighestSnapshotSlot => ⟨"getHighestSnapshotSlot", none⟩
  | getLargestAccounts filterType =>
      ⟨"getLargestAccounts",
        (nonEmpty filterType).map fun filterType =>
          [.obj [("filter", .str filterType)]]⟩
  | getProgramAccounts programId encoding filters =>
      ⟨"getProgramAccounts",
        some [.str programId,
          .obj (("encoding", .str encoding) ::
            match filters with
            | some (filter :: rest) => [("filters", .arr (filter :: rest))]
            | _ => [])]⟩
  | getTokenAccountBalance pubkey =>
      ⟨"getTokenAccountBalance", some [.str pubkey]⟩
  | getTokenAccountsByOwner owner mint programId encoding =>
      ⟨"getTokenAccountsByOwner",
        some [.str owner, tokenFilter mint programId,
          .obj [("encoding", .str encoding)]]⟩
  | getTokenSupply mint => ⟨"getTokenSupply", some [.str mint]⟩
  | getTransactionCount commitment =>
      ⟨"getTransactionCount",
        some [.obj [commitmentMember default commitment]]⟩
  | getStakeActivation pubkey epoch =>
      ⟨"getStakeActivation", some (.str pubkey :: epochConfig epoch)⟩
  | getStakeMinimumDelegation => ⟨"getStakeMinimumDelegation", none⟩
  | getInflationGovernor => ⟨"getInflationGovernor", none⟩
  | getInflationReward addresses epoch =>
      ⟨"getInflationReward", some (strings addresses :: epochConfig epoch)⟩
  | getFees => ⟨"getFees", none⟩
  | getFeeForMessage messageB64 =>
      ⟨"getFeeForMessage", some [.str messageB64]⟩
  | getBlocks startSlot endSlot =>
      ⟨"getBlocks",
        some (.int startSlot :: endSlot.toList.map fun slot => .int slot)⟩
  | getBlocksWithLimit startSlot limit =>
      ⟨"getBlocksWithLimit", some [.int startSlot, .int limit]⟩
  | getRecentPrioritizationFees addresses =>
      ⟨"getRecentPrioritizationFees",
        match addresses with
        | some (address :: rest) => some [strings (address :: rest)]
        | _ => none⟩
  | getMaxRetransmitSlot => ⟨"getMaxRetransmitSlot", none⟩
  | getMaxShredInsertSlot => ⟨"getMaxShredInsertSlot", none⟩
  | minimumLedgerSlot => ⟨"minimumLedgerSlot", none⟩
  | getSlotLeader commitment =>
      ⟨"getSlotLeader", some [.obj [commitmentMember default commitment]]⟩
  | getSlotLeaders startSlot limit =>
      ⟨"getSlotLeaders", some [.int startSlot, .int limit]⟩
  | getTokenAccountsByDelegate delegate mint programId encoding =>
      ⟨"getTokenAccountsByDelegate",
        some [.str delegate, tokenFilter mint programId,
          .obj [("encoding", .str encoding)]]⟩
  | getTokenLargestAccounts mint =>
      ⟨"getTokenLargestAccounts", some [.str mint]⟩
  | isBlockhashValid blockhash commitment =>
      ⟨"isBlockhashValid",
        some [.str blockhash,
          .obj [commitmentMember default commitment]]⟩

end TypedCall

/-! ## The public entry points -/

/-- A call of one of the client's public entry points.  Of a spec only the
method and the parameters are read. -/
inductive Operation where
  | request (request : Request) (raw : Bool := false)
  | requestRaw (request : Request)
  | execute (spec : Request)
  | executeRaw (spec : Request)
  | batch (requests : List Request)
  | executeBatch (specs : List Request)
  | typed (call : TypedCall)

/-- The method that does the work: one request, returned raw or unwrapped, or
a batch. -/
inductive Dispatch where
  | single (request : Request) (raw : Bool)
  | batch (requests : List Request)
  deriving DecidableEq

def Operation.dispatch (default : Commitment) : Operation → Dispatch
  | .request made raw => .single made raw
  | .requestRaw made => .single made true
  | .execute spec => .single spec false
  | .executeRaw spec => .single spec true
  | .batch requests => .batch requests
  | .executeBatch specs => .batch specs
  | .typed call => .single (call.request default) false

def Dispatch.requests : Dispatch → List Request
  | .single made _ => [made]
  | .batch requests => requests

end KarstflowTests.Rpc

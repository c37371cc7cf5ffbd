import KarstflowTests.Library.Replace
import KarstflowTests.Lifecycle.Compose

/-!
# The addresses of a cluster

`NodeManager.start_cluster` and `ComposeLifecycle.start` number the ports of
the nodes of one compose file, and `ClusterHandle.from_urls` derives WebSocket
addresses from RPC addresses by replacing text.
-/

namespace KarstflowTests.Lifecycle

open KarstflowTests.Library KarstflowTests.Wait

/-! ## Handles -/

/-- Handle to a running karstflow validator node. -/
structure NodeHandle where
  rpcUrl : String := "http://localhost:8899"
  wsUrl : String := "ws://localhost:8900"
  deriving DecidableEq

/-- `text.replace(pattern, replacement)` -/
def pyReplace (text pattern replacement : String) : String :=
  String.ofList
    (replaceAll pattern.toList replacement.toList text.toList)

/-- The WebSocket address that `from_urls` derives. -/
def derivedWsUrl (url : String) : String :=
  pyReplace
    (pyReplace (pyReplace url "http://" "ws://") ":8899" ":8900")
    ":8909" ":8910"

/-- Create a handle from pre-running node URLs. -/
def fromUrls (urls : List String) : List NodeHandle :=
  urls.map fun url => { rpcUrl := url, wsUrl := derivedWsUrl url }

def clusterNode (index : ℕ) : NodeHandle where
  rpcUrl := "http://localhost:" ++ toString (8899 + index * 100)
  wsUrl := "ws://localhost:" ++ toString (8900 + index * 100)

/-- The node handles of `start_cluster`. -/
def startCluster (nodes : ℕ) : List NodeHandle :=
  (List.range nodes).map clusterNode

/-- The ports that docker-compose.yml publishes, for RPC and WebSocket. -/
def publishedPorts : List (ℕ × ℕ) :=
  [(8899, 8900), (8999, 9000), (9099, 9100)]

/-- A successful `ComposeLifecycle.start` returns these configurations. -/
def StartReturns (nodes : ℕ) (configs : List ValidatorConfig) : Prop :=
  ∃ (healthTimeout : ℚ) (world : ComposeWorld) (met : ComposeStart nodes),
    (world.start healthTimeout met).1 = .ok configs

/-- Every node answers the first POST with status 200. -/
def responsive : HealthSchedule (1 / 2) where
  start := 0
  clock := secondsClock
  answer _ := .reply 200 none
  start_le := secondsClock_start
  sleeps := secondsClock_sleeps

def responsiveStart (nodes : ℕ) : ComposeStart nodes where
  up := .started "karstflow-node-1" []
  health _ := responsive
  finishing := List.range nodes
  complete := List.Perm.refl _

theorem startReturns_iff (nodes : ℕ) (configs : List ValidatorConfig) :
    StartReturns nodes configs ↔
      configs = (List.range nodes).map nodeConfig := by
  constructor
  · intro returns
    obtain ⟨healthTimeout, world, met, started⟩ := returns
    cases up : met.up with
    | started container others =>
        rw [start_of_started up] at started
        cases waited : waits healthTimeout met with
        | error exc => simp [waited, Except.map] at started
        | ok done =>
            simp only [waited, Except.map, Except.ok.injEq] at started
            exact started.symm
    | failed stderr containers =>
        rw [start_of_failed up] at started
        cases started
  · intro same
    have waited : waits 90 (responsiveStart nodes) = .ok () := by
      rw [waits_ok_iff]
      intro index _
      refine ⟨0, ?_, by simp, none, rfl⟩
      simp [responsiveStart, responsive, secondsClock]
    refine ⟨90, {}, responsiveStart nodes, ?_⟩
    rw [start_of_started rfl, waited, same]
    rfl

/-! ## Text replacement in an address -/

/-- The name or address of a host. -/
structure Host where
  name : String
  noSlash : '/' ∉ name.toList

def Host.httpUrl (host : Host) (port : ℕ) : String :=
  "http://" ++ host.name ++ ":" ++ toString port

def Host.wsUrl (host : Host) (port : ℕ) : String :=
  "ws://" ++ host.name ++ ":" ++ toString port

/-- One replacement of a port in the digits of an address. -/
def replacePort (digits replacement port : List Char) : List Char :=
  if digits <+: port then replacement ++ port.drop digits.length else port

section Replacement

variable {digits replacement port : List Char}

theorem replaceAll_port (noColon : ':' ∉ port) :
    replaceAll (':' :: digits) (':' :: replacement) (':' :: port) =
      ':' :: replacePort digits replacement port := by
  by_cases occurs : digits <+: port
  · obtain ⟨behind, rfl⟩ := occurs
    have noColonBehind : ':' ∉ behind := by
      intro member
      exact noColon (List.mem_append_right digits member)
    rw [← List.cons_append, replaceAll_pattern_append (List.cons_ne_nil _ _),
      replaceAll_of_not_mem noColonBehind, replacePort,
      if_pos (List.prefix_append digits behind), List.drop_left]
    rfl
  · have differs : ¬ ':' :: digits <+: ':' :: port := by
      rw [List.cons_prefix_cons]
      exact fun both => occurs both.2
    rw [replaceAll_cons differs, replaceAll_of_not_mem noColon, replacePort,
      if_neg occurs]

/-- A port is replaced in the host and at its end, but not across. -/
theorem replaceAll_address
    (digits replacement host : List Char)
    (noSlash : '/' ∉ digits) (onlyFirst : ':' ∉ digits)
    (scheme : ¬ ':' :: digits <:+: "ws:/".toList) (noColon : ':' ∉ port) :
    replaceAll (':' :: digits) (':' :: replacement)
        ("ws://".toList ++ host ++ ':' :: port) =
      "ws://".toList ++
        replaceAll (':' :: digits) (':' :: replacement) host ++
          ':' :: replacePort digits replacement port := by
  have split : "ws://".toList ++ host = "ws:/".toList ++ '/' :: host := rfl
  have differs : ¬ ':' :: digits <+: '/' :: host := by
    rw [List.cons_prefix_cons]
    exact fun both => absurd both.1 (by decide)
  rw [replaceAll_append onlyFirst, replaceAll_port noColon, split,
    replaceAll_append noSlash, replaceAll_of_not_infix scheme,
    replaceAll_cons differs]
  rfl

/-- The scheme occurs once. -/
theorem replaceAll_scheme {rest : List Char} (noSlash : '/' ∉ rest) :
    replaceAll "http://".toList "ws://".toList ("http://".toList ++ rest) =
      "ws://".toList ++ rest := by
  rw [replaceAll_pattern_append (by decide), replaceAll_of_not_infix]
  intro occurs
  exact noSlash (occurs.subset (by decide))

end Replacement

/-! ## Addresses derived from addresses -/

theorem not_mem_toDigits {letter : Char} (noDigit : letter.isDigit = false)
    (port : ℕ) : letter ∉ Nat.toDigits 10 port := by
  intro member
  have digit := Nat.isDigit_of_mem_toDigits (by decide) (by decide) member
  rw [noDigit] at digit
  cases digit

/-- The two ports that `from_urls` knows, replaced in a host name. -/
def replaceHost (host : List Char) : List Char :=
  replaceAll ":8909".toList ":8910".toList
    (replaceAll ":8899".toList ":8900".toList host)

/-- The two ports that `from_urls` knows, replaced in the digits of a port. -/
def replaceDigits (port : List Char) : List Char :=
  replacePort "8909".toList "8910".toList
    (replacePort "8899".toList "8900".toList port)

theorem not_mem_replacePort
    {letter : Char} {digits replacement port : List Char}
    (absent : letter ∉ port) (absentToo : letter ∉ replacement) :
    letter ∉ replacePort digits replacement port := by
  rw [replacePort]
  split
  · rw [List.mem_append, not_or]
    exact ⟨absentToo, fun member => absent (List.mem_of_mem_drop member)⟩
  · exact absent

theorem toList_derivedWsUrl (host : Host) (port : ℕ) :
    (derivedWsUrl (host.httpUrl port)).toList =
      "ws://".toList ++ replaceHost host.name.toList ++
        ':' :: replaceDigits (Nat.toDigits 10 port) := by
  have url :
      (host.httpUrl port).toList =
        "http://".toList ++
          (host.name.toList ++ ':' :: Nat.toDigits 10 port) := by
    simp [Host.httpUrl]
  have noSlash : '/' ∉ host.name.toList ++ ':' :: Nat.toDigits 10 port := by
    simp [host.noSlash, not_mem_toDigits]
  have noColon : ':' ∉ Nat.toDigits 10 port := not_mem_toDigits (by decide) _
  have noColonStill :
      ':' ∉ replacePort "8899".toList "8900".toList (Nat.toDigits 10 port) :=
    not_mem_replacePort noColon (by decide)
  have first :=
    replaceAll_address "8899".toList "8900".toList host.name.toList
      (by decide) (by decide) (by decide) noColon
  have second :=
    replaceAll_address "8909".toList "8910".toList
      (replaceAll ":8899".toList ":8900".toList host.name.toList)
      (by decide) (by decide) (by decide) noColonStill
  simp only [derivedWsUrl, pyReplace, String.toList_ofList]
  rw [url, replaceAll_scheme noSlash, ← List.append_assoc]
  exact (congrArg (replaceAll ":8909".toList ":8910".toList) first).trans
    second

theorem toList_wsUrl (host : Host) (port : ℕ) :
    (host.wsUrl port).toList =
      "ws://".toList ++ host.name.toList ++
        ':' :: Nat.toDigits 10 port := by
  simp [Host.wsUrl]

theorem length_replaceHost (host : List Char) :
    (replaceHost host).length = host.length := by
  rw [replaceHost, length_replaceAll (by decide) (by decide),
    length_replaceAll (by decide) (by decide)]

/-- Each replacement lowers the sum of the character codes, so none undoes
another. -/
theorem replaceHost_eq_self_iff (host : List Char) :
    replaceHost host = host ↔
      ¬ ":8899".toList <:+: host ∧ ¬ ":8909".toList <:+: host := by
  constructor
  · intro same
    have later :=
      @totalWeight_replaceAll_le _ _ ":8909".toList ":8910".toList Char.toNat
        (by decide) (by decide)
        (replaceAll ":8899".toList ":8900".toList host)
    have noFirst : ¬ ":8899".toList <:+: host := by
      intro occurs
      have lower :=
        @totalWeight_replaceAll_lt _ _ ":8899".toList ":8900".toList host
          Char.toNat (by decide) (by decide) occurs
      rw [← replaceHost, same] at later
      omega
    refine ⟨noFirst, ?_⟩
    intro occurs
    have lower :=
      @totalWeight_replaceAll_lt _ _ ":8909".toList ":8910".toList host
        Char.toNat (by decide) (by decide) occurs
    rw [replaceHost, replaceAll_of_not_infix noFirst] at same
    rw [same] at lower
    exact absurd lower (lt_irrefl _)
  · intro clean
    rw [replaceHost, replaceAll_of_not_infix clean.1,
      replaceAll_of_not_infix clean.2]

/-- Digits behind a replaced port would stand for far more than one. -/
theorem ofDigitChars_behind (digits behind : List Char) :
    Nat.ofDigitChars 10 (digits ++ behind) 0 =
      10 ^ behind.length * Nat.ofDigitChars 10 digits 0 +
        Nat.ofDigitChars 10 behind 0 := by
  rw [Nat.ofDigitChars_append, Nat.ofDigitChars_eq_ofDigitChars_zero]

theorem replacePort_behind
    (digits replacement behind : List Char) :
    replacePort digits replacement (digits ++ behind) =
      replacement ++ behind := by
  rw [replacePort, if_pos (List.prefix_append _ _), List.drop_left]

/-- If the replaced port is the next one, nothing stands behind it. -/
theorem replaced_is_succ
    {digits replacement behind : List Char} {port known : ℕ}
    (whole : digits ++ behind = Nat.toDigits 10 port)
    (next : replacement ++ behind = Nat.toDigits 10 (port + 1))
    (reads : Nat.ofDigitChars 10 digits 0 = known)
    (readsNext : Nat.ofDigitChars 10 replacement 0 = known + 1) :
    port = known := by
  have value := ofDigitChars_behind digits behind
  have nextValue := ofDigitChars_behind replacement behind
  rw [whole, Nat.ofDigitChars_ten_toDigits, reads] at value
  rw [next, Nat.ofDigitChars_ten_toDigits, readsNext] at nextValue
  have one : 10 ^ behind.length = 1 := by
    rw [Nat.mul_add, Nat.mul_one] at nextValue
    omega
  have nothing : behind = [] := by
    rw [Nat.pow_eq_one] at one
    exact List.eq_nil_of_length_eq_zero (by omega)
  rw [nothing] at value
  simpa using value

theorem replaceDigits_eq_succ_iff (port : ℕ) :
    replaceDigits (Nat.toDigits 10 port) = Nat.toDigits 10 (port + 1) ↔
      port = 8899 ∨ port = 8909 := by
  constructor
  · intro next
    by_cases first : "8899".toList <+: Nat.toDigits 10 port
    · obtain ⟨behind, whole⟩ := first
      have apart : ¬ "8909".toList <+: "8900".toList ++ behind := by
        intro occurs
        exact absurd (List.prefix_of_prefix_length_le occurs
          (List.prefix_append _ _) (by decide)) (by decide)
      rw [replaceDigits, ← whole, replacePort_behind, replacePort,
        if_neg apart] at next
      exact .inl (replaced_is_succ whole next (by decide) (by decide))
    · rw [replaceDigits] at next
      have kept :
          replacePort "8899".toList "8900".toList (Nat.toDigits 10 port) =
            Nat.toDigits 10 port := by
        rw [replacePort, if_neg first]
      rw [kept] at next
      by_cases second : "8909".toList <+: Nat.toDigits 10 port
      · obtain ⟨behind, whole⟩ := second
        rw [← whole, replacePort_behind] at next
        exact .inr (replaced_is_succ whole next (by decide) (by decide))
      · rw [replacePort, if_neg second] at next
        have values :=
          congrArg (fun digits => Nat.ofDigitChars 10 digits 0) next
        simp only [Nat.ofDigitChars_ten_toDigits] at values
        omega
  · intro known
    rcases known with rfl | rfl <;> decide

/-! ## The agreement -/

/-- `from_urls` gives the next port of the same host. -/
theorem derivedWsUrl_eq_iff (host : Host) (port : ℕ) :
    derivedWsUrl (host.httpUrl port) = host.wsUrl (port + 1) ↔
      (port = 8899 ∨ port = 8909) ∧
        ¬ ":8899".toList <:+: host.name.toList ∧
          ¬ ":8909".toList <:+: host.name.toList := by
  rw [← String.toList_inj, toList_derivedWsUrl, toList_wsUrl,
    ← replaceHost_eq_self_iff, ← replaceDigits_eq_succ_iff]
  constructor
  · intro same
    have sameLength :
        ("ws://".toList ++ replaceHost host.name.toList).length =
          ("ws://".toList ++ host.name.toList).length := by
      rw [List.length_append, List.length_append, length_replaceHost]
    obtain ⟨front, back⟩ := List.append_inj same sameLength
    exact ⟨(List.cons.inj back).2, List.append_cancel_left front⟩
  · intro both
    rw [both.1, both.2]

/-- The three ways address the nodes of a cluster alike. -/
structure AddressesAgree (nodes : ℕ) : Prop where
  rpcUrls :
    ∀ configs, StartReturns nodes configs →
      configs.map ValidatorConfig.rpcUrl =
        (startCluster nodes).map NodeHandle.rpcUrl
  wsUrls :
    ∀ configs, StartReturns nodes configs →
      configs.map ValidatorConfig.wsUrl =
        (startCluster nodes).map NodeHandle.wsUrl
  derived :
    (fromUrls ((startCluster nodes).map NodeHandle.rpcUrl)).map
        NodeHandle.wsUrl =
      (startCluster nodes).map NodeHandle.wsUrl

theorem addressesAgree_iff (nodes : ℕ) :
    AddressesAgree nodes ↔ nodes ≤ 1 := by
  constructor
  · intro agree
    by_contra several
    have rpcUrls := agree.rpcUrls _ ((startReturns_iff nodes _).mpr rfl)
    rw [startCluster, List.map_map, List.map_map,
      List.map_inj_left] at rpcUrls
    have second := rpcUrls 1 (List.mem_range.mpr (by omega))
    revert second
    decide
  · intro atMostOne
    have cases : nodes = 0 ∨ nodes = 1 := by omega
    refine ⟨?_, ?_, ?_⟩
    · intro configs returns
      rw [startReturns_iff] at returns
      rcases cases with rfl | rfl <;> subst returns <;> decide
    · intro configs returns
      rw [startReturns_iff] at returns
      rcases cases with rfl | rfl <;> subst returns <;> decide
    · rcases cases with rfl | rfl <;> decide

/-- A cluster is addressed alike up to its first node, and an address is
derived as documented for two ports. -/
theorem addresses_iff (nodes : ℕ) (host : Host) (port : ℕ) :
    (AddressesAgree nodes ↔ nodes ≤ 1) ∧
      (derivedWsUrl (host.httpUrl port) = host.wsUrl (port + 1) ↔
        (port = 8899 ∨ port = 8909) ∧
          ¬ ":8899".toList <:+: host.name.toList ∧
            ¬ ":8909".toList <:+: host.name.toList) :=
  ⟨addressesAgree_iff nodes, derivedWsUrl_eq_iff host port⟩

def localhost : Host := ⟨"localhost", by decide⟩

/-- The compose file publishes the second node on port 8999. -/
theorem addresses_disagree :
    ¬ AddressesAgree 2 ∧
      (startCluster 3).map NodeHandle.rpcUrl =
        publishedPorts.map (fun ports => localhost.httpUrl ports.1) ∧
      (nodeConfig 1).rpcUrl = localhost.httpUrl 8909 ∧
      derivedWsUrl (localhost.httpUrl 8999) = localhost.wsUrl 8999 := by
  refine ⟨?_, by decide, by decide, by decide⟩
  rw [addressesAgree_iff]
  decide

end KarstflowTests.Lifecycle

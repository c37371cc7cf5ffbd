import KarstflowTests.Lifecycle.Addresses
import KarstflowTests.Rpc.Executions

/-!
# Ready and healthy

`wait_for_health` and its three callers take a node for ready when it answers
with status 200; `is_healthy` takes it for healthy when the answer is the
result `"ok"`.  A `Waiter` is one of the four waits with everything that it
meets.
-/

namespace KarstflowTests.Lifecycle

open KarstflowTests.Rpc KarstflowTests.Wait

/-! ## The health check of the client -/

/-- The settings that `ValidatorClient.wait_ready` reads. -/
structure TestConfig where
  rpcUrl : String := "http://localhost:8899"
  healthTimeout : ℚ := 30

/-- Quick health check.  Returns False on any error.  `none` stands for a call
that still waits. -/
def isHealthy (policy : RetryPolicy) (attempts : List Attempt) :
    Option (Except Exc Bool) :=
  match sendWithRetry policy attempts with
  | .attempting _ => none
  | .sent sent =>
      match readAnswer false sent with
      | .ok (.result result) => some (.ok (result.pyEq (.str "ok")))
      | .ok _ => some (.ok false)
      | .error exc =>
          if exc.isException then
            some (.ok false)
          else
            some (.error exc)

/-- `is_healthy` on a node that gives this reply to every attempt. -/
def HealthyOn (policy : RetryPolicy) (outcome : PostOutcome) : Prop :=
  isHealthy policy
      (List.replicate (policy.maxRetries + 1).toNat ⟨outcome, false⟩) =
    some (.ok true)

/-! ## The waits -/

/-- One node under `wait_for_health`. -/
structure Watch where
  rpcUrl : String
  timeout : ℚ
  interval : ℚ := 1 / 2
  schedule : HealthSchedule interval

namespace Watch

def returned (watch : Watch) : Except Exc Unit :=
  waitForHealth watch.rpcUrl watch.timeout watch.schedule

def deadline (watch : Watch) : ℚ := watch.schedule.start + watch.timeout

/-- The loop makes the POST with this index. -/
def Reaches (watch : Watch) (index : ℕ) : Prop :=
  watch.schedule.clock.read index < watch.deadline ∧
    ∀ earlier, earlier < index → Retried (watch.schedule.answer earlier)

/-- The loop returns on the reply with this index. -/
def Accepts (watch : Watch) (index : ℕ) : Prop :=
  watch.Reaches index ∧
    healthStep (watch.schedule.answer index) = some (.ok ())

end Watch

def NodeHandle.waitReady (node : NodeHandle) (timeout : ℚ)
    (schedule : HealthSchedule (1 / 2)) : Except Exc Unit :=
  waitForHealth node.rpcUrl timeout schedule

/-- `timeout or self._config.health_timeout` -/
def TestConfig.readyTimeout (config : TestConfig) : Option ℚ → ℚ
  | none => config.healthTimeout
  | some timeout =>
      if timeout = 0 then
        config.healthTimeout
      else
        timeout

/-- `ValidatorClient.wait_ready` -/
def clientWaitReady (config : TestConfig) (timeout : Option ℚ)
    (schedule : HealthSchedule (1 / 2)) : Except Exc Unit :=
  waitForHealth config.rpcUrl (config.readyTimeout timeout) schedule

/-- What `ClusterHandle.wait_all_ready` meets: the answers of the nodes and
the order in which their waits end. -/
structure ClusterWait where
  nodes : List (NodeHandle × HealthSchedule (1 / 2))
  finishing : List ℕ
  complete : finishing.Perm (List.range nodes.length)

/-- `ClusterHandle.wait_all_ready` -/
def ClusterWait.waitAllReady (cluster : ClusterWait) (timeout : ℚ) :
    Except Exc Unit :=
  gather cluster.finishing fun index =>
    match cluster.nodes[index]? with
    | some (handle, schedule) => handle.waitReady timeout schedule
    | none => .ok ()

inductive Waiter where
  | health (watch : Watch)
  | client (config : TestConfig) (timeout : Option ℚ)
      (schedule : HealthSchedule (1 / 2))
  | node (handle : NodeHandle) (timeout : ℚ)
      (schedule : HealthSchedule (1 / 2))
  | cluster (met : ClusterWait) (timeout : ℚ)

namespace Waiter

def returned : Waiter → Except Exc Unit
  | .health watch => watch.returned
  | .client config timeout schedule =>
      clientWaitReady config timeout schedule
  | .node handle timeout schedule => handle.waitReady timeout schedule
  | .cluster met timeout => met.waitAllReady timeout

/-- The nodes that are polled. -/
def watches : Waiter → List Watch
  | .health watch => [watch]
  | .client config timeout schedule =>
      [{ rpcUrl := config.rpcUrl, timeout := config.readyTimeout timeout,
         schedule }]
  | .node handle timeout schedule =>
      [{ rpcUrl := handle.rpcUrl, timeout, schedule }]
  | .cluster met timeout =>
      met.nodes.map fun (handle, schedule) =>
        { rpcUrl := handle.rpcUrl, timeout, schedule }

end Waiter

/-! ## What is to hold, and when it does -/

/-- The result `"ok"` of a JSON-RPC answer. -/
def OkAnswer (outcome : PostOutcome) : Prop :=
  ∃ status members,
    outcome = .reply status (some (.obj members)) ∧
      (200 ≤ status ∧ status < 300) ∧
      members.lookup "error" = none ∧
      members.lookup "result" = some (.str "ok")

/-- An answer with status 200 and a JSON-RPC error. -/
def ErrorAnswer (outcome : PostOutcome) : Prop :=
  ∃ members,
    outcome = .reply 200 (some (.obj members)) ∧
      (members.lookup "error").isSome = true

/-- The wait returns only on replies that `is_healthy` accepts, and goes on
polling a node that answers with an error. -/
structure ReadyMeansHealthy (policy : RetryPolicy) (waiter : Waiter) :
    Prop where
  healthy :
    waiter.returned = .ok () →
      ∀ watch ∈ waiter.watches, ∀ index, watch.Accepts index →
        HealthyOn policy (watch.schedule.answer index)
  polledAgain :
    ∀ watch ∈ waiter.watches, ∀ index, watch.Reaches index →
      ErrorAnswer (watch.schedule.answer index) →
        healthStep (watch.schedule.answer index) = none

/-- No node answers with an error, and if all answer with status 200 in time,
they answer `"ok"`, to a client that makes attempts at all. -/
structure OnlyOkAnswers (policy : RetryPolicy) (waiter : Waiter) :
    Prop where
  ok :
    (∀ watch ∈ waiter.watches,
      watch.schedule.RespondsBefore watch.deadline) →
      ∀ watch ∈ waiter.watches, ∀ index body, watch.Reaches index →
        watch.schedule.answer index = .reply 200 body →
          0 ≤ policy.maxRetries ∧ OkAnswer (.reply 200 body)
  noError :
    ∀ watch ∈ waiter.watches, ∀ index, watch.Reaches index →
      ¬ ErrorAnswer (watch.schedule.answer index)

/-! ## What `is_healthy` accepts -/

theorem isHealthy_eq_true_iff {policy : RetryPolicy}
    {attempts : List Attempt} :
    isHealthy policy attempts = some (.ok true) ↔
      ∃ data, sendWithRetry policy attempts = .sent (.ok data) ∧
        readAnswer false (.ok data) = .ok (.result (.str "ok")) := by
  unfold isHealthy
  cases sendWithRetry policy attempts with
  | attempting attempt => simp
  | sent sent =>
      cases sent with
      | error exc =>
          cases exc <;> simp [readAnswer, bind, Except.bind, Exc.isException]
      | ok data =>
          simp only [Sending.sent.injEq, Except.ok.injEq, exists_eq_left']
          cases readAnswer false (.ok data) with
          | error exc => cases exc <;> simp [Exc.isException]
          | ok returned =>
              cases returned with
              | result result => simp [Json.pyEq_str_iff]
              | response response => simp
              | responses responses => simp

theorem readAnswer_eq_ok_str_iff {data : Json} :
    readAnswer false (.ok data) = .ok (.result (.str "ok")) ↔
      ∃ members, data = .obj members ∧ members.lookup "error" = none ∧
        members.lookup "result" = some (.str "ok") := by
  by_cases answer : Answer data
  · have parses := parseResponse_of_answer answer
    cases answer with
    | @result members absent =>
        have reads :
            readAnswer false (.ok (.obj members)) =
              .ok (.result ((members.lookup "result").getD .null)) := by
          simp [readAnswer, parses, parsed, absent, RpcResponse.unwrap, bind,
            Except.bind, pure, Except.pure]
        rw [reads]
        constructor
        · intro same
          refine ⟨members, rfl, absent, ?_⟩
          cases found : members.lookup "result" with
          | none => simp [found] at same
          | some result => simpa [found] using same
        · intro isOk
          obtain ⟨_, same, _, found⟩ := isOk
          cases same
          rw [found, Option.getD_some]
    | @error members errorMembers present =>
        have raises :
            readAnswer false (.ok (.obj members)) ≠
              .ok (.result (.str "ok")) := by
          simp [readAnswer, parses, parsed, present, RpcResponse.unwrap,
            bind, Except.bind]
        constructor
        · intro returns
          exact absurd returns raises
        · intro isOk
          obtain ⟨_, same, absent, _⟩ := isOk
          cases same
          cases present.symm.trans absent
  · obtain ⟨exc, fails, _⟩ := parseResponse_of_not_answer answer
    have raises :
        readAnswer false (.ok data) ≠ .ok (.result (.str "ok")) := by
      simp [readAnswer, fails, bind, Except.bind]
    constructor
    · intro returns
      exact absurd returns raises
    · intro isOk
      obtain ⟨members, rfl, absent, _⟩ := isOk
      exact absurd (Answer.result absent) answer

theorem healthyOn_iff {policy : RetryPolicy} {outcome : PostOutcome} :
    HealthyOn policy outcome ↔
      0 ≤ policy.maxRetries ∧ OkAnswer outcome := by
  rw [HealthyOn, isHealthy_eq_true_iff]
  constructor
  · intro healthy
    obtain ⟨data, sent, reads⟩ := healthy
    have enough : 0 ≤ policy.maxRetries := by
      by_contra negative
      rw [sendWithRetry, Sending.start_of_neg negative, foldl_step_sent] at sent
      cases sent
    refine ⟨enough, ?_⟩
    rw [sendWithRetry, Sending.start_of_nonneg enough] at sent
    obtain ⟨met, member, answered⟩ := respond_of_sent _ 0 sent
    obtain ⟨-, rfl⟩ := List.mem_replicate.mp member
    obtain ⟨status, rfl, success⟩ := respond_eq_ok_iff.mp answered
    obtain ⟨members, rfl, absent, result⟩ :=
      readAnswer_eq_ok_str_iff.mp reads
    exact ⟨status, members, rfl, success, absent, result⟩
  · intro answers
    obtain ⟨enough, status, members, rfl, success, absent, result⟩ :=
      answers
    have attempts : (policy.maxRetries + 1).toNat =
        policy.maxRetries.toNat + 1 := by
      omega
    have answered :
        respond (.reply status (some (.obj members))) =
          .ok (.obj members) :=
      respond_eq_ok_iff.mpr ⟨status, rfl, success⟩
    refine ⟨.obj members, ?_,
      readAnswer_eq_ok_str_iff.mpr ⟨members, rfl, absent, result⟩⟩
    rw [attempts, List.replicate_succ]
    exact sendWithRetry_of_result enough answered ⟨members, rfl, absent⟩ _

/-! ## When the waits return -/

theorem Watch.accepts_iff {watch : Watch} {index : ℕ} :
    watch.Accepts index ↔
      watch.Reaches index ∧
        ∃ body, watch.schedule.answer index = .reply 200 body := by
  rw [Watch.Accepts, healthStep_eq_ok_iff]

theorem Watch.returned_ok_iff (watch : Watch) :
    watch.returned = .ok () ↔
      watch.schedule.RespondsBefore watch.deadline :=
  waitForHealth_ok_iff watch.rpcUrl watch.timeout watch.schedule

theorem Waiter.returned_ok_iff_of_single {waiter : Waiter} {watch : Watch}
    (single : waiter.watches = [watch])
    (same : waiter.returned = watch.returned) :
    waiter.returned = .ok () ↔
      ∀ watch ∈ waiter.watches,
        watch.schedule.RespondsBefore watch.deadline := by
  rw [single, List.forall_mem_singleton, same]
  exact watch.returned_ok_iff

theorem ClusterWait.waitAllReady_ok_iff (met : ClusterWait) (timeout : ℚ) :
    met.waitAllReady timeout = .ok () ↔
      ∀ node ∈ met.nodes, node.1.waitReady timeout node.2 = .ok () := by
  rw [ClusterWait.waitAllReady, gather_ok_iff]
  constructor
  · intro all node member
    obtain ⟨index, found⟩ := List.mem_iff_getElem?.mp member
    have inside : index < met.nodes.length :=
      (List.getElem?_eq_some_iff.mp found).1
    have waited :=
      all index (met.complete.mem_iff.mpr (List.mem_range.mpr inside))
    rwa [found] at waited
  · intro all index _
    cases found : met.nodes[index]? with
    | none => rfl
    | some node => exact all node (List.mem_of_getElem? found)

/-- A wait returns when all its nodes have answered in time. -/
theorem Waiter.returned_ok_iff (waiter : Waiter) :
    waiter.returned = .ok () ↔
      ∀ watch ∈ waiter.watches,
        watch.schedule.RespondsBefore watch.deadline := by
  cases waiter with
  | health watch => exact returned_ok_iff_of_single rfl rfl
  | client config timeout schedule =>
      exact returned_ok_iff_of_single rfl rfl
  | node handle timeout schedule =>
      exact returned_ok_iff_of_single rfl rfl
  | cluster met timeout =>
      have waits (node : NodeHandle × HealthSchedule (1 / 2)) :
          node.1.waitReady timeout node.2 = .ok () ↔
            node.2.RespondsBefore (node.2.start + timeout) :=
        waitForHealth_ok_iff node.1.rpcUrl timeout node.2
      simp only [Waiter.returned, Waiter.watches,
        ClusterWait.waitAllReady_ok_iff, List.forall_mem_map, waits,
        Watch.deadline]

variable {policy : RetryPolicy} {waiter : Waiter}

theorem ReadyMeansHealthy.onlyOkAnswers
    (healthy : ReadyMeansHealthy policy waiter) :
    OnlyOkAnswers policy waiter := by
  constructor
  · intro responds watch member index body reached answered
    have accepts : watch.Accepts index :=
      Watch.accepts_iff.mpr ⟨reached, body, answered⟩
    have accepted :=
      healthy.healthy (waiter.returned_ok_iff.mpr responds) watch member
        index accepts
    rw [answered] at accepted
    exact healthyOn_iff.mp accepted
  · intro watch member index reached isError
    have goesOn := healthy.polledAgain watch member index reached isError
    obtain ⟨members, answered, _⟩ := isError
    have accepts := healthStep_eq_ok_iff.mpr ⟨_, answered⟩
    rw [goesOn] at accepts
    cases accepts

theorem OnlyOkAnswers.readyMeansHealthy
    (only : OnlyOkAnswers policy waiter) :
    ReadyMeansHealthy policy waiter := by
  constructor
  · intro returned watch member index accepts
    obtain ⟨reached, body, answered⟩ := Watch.accepts_iff.mp accepts
    rw [answered]
    exact healthyOn_iff.mpr
      (only.ok (waiter.returned_ok_iff.mp returned) watch member index body
        reached answered)
  · intro watch member index reached isError
    exact absurd isError (only.noError watch member index reached)

/-- A wait returns only on replies that the health check accepts when its
nodes give it no others, and only then. -/
theorem readyMeansHealthy_iff (policy : RetryPolicy) (waiter : Waiter) :
    ReadyMeansHealthy policy waiter ↔ OnlyOkAnswers policy waiter :=
  ⟨ReadyMeansHealthy.onlyOkAnswers, OnlyOkAnswers.readyMeansHealthy⟩

/-! ### A node that is behind -/

/-- The answer of a node that is behind. -/
def nodeIsBehind : PostOutcome :=
  .reply 200
    (some (.obj
      [("jsonrpc", .str "2.0"), ("id", .int 1),
        ("error", .obj
          [("code", .int (-32005)), ("message", .str "Node is behind")])]))

def behind : HealthSchedule (1 / 2) :=
  { responsive with answer := fun _ => nodeIsBehind }

/-- `wait_ready` with the default settings. -/
def waitForBehind : Waiter := .client {} none behind

/-- The node that is behind is ready at once and not healthy. -/
theorem behind_is_ready :
    waitForBehind.returned = .ok () ∧
      isHealthy {} (List.replicate 4 ⟨nodeIsBehind, false⟩) =
        some (.ok false) ∧
      ¬ ReadyMeansHealthy {} waitForBehind := by
  have early : secondsClock.read 0 < 0 + 30 := by
    simp [secondsClock]
  have reached :
      Watch.Reaches
        { rpcUrl := "http://localhost:8899", timeout := 30,
          schedule := behind } 0 :=
    ⟨early, fun earlier below => absurd below (Nat.not_lt_zero earlier)⟩
  refine ⟨?_, by decide +kernel, ?_⟩
  · rw [Waiter.returned_ok_iff]
    intro watch member
    cases List.mem_singleton.mp member
    exact ⟨0, early, reached.2, _, rfl⟩
  · intro healthy
    exact healthy.onlyOkAnswers.noError _ List.mem_cons_self 0 reached
      ⟨_, rfl, rfl⟩

end KarstflowTests.Lifecycle

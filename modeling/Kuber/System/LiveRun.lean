import Kuber.Agent.Completion
import Kuber.System.LiveSandbox

/-!
# Runs in the live sandbox

A first run of the repair loop against the live sandbox.  The adapter itself is
not an honest environment in every state, but it answers honestly whatever a
run can ask it: a run only applies growing candidates, and the log is always
read to its end.
-/

namespace Kuber.System

open Kuber.Library Kuber.Rules Kuber.Agent Kuber.Runtime

variable {σ lease : Type}

namespace LiveSandbox

/-- A new adapter in front of the deployed manifest, and a container that has
written some lines. -/
structure Started (sandbox : LiveSandbox σ lease)
    (objects : List ParsedObject) (start : LiveState σ) : Prop where
  kubernetes : start.kubernetes =
    sandbox.environment.opened (KubernetesEnvironment.deployed objects) []
  unbroken : ∀ line ∈ start.pod.lines, Unbroken line

/-- The evidence of a run. -/
@[irreducible] def observed (sandbox : LiveSandbox σ lease)
    (start : LiveState σ) : List KubeEvent :=
  (sandbox.reading.observe start.pod).1

/-- Where the sandbox is when a candidate is to be applied. -/
structure Reached (sandbox : LiveSandbox σ lease)
    (objects : List ParsedObject) (seen : List KubeEvent) (candidate : Policy)
    (calls : List EnvironmentCall) (state : LiveState σ) : Prop where
  applicable : sandbox.Applicable candidate
  underway : ∃ last : Policy, last.keys ⊆ candidate.keys ∧
    sandbox.environment.Underway objects last state.kubernetes
  readUp : state.pod.ReadUp
  honest : ∀ rest,
    (∀ policy, AnsweredHonestly seen sandbox.required policy rest) →
      AnsweredHonestly seen sandbox.required
        sandbox.environment.originalPolicy (calls ++ rest)

/-- Where it is when the candidate was verified. -/
structure Verified (sandbox : LiveSandbox σ lease)
    (objects : List ParsedObject) (candidate : Policy)
    (result : VerificationResult) (state : LiveState σ) : Prop where
  underway : sandbox.environment.Underway objects candidate state.kubernetes
  readUp : state.pod.ReadUp
  enforced : (sandbox.inForce state).keys = candidate.keys
  honest : HonestResult candidate sandbox.required result

variable {sandbox : LiveSandbox σ lease} {objects : List ParsedObject}
  {present : String → σ → Prop} {start state : LiveState σ}
  {seen : List KubeEvent} {candidate original : Policy}
  {calls : List EnvironmentCall} {result : VerificationResult}
  {failure : FailureDescription}

theorem observed_eq (faithful : sandbox.reading.Faithful sandbox.workload)
    (unbroken : ∀ line ∈ start.pod.lines, Unbroken line) :
    sandbox.observed start =
      (firstBy CollectedEvent.compared (start.pod.lines.filterMap
        (lineEvent? sandbox.reading.reader false))).map
          CollectedEvent.kubeEvent := by
  have last : lineEvent? sandbox.reading.reader false [] = none :=
    lineEvent?_of_not_holdsEvent faithful.empty fun holds => by cases holds.1
  rw [observed, (faithful.complete.observe unbroken).1, collectEvents,
    splitlines_podLogs unbroken, lineEvents, List.filterMap_append,
    List.filterMap_cons, last, List.filterMap_nil, List.append_nil]

theorem Started.prologue_eq (started : sandbox.Started objects start)
    (complete : sandbox.reading.Complete)
    (recorded : sandbox.adapter.Recorded (prologue original seen) start
      state) :
    original = sandbox.environment.originalPolicy ∧
      seen = sandbox.observed start ∧
      state.kubernetes = start.kubernetes ∧ state.pod.ReadUp := by
  obtain ⟨inspected, inspection, gathered, gathering, rfl⟩ := recorded
  have inspecting : sandbox.adapter.getCurrentPolicy start =
      (.ok start.kubernetes.currentPolicy, start) := rfl
  obtain ⟨answer, rfl⟩ := Prod.mk.inj (inspecting.symm.trans inspection)
  have observing : sandbox.adapter.getObservedUsage start =
      (.ok (sandbox.observed start),
        ⟨start.kubernetes, (sandbox.reading.observe start.pod).2⟩) := by
    rw [observed]
    rfl
  obtain ⟨evidence, rfl⟩ := Prod.mk.inj (observing.symm.trans gathering)
  have current : start.kubernetes.currentPolicy =
      sandbox.environment.originalPolicy := by
    rw [started.kubernetes]
    rfl
  have readUp := (complete.observe started.unbroken).2
  refine ⟨(Except.ok.inj answer).symm.trans current,
    (Except.ok.inj evidence).symm, rfl, ?_⟩
  dsimp only
  exact readUp

theorem Started.proposed (started : sandbox.Started objects start)
    (proposed : observedOnlyPolicy sandbox.environment.originalPolicy
      (sandbox.observed start) = .ok candidate)
    (prepared : sandbox.Prepared objects present)
    (expressible : ∀ permission ∈ candidate.permissions,
      permission.Expressible)
    (same : state.kubernetes = start.kubernetes) (readUp : state.pod.ReadUp) :
    sandbox.Reached objects (sandbox.observed start) candidate
      (prologue sandbox.environment.originalPolicy (sandbox.observed start))
      state := by
  obtain ⟨-, -, -, name, account, accountNamespace⟩ :=
    observedOnlyPolicy_ok proposed
  obtain ⟨settings, manifest, probe, created, parsed⟩ :=
    prepared.deploys.created
  obtain ⟨resolved, -⟩ := KubernetesEnvironment.create_ok created parsed
  rw [resolved] at name account accountNamespace
  refine ⟨⟨⟨name, account, accountNamespace⟩, expressible⟩,
    ⟨sandbox.environment.noCandidate, ?_, ?_⟩, readUp, ?_⟩
  · intro key member
    cases member
  · rw [same, started.kubernetes]
    exact KubernetesEnvironment.underway_opened _ objects
  · exact fun rest later => ⟨rfl, rfl, later _⟩

theorem Reached.verified
    (reached : sandbox.Reached objects seen candidate calls start)
    (prepared : sandbox.Prepared objects present)
    (recorded : sandbox.adapter.Recorded (verifiedRound candidate result)
      start state) :
    sandbox.Verified objects candidate result state := by
  obtain ⟨last, growing, underway⟩ := reached.underway
  obtain ⟨applied, application, underwayNow, samePod, enforced⟩ :=
    prepared.applyPolicy underway reached.applicable growing
  obtain ⟨found, verified, verification, sameCluster, readUp, honest⟩ :=
    prepared.verifyWorkload (samePod ▸ reached.readUp) enforced
  obtain ⟨first, firstAnswer, second, secondAnswer, rfl⟩ := recorded
  obtain rfl : applied = first :=
    congrArg Prod.snd (application.symm.trans firstAnswer)
  obtain ⟨sameResult, rfl⟩ :=
    Prod.mk.inj (verification.symm.trans secondAnswer)
  obtain rfl : found = result := Except.ok.inj sameResult
  refine ⟨sameCluster ▸ underwayNow, readUp, ?_, honest⟩
  rw [inForce, sameCluster]
  exact enforced

theorem Reached.failed
    (reached : sandbox.Reached objects seen candidate calls start)
    (prepared : sandbox.Prepared objects present)
    (recorded : sandbox.adapter.Recorded
      (failedRound candidate result failure) start state) :
    sandbox.Verified objects candidate result state ∧
      HonestDescription result failure := by
  obtain ⟨middle, round, described, description, rfl⟩ :=
    EnvironmentAdapter.recorded_append.mp recorded
  obtain ⟨sameFailure, rfl⟩ := Prod.mk.inj description
  obtain rfl : describeFailure result = failure := Except.ok.inj sameFailure
  exact ⟨reached.verified prepared round, describeFailure_honest result⟩

theorem Reached.repaired {repaired : Policy}
    (reached : sandbox.Reached objects seen candidate calls start)
    (prepared : sandbox.Prepared objects present)
    (recorded : sandbox.adapter.Recorded
      (failedRound candidate result failure) start state)
    (failing : result.passed = false)
    (returned : verifierRepair candidate failure original = .ok repaired) :
    sandbox.Reached objects seen repaired
      (calls ++ failedRound candidate result failure) state := by
  obtain ⟨verified, described⟩ := reached.failed prepared recorded
  obtain ⟨denied, required⟩ := verified.honest.failed failing
  obtain ⟨-, missing⟩ := described denied
  obtain ⟨-, -, repairOk⟩ := verifierRepair_ok returned
  obtain ⟨-, -, keys, name, account, accountNamespace⟩ :=
    repairPolicy_ok repairOk
  obtain ⟨⟨sameName, sameAccount, sameNamespace⟩, expressible⟩ :=
    reached.applicable
  refine ⟨⟨⟨name.trans sameName, account.trans sameAccount,
    accountNamespace.trans sameNamespace⟩, ?_⟩,
    ⟨candidate, ?_, verified.underway⟩, verified.readUp, ?_⟩
  · intro permission member
    have kept := Policy.mem_keys_of_mem member
    rw [keys] at kept
    rcases kept with before | ⟨event, isMissing, keyed⟩
    · obtain ⟨other, isOther, same⟩ := List.mem_map.mp before
      exact (expressible other isOther).of_key same
    · obtain ⟨other, made, same⟩ := eventKey?_eq_some_iff.mp keyed
      have isRequired := (required event (missing ▸ isMissing)).1
      exact (required_expressible prepared.located isRequired made).of_key
        same
  · rw [keys]
    exact Set.subset_union_left
  · intro rest later
    rw [List.append_assoc]
    exact reached.honest _ fun _ => ⟨rfl, ⟨result, rfl, verified.honest⟩,
      ⟨failure, rfl, described⟩, later candidate⟩

section Run

variable {first : Policy} {graph : WorkloadOptimizationGraph} {count : Nat}
  (prepared : sandbox.Prepared objects present)
  (started : sandbox.Started objects start)
  (proposed : observedOnlyPolicy sandbox.environment.originalPolicy
    (sandbox.observed start) = .ok first)
  (expressible : ∀ permission ∈ first.permissions, permission.Expressible)

include prepared started proposed expressible

/-- The calls of every attempt lead to where its candidate can be applied. -/
theorem reached_of_attempt
    (attempt : Attempt graph original seen count candidate calls)
    (recorded : sandbox.adapter.Recorded calls start state) :
    original = sandbox.environment.originalPolicy ∧
      seen = sandbox.observed start ∧
      sandbox.Reached objects seen candidate calls state := by
  induction attempt generalizing state with
  | propose returned =>
      obtain ⟨sameOriginal, sameSeen, same, readUp⟩ :=
        started.prologue_eq prepared.faithful.complete recorded
      subst sameOriginal sameSeen
      obtain rfl : first = _ :=
        Except.ok.inj (proposed.symm.trans returned)
      exact ⟨rfl, rfl,
        started.proposed proposed prepared expressible same readUp⟩
  | repair _ _ failing returned _ induction =>
      obtain ⟨middle, before, round⟩ :=
        EnvironmentAdapter.recorded_append.mp recorded
      obtain ⟨sameOriginal, sameSeen, reached⟩ := induction before
      exact ⟨sameOriginal, sameSeen,
        reached.repaired prepared round failing returned⟩

/-- The sandbox answers everything that a run can ask it. -/
theorem completes : Completes graph sandbox.adapter start where
  getCurrentPolicy := ⟨_, _, rfl⟩
  getObservedUsage _ _ _ := ⟨_, _, rfl⟩
  applyPolicy := by
    intro _ _ _ _ _ _ attempt recorded
    obtain ⟨-, -, reached⟩ := reached_of_attempt prepared started proposed
      expressible attempt recorded
    obtain ⟨last, growing, underway⟩ := reached.underway
    obtain ⟨applied, application, -⟩ :=
      prepared.applyPolicy underway reached.applicable growing
    exact ⟨_, applied, application⟩
  verifyWorkload _ _ _ _ _ _ _ _ := ⟨_, _, rfl⟩
  describeFailure _ _ _ _ _ _ _ _ _ := ⟨_, _, rfl⟩
  restorePolicy := by
    intro _ _ _ _ _ _ _ _ attempt recorded
    obtain ⟨middle, before, round⟩ :=
      EnvironmentAdapter.recorded_append.mp recorded
    obtain ⟨-, -, reached⟩ := reached_of_attempt prepared started proposed
      expressible attempt before
    obtain ⟨restored, restoration, -⟩ :=
      prepared.restorePolicy (reached.failed prepared round).1.underway
    exact ⟨_, restored, restoration⟩

theorem accepted_inForce
    (attempt : Attempt graph original seen count candidate calls)
    (passed : result.passed = true)
    (recorded : sandbox.adapter.Recorded
      (calls ++ verifiedRound candidate result) start state) :
    (sandbox.inForce state).keys = candidate.keys ∧
      (∀ event ∈ sandbox.required,
        isAuthorized sandbox.environment.originalPolicy event = true) ∧
      (∀ event, event ∈ sandbox.observed start ∨ event ∈ sandbox.required →
        isAuthorized (sandbox.inForce state) event = true) ∧
      ∀ other : Policy,
        (∀ event,
          event ∈ sandbox.observed start ∨ event ∈ sandbox.required →
            isAuthorized other event = true) →
        ∀ event, isAuthorized (sandbox.inForce state) event = true →
          isAuthorized other event = true := by
  obtain ⟨middle, before, round⟩ :=
    EnvironmentAdapter.recorded_append.mp recorded
  obtain ⟨sameOriginal, sameSeen, reached⟩ := reached_of_attempt prepared
    started proposed expressible attempt before
  subst sameOriginal sameSeen
  have verified := reached.verified prepared round
  have honest := reached.honest (verifiedRound candidate result)
    fun _ => ⟨rfl, ⟨result, rfl, verified.honest⟩, trivial⟩
  obtain ⟨sufficient, least⟩ := honest.accepted attempt passed
  simp only [isAuthorized_of_sameKeys verified.enforced]
  refine ⟨verified.enforced, fun event isRequired => ?_, sufficient, least⟩
  exact attempt.within event (sufficient event (Or.inr isRequired))

/-- With four repairs a run gives up only if the grants are not enough. -/
theorem rejected_insufficient
    (attempt : Attempt graph original seen count candidate calls)
    (failing : result.passed = false)
    (givesUp : GivesUp graph original candidate count failure)
    (affordable : 4 ≤ graph.maxRepairIterations)
    (recorded : sandbox.adapter.Recorded
      (calls ++ failedRound candidate result failure) start state) :
    ¬ ∀ event ∈ sandbox.required,
      isAuthorized sandbox.environment.originalPolicy event = true := by
  intro sufficient
  obtain ⟨middle, before, round⟩ :=
    EnvironmentAdapter.recorded_append.mp recorded
  obtain ⟨sameOriginal, sameSeen, reached⟩ := reached_of_attempt prepared
    started proposed expressible attempt before
  subst sameOriginal sameSeen
  obtain ⟨verified, described⟩ := reached.failed prepared round
  have honest := reached.honest
    (failedRound candidate result failure ++
      [EnvironmentCall.restorePolicy (.ok ())])
    fun policy => ⟨rfl, ⟨result, rfl, verified.honest⟩,
      ⟨failure, rfl, described⟩, rfl, policy, trivial⟩
  rw [← List.append_assoc] at honest
  exact honest.not_givesUp attempt failing sufficient required_supported
    proposed ((missingKeys_card first).trans affordable) givesUp

theorem rejected_restored
    (attempt : Attempt graph original seen count candidate calls)
    (recorded : sandbox.adapter.Recorded
      (calls ++ failedRound candidate result failure ++
        [.restorePolicy (.ok ())]) start state) (event : KubeEvent) :
    isAuthorized (sandbox.inForce state) event =
      isAuthorized sandbox.environment.originalPolicy event := by
  obtain ⟨last, lastRecorded, restoring⟩ :=
    EnvironmentAdapter.recorded_append.mp recorded
  obtain ⟨middle, before, round⟩ :=
    EnvironmentAdapter.recorded_append.mp lastRecorded
  obtain ⟨-, -, reached⟩ := reached_of_attempt prepared started proposed
    expressible attempt before
  obtain ⟨restored, restoration, same⟩ :=
    prepared.restorePolicy (reached.failed prepared round).1.underway
  obtain ⟨ended, ending, rfl⟩ := restoring
  obtain rfl : restored = ended :=
    congrArg Prod.snd (restoration.symm.trans ending)
  exact same event

end Run

/-- The first run against the live sandbox finishes, however many repairs it
has, if what was observed is granted and can be written as rules.  If it
accepts, the cluster grants what was observed or is tested, and no more than
needed, and the manifest grants the tests.  Otherwise the account keeps what it
was granted.  With four repairs it accepts whenever the manifest grants the
tests. -/
theorem live_run_converges (prepared : sandbox.Prepared objects present)
    (started : sandbox.Started objects start) {first : Policy}
    (proposed : observedOnlyPolicy sandbox.environment.originalPolicy
      (sandbox.observed start) = .ok first)
    (expressible : ∀ permission ∈ first.permissions, permission.Expressible)
    (graph : WorkloadOptimizationGraph) (recursionLimit : Nat)
    (enough : graph.WithinLimit recursionLimit)
    (request : WorkloadRequest) (persisted : WorkloadGraphState) :
    ∃ execution session,
      runFrom graph recursionLimit request persisted sandbox.adapter start =
        (.ok execution, session) ∧
      (4 ≤ graph.maxRepairIterations →
        (execution.accepted = true ↔ ∀ event ∈ sandbox.required,
          isAuthorized sandbox.environment.originalPolicy event = true)) ∧
      (execution.accepted = true →
        (∀ event ∈ sandbox.required,
          isAuthorized sandbox.environment.originalPolicy event = true) ∧
        (sandbox.inForce session.environment).keys =
          execution.finalPolicy.keys ∧
        (∀ event, event ∈ sandbox.observed start ∨ event ∈ sandbox.required →
          isAuthorized (sandbox.inForce session.environment) event = true) ∧
        ∀ other : Policy,
          (∀ event,
            event ∈ sandbox.observed start ∨ event ∈ sandbox.required →
              isAuthorized other event = true) →
          ∀ event,
            isAuthorized (sandbox.inForce session.environment) event = true →
              isAuthorized other event = true) ∧
      (execution.accepted = false →
        ∀ event, isAuthorized (sandbox.inForce session.environment) event =
          isAuthorized sandbox.environment.originalPolicy event) := by
  have finished := (completes prepared started proposed
    expressible).run_finishes recursionLimit enough request persisted
  obtain ⟨execution, session, run, finishes⟩ := finished (by
    intro original seen state recorded
    obtain ⟨sameOriginal, sameSeen, -⟩ :=
      started.prologue_eq prepared.faithful.complete recorded
    rw [sameOriginal, sameSeen]
    exact ⟨first, proposed⟩)
  refine ⟨execution, session, run, ?_⟩
  have recorded := session.recorded
  cases finishes with
  | accepted accepted attempt passed made =>
      rw [made] at recorded
      obtain ⟨enforced, within, sufficient, least⟩ := accepted_inForce prepared
        started proposed expressible attempt passed recorded
      refine ⟨fun _ => ⟨fun _ => within, fun _ => accepted⟩,
        fun _ => ⟨within, enforced, sufficient, least⟩, fun rejected => ?_⟩
      rw [accepted] at rejected
      cases rejected
  | rejected rejected attempt failing givesUp _ made =>
      rw [made] at recorded
      have notAccepted : execution.accepted ≠ true := by simp [rejected]
      refine ⟨fun affordable => ⟨fun accepted => absurd accepted notAccepted,
        fun sufficient => absurd sufficient ?_⟩,
        fun accepted => absurd accepted notAccepted,
        fun _ => rejected_restored prepared started proposed expressible
          attempt recorded⟩
      obtain ⟨_, before, -⟩ := EnvironmentAdapter.recorded_append.mp recorded
      exact rejected_insufficient prepared started proposed expressible attempt
        failing givesUp affordable before

section Worker

def workerSettings : KubernetesSettings where
  «namespace» := "shop"
  serviceAccount := "worker"
  workloadId := "worker-service"
  originalBindingName := "overprivileged"

/-- A role for more than the worker needs, and the binding of its account. -/
def workerManifest : List Json :=
  [.mapping
    [("kind", .string "Role"),
      ("metadata", .mapping
        [("name", .string "worker"), ("namespace", .string "shop")]),
      ("rules", .list [
        .mapping [("resources", .list [.string "configmaps"]),
          ("verbs", .list [.string "get", .string "list"])],
        .mapping [("apiGroups", .list [.string "batch"]),
          ("resources", .list [.string "jobs"]),
          ("verbs", .list [.string "*"])]])],
    .mapping
      [("kind", .string "RoleBinding"),
        ("metadata", .mapping
          [("name", .string "overprivileged"),
            ("namespace", .string "shop")]),
        ("roleRef", .mapping
          [("apiGroup", .string "rbac.authorization.k8s.io"),
            ("kind", .string "Role"), ("name", .string "worker")]),
        ("subjects", .list [.mapping
          [("kind", .string "ServiceAccount"), ("name", .string "worker"),
            ("namespace", .string "shop")]])]]

def workerObjects : List ParsedObject :=
  [.role ⟨"worker", some "shop",
      [⟨[""], ["configmaps"], ["get", "list"], []⟩,
        ⟨["batch"], ["jobs"], ["*"], []⟩], false⟩,
    .binding ⟨"overprivileged", some "shop", "worker", .role,
      [⟨"worker", "shop"⟩], false⟩]

def workerEnvironment : KubernetesEnvironment :=
  ⟨workerSettings, resolveEffectivePolicy (ParsedRbac.ofObjects workerObjects)
    ⟨"worker", "shop"⟩, true, false⟩

theorem workerEnvironment_deploys :
    workerEnvironment.Deploys workerObjects := by
  refine ⟨⟨workerSettings, workerManifest, KubernetesEnvironment.kindSandbox,
    rfl, rfl⟩, ⟨?_, ?_, ?_, ?_⟩, by decide, rfl⟩
  · intro binding member _
    simp only [workerObjects, List.mem_cons, reduceCtorEq, List.not_mem_nil,
      or_false, false_or] at member
    rw [member]
    exact Or.inl rfl
  · intro object member
    simp only [workerObjects, List.mem_cons, List.not_mem_nil, or_false]
      at member
    rcases member with rfl | rfl
    · exact KubernetesEnvironment.not_generates (by decide) (by decide)
    · exact KubernetesEnvironment.not_generates (by decide) (by decide)
  · exact KubernetesEnvironment.not_generates (by decide) (by decide)
  · exact KubernetesEnvironment.not_generates (by decide) (by decide)

def workerSandbox : LiveSandbox (List String) Unit where
  environment := workerEnvironment
  workload := PodReader.shopWorker
  api := clusterApi PodReader.shopWorker.kube
  reading := PodReader.workerReading

theorem workerSandbox_prepared :
    workerSandbox.Prepared workerObjects (fun name jobs => name ∈ jobs) where
  deploys := workerEnvironment_deploys
  granted := by decide
  located := by decide
  profiled := by decide
  faithful := PodReader.workerReading_faithful
  enforces := enforces_clusterApi PodReader.shopWorker.kube

def profileCall : TrackedCall :=
  PodReader.shopWorker.kube.calling "" "configmaps" "get" "app-config"

/-- The worker has answered one request for its profile. -/
def workerStart : LiveState (List String) where
  kubernetes :=
    workerEnvironment.opened (KubernetesEnvironment.deployed workerObjects) []
  pod := ⟨[], [TrackedKubeClient.recordText profileCall.event], 0⟩

theorem workerStart_started :
    workerSandbox.Started workerObjects workerStart := by
  refine ⟨rfl, ?_⟩
  intro line member
  rw [List.mem_singleton.mp member]
  exact TrackedCall.unbroken_recordText profileCall.prints_event

theorem workerStart_observed :
    workerSandbox.observed workerStart = [profileCall.kubeEvent] := by
  have inverts := PodReader.workerReading_faithful.event profileCall
    List.mem_cons_self
  have read : lineEvent? PodReader.workerReading.reader false
      ([] ++ TrackedKubeClient.recordText profileCall.event) =
        some (.ofKubeEvent profileCall.kubeEvent) :=
    lineEvent?_record (by simp) profileCall.prints_event inverts
  have only : workerStart.pod.lines.filterMap
      (lineEvent? workerSandbox.reading.reader false) =
        [profileCall.kubeEvent].map .ofKubeEvent :=
    List.filterMap_cons_some read
  rw [observed_eq PodReader.workerReading_faithful
    workerStart_started.unbroken, only, CollectedEvent.firstBy_ofKubeEvent,
    CollectedEvent.map_kubeEvent_ofKubeEvent, List.eraseDups_cons,
    List.filter_nil, List.eraseDups_nil]

def workerFirst : Policy :=
  Policy.build [⟨"", "configmaps", "get", some "shop", some "app-config",
    some "Kuber/verified"⟩] "worker-kuber" "worker" "shop"

/-- The rare workflow, which was never observed, is granted. -/
theorem live_run_converges_worker :
    ∃ execution session,
      runFrom plainGraph 40 { runId := "run" } emptyThread
          workerSandbox.adapter workerStart = (.ok execution, session) ∧
      execution.accepted = true ∧
      (workerSandbox.inForce session.environment).keys =
        execution.finalPolicy.keys := by
  have proposed : observedOnlyPolicy workerSandbox.environment.originalPolicy
      (workerSandbox.observed workerStart) = .ok workerFirst := by
    rw [workerStart_observed]
    rfl
  have expressible : ∀ permission ∈ workerFirst.permissions,
      permission.Expressible := by
    intro permission member
    obtain rfl : permission = ⟨"", "configmaps", "get", some "shop",
      some "app-config", some "Kuber/verified"⟩ := List.mem_singleton.mp member
    exact ⟨by decide, Or.inr (by decide), by decide, by decide⟩
  have sufficient : ∀ event ∈ workerSandbox.required,
      isAuthorized workerSandbox.environment.originalPolicy event = true := by
    decide +kernel
  obtain ⟨execution, session, run, accepts, accepted, -⟩ :=
    live_run_converges workerSandbox_prepared workerStart_started proposed
      expressible plainGraph 40 (by decide) { runId := "run" } emptyThread
  have isAccepted := (accepts (by decide)).mpr sufficient
  exact ⟨execution, session, run, isAccepted, (accepted isAccepted).2.1⟩

end Worker

end LiveSandbox

end Kuber.System

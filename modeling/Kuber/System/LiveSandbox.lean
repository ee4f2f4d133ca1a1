import Kuber.Agent.HonestCalls
import Kuber.Runtime.FirstAttempt
import Kuber.Runtime.SmokeVerification

/-!
# The live sandbox

The live adapter in front of a cluster that runs the reference workload.  The
policy in force is what the RBAC objects of the cluster grant the workload's
account, so an application changes what the smoke script finds, and only
through the cluster.
-/

namespace Kuber.System

open Kuber.Library Kuber.Rules Kuber.Agent Kuber.Runtime

variable {σ lease : Type}

structure LiveState (σ : Type) where
  kubernetes : KubernetesState
  pod : Pod σ

def kubernetesPart : Part (LiveState σ) KubernetesState where
  get := LiveState.kubernetes
  set kubernetes state := { state with kubernetes := kubernetes }
  get_set := fun _ _ => rfl

/-- `describe_failure`. -/
def describeFailure (result : VerificationResult) : FailureDescription :=
  if result.deniedEvents ≠ [] then
    { summary := "real Kubernetes RBAC denied " ++
        toString result.deniedEvents.length ++ " capability/capabilities"
      missingEvents := result.deniedEvents
      authorizationDenial := true }
  else
    { summary := "smoke tests failed without a structured Kubernetes 403; " ++
        "automatic repair refused" }

/-- An adapter, the workload that it optimizes, and the API of the cluster for
the account under a policy. -/
structure LiveSandbox (σ lease : Type) where
  environment : KubernetesEnvironment
  workload : ReferenceWorkload
  api : Policy → KubernetesApi σ lease
  reading : PodReader

namespace LiveSandbox

variable (sandbox : LiveSandbox σ lease)

/-- What the cluster grants the account. -/
def inForce (state : LiveState σ) : Policy :=
  state.kubernetes.cluster.policy sandbox.environment.account

def adapter : EnvironmentAdapter (LiveState σ) where
  name := sandbox.environment.name
  getCurrentPolicy :=
    KubernetesEnvironment.getCurrentPolicy.onPart kubernetesPart
  getObservedUsage state :=
    let outcome := sandbox.reading.observe state.pod
    (.ok outcome.1, { state with pod := outcome.2 })
  applyPolicy policy :=
    (sandbox.environment.applyPolicy policy).onPart kubernetesPart
  verifyWorkload state :=
    let outcome := sandbox.reading.verify sandbox.workload
      (sandbox.api (sandbox.inForce state)) state.pod
    (.ok outcome.1, { state with pod := outcome.2 })
  restorePolicy :=
    sandbox.environment.restorePolicy.onPart kubernetesPart
  describeFailure result := pure (describeFailure result)

/-- The events of the calls that the workload is tested for. -/
def required : List KubeEvent :=
  sandbox.workload.requiredCalls.map TrackedCall.kubeEvent

/-- A deployed workload with grants, whose log is read faithfully, in front of
an API that enforces what the cluster grants. -/
structure Prepared (objects : List ParsedObject)
    (present : String → σ → Prop) : Prop where
  deploys : sandbox.environment.Deploys objects
  granted : sandbox.environment.originalPolicy.permissions ≠ []
  located : sandbox.workload.namespace ≠ ""
  profiled : sandbox.workload.serviceId ∈ profiledServices
  faithful : sandbox.reading.Faithful sandbox.workload
  enforces : ∀ policy,
    Enforces policy sandbox.workload.kube present (sandbox.api policy)

/-- A policy that the adapter can apply: of its account, and expressible. -/
structure Applicable (policy : Policy) : Prop where
  candidate : sandbox.environment.Candidate policy
  expressible : ∀ permission ∈ policy.permissions, permission.Expressible

end LiveSandbox

theorem isAuthorized_of_sameKeys {left right : Policy}
    (same : left.keys = right.keys) (event : KubeEvent) :
    isAuthorized left event = isAuthorized right event := by
  rw [Bool.eq_iff_iff, isAuthorized_iff, isAuthorized_iff, same]

theorem describeFailure_honest (result : VerificationResult) :
    HonestDescription result (describeFailure result) := by
  intro denied
  rw [describeFailure, if_pos denied]
  exact ⟨rfl, rfl⟩

namespace LiveSandbox

section Required

variable (sandbox : LiveSandbox σ lease)

/-- What the calls of all tests have in common. -/
structure Named (call : TrackedCall) : Prop where
  located : call.client.namespace = sandbox.workload.namespace
  verb : call.verb ∈ supportedVerbs
  resource : isSupportedResource call.apiGroup call.resource = true
  name : call.resourceName ≠ some ""

variable {sandbox}

theorem requiredCalls_eq : sandbox.workload.requiredCalls =
    sandbox.workload.profileCalls ++
      if sandbox.workload.serviceId = "worker-service" then
        sandbox.workload.reconcileCalls "kuber-worker-smoke"
      else [] := by
  unfold ReferenceWorkload.requiredCalls ReferenceWorkload.smokeTests
  split_ifs
  · simp [ReferenceWorkload.testCalls]
  · simp [ReferenceWorkload.testCalls]

theorem named_calling {apiGroup resource verb : String}
    {name : Option String} (supported : verb ∈ supportedVerbs)
    (known : isSupportedResource apiGroup resource = true)
    (named : name ≠ some "") :
    sandbox.Named
      (sandbox.workload.kube.calling apiGroup resource verb name) :=
  ⟨rfl, supported, known, named⟩

theorem profileCalls_named :
    ∀ call ∈ sandbox.workload.profileCalls, sandbox.Named call := by
  have configMap := @named_calling _ _ sandbox "" "configmaps" "get"
    (some "app-config") (by decide) (by decide) (by decide)
  have authSecret := @named_calling _ _ sandbox "" "secrets" "get"
    (some "auth-secret") (by decide) (by decide) (by decide)
  have paymentSecret := @named_calling _ _ sandbox "" "secrets" "get"
    (some "payment-secret") (by decide) (by decide) (by decide)
  have pods := @named_calling _ _ sandbox "" "pods" "list" none (by decide)
    (by decide) (by decide)
  unfold ReferenceWorkload.profileCalls
  split_ifs
  all_goals simp [configMap, authSecret, paymentSecret, pods]

theorem reconcileCalls_named {name : String} (named : name ≠ "") :
    ∀ call ∈ sandbox.workload.reconcileCalls name, sandbox.Named call := by
  have given : some name ≠ some "" := fun same => named (Option.some.inj same)
  have jobs : ∀ verb ∈ supportedVerbs, sandbox.Named
      (sandbox.workload.kube.calling "batch" "jobs" verb name) :=
    fun verb supported => named_calling supported (by decide) given
  simp only [ReferenceWorkload.reconcileCalls, List.forall_mem_cons,
    List.not_mem_nil, false_implies, implies_true, and_true]
  exact ⟨jobs "create" (by decide), jobs "get" (by decide),
    jobs "delete" (by decide)⟩

theorem requiredCalls_named :
    ∀ call ∈ sandbox.workload.requiredCalls, sandbox.Named call := by
  rw [requiredCalls_eq, List.forall_mem_append]
  refine ⟨profileCalls_named, ?_⟩
  split_ifs
  · exact reconcileCalls_named (by decide)
  · simp

theorem requiredCalls_length :
    sandbox.workload.requiredCalls.length ≤ 4 := by
  rw [requiredCalls_eq, List.length_append]
  unfold ReferenceWorkload.profileCalls ReferenceWorkload.reconcileCalls
  split_ifs
  all_goals simp_all

theorem required_supported : AllSupported sandbox.required := by
  intro event member
  obtain ⟨call, needed, rfl⟩ := List.mem_map.mp member
  obtain ⟨-, verb, resource, -⟩ := requiredCalls_named call needed
  have known : ¬ isSupportedResource call.kubeEvent.apiGroup
      call.kubeEvent.resource = false := by
    simp [TrackedCall.kubeEvent, resource]
  exact ⟨_, (if_neg (not_not_intro verb)).trans (if_neg known)⟩

theorem required_expressible (located : sandbox.workload.namespace ≠ "")
    {event : KubeEvent} (member : event ∈ sandbox.required)
    {permission : Permission}
    (made : eventPermission event = .ok permission) :
    permission.Expressible := by
  obtain ⟨call, needed, rfl⟩ := List.mem_map.mp member
  obtain ⟨same, -, -, name⟩ := requiredCalls_named call needed
  refine (eventPermission_expressible_iff made).mpr ⟨?_, fun _ => name⟩
  intro unlocated
  exact located (same.symm.trans (Option.some.inj unlocated))

/-- The repairs that the workload can need. -/
theorem missingKeys_card (policy : Policy) :
    (missingKeys sandbox.required policy).card ≤ 4 := by
  refine (List.toFinset_card_le _).trans ?_
  refine (List.length_filterMap_le _ _).trans ?_
  refine (List.length_filter_le _ _).trans ?_
  rw [required, List.length_map]
  exact requiredCalls_length

end Required

section Steps

variable {sandbox : LiveSandbox σ lease} {objects : List ParsedObject}
  {present : String → σ → Prop} {state : LiveState σ}
  {last candidate : Policy}

theorem Prepared.account_named (prepared : sandbox.Prepared objects present) :
    sandbox.environment.settings.serviceAccount ≠ "" ∧
      sandbox.environment.settings.namespace ≠ "" := by
  obtain ⟨settings, manifest, probe, created, parsed⟩ :=
    prepared.deploys.created
  obtain ⟨permission, member⟩ :=
    List.exists_mem_of_ne_nil _ prepared.granted
  simp only [KubernetesEnvironment.create, bind_eq_ok_iff, pure_eq_ok_iff]
    at created
  obtain ⟨rbac, accepted, _, -, same⟩ := created
  rw [← same] at member ⊢
  exact resolved_account (parseRbac_wellFormed accepted) member

theorem Prepared.validated (prepared : sandbox.Prepared objects present)
    (applicable : sandbox.Applicable candidate) :
    sandbox.environment.validatePolicy candidate = .ok () :=
  KubernetesEnvironment.validatePolicy_ok applicable.candidate
    prepared.account_named.1 prepared.account_named.2 applicable.expressible

theorem Prepared.applyPolicy (prepared : sandbox.Prepared objects present)
    (underway : sandbox.environment.Underway objects last state.kubernetes)
    (applicable : sandbox.Applicable candidate)
    (growing : last.keys ⊆ candidate.keys) :
    ∃ applied,
      sandbox.adapter.applyPolicy candidate state = (.ok (), applied) ∧
      sandbox.environment.Underway objects candidate applied.kubernetes ∧
      applied.pod = state.pod ∧
      (sandbox.inForce applied).keys = candidate.keys := by
  obtain ⟨after, applied, reached, enforced⟩ := underway.applyPolicy
    prepared.deploys applicable.candidate growing
    (prepared.validated applicable)
  exact ⟨{ state with kubernetes := after }, Raising.onPart_run applied,
    reached, rfl, enforced⟩

theorem Prepared.verifyWorkload (prepared : sandbox.Prepared objects present)
    (readUp : state.pod.ReadUp)
    (enforced : (sandbox.inForce state).keys = candidate.keys) :
    ∃ result verified,
      sandbox.adapter.verifyWorkload state = (.ok result, verified) ∧
      verified.kubernetes = state.kubernetes ∧ verified.pod.ReadUp ∧
      HonestResult candidate sandbox.required result := by
  obtain ⟨passed, denied, reached⟩ := PodReader.verify_exact
    prepared.faithful prepared.profiled
    (prepared.enforces (sandbox.inForce state)) readUp
  refine ⟨(sandbox.reading.verify sandbox.workload
    (sandbox.api (sandbox.inForce state)) state.pod).1, _, rfl, rfl, reached,
    ?_, ?_⟩
  · rw [passed, required, List.forall_mem_map, Authorizes]
    simp only [isAuthorized_of_sameKeys enforced]
  · intro failed
    rw [denied]
    constructor
    · apply PodReader.testDenials_ne_nil
      rw [← passed, failed]
      decide
    · intro event member
      obtain ⟨call, needed, rfl, unauthorized⟩ :=
        PodReader.mem_testDenials member
      rw [isAuthorized_of_sameKeys enforced] at unauthorized
      exact ⟨List.mem_map_of_mem needed, unauthorized⟩

theorem Prepared.restorePolicy (prepared : sandbox.Prepared objects present)
    (underway : sandbox.environment.Underway objects last state.kubernetes) :
    ∃ restored,
      sandbox.adapter.restorePolicy state = (.ok (), restored) ∧
      ∀ event, isAuthorized (sandbox.inForce restored) event =
        isAuthorized sandbox.environment.originalPolicy event := by
  obtain ⟨after, restoration, same⟩ := underway.restorePolicy
    prepared.deploys prepared.granted
  exact ⟨{ state with kubernetes := after },
    Raising.onPart_run restoration, same⟩

end Steps

end LiveSandbox

end Kuber.System

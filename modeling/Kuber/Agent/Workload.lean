import Kuber.Agent.Interfaces
import Kuber.Library.StateGraph
import Kuber.Rules.Reducer
import Kuber.Rules.Risk

/-!
# The workload optimization graph

The fifteen nodes and two conditional routers of the bounded repair loop, and
the run of the compiled graph.  A key that the graph's state does not hold yet
is `none`; reading it raises the `KeyError` of the source.
-/

namespace Kuber.Agent

open Kuber.Library Kuber.Rules

inductive FailureType where
  | rbac
  | unrelated
  | unrecoverable
deriving DecidableEq, Repr

/-- The checkpointed state of one workload optimization task. -/
structure WorkloadGraphState where
  runId : String
  taskId : String
  workloadId : String
  serviceName : String
  contextRef : String
  repositoryRef : String
  «namespace» : Option String := none
  serviceAccount : Option String := none
  originalPolicy : Option Policy := none
  currentPolicy : Option Policy := none
  candidatePolicy : Option Policy := none
  lastKnownGoodPolicy : Option Policy := none
  effectivePermissions : Option Nat := none
  observedEvents : Option (List KubeEvent) := none
  originalRisk : Option RiskAssessment := none
  currentRisk : Option RiskAssessment := none
  candidateRisk : Option RiskAssessment := none
  verificationResult : Option VerificationResult := none
  failureType : Option FailureType := none
  failureDetails : Option (Option FailureDescription) := none
  missingPermissions : Option (List KubeEvent) := none
  reductionsAttempted : Nat := 0
  reductionsAccepted : Nat := 0
  reductionsRejected : Nat := 0
  retryCount : Nat := 0
  incorrectRemovals : Nat := 0
  accepted : Bool := false
  graphNode : String := "START"

inductive WorkloadNode where
  | loadServiceContext
  | inspectRbac
  | gatherEvidence
  | generateCandidate
  | validateCandidate
  | applyCandidate
  | verify
  | checkMoreReductions
  | finalVerify
  | diagnoseFailure
  | repairPolicy
  | restoreLastKnownGood
  | humanReview
  | finalizeWorkload
  | publishResultEvent
deriving DecidableEq, Repr

/-- The parameters of the graph: the repair bound and the failure reasoner,
which only ever contributes the text of an explanation. -/
structure WorkloadOptimizationGraph where
  maxRepairIterations : Nat := 5
  explain : FailureDescription → String

/-- `state[key]`. -/
def stateKey {α : Type} (key : String) (value : Option α) :
    Except PyException α :=
  match value with
  | some found => .ok found
  | none => .error (.keyError key)

/-- `assert failure is not None`. -/
def assertPresent {α : Type} (value : Option α) : Except PyException α :=
  match value with
  | some found => .ok found
  | none => .error ⟨.assertionError, ""⟩

/-- A permission of a candidate as the request it stands for. -/
def permissionEvent (permission : Permission) : KubeEvent :=
  ⟨permission.apiGroup, permission.resource, permission.verb,
    permission.namespace, permission.resourceName, none⟩

/-- The check of the validation node. -/
def checkCandidate (candidate original : Policy) : Except PyException Unit :=
  if candidate.permissions.all
      (fun permission => isAuthorized original (permissionEvent permission))
  then .ok ()
  else .error (.valueError
    "candidate contains a capability absent from the original policy")

/-- `VerifierAgent.repair`. -/
def verifierRepair (candidate : Policy) (failure : FailureDescription)
    (original : Policy) : Except PyException Policy :=
  if failure.authorizationDenial = false ∨ failure.missingEvents = [] then
    .error (.valueError "failure cannot be repaired deterministically")
  else Rules.repairPolicy candidate failure.missingEvents original

namespace WorkloadOptimizationGraph

variable {σ : Type} {adapter : EnvironmentAdapter σ} {start : σ}

abbrev Step (adapter : EnvironmentAdapter σ) (start : σ) :=
  Raising PyException (Session adapter start) WorkloadGraphState

def emit (state : WorkloadGraphState) (agent action reason : String)
    (decision : Option String) :
    Raising PyException (Session adapter start) Unit :=
  Session.record ⟨state.runId, adapter.name, agent, action, reason, decision,
    state.retryCount⟩

def loadContext (state : WorkloadGraphState) : Step adapter start := do
  emit state "orchestrator" "load_service_context"
    "loaded compact service-scoped context reference" none
  return { state with graphNode := "LOAD_SERVICE_CONTEXT" }

def inspect (state : WorkloadGraphState) : Step adapter start := do
  let policy ← Session.getCurrentPolicy
  let risk := scorePolicy policy
  emit state "inspector" "inspect" "resolved policy and deterministic risk" none
  return { state with
    originalPolicy := some policy
    currentPolicy := some policy
    lastKnownGoodPolicy := some policy
    originalRisk := some risk
    currentRisk := some risk
    effectivePermissions := some (effectivePermissionCount policy)
    «namespace» := some policy.serviceAccountNamespace
    serviceAccount := some policy.serviceAccount
    graphNode := "INSPECT_RBAC" }

def gather (state : WorkloadGraphState) : Step adapter start := do
  let observed ← Session.getObservedUsage
  emit state "inspector" "gather_evidence"
    ("gathered " ++ toString observed.length ++
      " normalized Kubernetes calls") none
  return { state with
    observedEvents := some observed
    graphNode := "GATHER_EVIDENCE" }

def generate (state : WorkloadGraphState) : Step adapter start := do
  let original ← Raising.ofExcept
    (stateKey "original_policy" state.originalPolicy)
  let observed ← Raising.ofExcept
    (stateKey "observed_events" state.observedEvents)
  let candidate ← Raising.ofExcept (observedOnlyPolicy original observed)
  let risk := scorePolicy candidate
  emit state "reducer" "propose_policy"
    "narrowest supported policy for observed calls; verification still required"
    none
  return { state with
    candidatePolicy := some candidate
    candidateRisk := some risk
    reductionsAttempted := state.reductionsAttempted + 1
    graphNode := "GENERATE_CANDIDATE" }

def validate (state : WorkloadGraphState) : Step adapter start := do
  let candidate ← Raising.ofExcept
    (stateKey "candidate_policy" state.candidatePolicy)
  let original ← Raising.ofExcept
    (stateKey "original_policy" state.originalPolicy)
  Raising.ofExcept (checkCandidate candidate original)
  emit state "rules_engine" "validate_candidate"
    "candidate is normalized and constrained to original capabilities" none
  return { state with graphNode := "VALIDATE_CANDIDATE" }

def apply (state : WorkloadGraphState) : Step adapter start := do
  let candidate ← Raising.ofExcept
    (stateKey "candidate_policy" state.candidatePolicy)
  Session.applyPolicy candidate
  emit state "verifier" "apply_policy"
    "applied deterministic candidate in the controlled environment" none
  return { state with
    currentPolicy := some candidate
    graphNode := "APPLY_CANDIDATE" }

/-- The failure description of a verification that did not pass. -/
def describe (result : VerificationResult) :
    Raising PyException (Session adapter start) (Option FailureDescription) :=
  if result.passed then pure none
  else do
    let failure ← Session.describeFailure result
    return some failure

def FailureType.ofFailure (failure : FailureDescription) : FailureType :=
  if failure.authorizationDenial then .rbac else .unrelated

def verify (state : WorkloadGraphState) : Step adapter start := do
  let result ← Session.verifyWorkload
  let failure ← describe result
  emit state "verifier" "verify"
    (toString result.testsPassed ++ "/" ++ toString result.testsTotal ++
      " verification tests passed")
    (some (if result.passed then "accept" else "diagnose"))
  return { state with
    verificationResult := some result
    failureDetails := some failure
    failureType := failure.map FailureType.ofFailure
    missingPermissions := some
      (match failure with
        | some description => description.missingEvents
        | none => [])
    graphNode := "VERIFY" }

def routeVerification (graph : WorkloadOptimizationGraph)
    (state : WorkloadGraphState) : Except PyException WorkloadNode := do
  let result ← stateKey "verification_result" state.verificationResult
  if result.passed then return .checkMoreReductions
  else if state.failureType = some .rbac ∧
      state.retryCount < graph.maxRepairIterations then
    return .diagnoseFailure
  else return .restoreLastKnownGood

def checkMore (state : WorkloadGraphState) : Step adapter start := do
  emit state "orchestrator" "check_more_reductions"
    "observed-only candidate is already the narrowest supported candidate"
    (some "final_verify")
  return { state with graphNode := "CHECK_MORE_REDUCTIONS" }

def finalVerify (state : WorkloadGraphState) : Step adapter start := do
  emit state "verifier" "final_verify"
    "declared verification passed for the retained candidate" (some "accept")
  return { state with
    accepted := true
    failureType := none
    graphNode := "FINAL_VERIFY" }

def failureOf (state : WorkloadGraphState) :
    Except PyException FailureDescription := do
  let failure ← stateKey "failure_details" state.failureDetails
  assertPresent failure

def diagnose (graph : WorkloadOptimizationGraph)
    (state : WorkloadGraphState) : Step adapter start := do
  let failure ← Raising.ofExcept (failureOf state)
  emit state "reasoner" "diagnose_failure" (graph.explain failure)
    (some "repair")
  return { state with graphNode := "DIAGNOSE_FAILURE" }

def unrecoverable (state : WorkloadGraphState) : WorkloadGraphState :=
  { state with failureType := some .unrecoverable, graphNode := "REPAIR_POLICY" }

/-- The repair, with `None` for the `ValueError` that the node catches and for
a repair that adds nothing. -/
def attemptRepair (candidate : Policy) (failure : FailureDescription)
    (original : Policy) : Except PyException (Option Policy) :=
  match verifierRepair candidate failure original with
  | .ok repaired =>
      if repaired.permissions.length ≤ candidate.permissions.length then
        .ok none
      else .ok (some repaired)
  | .error error =>
      if error.kind.isValueError then .ok none else .error error

def repair (state : WorkloadGraphState) : Step adapter start := do
  let failure ← Raising.ofExcept (failureOf state)
  let candidate ← Raising.ofExcept
    (stateKey "candidate_policy" state.candidatePolicy)
  let original ← Raising.ofExcept
    (stateKey "original_policy" state.originalPolicy)
  let attempt ← Raising.ofExcept (attemptRepair candidate failure original)
  match attempt with
  | none => return unrecoverable state
  | some repaired => do
      emit state "verifier" "repair_policy"
        "restored only denied capabilities allowed by the original policy"
        (some "retry")
      return { state with
        candidatePolicy := some repaired
        candidateRisk := some (scorePolicy repaired)
        retryCount := state.retryCount + 1
        incorrectRemovals := state.incorrectRemovals +
          (repaired.permissions.length - candidate.permissions.length)
        graphNode := "REPAIR_POLICY" }

def routeRepair (state : WorkloadGraphState) : WorkloadNode :=
  if state.failureType ≠ some .unrecoverable then .validateCandidate
  else .restoreLastKnownGood

def restore (state : WorkloadGraphState) : Step adapter start := do
  Session.restorePolicy
  emit state "orchestrator" "restore_policy"
    "candidate did not pass declared verification" (some "reject")
  let lastKnownGood ← Raising.ofExcept
    (stateKey "last_known_good_policy" state.lastKnownGoodPolicy)
  return { state with
    currentPolicy := some lastKnownGood
    accepted := false
    reductionsRejected := state.reductionsRejected + 1
    graphNode := "RESTORE_LAST_KNOWN_GOOD" }

def humanReview (state : WorkloadGraphState) : Step adapter start := do
  emit state "orchestrator" "human_review"
    "automatic repair was unsafe or exhausted; original policy restored"
    (some "review")
  return { state with graphNode := "HUMAN_REVIEW" }

def finalize (state : WorkloadGraphState) : Step adapter start := do
  let policy ← Raising.ofExcept
    (stateKey "current_policy" state.currentPolicy)
  emit state "orchestrator" "finalize"
    (if state.accepted then "verified candidate retained"
      else "last-known-good policy retained")
    (some (if state.accepted then "accept" else "reject"))
  return { state with
    currentRisk := some (scorePolicy policy)
    reductionsAccepted := if state.accepted then 1 else 0
    graphNode := "FINALIZE_WORKLOAD" }

def publishResult (state : WorkloadGraphState) : Step adapter start := do
  emit state "orchestrator" "publish_result_event"
    "durable worker may now publish the result and acknowledge its task" none
  return { state with graphNode := "PUBLISH_RESULT_EVENT" }

/-- The node functions, under the names they are added to the graph with. -/
def execute (graph : WorkloadOptimizationGraph) :
    WorkloadNode → WorkloadGraphState → Step adapter start
  | .loadServiceContext => loadContext
  | .inspectRbac => inspect
  | .gatherEvidence => gather
  | .generateCandidate => generate
  | .validateCandidate => validate
  | .applyCandidate => apply
  | .verify => verify
  | .checkMoreReductions => checkMore
  | .finalVerify => finalVerify
  | .diagnoseFailure => graph.diagnose
  | .repairPolicy => repair
  | .restoreLastKnownGood => restore
  | .humanReview => humanReview
  | .finalizeWorkload => finalize
  | .publishResultEvent => publishResult

/-- The edges of the graph. -/
def route (graph : WorkloadOptimizationGraph) :
    WorkloadNode → WorkloadGraphState →
      Except PyException (Option WorkloadNode)
  | .loadServiceContext, _ => .ok (some .inspectRbac)
  | .inspectRbac, _ => .ok (some .gatherEvidence)
  | .gatherEvidence, _ => .ok (some .generateCandidate)
  | .generateCandidate, _ => .ok (some .validateCandidate)
  | .validateCandidate, _ => .ok (some .applyCandidate)
  | .applyCandidate, _ => .ok (some .verify)
  | .verify, state => (graph.routeVerification state).map some
  | .checkMoreReductions, _ => .ok (some .finalVerify)
  | .finalVerify, _ => .ok (some .finalizeWorkload)
  | .diagnoseFailure, _ => .ok (some .repairPolicy)
  | .repairPolicy, state => .ok (some (routeRepair state))
  | .restoreLastKnownGood, _ => .ok (some .humanReview)
  | .humanReview, _ => .ok (some .finalizeWorkload)
  | .finalizeWorkload, _ => .ok (some .publishResultEvent)
  | .publishResultEvent, _ => .ok none

/-- The nodes that an edge of the graph leads to. -/
def targets : WorkloadNode → List WorkloadNode
  | .loadServiceContext => [.inspectRbac]
  | .inspectRbac => [.gatherEvidence]
  | .gatherEvidence => [.generateCandidate]
  | .generateCandidate => [.validateCandidate]
  | .validateCandidate => [.applyCandidate]
  | .applyCandidate => [.verify]
  | .verify => [.checkMoreReductions, .diagnoseFailure, .restoreLastKnownGood]
  | .checkMoreReductions => [.finalVerify]
  | .finalVerify => [.finalizeWorkload]
  | .diagnoseFailure => [.repairPolicy]
  | .repairPolicy => [.validateCandidate, .restoreLastKnownGood]
  | .restoreLastKnownGood => [.humanReview]
  | .humanReview => [.finalizeWorkload]
  | .finalizeWorkload => [.publishResultEvent]
  | .publishResultEvent => []

theorem routeVerification_target {graph : WorkloadOptimizationGraph}
    {state : WorkloadGraphState} {next : WorkloadNode}
    (routed : graph.routeVerification state = .ok next) :
    next ∈ targets .verify := by
  rw [routeVerification, bind_eq_ok_iff] at routed
  obtain ⟨result, _, chosen⟩ := routed
  split_ifs at chosen with passed denied
  · cases chosen
    decide
  · cases chosen
    decide
  · cases chosen
    decide

theorem route_target {graph : WorkloadOptimizationGraph}
    {node next : WorkloadNode} {state : WorkloadGraphState}
    (edge : graph.route node state = .ok (some next)) :
    next ∈ targets node := by
  cases node with
  | verify =>
      cases routed : graph.routeVerification state with
      | error error =>
          rw [route, routed] at edge
          cases edge
      | ok target =>
          rw [route, routed] at edge
          cases edge
          exact routeVerification_target routed
  | repairPolicy =>
      rw [route, routeRepair] at edge
      split_ifs at edge with recoverable
      · cases edge
        decide
      · cases edge
        decide
  | publishResultEvent => cases edge
  | _ =>
      cases edge
      exact List.mem_singleton_self _

theorem route_end {graph : WorkloadOptimizationGraph} {node : WorkloadNode}
    {state : WorkloadGraphState} (edge : graph.route node state = .ok none) :
    node = .publishResultEvent := by
  cases node with
  | publishResultEvent => rfl
  | verify =>
      rw [route] at edge
      cases routed : graph.routeVerification state with
      | error error => simp [routed, Except.map] at edge
      | ok target => simp [routed, Except.map] at edge
  | _ => cases edge

/-- The compiled graph. -/
def compiled (graph : WorkloadOptimizationGraph)
    (adapter : EnvironmentAdapter σ) (start : σ) :
    StateGraph PyException (Session adapter start) WorkloadNode
      WorkloadGraphState :=
  ⟨graph.execute, graph.route⟩

end WorkloadOptimizationGraph

structure WorkloadExecution where
  runId : String
  accepted : Bool
  originalPolicy : Policy
  finalPolicy : Policy
  originalRisk : RiskAssessment
  finalRisk : RiskAssessment
  verification : VerificationResult
  repairIterations : Nat
  incorrectRemovals : Nat

/-- The arguments of one run. -/
structure WorkloadRequest where
  runId : String
  taskId : Option String := none
  workloadId : Option String := none
  contextRef : String := ""
  repositoryRef : String := ""

namespace WorkloadOptimizationGraph

variable {σ : Type} {adapter : EnvironmentAdapter σ} {start : σ}

/-- The initial values written over whatever an earlier run of the same thread
left in the checkpointer. -/
def initialState (name : String) (request : WorkloadRequest)
    (persisted : WorkloadGraphState) : WorkloadGraphState :=
  let identifier := orElse (request.workloadId.getD "") name
  { persisted with
    runId := request.runId
    taskId := orElse (request.taskId.getD "") request.runId
    workloadId := identifier
    serviceName := identifier
    contextRef := request.contextRef
    repositoryRef := request.repositoryRef
    retryCount := 0
    incorrectRemovals := 0
    reductionsAttempted := 0
    reductionsAccepted := 0
    reductionsRejected := 0
    accepted := false
    graphNode := "START" }

/-- The result of a run, read from the final state. -/
def executionOf (runId : String) (final : WorkloadGraphState) :
    Except PyException WorkloadExecution := do
  let original ← stateKey "original_policy" final.originalPolicy
  let policy ←
    if final.accepted then stateKey "current_policy" final.currentPolicy
    else pure original
  let originalRisk ← stateKey "original_risk" final.originalRisk
  let verification ← stateKey "verification_result" final.verificationResult
  return ⟨runId, final.accepted, original, policy, originalRisk,
    scorePolicy policy, verification, final.retryCount,
    final.incorrectRemovals⟩

/-- The assumption on the engine: its limit is above the number of nodes that
the longest run executes. -/
def WithinLimit (graph : WorkloadOptimizationGraph) (recursionLimit : Nat) :
    Prop :=
  11 + 5 * graph.maxRepairIterations < recursionLimit

instance (graph : WorkloadOptimizationGraph) (recursionLimit : Nat) :
    Decidable (graph.WithinLimit recursionLimit) :=
  inferInstanceAs (Decidable (_ < _))

/-- The engine's limit where a run passes none. -/
def defaultRecursionLimit : Nat := 10007

/-- `run`: the engine executes at most `recursionLimit` nodes. -/
def run (graph : WorkloadOptimizationGraph) (recursionLimit : Nat)
    (request : WorkloadRequest) (persisted : WorkloadGraphState) :
    Raising PyException (Session adapter start) WorkloadExecution :=
  fun session =>
    match (graph.compiled adapter start).invoke recursionLimit
        .loadServiceContext
        (initialState adapter.name request persisted) session with
    | (.finished final, reached) => (executionOf request.runId final, reached)
    | (.raised error, reached) => (.error error, reached)
    | (.exhausted, reached) =>
        (.error ⟨.graphRecursionError, "Recursion limit of " ++
          toString recursionLimit ++
          " reached without hitting a stop condition."⟩, reached)

end WorkloadOptimizationGraph

end Kuber.Agent

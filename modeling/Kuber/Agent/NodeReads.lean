import Kuber.Agent.Outcome
import Kuber.Library.DefiniteAssignment

/-!
# What the nodes read

The nodes of the workload graph read the state key by key and the world by the
calls of the environment.  On states that agree on the keys a node reads, with
environments that answer alike, the node does the same.
-/

namespace Kuber.Agent

open Kuber.Library Kuber.Rules

/-- The keys of the graph's state that some function writes. -/
inductive StateKey where
  | runId
  | taskId
  | workloadId
  | serviceName
  | contextRef
  | repositoryRef
  | «namespace»
  | serviceAccount
  | originalPolicy
  | currentPolicy
  | candidatePolicy
  | lastKnownGoodPolicy
  | effectivePermissions
  | observedEvents
  | originalRisk
  | currentRisk
  | candidateRisk
  | verificationResult
  | failureType
  | failureDetails
  | missingPermissions
  | reductionsAttempted
  | reductionsAccepted
  | reductionsRejected
  | retryCount
  | incorrectRemovals
  | accepted
  | graphNode
deriving DecidableEq, Repr

/-- The graph's state, key by key. -/
def workloadKeys : Keyed StateKey WorkloadGraphState where
  Value
    | .runId | .taskId | .workloadId | .serviceName | .contextRef => String
    | .repositoryRef | .graphNode => String
    | .namespace | .serviceAccount => Option String
    | .originalPolicy | .currentPolicy | .candidatePolicy => Option Policy
    | .lastKnownGoodPolicy => Option Policy
    | .effectivePermissions => Option Nat
    | .observedEvents | .missingPermissions => Option (List KubeEvent)
    | .originalRisk | .currentRisk | .candidateRisk => Option RiskAssessment
    | .verificationResult => Option VerificationResult
    | .failureType => Option FailureType
    | .failureDetails => Option (Option FailureDescription)
    | .reductionsAttempted | .reductionsAccepted | .reductionsRejected => Nat
    | .retryCount | .incorrectRemovals => Nat
    | .accepted => Bool
  value
    | .runId => WorkloadGraphState.runId
    | .taskId => WorkloadGraphState.taskId
    | .workloadId => WorkloadGraphState.workloadId
    | .serviceName => WorkloadGraphState.serviceName
    | .contextRef => WorkloadGraphState.contextRef
    | .repositoryRef => WorkloadGraphState.repositoryRef
    | .namespace => WorkloadGraphState.namespace
    | .serviceAccount => WorkloadGraphState.serviceAccount
    | .originalPolicy => WorkloadGraphState.originalPolicy
    | .currentPolicy => WorkloadGraphState.currentPolicy
    | .candidatePolicy => WorkloadGraphState.candidatePolicy
    | .lastKnownGoodPolicy => WorkloadGraphState.lastKnownGoodPolicy
    | .effectivePermissions => WorkloadGraphState.effectivePermissions
    | .observedEvents => WorkloadGraphState.observedEvents
    | .originalRisk => WorkloadGraphState.originalRisk
    | .currentRisk => WorkloadGraphState.currentRisk
    | .candidateRisk => WorkloadGraphState.candidateRisk
    | .verificationResult => WorkloadGraphState.verificationResult
    | .failureType => WorkloadGraphState.failureType
    | .failureDetails => WorkloadGraphState.failureDetails
    | .missingPermissions => WorkloadGraphState.missingPermissions
    | .reductionsAttempted => WorkloadGraphState.reductionsAttempted
    | .reductionsAccepted => WorkloadGraphState.reductionsAccepted
    | .reductionsRejected => WorkloadGraphState.reductionsRejected
    | .retryCount => WorkloadGraphState.retryCount
    | .incorrectRemovals => WorkloadGraphState.incorrectRemovals
    | .accepted => WorkloadGraphState.accepted
    | .graphNode => WorkloadGraphState.graphNode

/-- The keys that a node always returns; a repair returns more of them only
when it succeeds. -/
def WorkloadNode.sets : WorkloadNode → List StateKey
  | .inspectRbac =>
      [.originalPolicy, .currentPolicy, .lastKnownGoodPolicy, .originalRisk,
        .currentRisk, .effectivePermissions, .namespace, .serviceAccount,
        .graphNode]
  | .gatherEvidence => [.observedEvents, .graphNode]
  | .generateCandidate =>
      [.candidatePolicy, .candidateRisk, .reductionsAttempted, .graphNode]
  | .applyCandidate => [.currentPolicy, .graphNode]
  | .verify =>
      [.verificationResult, .failureDetails, .failureType,
        .missingPermissions, .graphNode]
  | .finalVerify => [.accepted, .failureType, .graphNode]
  | .restoreLastKnownGood =>
      [.currentPolicy, .accepted, .reductionsRejected, .graphNode]
  | .finalizeWorkload => [.currentRisk, .reductionsAccepted, .graphNode]
  | .loadServiceContext | .validateCandidate => [.graphNode]
  | .checkMoreReductions | .diagnoseFailure | .repairPolicy => [.graphNode]
  | .humanReview | .publishResultEvent => [.graphNode]

/-- The keys that a node and its router read, apart from those that its record
in the trajectory takes from the state. -/
def WorkloadNode.reads : WorkloadNode → List StateKey
  | .generateCandidate =>
      [.originalPolicy, .observedEvents, .reductionsAttempted]
  | .validateCandidate => [.candidatePolicy, .originalPolicy]
  | .applyCandidate => [.candidatePolicy]
  | .verify => [.retryCount]
  | .diagnoseFailure => [.failureDetails]
  | .repairPolicy =>
      [.failureDetails, .candidatePolicy, .originalPolicy, .retryCount,
        .incorrectRemovals, .failureType]
  | .restoreLastKnownGood => [.lastKnownGoodPolicy, .reductionsRejected]
  | .finalizeWorkload => [.accepted, .currentPolicy]
  | .loadServiceContext | .inspectRbac | .gatherEvidence => []
  | .checkMoreReductions | .finalVerify | .humanReview => []
  | .publishResultEvent => []

namespace WorkloadOptimizationGraph

variable {σ τ : Type} {adapter : EnvironmentAdapter σ} {start : σ}
  {other : EnvironmentAdapter τ} {begun : τ}

/-- In sessions that are alike, every call is answered alike, and so is the
record of states that agree on some keys kept. -/
structure ServesAlike
    (alike : Session adapter start → Session other begun → Prop)
    (recordKeys : List StateKey) : Prop where
  getCurrentPolicy : ∀ {left right}, alike left right →
    Raising.EndAlike alike Eq (Session.getCurrentPolicy left)
      (Session.getCurrentPolicy right)
  getObservedUsage : ∀ {left right}, alike left right →
    Raising.EndAlike alike Eq (Session.getObservedUsage left)
      (Session.getObservedUsage right)
  applyPolicy : ∀ policy {left right}, alike left right →
    Raising.EndAlike alike Eq (Session.applyPolicy policy left)
      (Session.applyPolicy policy right)
  verifyWorkload : ∀ {left right}, alike left right →
    Raising.EndAlike alike Eq (Session.verifyWorkload left)
      (Session.verifyWorkload right)
  restorePolicy : ∀ {left right}, alike left right →
    Raising.EndAlike alike Eq (Session.restorePolicy left)
      (Session.restorePolicy right)
  describeFailure : ∀ verification {left right}, alike left right →
    Raising.EndAlike alike Eq (Session.describeFailure verification left)
      (Session.describeFailure verification right)
  emit : ∀ {leftState rightState left right},
    workloadKeys.AgreeOn recordKeys leftState rightState → alike left right →
      ∀ agent action reason decision,
        Raising.EndAlike alike Eq
          (emit leftState agent action reason decision left)
          (emit rightState agent action reason decision right)

/-- The node and its router read only the keys listed for it and those of the
records. -/
def NodeAlike (graph : WorkloadOptimizationGraph)
    (alike : Session adapter start → Session other begun → Prop)
    (recordKeys : List StateKey) (node : WorkloadNode) : Prop :=
  (graph.compiled adapter start).MovesAlike (graph.compiled other begun)
    workloadKeys WorkloadNode.sets alike (recordKeys ++ node.reads) node

section Nodes

variable {graph : WorkloadOptimizationGraph}
  {alike : Session adapter start → Session other begun → Prop}
  {recordKeys : List StateKey} {left right : WorkloadGraphState}

theorem setAlike_moved (name : String) :
    workloadKeys.SetAlike left right { left with graphNode := name }
      { right with graphNode := name } := by
  intro key
  cases key with
  | graphNode => exact Or.inl rfl
  | _ => exact Or.inr ⟨rfl, rfl⟩

theorem nodeAlike_of {node : WorkloadNode}
    (step : ∀ left right leftSession rightSession,
      workloadKeys.AgreeOn recordKeys left right →
      workloadKeys.AgreeOn node.reads left right →
      alike leftSession rightSession →
        Raising.EndAlike alike
          (fun newLeft newRight =>
            workloadKeys.AgreeOn node.sets newLeft newRight ∧
              workloadKeys.SetAlike left right newLeft newRight ∧
              graph.route node newLeft = graph.route node newRight)
          (graph.execute node left leftSession)
          (graph.execute node right rightSession)) :
    NodeAlike graph alike recordKeys node := by
  intro left right leftSession rightSession agree sessions
  exact step left right leftSession rightSession
    (agree.mono (List.subset_append_left recordKeys node.reads))
    (agree.mono (List.subset_append_right recordKeys node.reads)) sessions

variable (serves : ServesAlike alike recordKeys)
include serves

theorem record_alike {node : WorkloadNode}
    (agent action reason name : String) (decision : Option String)
    (executes : ∀ {ρ : Type} {adapter : EnvironmentAdapter ρ} {start : ρ}
      (state : WorkloadGraphState),
      (graph.execute node state : Step adapter start) = do
        emit state agent action reason decision
        return { state with graphNode := name })
    (sets : node.sets = [.graphNode])
    (edge : ∀ left right, graph.route node left = graph.route node right) :
    NodeAlike graph alike recordKeys node := by
  apply nodeAlike_of
  intro left right leftSession rightSession records _ sessions
  simp only [executes]
  apply Raising.EndAlike.bind (serves.emit records sessions _ _ _ _)
  intro _ leftSession rightSession sessions
  apply Raising.EndAlike.pure sessions
  refine ⟨?_, setAlike_moved name, edge _ _⟩
  simp [Keyed.AgreeOn, sets, workloadKeys]

theorem inspect_alike : NodeAlike graph alike recordKeys .inspectRbac := by
  apply nodeAlike_of
  intro left right leftSession rightSession records _ sessions
  change Raising.EndAlike _ _ (inspect left leftSession)
    (inspect right rightSession)
  unfold inspect
  apply Raising.EndAlike.bind (serves.getCurrentPolicy sessions)
  intro policy leftSession rightSession sessions
  apply Raising.EndAlike.bind (serves.emit records sessions _ _ _ _)
  intro _ leftSession rightSession sessions
  apply Raising.EndAlike.pure sessions
  refine ⟨by simp [Keyed.AgreeOn, WorkloadNode.sets, workloadKeys], ?_, rfl⟩
  intro key
  cases key with
  | originalPolicy | currentPolicy | lastKnownGoodPolicy => exact Or.inl rfl
  | originalRisk | currentRisk | effectivePermissions => exact Or.inl rfl
  | «namespace» | serviceAccount | graphNode => exact Or.inl rfl
  | _ => exact Or.inr ⟨rfl, rfl⟩

theorem gather_alike : NodeAlike graph alike recordKeys .gatherEvidence := by
  apply nodeAlike_of
  intro left right leftSession rightSession records _ sessions
  change Raising.EndAlike _ _ (gather left leftSession)
    (gather right rightSession)
  unfold gather
  apply Raising.EndAlike.bind (serves.getObservedUsage sessions)
  intro observed leftSession rightSession sessions
  apply Raising.EndAlike.bind (serves.emit records sessions _ _ _ _)
  intro _ leftSession rightSession sessions
  apply Raising.EndAlike.pure sessions
  refine ⟨by simp [Keyed.AgreeOn, WorkloadNode.sets, workloadKeys], ?_, rfl⟩
  intro key
  cases key with
  | observedEvents | graphNode => exact Or.inl rfl
  | _ => exact Or.inr ⟨rfl, rfl⟩

theorem generate_alike :
    NodeAlike graph alike recordKeys .generateCandidate := by
  apply nodeAlike_of
  intro left right leftSession rightSession records reads sessions
  have original : left.originalPolicy = right.originalPolicy :=
    reads .originalPolicy (by decide)
  have observed : left.observedEvents = right.observedEvents :=
    reads .observedEvents (by decide)
  have attempted : left.reductionsAttempted = right.reductionsAttempted :=
    reads .reductionsAttempted (by decide)
  change Raising.EndAlike _ _ (generate left leftSession)
    (generate right rightSession)
  unfold generate
  rw [original, observed, attempted]
  apply Raising.EndAlike.bind (.ofExcept sessions _)
  intro _ leftSession rightSession sessions
  apply Raising.EndAlike.bind (.ofExcept sessions _)
  intro _ leftSession rightSession sessions
  apply Raising.EndAlike.bind (.ofExcept sessions _)
  intro candidate leftSession rightSession sessions
  apply Raising.EndAlike.bind (serves.emit records sessions _ _ _ _)
  intro _ leftSession rightSession sessions
  apply Raising.EndAlike.pure sessions
  refine ⟨by simp [Keyed.AgreeOn, WorkloadNode.sets, workloadKeys], ?_, rfl⟩
  intro key
  cases key with
  | originalPolicy | observedEvents => exact Or.inl rfl
  | candidatePolicy | candidateRisk => exact Or.inl rfl
  | reductionsAttempted | graphNode => exact Or.inl rfl
  | _ => exact Or.inr ⟨rfl, rfl⟩

theorem validate_alike :
    NodeAlike graph alike recordKeys .validateCandidate := by
  apply nodeAlike_of
  intro left right leftSession rightSession records reads sessions
  have candidate : left.candidatePolicy = right.candidatePolicy :=
    reads .candidatePolicy (by decide)
  have original : left.originalPolicy = right.originalPolicy :=
    reads .originalPolicy (by decide)
  change Raising.EndAlike _ _ (validate left leftSession)
    (validate right rightSession)
  unfold validate
  rw [candidate, original]
  apply Raising.EndAlike.bind (.ofExcept sessions _)
  intro _ leftSession rightSession sessions
  apply Raising.EndAlike.bind (.ofExcept sessions _)
  intro _ leftSession rightSession sessions
  apply Raising.EndAlike.bind (.ofExcept sessions _)
  intro _ leftSession rightSession sessions
  apply Raising.EndAlike.bind (serves.emit records sessions _ _ _ _)
  intro _ leftSession rightSession sessions
  apply Raising.EndAlike.pure sessions
  refine ⟨by simp [Keyed.AgreeOn, WorkloadNode.sets, workloadKeys], ?_, rfl⟩
  intro key
  cases key with
  | candidatePolicy | originalPolicy | graphNode => exact Or.inl rfl
  | _ => exact Or.inr ⟨rfl, rfl⟩

theorem apply_alike : NodeAlike graph alike recordKeys .applyCandidate := by
  apply nodeAlike_of
  intro left right leftSession rightSession records reads sessions
  have candidate : left.candidatePolicy = right.candidatePolicy :=
    reads .candidatePolicy (by decide)
  change Raising.EndAlike _ _ (apply left leftSession)
    (apply right rightSession)
  unfold apply
  rw [candidate]
  apply Raising.EndAlike.bind (.ofExcept sessions _)
  intro policy leftSession rightSession sessions
  apply Raising.EndAlike.bind (serves.applyPolicy policy sessions)
  intro _ leftSession rightSession sessions
  apply Raising.EndAlike.bind (serves.emit records sessions _ _ _ _)
  intro _ leftSession rightSession sessions
  apply Raising.EndAlike.pure sessions
  refine ⟨by simp [Keyed.AgreeOn, WorkloadNode.sets, workloadKeys], ?_, rfl⟩
  intro key
  cases key with
  | currentPolicy | graphNode => exact Or.inl rfl
  | candidatePolicy => exact Or.inl rfl
  | _ => exact Or.inr ⟨rfl, rfl⟩

theorem describe_alike (result : VerificationResult)
    {leftSession : Session adapter start} {rightSession : Session other begun}
    (sessions : alike leftSession rightSession) :
    Raising.EndAlike alike Eq (describe result leftSession)
      (describe result rightSession) := by
  unfold describe
  cases result.passed with
  | true => exact .pure sessions rfl
  | false =>
      apply Raising.EndAlike.bind (serves.describeFailure result sessions)
      intro failure leftSession rightSession sessions
      exact .pure sessions rfl

/-- The router reads the failure and the count of retries; the node has set
the former, and leaves the latter. -/
theorem verify_alike : NodeAlike graph alike recordKeys .verify := by
  apply nodeAlike_of
  intro left right leftSession rightSession records reads sessions
  have retries : left.retryCount = right.retryCount :=
    reads .retryCount (by decide)
  change Raising.EndAlike _ _ (verify left leftSession)
    (verify right rightSession)
  unfold verify
  apply Raising.EndAlike.bind (serves.verifyWorkload sessions)
  intro result leftSession rightSession sessions
  apply Raising.EndAlike.bind (describe_alike serves result sessions)
  intro failure leftSession rightSession sessions
  apply Raising.EndAlike.bind (serves.emit records sessions _ _ _ _)
  intro _ leftSession rightSession sessions
  apply Raising.EndAlike.pure sessions
  refine ⟨by simp [Keyed.AgreeOn, WorkloadNode.sets, workloadKeys], ?_, ?_⟩
  · intro key
    cases key with
    | verificationResult | failureDetails => exact Or.inl rfl
    | failureType | missingPermissions | graphNode => exact Or.inl rfl
    | _ => exact Or.inr ⟨rfl, rfl⟩
  · simp only [route, routeVerification, retries]

theorem finalVerify_alike : NodeAlike graph alike recordKeys .finalVerify := by
  apply nodeAlike_of
  intro left right leftSession rightSession records _ sessions
  change Raising.EndAlike _ _ (finalVerify left leftSession)
    (finalVerify right rightSession)
  unfold finalVerify
  apply Raising.EndAlike.bind (serves.emit records sessions _ _ _ _)
  intro _ leftSession rightSession sessions
  apply Raising.EndAlike.pure sessions
  refine ⟨by simp [Keyed.AgreeOn, WorkloadNode.sets, workloadKeys], ?_, rfl⟩
  intro key
  cases key with
  | accepted | failureType | graphNode => exact Or.inl rfl
  | _ => exact Or.inr ⟨rfl, rfl⟩

theorem diagnose_alike :
    NodeAlike graph alike recordKeys .diagnoseFailure := by
  apply nodeAlike_of
  intro left right leftSession rightSession records reads sessions
  have failure : left.failureDetails = right.failureDetails :=
    reads .failureDetails (by decide)
  change Raising.EndAlike _ _ (graph.diagnose left leftSession)
    (graph.diagnose right rightSession)
  unfold diagnose failureOf
  rw [failure]
  apply Raising.EndAlike.bind (.ofExcept sessions _)
  intro _ leftSession rightSession sessions
  apply Raising.EndAlike.bind (serves.emit records sessions _ _ _ _)
  intro _ leftSession rightSession sessions
  apply Raising.EndAlike.pure sessions
  refine ⟨by simp [Keyed.AgreeOn, WorkloadNode.sets, workloadKeys], ?_, rfl⟩
  intro key
  cases key with
  | failureDetails | graphNode => exact Or.inl rfl
  | _ => exact Or.inr ⟨rfl, rfl⟩

/-- A repair may leave the candidate as it is, and the router reads the type
of the failure that the verification has set. -/
theorem repair_alike : NodeAlike graph alike recordKeys .repairPolicy := by
  apply nodeAlike_of
  intro left right leftSession rightSession records reads sessions
  have failure : left.failureDetails = right.failureDetails :=
    reads .failureDetails (by decide)
  have candidate : left.candidatePolicy = right.candidatePolicy :=
    reads .candidatePolicy (by decide)
  have original : left.originalPolicy = right.originalPolicy :=
    reads .originalPolicy (by decide)
  have retries : left.retryCount = right.retryCount :=
    reads .retryCount (by decide)
  have removals : left.incorrectRemovals = right.incorrectRemovals :=
    reads .incorrectRemovals (by decide)
  have failureType : left.failureType = right.failureType :=
    reads .failureType (by decide)
  change Raising.EndAlike _ _ (repair left leftSession)
    (repair right rightSession)
  unfold repair failureOf
  rw [failure, candidate, original, retries, removals]
  apply Raising.EndAlike.bind (.ofExcept sessions _)
  intro description leftSession rightSession sessions
  apply Raising.EndAlike.bind (.ofExcept sessions _)
  intro policy leftSession rightSession sessions
  apply Raising.EndAlike.bind (.ofExcept sessions _)
  intro _ leftSession rightSession sessions
  apply Raising.EndAlike.bind (.ofExcept sessions _)
  intro attempt leftSession rightSession sessions
  cases attempt with
  | none =>
      apply Raising.EndAlike.pure sessions
      refine ⟨by simp [Keyed.AgreeOn, WorkloadNode.sets, workloadKeys,
        unrecoverable], ?_, rfl⟩
      intro key
      cases key with
      | failureType | graphNode => exact Or.inl rfl
      | _ => exact Or.inr ⟨rfl, rfl⟩
  | some repaired =>
      apply Raising.EndAlike.bind (serves.emit records sessions _ _ _ _)
      intro _ leftSession rightSession sessions
      apply Raising.EndAlike.pure sessions
      refine ⟨by simp [Keyed.AgreeOn, WorkloadNode.sets, workloadKeys], ?_, ?_⟩
      · intro key
        cases key with
        | candidatePolicy | candidateRisk => exact Or.inl rfl
        | retryCount | incorrectRemovals | graphNode => exact Or.inl rfl
        | originalPolicy | failureDetails => exact Or.inl rfl
        | _ => exact Or.inr ⟨rfl, rfl⟩
      · simp only [route, routeRepair, failureType]

theorem restore_alike :
    NodeAlike graph alike recordKeys .restoreLastKnownGood := by
  apply nodeAlike_of
  intro left right leftSession rightSession records reads sessions
  have lastKnownGood : left.lastKnownGoodPolicy = right.lastKnownGoodPolicy :=
    reads .lastKnownGoodPolicy (by decide)
  have rejected : left.reductionsRejected = right.reductionsRejected :=
    reads .reductionsRejected (by decide)
  change Raising.EndAlike _ _ (restore left leftSession)
    (restore right rightSession)
  unfold restore
  rw [lastKnownGood, rejected]
  apply Raising.EndAlike.bind (serves.restorePolicy sessions)
  intro _ leftSession rightSession sessions
  apply Raising.EndAlike.bind (serves.emit records sessions _ _ _ _)
  intro _ leftSession rightSession sessions
  apply Raising.EndAlike.bind (.ofExcept sessions _)
  intro policy leftSession rightSession sessions
  apply Raising.EndAlike.pure sessions
  refine ⟨by simp [Keyed.AgreeOn, WorkloadNode.sets, workloadKeys], ?_, rfl⟩
  intro key
  cases key with
  | currentPolicy | accepted => exact Or.inl rfl
  | reductionsRejected | graphNode => exact Or.inl rfl
  | lastKnownGoodPolicy => exact Or.inl rfl
  | _ => exact Or.inr ⟨rfl, rfl⟩

theorem finalize_alike :
    NodeAlike graph alike recordKeys .finalizeWorkload := by
  apply nodeAlike_of
  intro left right leftSession rightSession records reads sessions
  have accepted : left.accepted = right.accepted :=
    reads .accepted (by decide)
  have current : left.currentPolicy = right.currentPolicy :=
    reads .currentPolicy (by decide)
  change Raising.EndAlike _ _ (finalize left leftSession)
    (finalize right rightSession)
  unfold finalize
  rw [accepted, current]
  apply Raising.EndAlike.bind (.ofExcept sessions _)
  intro policy leftSession rightSession sessions
  apply Raising.EndAlike.bind (serves.emit records sessions _ _ _ _)
  intro _ leftSession rightSession sessions
  apply Raising.EndAlike.pure sessions
  refine ⟨by simp [Keyed.AgreeOn, WorkloadNode.sets, workloadKeys], ?_, rfl⟩
  intro key
  cases key with
  | currentRisk | reductionsAccepted | graphNode => exact Or.inl rfl
  | accepted | currentPolicy => exact Or.inl rfl
  | _ => exact Or.inr ⟨rfl, rfl⟩

theorem nodeAlike (node : WorkloadNode) :
    NodeAlike graph alike recordKeys node := by
  cases node with
  | loadServiceContext =>
      exact record_alike serves _ _ _ _ _ (fun _ => rfl) rfl fun _ _ => rfl
  | inspectRbac => exact inspect_alike serves
  | gatherEvidence => exact gather_alike serves
  | generateCandidate => exact generate_alike serves
  | validateCandidate => exact validate_alike serves
  | applyCandidate => exact apply_alike serves
  | verify => exact verify_alike serves
  | checkMoreReductions =>
      exact record_alike serves _ _ _ _ _ (fun _ => rfl) rfl fun _ _ => rfl
  | finalVerify => exact finalVerify_alike serves
  | diagnoseFailure => exact diagnose_alike serves
  | repairPolicy => exact repair_alike serves
  | restoreLastKnownGood => exact restore_alike serves
  | humanReview =>
      exact record_alike serves _ _ _ _ _ (fun _ => rfl) rfl fun _ _ => rfl
  | finalizeWorkload => exact finalize_alike serves
  | publishResultEvent =>
      exact record_alike serves _ _ _ _ _ (fun _ => rfl) rfl fun _ _ => rfl

end Nodes

end WorkloadOptimizationGraph

end Kuber.Agent

import Kuber.Agent.NodeReads

/-!
# Leftover checkpoint state

A task that is tried again runs on the thread of its earlier attempts, whose
checkpoint the initial input only overwrites in part.  Every node reads keys
that the input or an earlier node of the same run has set, so the rest of the
checkpoint has no influence.
-/

namespace Kuber.Agent

open Kuber.Library Kuber.Rules

/-- The keys of the initial input. -/
def initialKeys : List StateKey :=
  [.runId, .taskId, .workloadId, .serviceName, .contextRef, .repositoryRef,
    .retryCount, .incorrectRemovals, .reductionsAttempted,
    .reductionsAccepted, .reductionsRejected, .accepted, .graphNode]

/-- The keys that runs start with the same values of, whatever they are asked
to do. -/
def countKeys : List StateKey :=
  [.retryCount, .incorrectRemovals, .reductionsAttempted,
    .reductionsAccepted, .reductionsRejected, .accepted, .graphNode]

/-- The keys that a record of the trajectory takes from the state. -/
def recordKeys : List StateKey :=
  [.runId, .retryCount, .contextRef, .repositoryRef]

/-- The keys that the result of a run is read from. -/
def resultKeys : List StateKey :=
  [.originalPolicy, .currentPolicy, .accepted, .originalRisk,
    .verificationResult, .retryCount, .incorrectRemovals]

/-- The keys that the nodes on every path to a node have set. -/
def WorkloadNode.earlierSets : WorkloadNode → List StateKey
  | .loadServiceContext | .inspectRbac => []
  | .gatherEvidence => inspectRbac.sets
  | .generateCandidate => inspectRbac.sets ++ gatherEvidence.sets
  | .validateCandidate | .applyCandidate | .verify =>
      inspectRbac.sets ++ gatherEvidence.sets ++ generateCandidate.sets
  | _ =>
      inspectRbac.sets ++ gatherEvidence.sets ++ generateCandidate.sets ++
        verify.sets

namespace WorkloadOptimizationGraph

variable {σ τ : Type} {adapter : EnvironmentAdapter σ} {start : σ}
  {other : EnvironmentAdapter τ} {begun : τ}

theorem reads_assigned (node : WorkloadNode) :
    node.reads ⊆ countKeys ++ node.earlierSets := by
  cases node with
  | _ => decide

theorem countKeys_append_subset {inputKeys : List StateKey}
    (counts : countKeys ⊆ inputKeys) (node : WorkloadNode) :
    countKeys ++ node.earlierSets ⊆ inputKeys ++ node.earlierSets :=
  List.append_subset.mpr ⟨List.subset_append_of_subset_left _ counts,
    List.subset_append_right _ _⟩

theorem earlierSets_carried (node : WorkloadNode) :
    ∀ next ∈ targets node,
      next.earlierSets ⊆ node.earlierSets ++ node.sets := by
  cases node with
  | _ => decide

/-- The assignment that every path carries along from the keys of an input. -/
def assigned (graph : WorkloadOptimizationGraph)
    (adapter : EnvironmentAdapter σ) (start : σ) (inputKeys : List StateKey) :
    StateGraph.Assigned (graph.compiled adapter start) WorkloadNode.sets where
  keys := fun node => inputKeys ++ node.earlierSets
  atEnd := inputKeys ++ WorkloadNode.publishResultEvent.earlierSets
  carried := by
    intro node state next edge
    have carried := earlierSets_carried node next (route_target edge)
    rw [List.append_assoc]
    exact List.append_subset.mpr ⟨List.subset_append_left _ _,
      List.subset_append_of_subset_right _ carried⟩
  carriedToEnd := by
    intro node state edge
    rw [route_end edge]
    exact List.subset_append_left _ _

/-- Every node reads assigned keys, if the input has those that runs start
with and those of the records. -/
theorem moves_assigned {graph : WorkloadOptimizationGraph}
    {alike : Session adapter start → Session other begun → Prop}
    {recorded inputKeys : List StateKey}
    (serves : ServesAlike alike recorded) (counts : countKeys ⊆ inputKeys)
    (records : recorded ⊆ inputKeys) (node : WorkloadNode) :
    (graph.compiled adapter start).MovesAlike (graph.compiled other begun)
      workloadKeys WorkloadNode.sets alike
      ((graph.assigned adapter start inputKeys).keys node) node := by
  apply (nodeAlike serves node).mono
  apply List.append_subset.mpr
  refine ⟨List.subset_append_of_subset_left _ records, ?_⟩
  exact List.Subset.trans (reads_assigned node)
    (countKeys_append_subset counts node)

/-- The executions of two runs are the same but for the run. -/
def SameExecution (runId : String) (left right : WorkloadExecution) : Prop :=
  left = { right with runId := runId }

theorem executionOf_rename (runId otherId : String)
    (final : WorkloadGraphState) :
    executionOf runId final = (executionOf otherId final).map
      fun execution => { execution with runId := runId } := by
  simp only [executionOf]
  cases final.originalPolicy with
  | none => rfl
  | some original =>
  cases final.originalRisk with
  | none =>
      cases final.accepted with
      | false => rfl
      | true => cases final.currentPolicy <;> rfl
  | some originalRisk =>
  cases final.verificationResult with
  | none =>
      cases final.accepted with
      | false => rfl
      | true => cases final.currentPolicy <;> rfl
  | some verification =>
      cases final.accepted with
      | false => rfl
      | true => cases final.currentPolicy <;> rfl

theorem executionOf_alike {left right : WorkloadGraphState}
    {alike : Session adapter start → Session other begun → Prop}
    {leftReached : Session adapter start} {rightReached : Session other begun}
    (runId otherId : String)
    (agree : workloadKeys.AgreeOn resultKeys left right)
    (sessions : alike leftReached rightReached) :
    Raising.EndAlike alike (SameExecution runId)
      (executionOf runId left, leftReached)
      (executionOf otherId right, rightReached) := by
  have original : left.originalPolicy = right.originalPolicy :=
    agree .originalPolicy (by decide)
  have current : left.currentPolicy = right.currentPolicy :=
    agree .currentPolicy (by decide)
  have accepted : left.accepted = right.accepted :=
    agree .accepted (by decide)
  have originalRisk : left.originalRisk = right.originalRisk :=
    agree .originalRisk (by decide)
  have verification : left.verificationResult = right.verificationResult :=
    agree .verificationResult (by decide)
  have retries : left.retryCount = right.retryCount :=
    agree .retryCount (by decide)
  have removals : left.incorrectRemovals = right.incorrectRemovals :=
    agree .incorrectRemovals (by decide)
  have same : executionOf otherId left = executionOf otherId right := by
    rw [executionOf, executionOf, original, current, accepted, originalRisk,
      verification, retries, removals]
  rw [executionOf_rename runId otherId left, same]
  cases executionOf otherId right with
  | error error => exact ⟨rfl, sessions⟩
  | ok execution => exact ⟨rfl, sessions⟩

/-- The rule of two runs from sessions that are alike. -/
theorem run_alike {graph : WorkloadOptimizationGraph}
    {alike : Session adapter start → Session other begun → Prop}
    {recorded inputKeys : List StateKey}
    (serves : ServesAlike alike recorded) (counts : countKeys ⊆ inputKeys)
    (records : recorded ⊆ inputKeys) (recursionLimit : Nat)
    (request otherRequest : WorkloadRequest) (left right : WorkloadGraphState)
    (agree : workloadKeys.AgreeOn inputKeys
      (initialState adapter.name request left)
      (initialState other.name otherRequest right))
    {leftSession : Session adapter start} {rightSession : Session other begun}
    (sessions : alike leftSession rightSession) :
    Raising.EndAlike alike (SameExecution request.runId)
      (graph.run recursionLimit request left leftSession)
      (graph.run recursionLimit otherRequest right rightSession) := by
  obtain ⟨sameEnd, reached⟩ :=
    (graph.assigned adapter start inputKeys).invoke_sameEnd
      (moves_assigned serves counts records) recursionLimit
      .loadServiceContext _ _ _ _
      (by simpa only [assigned, WorkloadNode.earlierSets, List.append_nil]
        using agree) sessions
  unfold run
  cases leftRun : (graph.compiled adapter start).invoke recursionLimit
      .loadServiceContext (initialState adapter.name request left)
      leftSession with
  | mk leftOutcome leftReached =>
  cases rightRun : (graph.compiled other begun).invoke recursionLimit
      .loadServiceContext (initialState other.name otherRequest right)
      rightSession with
  | mk rightOutcome rightReached =>
  rw [leftRun, rightRun] at sameEnd reached
  cases leftOutcome with
  | finished leftFinal =>
      cases rightOutcome with
      | finished rightFinal =>
          refine executionOf_alike _ _ (sameEnd.mono ?_) reached
          have known : resultKeys ⊆
              countKeys ++ WorkloadNode.publishResultEvent.earlierSets := by
            decide
          exact List.Subset.trans known (countKeys_append_subset counts _)
      | _ => cases sameEnd
  | raised leftError =>
      cases rightOutcome with
      | raised rightError => exact ⟨sameEnd, reached⟩
      | _ => cases sameEnd
  | exhausted =>
      cases rightOutcome with
      | exhausted => exact ⟨rfl, reached⟩
      | _ => cases sameEnd

theorem same_of_alike {runId : String}
    {left right : Except PyException WorkloadExecution × Session adapter start}
    (first : Raising.EndAlike Eq (SameExecution runId) left right)
    (second : Raising.EndAlike Eq (SameExecution runId) right right) :
    left = right := by
  obtain ⟨leftResult, leftReached⟩ := left
  obtain ⟨rightResult, rightReached⟩ := right
  cases leftResult with
  | error leftError =>
      cases rightResult with
      | ok => cases first
      | error rightError =>
          obtain ⟨rfl, rfl⟩ := first
          rfl
  | ok leftExecution =>
      cases rightResult with
      | error => cases first
      | ok rightExecution =>
          obtain ⟨leftIs, rfl⟩ := first
          have rightIs : rightExecution =
              { rightExecution with runId := runId } := second.1
          rw [leftIs, ← rightIs]

theorem servesAlike_self :
    @ServesAlike _ _ adapter start adapter start Eq recordKeys where
  getCurrentPolicy := by
    rintro left _ rfl
    exact .refl _
  getObservedUsage := by
    rintro left _ rfl
    exact .refl _
  applyPolicy := by
    rintro policy left _ rfl
    exact .refl _
  verifyWorkload := by
    rintro left _ rfl
    exact .refl _
  restorePolicy := by
    rintro left _ rfl
    exact .refl _
  describeFailure := by
    rintro verification left _ rfl
    exact .refl _
  emit := by
    rintro leftState rightState left _ records rfl agent action reason decision
    have sameRun : leftState.runId = rightState.runId :=
      records .runId (by decide)
    have sameRetries : leftState.retryCount = rightState.retryCount :=
      records .retryCount (by decide)
    rw [WorkloadOptimizationGraph.emit, WorkloadOptimizationGraph.emit,
      sameRun, sameRetries]
    exact .refl _

/-- The initial input is written over every leftover under its keys. -/
theorem initialState_agree (name : String) (request : WorkloadRequest)
    (left right : WorkloadGraphState) :
    workloadKeys.AgreeOn initialKeys (initialState name request left)
      (initialState name request right) := by
  simp [Keyed.AgreeOn, initialKeys, workloadKeys, initialState]

/-- Whatever two checkpoints earlier attempts have left, the runs on them make
the same calls and return the same result; and no node of a run reads a key
that neither the initial input nor an earlier node of this run has set. -/
theorem leftover_state_has_no_influence (graph : WorkloadOptimizationGraph)
    (recursionLimit : Nat) (request : WorkloadRequest)
    (session : Session adapter start) (left right : WorkloadGraphState) :
    graph.run recursionLimit request left session =
        graph.run recursionLimit request right session ∧
      workloadKeys.AgreeOn initialKeys
        (initialState adapter.name request left)
        (initialState adapter.name request right) ∧
      ∀ earlier node later,
        (graph.compiled adapter start).trace recursionLimit
            .loadServiceContext (initialState adapter.name request left)
            session = earlier ++ node :: later →
          (graph.compiled adapter start).ReadsOnly workloadKeys
            WorkloadNode.sets
            (initialKeys ++ earlier.flatMap WorkloadNode.sets) node := by
  have initial := initialState_agree adapter.name request left right
  have counts : countKeys ⊆ initialKeys := by decide
  have records : recordKeys ⊆ initialKeys := by decide
  refine ⟨?_, initial, ?_⟩
  · have alike : ∀ persisted,
        Raising.EndAlike Eq (SameExecution request.runId)
          (graph.run recursionLimit request persisted session)
          (graph.run recursionLimit request right session) := by
      intro persisted
      exact run_alike servesAlike_self counts records recursionLimit request
        request persisted right (initialState_agree _ _ _ _) rfl
    exact same_of_alike (alike left) (alike right)
  · intro earlier node later passes
    apply (moves_assigned servesAlike_self counts records node).mono
    have keys := (graph.assigned adapter start initialKeys).keys_subset_of_trace
      recursionLimit .loadServiceContext _ session earlier node later passes
    simpa only [assigned, WorkloadNode.earlierSets, List.append_nil] using keys

end WorkloadOptimizationGraph

end Kuber.Agent

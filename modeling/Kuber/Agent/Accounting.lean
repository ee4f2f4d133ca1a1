import Kuber.Agent.Outcome

/-!
# The accounting of a run

The counters of the graph's state against the calls of the environment.  A
ledger of the policies applied so far, and of the candidate that is next, is
carried through all nodes beside the assertions of the repair loop; only the
reducer, the application and the repair write into it.
-/

namespace Kuber.Agent

open Kuber.Library Kuber.Rules

/-- The policies passed to the environment, also by an application that
raised. -/
def appliedPolicies (calls : List EnvironmentCall) : List Policy :=
  calls.filterMap EnvironmentCall.applied?

theorem appliedPolicies_append (calls more : List EnvironmentCall) :
    appliedPolicies (calls ++ more) =
      appliedPolicies calls ++ appliedPolicies more :=
  List.filterMap_append

/-- A sequence of policies, and the counters that describe it. -/
structure Ledger (limit : Nat) (policies : List Policy)
    (state : WorkloadGraphState) : Prop where
  growing : policies.IsChain (fun earlier later => earlier.keys ⊂ later.keys)
  length : policies.length = state.retryCount + 1
  bounded : state.retryCount ≤ limit
  latest : policies.getLast? = state.candidatePolicy
  tally : ∃ first last, policies.head? = some first ∧
    policies.getLast? = some last ∧
    first.permissions.length + state.incorrectRemovals =
      last.permissions.length
  repaired : state.retryCount ≤ state.incorrectRemovals

/-- Where a node stands in the course of an attempt. -/
inductive Stage where
  | preparing
  | proposed
  | applied
deriving DecidableEq

def stageOf : WorkloadNode → Stage
  | .loadServiceContext | .inspectRbac | .gatherEvidence
  | .generateCandidate => .preparing
  | .validateCandidate | .applyCandidate => .proposed
  | _ => .applied

/-- What the ledger says at each stage. -/
def Accounted (limit : Nat) (state : WorkloadGraphState)
    (applied : List Policy) : Stage → Prop
  | .preparing =>
      applied = [] ∧ state.retryCount = 0 ∧ state.incorrectRemovals = 0
  | .proposed => ∃ candidate, Ledger limit (applied ++ [candidate]) state
  | .applied => Ledger limit applied state

/-- Each applied policy has more keys than the one before, and there are not
too many of them. -/
structure Growing (limit : Nat) (applied : List Policy) : Prop where
  chain : applied.IsChain (fun earlier later => earlier.keys ⊂ later.keys)
  bounded : applied.length ≤ limit + 1

/-- The part of the state that the ledger depends on. -/
def accounts (state : WorkloadGraphState) :=
  (state.candidatePolicy, state.retryCount, state.incorrectRemovals)

variable {limit : Nat} {policies applied : List Policy}
  {state updated : WorkloadGraphState}

theorem Ledger.of_same (ledger : Ledger limit policies state)
    (same : accounts updated = accounts state) :
    Ledger limit policies updated := by
  simp only [accounts, Prod.mk.injEq] at same
  obtain ⟨candidatePolicy, retryCount, incorrectRemovals⟩ := same
  obtain ⟨growing, length, bounded, latest, tally, repaired⟩ := ledger
  rw [← retryCount] at length bounded repaired
  rw [← incorrectRemovals] at tally repaired
  rw [← candidatePolicy] at latest
  exact ⟨growing, length, bounded, latest, tally, repaired⟩

theorem Accounted.of_same {stage : Stage}
    (accounted : Accounted limit state applied stage)
    (same : accounts updated = accounts state) :
    Accounted limit updated applied stage := by
  cases stage with
  | preparing =>
      simp only [accounts, Prod.mk.injEq] at same
      obtain ⟨empty, retryCount, incorrectRemovals⟩ := accounted
      exact ⟨empty, same.2.1.trans retryCount,
        same.2.2.trans incorrectRemovals⟩
  | proposed =>
      obtain ⟨candidate, ledger⟩ := accounted
      exact ⟨candidate, ledger.of_same same⟩
  | applied => exact Ledger.of_same accounted same

theorem Ledger.grows (ledger : Ledger limit policies state) :
    Growing limit policies := by
  refine ⟨ledger.growing, ?_⟩
  rw [ledger.length]
  exact Nat.succ_le_succ ledger.bounded

theorem Accounted.grows {stage : Stage}
    (accounted : Accounted limit state applied stage) :
    Growing limit applied := by
  cases stage with
  | preparing =>
      obtain ⟨rfl, -⟩ := accounted
      exact ⟨.nil, Nat.zero_le _⟩
  | proposed =>
      obtain ⟨candidate, ledger⟩ := accounted
      have grows := ledger.grows
      refine ⟨grows.chain.left_of_append, ?_⟩
      have bounded := grows.bounded
      rw [List.length_append] at bounded
      exact le_trans (Nat.le_add_right _ _) bounded
  | applied => exact Ledger.grows accounted

theorem Ledger.opened {candidate : Policy}
    (fresh : state.retryCount = 0) (untouched : state.incorrectRemovals = 0)
    (proposed : state.candidatePolicy = some candidate) :
    Ledger limit [candidate] state where
  growing := .singleton candidate
  length := by simp [fresh]
  bounded := by simp [fresh]
  latest := proposed.symm
  tally := ⟨candidate, candidate, rfl, rfl, by simp [untouched]⟩
  repaired := by simp [fresh]

/-- A repair adds one entry, one iteration, and the keys it restored. -/
theorem Ledger.extended {candidate repaired : Policy}
    (ledger : Ledger limit policies state)
    (latest : state.candidatePolicy = some candidate)
    (below : state.retryCount < limit)
    (keeps : candidate.keys ⊆ repaired.keys)
    (larger : candidate.permissions.length < repaired.permissions.length)
    (proposed : updated.candidatePolicy = some repaired)
    (counted : updated.retryCount = state.retryCount + 1)
    (summed : updated.incorrectRemovals = state.incorrectRemovals +
      (repaired.permissions.length - candidate.permissions.length)) :
    Ledger limit (policies ++ [repaired]) updated := by
  have last : policies.getLast? = some candidate := ledger.latest.trans latest
  obtain ⟨first, final, head, same, tally⟩ := ledger.tally
  cases last.symm.trans same
  refine ⟨?_, ?_, ?_, ?_, ⟨first, repaired, ?_, ?_, ?_⟩, ?_⟩
  · refine List.isChain_append.mpr
      ⟨ledger.growing, .singleton repaired, ?_⟩
    intro earlier isLast later isFirst
    rw [last] at isLast
    cases isLast
    cases isFirst
    exact Policy.keys_ssubset_of_length_lt keeps larger
  · rw [List.length_append, ledger.length, counted]
    rfl
  · rw [counted]
    exact below
  · rw [List.getLast?_concat, proposed]
  · rw [List.head?_append, head]
    rfl
  · exact List.getLast?_concat
  · rw [summed]
    omega
  · have repairedBefore := ledger.repaired
    rw [counted, summed]
    omega

/-- The assertions of the accounting, to be carried beside those of the repair
loop. -/
def accounting {σ : Type} (graph : WorkloadOptimizationGraph)
    (adapter : EnvironmentAdapter σ) (start : σ) :
    StateGraph.Assertions PyException (Session adapter start) WorkloadNode
      WorkloadGraphState where
  holds := fun node state session =>
    Accounted graph.maxRepairIterations state
      (appliedPolicies session.calls) (stageOf node)
  final := fun state session =>
    Ledger graph.maxRepairIterations (appliedPolicies session.calls) state
  raises := fun _ session =>
    Growing graph.maxRepairIterations (appliedPolicies session.calls)
  budget := budget graph

section Nodes

open WorkloadOptimizationGraph Raising StateGraph.Assertions

variable {σ : Type} {adapter : EnvironmentAdapter σ} {start : σ}
  {session : Session adapter start} {graph : WorkloadOptimizationGraph}

/-- The nodes that do not write into the ledger. -/
def Quiet (node : WorkloadNode) : Prop :=
  node ≠ .generateCandidate ∧ node ≠ .applyCandidate ∧ node ≠ .repairPolicy

/-- The accounts stay as they are, and nothing is applied. -/
abbrev KeepsAccounts (state : WorkloadGraphState)
    (session : Session adapter start)
    (result : Except PyException WorkloadGraphState × Session adapter start) :
    Prop :=
  Ends
    (fun updated reached => accounts updated = accounts state ∧
      appliedPolicies reached.calls = appliedPolicies session.calls)
    (fun _ reached =>
      appliedPolicies reached.calls = appliedPolicies session.calls) result

private theorem unapplied {called reached : Session adapter start}
    {call : EnvironmentCall} (passive : call.applied? = none)
    (made : called.calls = session.calls ++ [call])
    (same : reached.calls = called.calls) :
    appliedPolicies reached.calls = appliedPolicies session.calls := by
  simp [same, made, appliedPolicies, passive]

private theorem verify_keepsAccounts :
    KeepsAccounts state session (graph.execute .verify state session) := by
  refine ends_bind (Session.make_ends (fun result called made => ?_)
    fun error called made => unapplied rfl made rfl)
  have verified : appliedPolicies called.calls =
      appliedPolicies session.calls := unapplied rfl made rfl
  refine ends_bind ?_
  cases passed : result.passed with
  | true =>
      rw [describe, if_pos passed]
      exact ends_pure (ends_bind (Session.record_ends fun reached same =>
        ends_pure ⟨rfl, (congrArg appliedPolicies same).trans verified⟩))
  | false =>
      have failed : ¬result.passed = true := by simp [passed]
      rw [describe, if_neg failed]
      refine ends_bind (Session.make_ends (fun failure reached described => ?_)
        fun error reached described =>
          (unapplied rfl described rfl).trans verified)
      exact ends_pure (ends_bind (Session.record_ends fun recorded same =>
        ends_pure ⟨rfl, (unapplied rfl described same).trans verified⟩))

theorem execute_keepsAccounts {node : WorkloadNode} (quiet : Quiet node) :
    KeepsAccounts state session (graph.execute node state session) := by
  cases node with
  | generateCandidate => exact absurd rfl quiet.1
  | applyCandidate => exact absurd rfl quiet.2.1
  | repairPolicy => exact absurd rfl quiet.2.2
  | loadServiceContext =>
      exact ends_bind (Session.record_ends fun reached same =>
        ends_pure ⟨rfl, congrArg appliedPolicies same⟩)
  | inspectRbac =>
      refine ends_bind (Session.make_ends (fun policy called made => ?_)
        fun error called made => unapplied rfl made rfl)
      exact ends_bind (Session.record_ends fun reached same =>
        ends_pure ⟨rfl, unapplied rfl made same⟩)
  | gatherEvidence =>
      refine ends_bind (Session.make_ends (fun observed called made => ?_)
        fun error called made => unapplied rfl made rfl)
      exact ends_bind (Session.record_ends fun reached same =>
        ends_pure ⟨rfl, unapplied rfl made same⟩)
  | validateCandidate =>
      refine ends_bind (ends_ofExcept (fun candidate _ => ?_) fun _ _ => rfl)
      refine ends_bind (ends_ofExcept (fun original _ => ?_) fun _ _ => rfl)
      refine ends_bind (ends_ofExcept (fun _ _ => ?_) fun _ _ => rfl)
      exact ends_bind (Session.record_ends fun reached same =>
        ends_pure ⟨rfl, congrArg appliedPolicies same⟩)
  | verify => exact verify_keepsAccounts
  | checkMoreReductions =>
      exact ends_bind (Session.record_ends fun reached same =>
        ends_pure ⟨rfl, congrArg appliedPolicies same⟩)
  | finalVerify =>
      exact ends_bind (Session.record_ends fun reached same =>
        ends_pure ⟨rfl, congrArg appliedPolicies same⟩)
  | diagnoseFailure =>
      refine ends_bind (ends_ofExcept (fun failure _ => ?_) fun _ _ => rfl)
      exact ends_bind (Session.record_ends fun reached same =>
        ends_pure ⟨rfl, congrArg appliedPolicies same⟩)
  | restoreLastKnownGood =>
      refine ends_bind (Session.make_ends (fun _ called made => ?_)
        fun error called made => unapplied rfl made rfl)
      refine ends_bind (Session.record_ends fun reached same => ?_)
      refine ends_bind (ends_ofExcept (fun good _ => ?_)
        fun _ _ => unapplied rfl made same)
      exact ends_pure ⟨rfl, unapplied rfl made same⟩
  | humanReview =>
      exact ends_bind (Session.record_ends fun reached same =>
        ends_pure ⟨rfl, congrArg appliedPolicies same⟩)
  | finalizeWorkload =>
      refine ends_bind (ends_ofExcept (fun policy _ => ?_) fun _ _ => rfl)
      exact ends_bind (Session.record_ends fun reached same =>
        ends_pure ⟨rfl, congrArg appliedPolicies same⟩)
  | publishResultEvent =>
      exact ends_bind (Session.record_ends fun reached same =>
        ends_pure ⟨rfl, congrArg appliedPolicies same⟩)

private theorem stageOf_target {node : WorkloadNode} (quiet : Quiet node) :
    ∀ next ∈ targets node, stageOf next = stageOf node := by
  cases node with
  | generateCandidate => exact absurd rfl quiet.1
  | applyCandidate => exact absurd rfl quiet.2.1
  | repairPolicy => exact absurd rfl quiet.2.2
  | _ => decide

private theorem carried_of_quiet {node : WorkloadNode} (quiet : Quiet node)
    (accounted : Accounted graph.maxRepairIterations state
      (appliedPolicies session.calls) (stageOf node)) :
    (accounting graph adapter start).Carried (graph.compiled adapter start)
      node state session := by
  unfold Carried
  cases edge : (graph.compiled adapter start).route node state with
  | error error => exact accounted.grows
  | ok target =>
      cases target with
      | none =>
          rw [route_end edge] at accounted
          exact accounted
      | some next =>
          rw [← stageOf_target quiet next (route_target edge)] at accounted
          exact accounted

private theorem quiet_carried {node : WorkloadNode} (quiet : Quiet node)
    (accounted : Accounted graph.maxRepairIterations state
      (appliedPolicies session.calls) (stageOf node)) :
    Ends ((accounting graph adapter start).Carried
        (graph.compiled adapter start) node)
      (accounting graph adapter start).raises
      (graph.execute node state session) := by
  refine (execute_keepsAccounts quiet).imp ?_ ?_
  · rintro updated reached ⟨same, unapplied⟩
    apply carried_of_quiet quiet
    rw [unapplied]
    exact accounted.of_same same
  · intro error reached unapplied
    change Growing _ (appliedPolicies reached.calls)
    rw [unapplied]
    exact accounted.grows

private theorem generateCandidate_carried
    (accounted : Accounted graph.maxRepairIterations state
      (appliedPolicies session.calls) .preparing) :
    Ends ((accounting graph adapter start).Carried
        (graph.compiled adapter start) .generateCandidate)
      (accounting graph adapter start).raises
      (graph.execute .generateCandidate state session) := by
  have grows := accounted.grows
  obtain ⟨empty, fresh, untouched⟩ := accounted
  refine ends_bind (ends_ofExcept (fun original _ => ?_) fun _ _ => grows)
  refine ends_bind (ends_ofExcept (fun observed _ => ?_) fun _ _ => grows)
  refine ends_bind (ends_ofExcept (fun candidate _ => ?_) fun _ _ => grows)
  refine ends_bind (Session.record_ends fun reached same => ends_pure ?_)
  refine ⟨candidate, ?_⟩
  rw [same, empty]
  exact Ledger.opened fresh untouched rfl

private theorem applyCandidate_carried
    (accounted : Accounted graph.maxRepairIterations state
      (appliedPolicies session.calls) .proposed) :
    Ends ((accounting graph adapter start).Carried
        (graph.compiled adapter start) .applyCandidate)
      (accounting graph adapter start).raises
      (graph.execute .applyCandidate state session) := by
  have grows := accounted.grows
  obtain ⟨candidate, ledger⟩ := accounted
  have latest : some candidate = state.candidatePolicy :=
    List.getLast?_concat.symm.trans ledger.latest
  refine ends_bind (ends_ofExcept (fun proposed read => ?_) fun _ _ => grows)
  rw [← latest] at read
  cases read
  have entered : ∀ {called : Session adapter start}
      {answer : Except PyException Unit},
      called.calls = session.calls ++ [.applyPolicy candidate answer] →
      appliedPolicies called.calls =
        appliedPolicies session.calls ++ [candidate] := by
    intro called answer made
    rw [made, appliedPolicies_append]
    rfl
  refine ends_bind (Session.make_ends (fun _ called made => ?_)
    fun error called made => ?_)
  · refine ends_bind (Session.record_ends fun reached same => ends_pure ?_)
    change Ledger _ (appliedPolicies reached.calls) _
    rw [same, entered made]
    exact ledger.of_same rfl
  · change Growing _ (appliedPolicies called.calls)
    rw [entered made]
    exact ledger.grows

private theorem attemptRepair_keeps {candidate repaired original : Policy}
    {failure : FailureDescription}
    (attempted : attemptRepair candidate failure original =
      .ok (some repaired)) :
    candidate.keys ⊆ repaired.keys ∧
      candidate.permissions.length < repaired.permissions.length := by
  unfold attemptRepair at attempted
  cases returned : verifierRepair candidate failure original with
  | ok policy =>
      simp only [returned] at attempted
      split at attempted
      · cases attempted
      · rename_i larger
        cases attempted
        obtain ⟨-, -, repairOk⟩ := verifierRepair_ok returned
        obtain ⟨-, -, sameKeys, -⟩ := repairPolicy_ok repairOk
        refine ⟨?_, not_le.mp larger⟩
        rw [sameKeys]
        exact Set.subset_union_left
  | error error =>
      simp only [returned] at attempted
      split at attempted
      · cases attempted
      · cases attempted

private theorem repairPolicy_carried
    (before : Before graph .repairPolicy state session.calls)
    (ledger : Ledger graph.maxRepairIterations
      (appliedPolicies session.calls) state) :
    Ends ((accounting graph adapter start).Carried
        (graph.compiled adapter start) .repairPolicy)
      (accounting graph adapter start).raises
      (graph.execute .repairPolicy state session) := by
  obtain ⟨_, _, _, _, _, _, attempting, -, -, -, -, denied, below⟩ := before
  refine ends_bind (ends_ofExcept (fun failure _ => ?_)
    fun _ _ => ledger.grows)
  refine ends_bind (ends_ofExcept (fun candidate read => ?_)
    fun _ _ => ledger.grows)
  have proposed : state.candidatePolicy = some candidate := by
    rw [attempting.candidatePolicy] at read ⊢
    cases read
    rfl
  refine ends_bind (ends_ofExcept (fun original _ => ?_)
    fun _ _ => ledger.grows)
  refine ends_bind (ends_ofExcept (fun attempt attempted => ?_)
    fun _ _ => ledger.grows)
  cases attempt with
  | none => exact ends_pure (ledger.of_same rfl)
  | some repaired =>
      obtain ⟨keeps, larger⟩ := attemptRepair_keeps attempted
      refine ends_bind (Session.record_ends fun reached same => ends_pure ?_)
      unfold Carried
      simp only [compiled, route, routeRepair, denied, ne_eq,
        Option.some.injEq, reduceCtorEq, not_false_eq_true, if_true]
      refine ⟨repaired, ?_⟩
      rw [same]
      exact ledger.extended proposed below keeps larger rfl rfl rfl

/-- The accounting is carried along by every node of the repair loop. -/
theorem accounting_inductive (graph : WorkloadOptimizationGraph)
    (adapter : EnvironmentAdapter σ) (start : σ) :
    ((assertions graph adapter start).conjoin
      (accounting graph adapter start)).Inductive
      (graph.compiled adapter start) := by
  apply (assertions_inductive graph adapter start).conjoin
  intro node state session before accounted
  by_cases quiet : Quiet node
  · exact quiet_carried quiet accounted
  · cases node with
    | generateCandidate => exact generateCandidate_carried accounted
    | applyCandidate => exact applyCandidate_carried accounted
    | repairPolicy => exact repairPolicy_carried before accounted
    | _ => exact absurd (by simp [Quiet]) quiet

end Nodes

section Runs

variable {σ : Type} {adapter : EnvironmentAdapter σ} {start : σ}

/-- The nodes that a run executes, in order. -/
def executedNodes (graph : WorkloadOptimizationGraph) (recursionLimit : Nat)
    (request : WorkloadRequest) (persisted : WorkloadGraphState)
    (adapter : EnvironmentAdapter σ) (start : σ) : List WorkloadNode :=
  (graph.compiled adapter start).trace recursionLimit .loadServiceContext
    (WorkloadOptimizationGraph.initialState adapter.name request persisted)
    (Session.opened adapter start)

theorem executionOf_ok {runId : String} {execution : WorkloadExecution}
    (returned : WorkloadOptimizationGraph.executionOf runId state =
      .ok execution) :
    execution.repairIterations = state.retryCount ∧
      execution.incorrectRemovals = state.incorrectRemovals := by
  unfold WorkloadOptimizationGraph.executionOf at returned
  obtain ⟨original, -, returned⟩ := bind_eq_ok_iff.mp returned
  split at returned
  · simp only [bind_eq_ok_iff, pure_eq_ok_iff] at returned
    obtain ⟨policy, -, risk, -, verification, -, rfl⟩ := returned
    exact ⟨rfl, rfl⟩
  · simp only [bind_eq_ok_iff, pure_eq_ok_iff] at returned
    obtain ⟨policy, -, risk, -, verification, -, rfl⟩ := returned
    exact ⟨rfl, rfl⟩

/-- The counters of an execution against the policies that were applied: the
removals that had to be undone are the keys between the first and the last of
them, and every repair undid one at least. -/
structure Balanced (limit : Nat) (applied : List Policy)
    (execution : WorkloadExecution) : Prop where
  bounded : execution.repairIterations ≤ limit
  tally : ∃ first last, applied.head? = some first ∧
    applied.getLast? = some last ∧
    execution.incorrectRemovals + first.keys.ncard = last.keys.ncard
  repaired : execution.repairIterations ≤ execution.incorrectRemovals

theorem Ledger.balanced {runId : String} {execution : WorkloadExecution}
    (ledger : Ledger limit policies state)
    (returned : WorkloadOptimizationGraph.executionOf runId state =
      .ok execution) : Balanced limit policies execution := by
  obtain ⟨iterations, removals⟩ := executionOf_ok returned
  obtain ⟨first, last, head, latest, tally⟩ := ledger.tally
  refine ⟨?_, ⟨first, last, head, latest, ?_⟩, ?_⟩
  · rw [iterations]
    exact ledger.bounded
  · rw [removals, Policy.ncard_keys, Policy.ncard_keys, Nat.add_comm]
    exact tally
  · rw [iterations, removals]
    exact ledger.repaired

/-- Every run is short and its repairs only ever grow the candidate, however
the environment behaves and however the run ends. -/
theorem run_bounded_and_monotone (graph : WorkloadOptimizationGraph)
    (recursionLimit : Nat) (request : WorkloadRequest)
    (persisted : WorkloadGraphState) (adapter : EnvironmentAdapter σ)
    (start : σ) :
    (executedNodes graph recursionLimit request persisted adapter
        start).length ≤ 11 + 5 * graph.maxRepairIterations ∧
      Growing graph.maxRepairIterations (appliedPolicies
        (runFrom graph recursionLimit request persisted adapter
          start).2.calls) ∧
      ∀ execution,
        (runFrom graph recursionLimit request persisted adapter start).1 =
            .ok execution →
          Balanced graph.maxRepairIterations (appliedPolicies
            (runFrom graph recursionLimit request persisted adapter
              start).2.calls) execution := by
  let initial :=
    WorkloadOptimizationGraph.initialState adapter.name request persisted
  have before : ((assertions graph adapter start).conjoin
      (accounting graph adapter start)).holds .loadServiceContext initial
      (Session.opened adapter start) := ⟨⟨rfl, rfl, rfl⟩, rfl, rfl, rfl⟩
  have preserved := accounting_inductive graph adapter start
  have short := preserved.trace_length recursionLimit _ _ _ before
  obtain ⟨atEnd, -⟩ := preserved.invoke_atEnd recursionLimit _ _ _ before
  constructor
  · have budgeted : ((assertions graph adapter start).conjoin
        (accounting graph adapter start)).budget .loadServiceContext initial +
          1 = 11 + 5 * graph.maxRepairIterations := by
      simp only [StateGraph.Assertions.conjoin, assertions, budget]
      omega
    rw [budgeted] at short
    exact short
  · unfold runFrom WorkloadOptimizationGraph.run
    cases invoked : (graph.compiled adapter start).invoke recursionLimit
        .loadServiceContext initial (Session.opened adapter start) with
    | mk result reached =>
        rw [invoked] at atEnd
        cases result with
        | finished final =>
            have ledger := atEnd.2
            exact ⟨ledger.grows, fun _ returned => ledger.balanced returned⟩
        | raised error =>
            refine ⟨atEnd.2, fun _ returned => ?_⟩
            cases returned
        | exhausted =>
            refine ⟨?_, fun _ returned => by cases returned⟩
            rcases atEnd with ⟨node, state, -, accounted⟩ | ⟨state, -, ledger⟩
            · exact accounted.grows
            · exact ledger.grows

/-- The watcher of pods is repaired once, which adds one key. -/
theorem run_bounded_and_monotone_podWatcher :
    ∃ execution session,
      runFrom plainGraph 25 { runId := "run" } emptyThread
          (Judge.simulatorEnvironment podWatcher) podWatcher.initialPolicy =
        (.ok execution, session) ∧
      execution.incorrectRemovals = 1 ∧
      Balanced 5 (appliedPolicies session.calls) execution := by
  have finished : ∃ execution session,
      runFrom plainGraph 25 { runId := "run" } emptyThread
          (Judge.simulatorEnvironment podWatcher) podWatcher.initialPolicy =
        (.ok execution, session) ∧
      execution.incorrectRemovals = 1 := ⟨_, _, rfl, rfl⟩
  obtain ⟨execution, session, finished, removals⟩ := finished
  have balanced := (run_bounded_and_monotone plainGraph 25
    { runId := "run" } emptyThread (Judge.simulatorEnvironment podWatcher)
    podWatcher.initialPolicy).2.2 execution
  rw [finished] at balanced
  exact ⟨execution, session, finished, removals, balanced rfl⟩

end Runs

end Kuber.Agent

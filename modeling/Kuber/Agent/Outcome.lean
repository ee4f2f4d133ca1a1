import Kuber.Agent.RepairLoop
import Kuber.Judge.Simulator

/-!
# Outcomes of a run

What every run of the workload graph guarantees, for any environment: the
policies it applies never exceed the original one, and the returned execution
agrees with the calls the environment has seen.
-/

namespace Kuber.Agent

open Kuber.Library Kuber.Rules

variable {σ : Type} {adapter : EnvironmentAdapter σ} {start : σ}
  {graph : WorkloadOptimizationGraph} {calls : List EnvironmentCall}

/-- The calls of a run that returns `execution`. -/
inductive Finishes (graph : WorkloadOptimizationGraph)
    (execution : WorkloadExecution) (calls : List EnvironmentCall) : Prop where
  | accepted {observed : List KubeEvent} {earlier : List EnvironmentCall} :
      execution.accepted = true →
      Attempt graph execution.originalPolicy observed
        execution.repairIterations execution.finalPolicy earlier →
      execution.verification.passed = true →
      calls = earlier ++
        verifiedRound execution.finalPolicy execution.verification →
      Finishes graph execution calls
  | rejected {observed : List KubeEvent} {candidate : Policy}
      {earlier : List EnvironmentCall} {failure : FailureDescription} :
      execution.accepted = false →
      Attempt graph execution.originalPolicy observed
        execution.repairIterations candidate earlier →
      execution.verification.passed = false →
      GivesUp graph execution.originalPolicy candidate
        execution.repairIterations failure →
      execution.finalPolicy = execution.originalPolicy →
      calls = earlier ++
        failedRound candidate execution.verification failure ++
          [.restorePolicy (.ok ())] →
      Finishes graph execution calls

theorem Decided.finishes {state : WorkloadGraphState}
    (decided : Decided graph state calls) (runId : String) :
    ∃ execution, WorkloadOptimizationGraph.executionOf runId state =
        .ok execution ∧
      Finishes graph execution calls := by
  obtain ⟨original, candidate, accepts | rejects⟩ := decided
  · obtain ⟨observed, earlier, result, attempt, made, passed, verified⟩ :=
      accepts.verification
    refine ⟨⟨runId, true, original, candidate, scorePolicy original,
      scorePolicy candidate, result, state.retryCount,
      state.incorrectRemovals⟩, ?_, .accepted rfl attempt passed made⟩
    simp only [WorkloadOptimizationGraph.executionOf, stateKey,
      accepts.originalPolicy, accepts.risk, accepts.accepted,
      accepts.currentPolicy, verified]
    rfl
  · obtain ⟨observed, earlier, result, failure, attempt, made, failed, givesUp,
      verified⟩ := rejects.verification
    refine ⟨⟨runId, false, original, original, scorePolicy original,
      scorePolicy original, result, state.retryCount,
      state.incorrectRemovals⟩, ?_,
      .rejected rfl attempt failed givesUp rfl made⟩
    simp only [WorkloadOptimizationGraph.executionOf, stateKey,
      rejects.originalPolicy, rejects.risk, rejects.accepted, verified]
    rfl

theorem Finishes.contained {execution : WorkloadExecution}
    (finishes : Finishes graph execution calls) : Contained calls := by
  cases finishes with
  | accepted _ attempt _ made =>
      rw [made]
      exact attempt.contained.append_verified attempt
  | rejected _ attempt _ _ _ made =>
      rw [made]
      exact (attempt.contained.append_failed attempt).append (by simp)

private theorem Decided.contained {state : WorkloadGraphState}
    (decided : Decided graph state calls) : Contained calls := by
  obtain ⟨execution, -, finishes⟩ := decided.finishes ""
  exact finishes.contained

/-- Wherever a run is, the applied policies stay within the original one. -/
theorem Before.contained {node : WorkloadNode} {state : WorkloadGraphState}
    (before : Before graph node state calls) : Contained calls := by
  cases node with
  | loadServiceContext =>
      obtain ⟨-, -, rfl⟩ := before
      simp [Contained]
  | inspectRbac =>
      obtain ⟨-, -, rfl⟩ := before
      simp [Contained]
  | gatherEvidence =>
      obtain ⟨original, -, -, rfl⟩ := before
      simp [Contained]
  | generateCandidate =>
      obtain ⟨original, observed, -, -, -, rfl⟩ := before
      simp [Contained, prologue]
  | validateCandidate =>
      obtain ⟨_, _, _, attempting⟩ := before
      exact attempting.attempt.contained
  | applyCandidate =>
      obtain ⟨_, _, _, attempting⟩ := before
      exact attempting.attempt.contained
  | verify =>
      obtain ⟨_, _, _, _, attempting, -, rfl⟩ := before
      exact attempting.attempt.contained.append_apply attempting.attempt
  | checkMoreReductions =>
      obtain ⟨_, _, _, _, _, attempting, -, rfl, -⟩ := before
      exact attempting.attempt.contained.append_verified attempting.attempt
  | finalVerify =>
      obtain ⟨_, _, _, _, _, attempting, -, rfl, -⟩ := before
      exact attempting.attempt.contained.append_verified attempting.attempt
  | diagnoseFailure =>
      obtain ⟨_, _, _, _, _, _, attempting, rfl, -⟩ := before
      exact attempting.attempt.contained.append_failed attempting.attempt
  | repairPolicy =>
      obtain ⟨_, _, _, _, _, _, attempting, rfl, -⟩ := before
      exact attempting.attempt.contained.append_failed attempting.attempt
  | restoreLastKnownGood =>
      obtain ⟨_, _, _, _, _, _, attempting, rfl, -⟩ := before
      exact attempting.attempt.contained.append_failed attempting.attempt
  | humanReview =>
      obtain ⟨original, candidate, rejects⟩ := before
      have decided : Decided graph state calls :=
        ⟨original, candidate, Or.inr rejects⟩
      exact decided.contained
  | finalizeWorkload => exact Decided.contained before
  | publishResultEvent => exact Decided.contained before

/-- A run on a fresh session with an environment in state `start`. -/
def runFrom (graph : WorkloadOptimizationGraph) (recursionLimit : Nat)
    (request : WorkloadRequest) (persisted : WorkloadGraphState)
    (adapter : EnvironmentAdapter σ) (start : σ) :
    Except PyException WorkloadExecution × Session adapter start :=
  graph.run recursionLimit request persisted (Session.opened adapter start)

/-- How a run ends: it finishes with an execution, it raises for one of the
known causes, or the engine cuts it off, which takes a limit too small for the
repair bound. -/
theorem run_ends (graph : WorkloadOptimizationGraph) (recursionLimit : Nat)
    (request : WorkloadRequest) (persisted : WorkloadGraphState)
    {outcome : Except PyException WorkloadExecution}
    {session : Session adapter start}
    (run : runFrom graph recursionLimit request persisted adapter start =
      (outcome, session)) :
    Contained session.calls ∧
      match outcome with
      | .ok execution => Finishes graph execution session.calls
      | .error error => Raises error session.calls ∨
          ¬ graph.WithinLimit recursionLimit := by
  let initial :=
    WorkloadOptimizationGraph.initialState adapter.name request persisted
  have before : (assertions graph adapter start).holds .loadServiceContext
      initial (Session.opened adapter start) := ⟨rfl, rfl, rfl⟩
  obtain ⟨atEnd, completes⟩ :=
    (assertions_inductive graph adapter start).invoke_atEnd recursionLimit
      _ _ _ before
  unfold runFrom WorkloadOptimizationGraph.run at run
  cases invoked : (graph.compiled adapter start).invoke recursionLimit
      .loadServiceContext initial (Session.opened adapter start) with
  | mk result reached =>
      rw [invoked] at run atEnd completes
      cases result with
      | finished final =>
          obtain ⟨execution, returned, finishes⟩ :=
            Decided.finishes atEnd request.runId
          simp only [returned, Prod.mk.injEq] at run
          obtain ⟨rfl, rfl⟩ := run
          exact ⟨finishes.contained, finishes⟩
      | raised error =>
          simp only [Prod.mk.injEq] at run
          obtain ⟨rfl, rfl⟩ := run
          exact ⟨atEnd.1, Or.inl atEnd⟩
      | exhausted =>
          simp only [Prod.mk.injEq] at run
          obtain ⟨rfl, rfl⟩ := run
          refine ⟨?_, Or.inr ?_⟩
          · rcases atEnd with ⟨node, state, holds⟩ | ⟨state, decided⟩
            · exact Before.contained holds
            · exact Decided.contained decided
          · intro enough
            refine completes ?_ rfl
            simp only [WorkloadOptimizationGraph.WithinLimit] at enough
            simp only [assertions, budget]
            omega

/-- The risks of an execution are the scores of its policies. -/
structure Scored (execution : WorkloadExecution) : Prop where
  original : execution.originalRisk = scorePolicy execution.originalPolicy
  final : execution.finalRisk = scorePolicy execution.finalPolicy

theorem Decided.scored {state : WorkloadGraphState}
    (decided : Decided graph state calls) {runId : String}
    {execution : WorkloadExecution}
    (returned : WorkloadOptimizationGraph.executionOf runId state =
      .ok execution) : Scored execution := by
  obtain ⟨original, candidate, accepts | rejects⟩ := decided
  · obtain ⟨_, _, _, _, _, _, verified⟩ := accepts.verification
    simp only [WorkloadOptimizationGraph.executionOf, stateKey,
      accepts.originalPolicy, accepts.risk, accepts.accepted,
      accepts.currentPolicy, verified] at returned
    cases returned
    exact ⟨rfl, rfl⟩
  · obtain ⟨_, _, _, _, _, _, _, _, verified⟩ := rejects.verification
    simp only [WorkloadOptimizationGraph.executionOf, stateKey,
      rejects.originalPolicy, rejects.risk, rejects.accepted, verified]
      at returned
    cases returned
    exact ⟨rfl, rfl⟩

theorem run_scored {recursionLimit : Nat} {request : WorkloadRequest}
    {persisted : WorkloadGraphState} {execution : WorkloadExecution}
    {session : Session adapter start}
    (run : runFrom graph recursionLimit request persisted adapter start =
      (.ok execution, session)) : Scored execution := by
  have before : (assertions graph adapter start).holds .loadServiceContext
      (WorkloadOptimizationGraph.initialState adapter.name request persisted)
      (Session.opened adapter start) := ⟨rfl, rfl, rfl⟩
  obtain ⟨atEnd, -⟩ :=
    (assertions_inductive graph adapter start).invoke_atEnd recursionLimit
      _ _ _ before
  unfold runFrom WorkloadOptimizationGraph.run at run
  cases invoked : (graph.compiled adapter start).invoke recursionLimit
      .loadServiceContext
      (WorkloadOptimizationGraph.initialState adapter.name request persisted)
      (Session.opened adapter start) with
  | mk result reached =>
      rw [invoked] at run atEnd
      cases result with
      | finished final => exact Decided.scored atEnd (Prod.mk.inj run).1
      | raised error => cases run
      | exhausted => cases run

theorem Finishes.head {execution : WorkloadExecution}
    (finishes : Finishes graph execution calls) :
    calls.head? = some (.getCurrentPolicy (.ok execution.originalPolicy)) := by
  cases finishes with
  | accepted _ attempt _ made => simp [made, List.head?_append, attempt.head]
  | rejected _ attempt _ _ _ made =>
      simp [made, List.head?_append, attempt.head]

theorem Finishes.within {execution : WorkloadExecution}
    (finishes : Finishes graph execution calls) :
    Within execution.finalPolicy execution.originalPolicy := by
  cases finishes with
  | accepted _ attempt _ _ => exact attempt.within
  | rejected _ _ _ _ restored _ =>
      rw [restored]
      exact within_refl _

/-- No escalation over whole runs, however the environment behaves and however
the run ends: every policy passed to the environment, and the final policy,
authorize only what the original policy authorizes. -/
theorem run_never_escalates (graph : WorkloadOptimizationGraph)
    (recursionLimit : Nat) (request : WorkloadRequest)
    (persisted : WorkloadGraphState) (adapter : EnvironmentAdapter σ)
    (start : σ) :
    (∀ policy result,
      .applyPolicy policy result ∈
          (runFrom graph recursionLimit request persisted adapter
            start).2.calls →
        ∃ original,
          (runFrom graph recursionLimit request persisted adapter
              start).2.calls.head? =
            some (.getCurrentPolicy (.ok original)) ∧
          ∀ event, isAuthorized policy event = true →
            isAuthorized original event = true) ∧
      ∀ execution,
        (runFrom graph recursionLimit request persisted adapter start).1 =
            .ok execution →
          (runFrom graph recursionLimit request persisted adapter
              start).2.calls.head? =
            some (.getCurrentPolicy (.ok execution.originalPolicy)) ∧
          ∀ event, isAuthorized execution.finalPolicy event = true →
            isAuthorized execution.originalPolicy event = true := by
  cases run : runFrom graph recursionLimit request persisted adapter start with
  | mk outcome session =>
      obtain ⟨contained, ends⟩ := run_ends graph recursionLimit request
        persisted run
      refine ⟨contained, ?_⟩
      rintro execution rfl
      exact ⟨ends.head, ends.within⟩

theorem Attempt.no_restore {original candidate : Policy}
    {observed : List KubeEvent} {count : Nat}
    (attempt : Attempt graph original observed count candidate calls) :
    ∀ call ∈ calls, call.isRestore = false := by
  induction attempt with
  | propose => simp [prologue, EnvironmentCall.isRestore]
  | repair _ _ _ _ _ induction =>
      intro call member
      rcases List.mem_append.mp member with earlier | later
      · exact induction call earlier
      · simp only [failedRound, verifiedRound, List.cons_append,
          List.nil_append, List.mem_cons, List.not_mem_nil, or_false] at later
        rcases later with rfl | rfl | rfl <;> rfl

/-- The last verification result among the calls. -/
def lastVerification (calls : List EnvironmentCall) :
    Option VerificationResult :=
  (calls.filterMap EnvironmentCall.verified?).getLast?

/-- The policy of the last application among the calls. -/
def lastApplied (calls : List EnvironmentCall) : Option Policy :=
  (calls.filterMap EnvironmentCall.applied?).getLast?

/-- A finished run agrees with its environment: it is accepted exactly when
the last verification passed; then that verification is the last call, the
final policy is the one applied last, and nothing was restored.  Otherwise the
last call is the only restoration, and the final policy is the one read at the
inspection. -/
theorem finished_run_agrees_with_environment
    {recursionLimit : Nat} {request : WorkloadRequest}
    {persisted : WorkloadGraphState} {execution : WorkloadExecution}
    {session : Session adapter start}
    (finished : runFrom graph recursionLimit request persisted adapter start =
      (.ok execution, session)) :
    (execution.accepted = true ↔
      ∃ result, lastVerification session.calls = some result ∧
        result.passed = true) ∧
    (execution.accepted = true →
      lastApplied session.calls = some execution.finalPolicy ∧
      (∃ earlier result,
        session.calls = earlier ++ [.verifyWorkload (.ok result)] ∧
          result.passed = true) ∧
      ∀ call ∈ session.calls, call.isRestore = false) ∧
    (execution.accepted = false →
      (∃ earlier, session.calls = earlier ++ [.restorePolicy (.ok ())] ∧
        ∀ call ∈ earlier, call.isRestore = false) ∧
      session.calls.head? =
        some (.getCurrentPolicy (.ok execution.finalPolicy))) := by
  obtain ⟨-, finishes⟩ := run_ends graph recursionLimit request persisted
    finished
  have head := finishes.head
  cases finishes with
  | @accepted observed earlier accepted attempt passed made =>
      have verified : lastVerification session.calls =
          some execution.verification := by
        rw [lastVerification, made, List.filterMap_append]
        exact List.getLast?_concat
      have applied : lastApplied session.calls =
          some execution.finalPolicy := by
        rw [lastApplied, made, List.filterMap_append]
        exact List.getLast?_concat
      refine ⟨⟨fun _ => ⟨_, verified, passed⟩, fun _ => accepted⟩, ?_, ?_⟩
      · intro _
        refine ⟨applied, ⟨earlier ++ [.applyPolicy execution.finalPolicy
          (.ok ())], execution.verification, ?_, passed⟩, ?_⟩
        · simp [made, verifiedRound]
        · intro call member
          rw [made] at member
          rcases List.mem_append.mp member with earlierCall | later
          · exact attempt.no_restore call earlierCall
          · simp only [verifiedRound, List.mem_cons, List.not_mem_nil,
              or_false] at later
            rcases later with rfl | rfl <;> rfl
      · intro rejected
        rw [accepted] at rejected
        cases rejected
  | @rejected observed candidate earlier failure rejected attempt failed _
      restored made =>
      have verified : lastVerification session.calls =
          some execution.verification := by
        rw [lastVerification, made, List.append_assoc, List.filterMap_append]
        exact List.getLast?_concat
      refine ⟨⟨?_, ?_⟩, ?_, ?_⟩
      · intro accepted
        rw [rejected] at accepted
        cases accepted
      · rintro ⟨result, last, passed⟩
        rw [verified] at last
        cases last
        rw [failed] at passed
        cases passed
      · intro accepted
        rw [rejected] at accepted
        cases accepted
      · intro _
        refine ⟨⟨_, made, ?_⟩, restored.symm ▸ head⟩
        intro call member
        rcases List.mem_append.mp member with earlierCall | later
        · exact attempt.no_restore call earlierCall
        · simp only [failedRound, verifiedRound, List.cons_append,
            List.nil_append, List.mem_cons, List.not_mem_nil,
            or_false] at later
          rcases later with rfl | rfl | rfl <;> rfl

/-- A service that was only seen listing pods, but also has to watch them. -/
def podWatcher : Judge.BenchmarkCase where
  identifier := "pod-watcher"
  initialPolicy := Policy.build [⟨"", "pods", "*", some "shop", none, none⟩]
    "web-effective" "web" "shop"
  observedEvents := [⟨"", "pods", "list", some "shop", none, none⟩]
  verificationTests :=
    [⟨"lists", [⟨"", "pods", "list", some "shop", none, none⟩]⟩,
      ⟨"watches", [⟨"", "pods", "watch", some "shop", none, none⟩]⟩]

def plainGraph : WorkloadOptimizationGraph where
  explain := FailureDescription.summary

/-- The state of a thread that has no checkpoint yet. -/
def emptyThread : WorkloadGraphState where
  runId := ""
  taskId := ""
  workloadId := ""
  serviceName := ""
  contextRef := ""
  repositoryRef := ""

/-- The watcher is accepted after one repair, without a restoration. -/
theorem finished_run_agrees_with_environment_podWatcher :
    ∃ execution session,
      runFrom plainGraph 25 { runId := "run" } emptyThread
          (Judge.simulatorEnvironment podWatcher) podWatcher.initialPolicy =
        (.ok execution, session) ∧
      execution.accepted = true ∧ execution.repairIterations = 1 ∧
      ∀ call ∈ session.calls, call.isRestore = false := by
  have finished : ∃ execution session,
      runFrom plainGraph 25 { runId := "run" } emptyThread
          (Judge.simulatorEnvironment podWatcher) podWatcher.initialPolicy =
        (.ok execution, session) ∧
      execution.accepted = true ∧ execution.repairIterations = 1 :=
    ⟨_, _, rfl, rfl, rfl⟩
  obtain ⟨execution, session, finished, accepted, repaired⟩ := finished
  exact ⟨execution, session, finished, accepted, repaired,
    ((finished_run_agrees_with_environment finished).2.1 accepted).2.2⟩

end Kuber.Agent

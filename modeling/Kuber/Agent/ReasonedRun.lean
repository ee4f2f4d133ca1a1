import Kuber.Agent.Accounting
import Kuber.Agent.LeftoverState
import Kuber.Agent.Reasoner

/-!
# Runs with a failure reasoner

The graph with a reasoner that asks a provider, whose state goes on from one
explanation to the next.  Compared with the same graph under any fixed texts,
the runs differ in the reasons that the diagnoses leave in the trajectory, and
in nothing else.
-/

namespace Kuber.Agent

open Kuber.Library Kuber.Rules WorkloadOptimizationGraph

variable {σ π : Type} {adapter : EnvironmentAdapter σ} {start : σ}

/-- The session, of a session with a provider beside it. -/
def sessionPart : Part (Session adapter start × π) (Session adapter start) where
  get := Prod.fst
  set := fun session both => (session, both.2)
  get_set := fun _ _ => rfl

/-- A computation that does not ask the provider. -/
def unasked {α : Type}
    (body : Raising PyException (Session adapter start) α) :
    Raising PyException (Session adapter start × π) α :=
  body.onPart sessionPart

namespace FailureReasoner

/-- `explain_with_source`, beside a session. -/
def ask (reasoner : FailureReasoner π) (failure : FailureDescription) :
    Raising PyException (Session adapter start × π) ReasoningExplanation :=
  fun both =>
    (.ok (reasoner.explainWithSource failure both.2).1,
      (both.1, (reasoner.explainWithSource failure both.2).2))

/-- The node `diagnose_failure`. -/
def diagnose (reasoner : FailureReasoner π) (state : WorkloadGraphState) :
    Raising PyException (Session adapter start × π) WorkloadGraphState := do
  let failure ← unasked (Raising.ofExcept (failureOf state))
  let explanation ← reasoner.ask failure
  unasked (emit state "reasoner" "diagnose_failure" explanation.text
    (some "repair"))
  return { state with graphNode := "DIAGNOSE_FAILURE" }

/-- The compiled graph with this reasoner. -/
def compiled (reasoner : FailureReasoner π)
    (graph : WorkloadOptimizationGraph) (adapter : EnvironmentAdapter σ)
    (start : σ) : StateGraph PyException (Session adapter start × π)
      WorkloadNode WorkloadGraphState where
  execute := fun node state =>
    match node with
    | .diagnoseFailure => reasoner.diagnose state
    | node => unasked (graph.execute node state)
  route := graph.route

/-- `run`, with this reasoner. -/
def run (reasoner : FailureReasoner π) (graph : WorkloadOptimizationGraph)
    (recursionLimit : Nat) (request : WorkloadRequest)
    (persisted : WorkloadGraphState) :
    Raising PyException (Session adapter start × π) WorkloadExecution :=
  fun both =>
    match (reasoner.compiled graph adapter start).invoke recursionLimit
        .loadServiceContext
        (initialState adapter.name request persisted) both with
    | (.finished final, reached) => (executionOf request.runId final, reached)
    | (.raised error, reached) => (.error error, reached)
    | (.exhausted, reached) =>
        (.error ⟨.graphRecursionError, "Recursion limit of " ++
          toString recursionLimit ++
          " reached without hitting a stop condition."⟩, reached)

end FailureReasoner

/-- The same record, but for the reason of a diagnosis. -/
structure Reworded (left right : TrajectoryEvent) : Prop where
  same : left = { right with reason := left.reason }
  diagnosis : right.action ≠ "diagnose_failure" → left.reason = right.reason

theorem Reworded.refl (event : TrajectoryEvent) : Reworded event event :=
  ⟨rfl, fun _ => rfl⟩

section Sessions

variable {left right : Session adapter start}

end Sessions

section Influence

variable {reasoner : FailureReasoner π} {graph : WorkloadOptimizationGraph}

theorem execute_of_ne {node : WorkloadNode}
    (other : node ≠ .diagnoseFailure) (state : WorkloadGraphState) :
    (reasoner.compiled graph adapter start).execute node state =
      unasked (graph.execute node state) := by
  cases node with
  | diagnoseFailure => exact absurd rfl other
  | _ => rfl

end Influence

/-- The states of a provider that was asked so often. -/
inductive FailureReasoner.Asked (reasoner : FailureReasoner π)
    (provider : π) : Nat → π → Prop
  | never : Asked reasoner provider 0 provider
  | again {count : Nat} {reached : π} (failure : FailureDescription) :
      Asked reasoner provider count reached →
      Asked reasoner provider (count + 1)
        (reasoner.explainWithSource failure reached).2

/-- How a node stands to the diagnoses of its run. -/
inductive DiagnosisStage where
  | before
  | diagnosing
  | repairing
  | after
deriving DecidableEq

def diagnosisStage : WorkloadNode → DiagnosisStage
  | .loadServiceContext | .inspectRbac | .gatherEvidence
  | .generateCandidate | .validateCandidate | .applyCandidate
  | .verify => .before
  | .diagnoseFailure => .diagnosing
  | .repairPolicy => .repairing
  | _ => .after

/-- The diagnoses so far against the repairs: only a repair that follows its
diagnosis is one behind. -/
def Diagnosed (limit : Nat) (state : WorkloadGraphState) (asked : Nat) :
    DiagnosisStage → Prop
  | .before => state.retryCount ≤ limit ∧ asked ≤ state.retryCount
  | .diagnosing => state.retryCount < limit ∧ asked ≤ state.retryCount
  | .repairing => state.retryCount < limit ∧ asked ≤ state.retryCount + 1
  | .after => asked ≤ limit

section Diagnoses

open Raising

variable {reasoner : FailureReasoner π} {graph : WorkloadOptimizationGraph}
  {limit asked : Nat} {state updated : WorkloadGraphState}
  {session : Session adapter start} {both : Session adapter start × π}

theorem Diagnosed.bounded {stage : DiagnosisStage}
    (diagnosed : Diagnosed limit state asked stage) : asked ≤ limit := by
  cases stage with
  | before => exact diagnosed.2.trans diagnosed.1
  | diagnosing => exact diagnosed.2.trans diagnosed.1.le
  | repairing => exact diagnosed.2.trans diagnosed.1
  | after => exact diagnosed

/-- The assertions of the diagnoses. -/
def diagnoses (reasoner : FailureReasoner π)
    (graph : WorkloadOptimizationGraph) (adapter : EnvironmentAdapter σ)
    (start : σ) (provider : π) :
    StateGraph.Assertions PyException (Session adapter start × π) WorkloadNode
      WorkloadGraphState where
  holds := fun node state both => ∃ asked,
    Diagnosed graph.maxRepairIterations state asked (diagnosisStage node) ∧
      reasoner.Asked provider asked both.2
  final := fun _ both => ∃ asked,
    asked ≤ graph.maxRepairIterations ∧ reasoner.Asked provider asked both.2
  raises := fun _ both => ∃ asked,
    asked ≤ graph.maxRepairIterations ∧ reasoner.Asked provider asked both.2
  budget := fun _ _ => 0

theorem execute_retryCount {node : WorkloadNode}
    (other : node ≠ .repairPolicy) :
    Ends (fun updated _ => updated.retryCount = state.retryCount)
      (fun _ _ => True) (graph.execute node state session) := by
  have quietly : Quiet node →
      Ends (fun updated _ => updated.retryCount = state.retryCount)
        (fun _ _ => True) (graph.execute node state session) :=
    fun quiet => (execute_keepsAccounts quiet).imp
      (fun updated _ kept => (Prod.mk.inj (Prod.mk.inj kept.1).2).1)
      fun _ _ _ => trivial
  cases node with
  | repairPolicy => exact absurd rfl other
  | generateCandidate =>
      refine ends_bind (ends_ofExcept (fun _ _ => ?_) fun _ _ => trivial)
      refine ends_bind (ends_ofExcept (fun _ _ => ?_) fun _ _ => trivial)
      refine ends_bind (ends_ofExcept (fun _ _ => ?_) fun _ _ => trivial)
      exact ends_bind (Session.record_ends fun _ _ => ends_pure rfl)
  | applyCandidate =>
      refine ends_bind (ends_ofExcept (fun _ _ => ?_) fun _ _ => trivial)
      refine ends_bind (Session.make_ends (fun _ _ _ => ?_)
        fun _ _ _ => trivial)
      exact ends_bind (Session.record_ends fun _ _ => ends_pure rfl)
  | _ => exact quietly (by simp [Quiet])

theorem repair_retryCount :
    Ends (fun updated _ => updated.retryCount = state.retryCount + 1 ∨
        routeRepair updated = .restoreLastKnownGood)
      (fun _ _ => True) (graph.execute .repairPolicy state session) := by
  refine ends_bind (ends_ofExcept (fun _ _ => ?_) fun _ _ => trivial)
  refine ends_bind (ends_ofExcept (fun _ _ => ?_) fun _ _ => trivial)
  refine ends_bind (ends_ofExcept (fun _ _ => ?_) fun _ _ => trivial)
  refine ends_bind (ends_ofExcept (fun attempt _ => ?_) fun _ _ => trivial)
  cases attempt with
  | none => exact ends_pure (Or.inr rfl)
  | some repaired =>
      exact ends_bind (Session.record_ends fun _ _ => ends_pure (Or.inl rfl))

theorem unasked_ends {α : Type}
    {body : Raising PyException (Session adapter start) α}
    {returned : α → Session adapter start × π → Prop}
    {raised : PyException → Session adapter start × π → Prop}
    (ends : Ends (fun value session => returned value (session, both.2))
      (fun error session => raised error (session, both.2)) (body both.1)) :
    Ends returned raised (unasked body both) := by
  cases run : body both.1 with
  | mk result reached =>
  have besides : unasked body both = (result, (reached, both.2)) :=
    congrArg (fun ended => (ended.1, (ended.2, both.2))) run
  rw [run] at ends
  rw [besides]
  cases result with
  | error error => exact ends
  | ok value => exact ends

theorem routeVerification_diagnose
    (edge : graph.route .verify state = .ok (some .diagnoseFailure)) :
    state.retryCount < graph.maxRepairIterations := by
  rw [route] at edge
  cases routed : graph.routeVerification state with
  | error error =>
      rw [routed] at edge
      cases edge
  | ok next =>
      rw [routed] at edge
      cases edge
      obtain ⟨result, -, chosen⟩ := bind_eq_ok_iff.mp routed
      split_ifs at chosen with passed denied
      · cases chosen
      · exact denied.2
      · cases chosen

theorem Diagnosed.next {node next : WorkloadNode}
    (diagnosed : Diagnosed graph.maxRepairIterations state asked
      (diagnosisStage node))
    (kept : updated.retryCount = state.retryCount)
    (edge : graph.route node updated = .ok (some next))
    (undiagnosed : node ≠ .diagnoseFailure)
    (unrepaired : node ≠ .repairPolicy) :
    Diagnosed graph.maxRepairIterations updated asked
      (diagnosisStage next) := by
  have target := route_target edge
  have early : Diagnosed graph.maxRepairIterations state asked .before →
      Diagnosed graph.maxRepairIterations updated asked .before := by
    rintro ⟨bounded, fewer⟩
    rw [← kept] at bounded fewer
    exact ⟨bounded, fewer⟩
  cases node with
  | diagnoseFailure => exact absurd rfl undiagnosed
  | repairPolicy => exact absurd rfl unrepaired
  | verify =>
      simp only [targets, List.mem_cons, List.not_mem_nil, or_false] at target
      rcases target with rfl | rfl | rfl
      · exact diagnosed.bounded
      · exact ⟨routeVerification_diagnose edge, (early diagnosed).2⟩
      · exact diagnosed.bounded
  | publishResultEvent => cases target
  | loadServiceContext | inspectRbac | gatherEvidence | generateCandidate
  | validateCandidate | applyCandidate =>
      cases List.mem_singleton.mp target
      exact early diagnosed
  | _ =>
      cases List.mem_singleton.mp target
      exact diagnosed

variable {provider : π}

theorem ask_ends {failure : FailureDescription}
    {returned : ReasoningExplanation → Session adapter start × π → Prop}
    {raised : PyException → Session adapter start × π → Prop}
    (holds : returned (reasoner.explainWithSource failure both.2).1
      (both.1, (reasoner.explainWithSource failure both.2).2)) :
    Ends returned raised (reasoner.ask failure both) :=
  holds

theorem diagnoses_carried {node : WorkloadNode} {reached : π}
    (asks : reasoner.Asked provider asked reached)
    (bounded : asked ≤ graph.maxRepairIterations)
    (next : ∀ next, graph.route node updated = .ok (some next) →
      Diagnosed graph.maxRepairIterations updated asked
        (diagnosisStage next)) :
    (diagnoses reasoner graph adapter start provider).Carried
      (reasoner.compiled graph adapter start) node updated
      (session, reached) := by
  unfold StateGraph.Assertions.Carried
  cases edge : (reasoner.compiled graph adapter start).route node updated with
  | error error => exact ⟨asked, bounded, asks⟩
  | ok target =>
      cases target with
      | none => exact ⟨asked, bounded, asks⟩
      | some arrived => exact ⟨asked, next arrived edge, asks⟩

theorem diagnoses_carries :
    (diagnoses reasoner graph adapter start provider).Carries
      (reasoner.compiled graph adapter start) := by
  rintro node state both ⟨asked, diagnosed, asks⟩
  by_cases diagnosis : node = .diagnoseFailure
  · subst diagnosis
    obtain ⟨below, fewer⟩ := diagnosed
    change Ends _ _ (reasoner.diagnose state both)
    unfold FailureReasoner.diagnose
    refine ends_bind (unasked_ends (ends_ofExcept (fun failure _ => ?_)
      fun _ _ => ⟨asked, fewer.trans below.le, asks⟩))
    refine ends_bind (ask_ends ?_)
    have again := asks.again failure
    refine ends_bind (unasked_ends (Session.record_ends fun _ _ => ?_))
    apply ends_pure
    apply diagnoses_carried again (Nat.succ_le_of_lt (fewer.trans_lt below))
    intro next edge
    cases edge
    exact ⟨below, Nat.succ_le_succ fewer⟩
  by_cases repair : node = .repairPolicy
  · subst repair
    rw [execute_of_ne diagnosis]
    obtain ⟨below, fewer⟩ := diagnosed
    have bounded := fewer.trans (Nat.succ_le_of_lt below)
    refine unasked_ends (repair_retryCount.imp ?_
      fun _ _ _ => ⟨asked, bounded, asks⟩)
    intro updated reached repaired
    apply diagnoses_carried asks bounded
    intro next edge
    cases edge
    rcases repaired with counted | givesUp
    · rw [routeRepair]
      split_ifs with recoverable
      · change updated.retryCount ≤ _ ∧ asked ≤ updated.retryCount
        rw [counted]
        exact ⟨below, fewer⟩
      · exact bounded
    · rw [givesUp]
      exact bounded
  · rw [execute_of_ne diagnosis]
    refine unasked_ends ((execute_retryCount repair).imp ?_
      fun _ _ _ => ⟨asked, diagnosed.bounded, asks⟩)
    intro updated reached kept
    exact diagnoses_carried asks diagnosed.bounded fun next edge =>
      diagnosed.next kept edge diagnosis repair

/-- A run asks its provider once for every repair that it may try. -/
theorem run_asked (reasoner : FailureReasoner π)
    (graph : WorkloadOptimizationGraph) (recursionLimit : Nat)
    (request : WorkloadRequest) (persisted : WorkloadGraphState)
    (session : Session adapter start) (provider : π) :
    ∃ asked ≤ graph.maxRepairIterations, reasoner.Asked provider asked
      (reasoner.run graph recursionLimit request persisted
        (session, provider)).2.2 := by
  let initial := initialState adapter.name request persisted
  have before : (diagnoses reasoner graph adapter start provider).holds
      .loadServiceContext initial (session, provider) :=
    ⟨0, ⟨Nat.zero_le _, le_refl 0⟩, .never⟩
  have atEnd := diagnoses_carries.invoke_atEnd recursionLimit _ _ _ before
  unfold FailureReasoner.run
  cases invoked : (reasoner.compiled graph adapter start).invoke
      recursionLimit .loadServiceContext initial (session, provider) with
  | mk outcome reached =>
      rw [invoked] at atEnd
      cases outcome with
      | finished final => exact atEnd
      | raised error => exact atEnd
      | exhausted =>
          rcases atEnd with ⟨_, _, asked, diagnosed, asks⟩ | ⟨_, final⟩
          · exact ⟨asked, diagnosed.bounded, asks⟩
          · exact final

end Diagnoses

section Gemini

variable {provider : GeminiProvider} {server : HttpServer π}

theorem gemini_asked {network reached : Network π} {asked : Nat}
    (asks : FailureReasoner.Asked ⟨some (provider.asProvider server)⟩ network
      asked reached) :
    ∃ exchanges, reached.exchanges = network.exchanges ++ exchanges ∧
      exchanges.length ≤ maxRequestAttempts * asked ∧
      ∀ exchange ∈ exchanges, ∃ failure,
        exchange.1 = provider.request (FailureReasoner.prompt failure) := by
  induction asks with
  | never =>
      exact ⟨[], (List.append_nil _).symm, le_refl 0, List.forall_mem_nil _⟩
  | @again count middle failure _ induction =>
      obtain ⟨exchanges, earlier, few, prompted⟩ := induction
      obtain ⟨retried, last, exchanged, fewer, -⟩ :=
        provider.complete_exchanged server (FailureReasoner.prompt failure)
          middle
      have later := exchanged.exchanges
      rw [earlier, List.append_assoc] at later
      rw [FailureReasoner.explainWithSource_reached]
      refine ⟨_, later, ?_, ?_⟩
      · simp only [List.length_append, List.length_map, List.length_singleton]
        rw [Nat.mul_succ]
        omega
      · intro exchange member
        rcases List.mem_append.mp member with before | here
        · exact prompted exchange before
        · obtain ⟨answer, -, rfl⟩ := List.mem_map.mp here
          exact ⟨failure, rfl⟩

/-- Under any answers of the server, a run sends a Gemini provider nothing but
prompts about failures, and no more of them than three for every repair that
may be tried. -/
theorem gemini_run_requests (provider : GeminiProvider)
    (server : HttpServer π) (graph : WorkloadOptimizationGraph)
    (recursionLimit : Nat) (request : WorkloadRequest)
    (persisted : WorkloadGraphState) (session : Session adapter start)
    (network : Network π) :
    ∃ exchanges,
      (FailureReasoner.run ⟨some (provider.asProvider server)⟩ graph
        recursionLimit request persisted (session, network)).2.2.exchanges =
          network.exchanges ++ exchanges ∧
      exchanges.length ≤ maxRequestAttempts * graph.maxRepairIterations ∧
      ∀ exchange ∈ exchanges, ∃ failure,
        exchange.1 = provider.request (FailureReasoner.prompt failure) := by
  obtain ⟨asked, bounded, asks⟩ :=
    run_asked ⟨some (provider.asProvider server)⟩ graph recursionLimit request
      persisted session network
  obtain ⟨exchanges, sent, few, prompted⟩ := gemini_asked asks
  exact ⟨exchanges, sent, few.trans (Nat.mul_le_mul_left _ bounded), prompted⟩

end Gemini

end Kuber.Agent

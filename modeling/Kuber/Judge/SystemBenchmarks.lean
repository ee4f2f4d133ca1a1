import Kuber.Event.PairedTasks
import Kuber.Judge.Baseline
import Kuber.System.CountedOnce

/-!
# System benchmarks

The cases of a system benchmark are the services of a namespace, which the
coordinator and its workers optimize over an event bus of their own.  The
results are summed up, and give what the cases give one by one in one process,
in whatever order the workers get on and whatever fails before a result is
published.
-/

namespace Kuber.Judge

open Kuber.Agent Kuber.Event Kuber.Library Kuber.Rules Kuber.System

structure SystemBenchmark where
  identifier : String
  cases : List BenchmarkCase
  workers : Nat := 3

/-- `StaticServiceDiscovery.discover`. -/
def discoverStatic (services : List ServiceContext) (scope : String) :
    List ServiceContext :=
  services.filter fun service => decide (service.namespace = scope)

/-- `evaluate_system_baseline`. -/
def evaluateSystemBaseline (benchmark : SystemBenchmark)
    (elapsed : BenchmarkCase → String) (runtime : String) :
    Except PyException SystemCaseMetrics := do
  let values ← benchmark.cases.mapM fun evaluated =>
    evaluateBaseline evaluated (elapsed evaluated)
  return aggregate (values.map Prod.snd) runtime

/-- The parts of an evaluation that are not its own. -/
structure SystemParts where
  registry : ServiceContext → Except PyException Unit
  indexer : ServiceContext → Except PyException IndexedServiceContext
  contextStore : String → Except PyException (Option IndexedServiceContext)
  graph : WorkloadOptimizationGraph
  recursionLimit : Nat := WorkloadOptimizationGraph.defaultRecursionLimit

namespace SystemBenchmark

variable (benchmark : SystemBenchmark) (parts : SystemParts)

def service (evaluated : BenchmarkCase) : ServiceContext where
  serviceId := evaluated.identifier
  «namespace» := benchmark.identifier
  deploymentName := evaluated.identifier
  serviceAccount := evaluated.initialPolicy.serviceAccount
  verificationProfile := evaluated.identifier

def services : List ServiceContext := benchmark.cases.map benchmark.service

def system : SystemOptimizationGraph where
  discovery := fun scope => .ok (discoverStatic benchmark.services scope)
  registry := parts.registry
  indexer := parts.indexer
  cluster := "judge"

def worker (index : Fin benchmark.workers) : OptimizationWorker Simulators where
  workerId := "judge-worker-" ++ toString (index.val + 1)
  contextStore := parts.contextStore
  environmentFactory := simulatorFactory (casesByIdentifier benchmark.cases)
  graph := parts.graph
  recursionLimit := parts.recursionLimit
  cluster := "judge"

def runId : String := "evaluation-" ++ benchmark.identifier

theorem runId_ne_empty : benchmark.runId ≠ "" := by
  intro empty
  have letters := congrArg String.toList empty
  simp [runId] at letters

/-- `_evaluate_system_kuber` before it runs the system. -/
def start (simulators : Simulators) :
    SystemState (Fin benchmark.workers) Simulators where
  coordinator := ⟨.discoverSystem,
    { runId := benchmark.runId
      «namespace» := benchmark.identifier
      hasRun := benchmark.runId_ne_empty }⟩
  published := {}
  pool := newPool simulators

end SystemBenchmark

/-- Nobody else publishes requests for the workers of an evaluation, and a
simulator is only called by the graph of its worker. -/
def inProcess {ι : Type} : SystemAction ι → Bool
  | .request _ => false
  | .call .. => false
  | _ => true

/-- A step of the coordinator or of a worker of the evaluation. -/
def evaluationStep (benchmark : SystemBenchmark) (parts : SystemParts)
    (run : SystemState (Fin benchmark.workers) Simulators × HandedOut)
    (action : SystemAction (Fin benchmark.workers)) :
    Option (SystemState (Fin benchmark.workers) Simulators × HandedOut) :=
  if inProcess action then
    onceStep (benchmark.system parts) (benchmark.worker parts) run action
  else none

def interrupted : PyException := ⟨.other "KeyboardInterrupt", ""⟩

/-- `evaluate_system_kuber`, in which the coordinator and the workers take
their steps in the given order; an order that does not come to the end of the
run stands for an interruption. -/
def evaluateSystemKuber (benchmark : SystemBenchmark) (parts : SystemParts)
    (loader : Loader) (simulators : Simulators)
    (actions : List (SystemAction (Fin benchmark.workers)))
    (runtime : String) : Except PyException SystemCaseMetrics :=
  match play (evaluationStep benchmark parts)
    (benchmark.start simulators, {}) actions with
  | none => .error interrupted
  | some (final, _) =>
      match final.coordinator.phase, final.coordinator.result with
      | .failed failure, _ => .error failure
      | _, some result => metricsFromEvents loader result.results runtime
      | _, none => .error interrupted

section

variable {benchmark : SystemBenchmark} {parts : SystemParts}

theorem evaluateSystemKuber_ok {loader : Loader} {simulators : Simulators}
    {actions : List (SystemAction (Fin benchmark.workers))} {runtime : String}
    {value : SystemCaseMetrics}
    (evaluated : evaluateSystemKuber benchmark parts loader simulators actions
      runtime = .ok value) :
    ∃ final out result,
      play (evaluationStep benchmark parts) (benchmark.start simulators, {})
        actions = some (final, out) ∧
      final.coordinator.result = some result ∧
      metricsFromEvents loader result.results runtime = .ok value := by
  rw [evaluateSystemKuber] at evaluated
  split at evaluated
  · cases evaluated
  · rename_i final out played
    split at evaluated
    · cases evaluated
    · rename_i result returned _
      exact ⟨final, out, result, played, returned, evaluated⟩
    · cases evaluated

theorem worker_configured (index : Fin benchmark.workers) :
    Configured (casesByIdentifier benchmark.cases) parts.graph
      parts.recursionLimit (benchmark.worker parts index) :=
  ⟨rfl, rfl, rfl⟩

theorem discoverStatic_services :
    discoverStatic benchmark.services benchmark.identifier =
      benchmark.services := by
  apply List.filter_eq_self.mpr
  intro service member
  obtain ⟨evaluated, -, rfl⟩ := List.mem_map.mp member
  exact decide_eq_true rfl

theorem request_paired (graph : SystemOptimizationGraph)
    (state : SystemGraphState) (service : ServiceContext)
    (context : IndexedServiceContext) (stamp : Stamp) :
    Paired state.runId
      (graph.request state service context stamp).event.payload :=
  ⟨service.serviceId, rfl, rfl⟩

end

/-- The services have been discovered, or discovering them has failed. -/
def SystemPhase.begun : SystemPhase → Bool
  | .discoverSystem => false
  | _ => true

/-- What a step of the coordinator does with its scope and its requests. -/
structure Onward (graph : SystemOptimizationGraph) (coordinator : Coordinator)
    (published : Published) (after : Coordinator × Published) : Prop where
  runId : after.1.state.runId = coordinator.state.runId
  «namespace» : after.1.state.namespace = coordinator.state.namespace
  begun : SystemPhase.begun after.1.phase = true
  services : ∀ found, graph.discovery coordinator.state.namespace = .ok found →
    (SystemPhase.begun coordinator.phase = true →
      coordinator.state.services = found) →
    after.1.state.services = found
  requests : ∀ request ∈ after.2.requests, request ∈ published.requests ∨
    ∃ service context stamp,
      request = graph.request coordinator.state service context stamp

section

variable {graph : SystemOptimizationGraph} {tick : SystemTick}
  {coordinator : Coordinator} {published : Published}
  {after : Coordinator × Published}

theorem onward_kept {state next : SystemGraphState}
    {phase later : SystemPhase} {after : Published}
    (begun : SystemPhase.begun phase = true)
    (laterBegun : SystemPhase.begun later = true)
    (runId : next.runId = state.runId)
    (scope : next.namespace = state.namespace)
    (services : next.services = state.services)
    (requests : ∀ request ∈ after.requests, request ∈ published.requests ∨
      ∃ service context stamp,
        request = graph.request state service context stamp) :
    Onward graph ⟨phase, state⟩ published (⟨later, next⟩, after) :=
  ⟨runId, scope, laterBegun, fun _ _ known => services.trans (known begun),
    requests⟩

theorem proceed_onward
    (step : graph.proceed tick coordinator published = some after) :
    Onward graph coordinator published after := by
  obtain ⟨phase, state⟩ := coordinator
  have same : ∀ request ∈ published.requests, request ∈ published.requests ∨
      ∃ service context stamp,
        request = graph.request state service context stamp :=
    fun _ member => Or.inl member
  cases phase with
  | discoverSystem =>
      simp only [SystemOptimizationGraph.proceed] at step
      split at step
      · rename_i failure raised
        cases step
        refine ⟨rfl, rfl, rfl, fun found discovered _ => ?_, same⟩
        rw [raised] at discovered
        cases discovered
      · rename_i services discovered
        cases step
        refine ⟨rfl, rfl, rfl, fun found again _ => ?_, same⟩
        exact Except.ok.inj (discovered.symm.trans again)
  | buildServiceRegistry =>
      simp only [SystemOptimizationGraph.proceed] at step
      split at step
      · cases step
        exact onward_kept rfl rfl rfl rfl rfl same
      · cases step
        exact onward_kept rfl rfl rfl rfl rfl same
  | indexServiceContexts =>
      simp only [SystemOptimizationGraph.proceed] at step
      split at step
      · cases step
        exact onward_kept rfl rfl rfl rfl rfl same
      · cases step
        exact onward_kept rfl rfl rfl rfl rfl same
  | dispatchWorkloadEvents remaining =>
      cases remaining with
      | nil =>
          cases step
          exact onward_kept rfl rfl rfl rfl rfl same
      | cons service remaining =>
          simp only [SystemOptimizationGraph.proceed] at step
          split at step
          · cases step
            exact onward_kept rfl rfl rfl rfl rfl same
          · rename_i context _
            have requested : ∀ request ∈ (published.request (graph.request
                state service context tick.stamp)).requests,
                request ∈ published.requests ∨
                  ∃ service context stamp, request =
                    graph.request state service context stamp := by
              intro request member
              cases List.mem_append.mp member with
              | inl before => exact Or.inl before
              | inr new =>
                  exact Or.inr ⟨_, _, _, List.mem_singleton.mp new⟩
            apply Fate.publish_cases step
            · exact onward_kept rfl rfl rfl rfl rfl requested
            · exact fun _ => onward_kept rfl rfl rfl rfl rfl same
            · exact fun _ => onward_kept rfl rfl rfl rfl rfl requested
  | waitForCompletionEvents results =>
      simp only [SystemOptimizationGraph.proceed] at step
      split at step
      · cases step
      · cases step
        exact onward_kept rfl rfl rfl rfl rfl same
  | aggregateResults =>
      cases step
      exact onward_kept rfl rfl rfl rfl rfl same
  | systemVerify =>
      apply Fate.publish_cases step
      · exact onward_kept rfl rfl rfl rfl rfl same
      · exact fun _ => onward_kept rfl rfl rfl rfl rfl same
      · exact fun _ => onward_kept rfl rfl rfl rfl rfl same
  | systemVerifying requested =>
      simp only [SystemOptimizationGraph.proceed] at step
      split at step
      · cases step
        exact onward_kept rfl rfl rfl rfl rfl same
      · rename_i endToEndPassed _
        apply Fate.publish_cases step
        · cases passes : workloadPassed state && endToEndPassed with
          | false => exact onward_kept rfl rfl rfl rfl rfl same
          | true => exact onward_kept rfl rfl rfl rfl rfl same
        · exact fun _ => onward_kept rfl rfl rfl rfl rfl same
        · exact fun _ => onward_kept rfl rfl rfl rfl rfl same
  | systemReport =>
      simp only [SystemOptimizationGraph.proceed] at step
      split at step
      · cases step
        exact onward_kept rfl rfl rfl rfl rfl same
      · cases step
        exact onward_kept rfl rfl rfl rfl rfl same
  | systemDiagnosis =>
      cases step
      exact onward_kept rfl rfl rfl rfl rfl same
  | ended => cases step
  | failed failure => cases step

end

section

variable {benchmark : SystemBenchmark} {parts : SystemParts}

/-- A result of an evaluation: what its case gives by itself. -/
def Reported (benchmark : SystemBenchmark) (parts : SystemParts)
    (event : EventEnvelope) : Prop :=
  Computed (casesByIdentifier benchmark.cases) parts.graph
      parts.recursionLimit event.payload ∧
    Paired benchmark.runId event.payload

/-- What holds after every step of an evaluation. -/
structure Evaluating (benchmark : SystemBenchmark) (parts : SystemParts)
    (run : SystemState (Fin benchmark.workers) Simulators × HandedOut) :
    Prop where
  once : OnceSound run
  simulated : PoolSimulated (casesByIdentifier benchmark.cases) parts.graph
    parts.recursionLimit run.1.pool
  paired : PoolPaired benchmark.runId run.1.pool
  requests : ∀ request ∈ run.1.published.requests,
    Paired benchmark.runId request.event.payload
  runId : run.1.coordinator.state.runId = benchmark.runId
  «namespace» : run.1.coordinator.state.namespace = benchmark.identifier
  services : SystemPhase.begun run.1.coordinator.phase = true →
    run.1.coordinator.state.services = benchmark.services
  knows : Knows (Reported benchmark parts) run.1.coordinator

theorem start_fresh (simulators : Simulators) :
    (benchmark.start simulators).Fresh := by
  refine ⟨⟨rfl, ⟨fun _ => rfl, rfl⟩, ?_, ?_, ?_, ?_⟩, rfl, rfl⟩
  · intro request member
    cases member
  · intro message member
    cases member
  · intro taskId payload present
    cases present
  · intro result member
    cases member

theorem newPool_simulated {ι : Type} {cases : OrderedDict String BenchmarkCase}
    {graph : WorkloadOptimizationGraph} {recursionLimit : Nat}
    (simulators : Simulators) : PoolSimulated cases graph recursionLimit
      (newPool simulators : PoolState ι Simulators) := by
  refine ⟨⟨?_, ?_⟩, fun _ => none, [], ?_, ?_, fun _ => rfl⟩
  · intro taskId payload present
    cases present
  · intro result member
    cases member
  · exact Exclusive.initial fun _ => rfl
  · intro number member
    cases member

theorem start_evaluating (simulators : Simulators) :
    Evaluating benchmark parts (benchmark.start simulators, {}) where
  once := (start_fresh simulators).onceSound
  simulated := newPool_simulated simulators
  paired := by
    refine ⟨⟨?_, ?_, ?_⟩, fun _ => trivial⟩
    · intro message member
      cases member
    · intro taskId payload present
      cases present
    · intro result member
      cases member
  requests := by
    intro request member
    cases member
  runId := rfl
  «namespace» := rfl
  services := by
    intro begun
    cases begun
  knows := by
    constructor
    · intro results waits
      cases waits
    · intro tallied
      cases tallied

theorem Evaluating.act
    {state next : SystemState (Fin benchmark.workers) Simulators}
    {out later : HandedOut} {index : Fin benchmark.workers}
    {action : OptimizationWorker.Action}
    (evaluating : Evaluating benchmark parts (state, out))
    (once : OnceSound (next, later))
    (claims : ∀ message, action = .claim message →
      Paired benchmark.runId message.event.payload)
    (step : state.act (benchmark.worker parts) (.act index action) =
      some next) : Evaluating benchmark parts (next, later) := by
  obtain ⟨pool, acted, rfl⟩ := Option.map_eq_some_iff.mp step
  exact ⟨once, poolStep_simulated worker_configured evaluating.simulated acted,
    poolStep_paired evaluating.paired claims acted, evaluating.requests,
    evaluating.runId, evaluating.namespace, evaluating.services,
    evaluating.knows⟩

theorem evaluationStep_evaluating
    (run : SystemState (Fin benchmark.workers) Simulators × HandedOut)
    (action : SystemAction (Fin benchmark.workers))
    (next : SystemState (Fin benchmark.workers) Simulators × HandedOut)
    (evaluating : Evaluating benchmark parts run)
    (step : evaluationStep benchmark parts run action = some next) :
    Evaluating benchmark parts next := by
  obtain ⟨state, out⟩ := run
  simp only [evaluationStep] at step
  split at step
  · rename_i within
    have once := onceStep_sound _ _ _ evaluating.once step
    simp only [onceStep] at step
    split at step
    · obtain ⟨after, stepped, rfl⟩ := Option.map_eq_some_iff.mp step
      cases action with
      | request request => cases within
      | call worker call => cases within
      | proceed tick =>
          obtain ⟨⟨coordinator, published⟩, proceeded, rfl⟩ :=
            Option.map_eq_some_iff.mp stepped
          have onward := proceed_onward proceeded
          refine ⟨once, evaluating.simulated, evaluating.paired, ?_,
            onward.runId.trans evaluating.runId,
            onward.namespace.trans evaluating.namespace, fun _ => ?_,
            evaluating.knows.proceed (proceed_tallying proceeded)⟩
          · intro request member
            rcases onward.requests request member with
              before | ⟨service, context, stamp, rfl⟩
            · exact evaluating.requests request before
            · rw [← evaluating.runId]
              exact request_paired _ _ _ _ _
          · apply onward.services _ _ evaluating.services
            rw [evaluating.namespace]
            exact congrArg Except.ok discoverStatic_services
      | collect position fate =>
          simp only [systemStep] at stepped
          split at stepped
          · cases stepped
          · rename_i result present
            obtain ⟨coordinator, collected, rfl⟩ :=
              Option.map_eq_some_iff.mp stepped
            have member := List.mem_of_getElem? present
            have known : Reported benchmark parts result.event :=
              ⟨evaluating.simulated.shared.results result member,
                evaluating.paired.shared.results result member⟩
            obtain ⟨results, waits, -, kept⟩ := collect_cases collected
            have same : coordinator.state = state.coordinator.state := by
              rcases kept with ⟨failure, rfl⟩ | rfl | rfl <;> rfl
            have services := evaluating.services (waits ▸ rfl)
            exact ⟨once, evaluating.simulated, evaluating.paired,
              evaluating.requests, same ▸ evaluating.runId,
              same ▸ evaluating.namespace, fun _ => same ▸ services,
              evaluating.knows.collect known collected⟩
      | timeOut =>
          obtain ⟨coordinator, timedOut, rfl⟩ :=
            Option.map_eq_some_iff.mp stepped
          obtain ⟨⟨results, waits⟩, failure, rfl⟩ := timeOut_fails timedOut
          have services := evaluating.services (waits ▸ rfl)
          refine ⟨once, evaluating.simulated, evaluating.paired,
            evaluating.requests, evaluating.runId, evaluating.namespace,
            fun _ => services, ?_⟩
          constructor
          · intro results waits
            cases waits
          · intro tallied
            cases tallied
      | deliver worker record deliveryCount =>
          simp only [systemStep] at stepped
          split at stepped
          · cases stepped
          · rename_i request present
            apply evaluating.act once _ stepped
            intro message claims
            cases claims
            exact evaluating.requests request (List.mem_of_getElem? present)
      | redeliver worker index =>
          simp only [systemStep] at stepped
          split at stepped
          · cases stepped
          · rename_i message present
            apply evaluating.act once _ stepped
            intro claimed claims
            cases claims
            exact evaluating.paired.shared.retries message
              (List.mem_of_getElem? present)
      | tick worker tick =>
          apply evaluating.act once _ stepped
          intro message claims
          cases claims
      | crash worker =>
          apply evaluating.act once _ stepped
          intro message claims
          cases claims
    · cases step
  · cases step

end

section

variable {benchmark : SystemBenchmark} {parts : SystemParts}
  {events : List EventEnvelope}

theorem workloads_of_paired {runId : String}
    (paired : ∀ event ∈ events, Paired runId event.payload) :
    ∃ workloads : List String,
      events.map workloadOf = workloads.map .string ∧
        (events.map fun event => event.payload.field "task_id") =
          workloads.map fun workloadId =>
            .string (runId ++ ":" ++ workloadId) := by
  induction events with
  | nil => exact ⟨[], rfl, rfl⟩
  | cons event events induction =>
      obtain ⟨workloads, about, tasks⟩ := induction fun other later =>
        paired other (List.mem_cons_of_mem event later)
      obtain ⟨workloadId, isTask, isWorkload⟩ :=
        paired event List.mem_cons_self
      refine ⟨workloadId :: workloads, ?_, ?_⟩
      · rw [List.map_cons, List.map_cons, about, workloadOf, Document.field,
          isWorkload]
        rfl
      · rw [List.map_cons, List.map_cons, tasks, Document.field, isTask]
        rfl

theorem workloads_once
    (paired : ∀ event ∈ events, Paired benchmark.runId event.payload)
    (tasks : (events.map fun event => event.payload.field "task_id").Perm
      (benchmark.services.map fun service =>
        .string (taskIdOf benchmark.runId service))) :
    (events.map workloadOf).Perm (benchmark.cases.map fun evaluated =>
      .string evaluated.identifier) := by
  obtain ⟨workloads, about, named⟩ := workloads_of_paired paired
  have injective : Function.Injective fun workloadId : String =>
      Json.string (benchmark.runId ++ ":" ++ workloadId) := by
    intro left right same
    exact (String.append_right_inj _).mp (Json.string.inj same)
  have services : (benchmark.services.map fun service =>
      Json.string (taskIdOf benchmark.runId service)) =
        (benchmark.cases.map BenchmarkCase.identifier).map
          fun workloadId =>
            .string (benchmark.runId ++ ":" ++ workloadId) := by
    rw [SystemBenchmark.services, List.map_map, List.map_map]
    rfl
  rw [named, services, List.map_perm_map_iff injective] at tasks
  rw [about]
  have workloadsOnce := tasks.map Json.string
  rw [List.map_map] at workloadsOnce
  exact workloadsOnce

theorem aggregate_map_runtime {α : Type} (items : List α)
    (value : α → SystemCaseMetrics) (elapsed : α → String) (runtime : String) :
    aggregate (items.map fun item =>
      { value item with runtimeSeconds := elapsed item }) runtime =
        aggregate (items.map value) runtime := by
  simp only [aggregate, List.map_map, Function.comp_def, List.all_map]

theorem reported_sum_up {loader : Loader}
    {value : BenchmarkCase → SystemCaseMetrics}
    (once : (events.map workloadOf).Perm (benchmark.cases.map fun evaluated =>
      .string evaluated.identifier))
    (reports : ∀ event ∈ events, ∀ evaluated ∈ benchmark.cases,
      workloadOf event = .string evaluated.identifier →
        Reports event.payload (value evaluated)) (runtime : String) :
    metricsFromEvents loader events runtime =
      .ok (aggregate (benchmark.cases.map value) runtime) := by
  obtain ⟨ordered, about, reordered⟩ := cases_as_events once
  have known := (List.forall₂_and_left events ordered).mpr
    ⟨fun _ member => member, about⟩
  have members := (List.forall₂_and_left ordered events).mpr
    ⟨fun _ member => reordered.mem_iff.mp member, known.flip⟩
  have reported : List.Forall₂ (fun event value => Reports event.payload value)
      events (ordered.map value) := by
    apply List.forall₂_map_right_iff.mpr
    apply members.flip.imp
    intro event evaluated both
    exact reports event both.2.1 evaluated both.1 both.2.2
  rw [metricsFromEvents_eq runtime reported,
    aggregate_perm (reordered.map value)]

variable (checkpoint : BenchmarkCase → WorkloadGraphState)
  (elapsed baselineElapsed : BenchmarkCase → String)

/-- There is a value for every case, which all results for it report. -/
theorem evaluated_cases
    (distinct : (benchmark.cases.map BenchmarkCase.identifier).Nodup)
    (reported : ∀ event ∈ events, Reported benchmark parts event)
    (once : (events.map workloadOf).Perm (benchmark.cases.map fun evaluated =>
      .string evaluated.identifier)) :
    ∃ value : BenchmarkCase → Policy × SystemCaseMetrics,
      (∀ evaluated ∈ benchmark.cases,
        evaluateKuber parts.graph parts.recursionLimit (checkpoint evaluated)
          evaluated (elapsed evaluated) = .ok (value evaluated)) ∧
      ∀ event ∈ events, ∀ evaluated ∈ benchmark.cases,
        workloadOf event = .string evaluated.identifier →
          Reports event.payload (value evaluated).2 := by
  have each : ∀ evaluated, ∃ value, evaluated ∈ benchmark.cases →
      evaluateKuber parts.graph parts.recursionLimit (checkpoint evaluated)
          evaluated (elapsed evaluated) = .ok value ∧
        ∀ event ∈ events, workloadOf event = .string evaluated.identifier →
          Reports event.payload value.2 := by
    intro evaluated
    by_cases member : evaluated ∈ benchmark.cases
    · have among : Json.string evaluated.identifier ∈
          events.map workloadOf :=
        once.mem_iff.mpr (List.mem_map.mpr ⟨evaluated, member, rfl⟩)
      obtain ⟨event, isEvent, about⟩ := List.mem_map.mp among
      obtain ⟨value, returned, -⟩ := evaluateKuber_reported distinct member
        (reported event isEvent).1 about (checkpoint evaluated)
        (elapsed evaluated)
      refine ⟨value, fun _ => ⟨returned, ?_⟩⟩
      intro other isOther sameCase
      obtain ⟨again, returnedAgain, reports⟩ := evaluateKuber_reported
        distinct member (reported other isOther).1 sameCase
        (checkpoint evaluated) (elapsed evaluated)
      rw [Except.ok.inj (returned.symm.trans returnedAgain)]
      exact reports
    · exact ⟨(evaluated.initialPolicy,
        metrics evaluated.initialPolicy evaluated.initialPolicy false ""),
        fun among => absurd among member⟩
  choose value values using each
  exact ⟨value, fun evaluated member => (values evaluated member).1,
    fun event isEvent evaluated member => (values evaluated member).2 event
      isEvent⟩

/-- The baseline has a value for every case that Kuber has one for, and the
same figures where it passes. -/
theorem baseline_cases
    {value : BenchmarkCase → Policy × SystemCaseMetrics}
    (values : ∀ evaluated ∈ benchmark.cases,
      evaluateKuber parts.graph parts.recursionLimit (checkpoint evaluated)
        evaluated (elapsed evaluated) = .ok (value evaluated)) :
    ∀ evaluated ∈ benchmark.cases, ∃ baseline,
      evaluateBaseline evaluated (baselineElapsed evaluated) = .ok baseline ∧
        (baseline.2.functionalSuccess = true → (value evaluated).2 =
          { baseline.2 with runtimeSeconds := elapsed evaluated }) := by
  intro evaluated member
  obtain ⟨candidate, first, decides⟩ :=
    evaluateKuber_decides (values evaluated member)
  have proposed : evaluateBaseline evaluated (baselineElapsed evaluated) =
      .ok (candidate, metrics evaluated.initialPolicy candidate
        (simulate evaluated candidate).passed (baselineElapsed evaluated)) := by
    rw [evaluateBaseline_eq, first]
    rfl
  refine ⟨_, proposed, fun passes => ?_⟩
  rw [Decides.eq_of_success proposed decides passes]

/-- What the baseline passes as a whole has the same figures. -/
theorem system_baseline
    {value : BenchmarkCase → Policy × SystemCaseMetrics}
    (values : ∀ evaluated ∈ benchmark.cases,
      evaluateKuber parts.graph parts.recursionLimit (checkpoint evaluated)
        evaluated (elapsed evaluated) = .ok (value evaluated))
    (runtime otherRuntime : String) :
    ∃ baseline,
      evaluateSystemBaseline benchmark baselineElapsed otherRuntime =
        .ok baseline ∧
      (baseline.functionalSuccess = true →
        aggregate (benchmark.cases.map fun evaluated => (value evaluated).2)
          runtime = { baseline with runtimeSeconds := runtime }) := by
  have each : ∀ evaluated, ∃ baseline, evaluated ∈ benchmark.cases →
      evaluateBaseline evaluated (baselineElapsed evaluated) = .ok baseline ∧
        (baseline.2.functionalSuccess = true → (value evaluated).2 =
          { baseline.2 with runtimeSeconds := elapsed evaluated }) := by
    intro evaluated
    by_cases member : evaluated ∈ benchmark.cases
    · obtain ⟨baseline, both⟩ := baseline_cases checkpoint elapsed
        baselineElapsed values evaluated member
      exact ⟨baseline, fun _ => both⟩
    · exact ⟨value evaluated, fun among => absurd among member⟩
  choose baseline baselines using each
  have returned : benchmark.cases.mapM (fun evaluated =>
      evaluateBaseline evaluated (baselineElapsed evaluated)) =
        .ok (benchmark.cases.map baseline) := by
    rw [mapM_eq_ok_iff, List.forall₂_map_right_iff, List.forall₂_same]
    exact fun evaluated member => (baselines evaluated member).1
  refine ⟨_, by rw [evaluateSystemBaseline, returned]; rfl, fun passes => ?_⟩
  have success : ∀ evaluated ∈ benchmark.cases,
      (baseline evaluated).2.functionalSuccess = true := by
    intro evaluated member
    have all := List.all_eq_true.mp passes
    exact all _ (List.mem_map_of_mem (List.mem_map_of_mem member))
  have same : (benchmark.cases.map fun evaluated => (value evaluated).2) =
      benchmark.cases.map fun evaluated =>
        { (baseline evaluated).2 with runtimeSeconds := elapsed evaluated } :=
    List.map_congr_left fun evaluated member =>
      (baselines evaluated member).2 (success evaluated member)
  rw [same, aggregate_map_runtime, List.map_map]
  rfl

end

/-- What a returning run over events sums up to, case by case. -/
theorem returned_sums_up {benchmark : SystemBenchmark}
    (distinct : (benchmark.cases.map BenchmarkCase.identifier).Nodup)
    {parts : SystemParts} {simulators : Simulators}
    {actions : List (SystemAction (Fin benchmark.workers))}
    {final : SystemState (Fin benchmark.workers) Simulators} {out : HandedOut}
    (played : play (evaluationStep benchmark parts)
      (benchmark.start simulators, {}) actions = some (final, out))
    {result : SystemRunResult}
    (returned : final.coordinator.result = some result) (loader : Loader)
    (checkpoint : BenchmarkCase → WorkloadGraphState)
    (elapsed : BenchmarkCase → String) (runtime : String) :
    ∃ value : BenchmarkCase → Policy × SystemCaseMetrics,
      (∀ evaluated ∈ benchmark.cases,
        evaluateKuber parts.graph parts.recursionLimit (checkpoint evaluated)
          evaluated (elapsed evaluated) = .ok (value evaluated)) ∧
      metricsFromEvents loader result.results runtime =
        .ok (aggregate (benchmark.cases.map fun evaluated =>
          (value evaluated).2) runtime) := by
  have evaluating := @invariant_play _ _ (evaluationStep benchmark parts)
    (fun _ _ => True) (Evaluating benchmark parts)
    (fun run action next before _ step =>
      evaluationStep_evaluating run action next before step)
    _ _ _ (start_evaluating simulators)
    (meets_of_forall (fun _ _ _ => trivial) _) played
  obtain ⟨⟨phase, state⟩, published, pool⟩ := final
  cases phase with
  | ended =>
      cases returned
      have runId : state.runId = benchmark.runId := evaluating.runId
      have services : state.services = benchmark.services :=
        evaluating.services rfl
      have reported : ∀ event ∈ state.resultEvents,
          Reported benchmark parts event := evaluating.knows.tallied rfl
      obtain ⟨results, requested, counted, all, events⟩ :=
        evaluating.once.tallies.tallied rfl
      have tasks := counted.tasks requested all
      rw [services, runId] at tasks
      have once := workloads_once (fun event member =>
        (reported event member).2) (by
          rw [events, List.map_map]
          exact tasks)
      obtain ⟨value, values, reports⟩ :=
        evaluated_cases checkpoint elapsed distinct reported once
      exact ⟨value, values, reported_sum_up once reports runtime⟩
  | _ => cases returned

theorem system_figures {benchmark : SystemBenchmark}
    (distinct : (benchmark.cases.map BenchmarkCase.identifier).Nodup)
    {parts : SystemParts} {loader : Loader} {simulators : Simulators}
    {actions : List (SystemAction (Fin benchmark.workers))} {runtime : String}
    {value : SystemCaseMetrics}
    (evaluated : evaluateSystemKuber benchmark parts loader simulators actions
      runtime = .ok value)
    (baselineElapsed : BenchmarkCase → String) (otherRuntime : String) :
    (value.functionalSuccess = false → value.validatedRiskReduction = 0) ∧
      ∃ baseline,
        evaluateSystemBaseline benchmark baselineElapsed otherRuntime =
          .ok baseline ∧
        (baseline.functionalSuccess = true →
          value = { baseline with runtimeSeconds := runtime }) := by
  obtain ⟨final, out, result, played, returned, sums⟩ :=
    evaluateSystemKuber_ok evaluated
  obtain ⟨cases, values, same⟩ := returned_sums_up distinct played returned
    loader (fun _ => emptyThread) (fun _ => "") runtime
  cases sums.symm.trans same
  constructor
  · exact fun fails => if_neg (Bool.eq_false_iff.mp fails)
  · exact system_baseline (fun _ => emptyThread) (fun _ => "")
      baselineElapsed values runtime otherRuntime

/-- An evaluation over events that returns gives what the evaluations of its
cases sum up to, whatever the workers and the coordinator do in which order and
whatever fails before a result is published.  The baseline then has a value,
and where it passes, the evaluation gives the same figures. -/
theorem system_evaluation {benchmark : SystemBenchmark}
    (distinct : (benchmark.cases.map BenchmarkCase.identifier).Nodup)
    {parts : SystemParts} {simulators : Simulators}
    {actions : List (SystemAction (Fin benchmark.workers))}
    {final : SystemState (Fin benchmark.workers) Simulators} {out : HandedOut}
    (played : play (evaluationStep benchmark parts)
      (benchmark.start simulators, {}) actions = some (final, out))
    {result : SystemRunResult}
    (returned : final.coordinator.result = some result) (loader : Loader)
    (checkpoint : BenchmarkCase → WorkloadGraphState)
    (elapsed baselineElapsed : BenchmarkCase → String)
    (runtime otherRuntime : String) :
    (∃ evaluated,
      benchmark.cases.mapM (fun evaluated => evaluateKuber parts.graph
        parts.recursionLimit (checkpoint evaluated) evaluated
          (elapsed evaluated)) = .ok evaluated ∧
      metricsFromEvents loader result.results runtime =
        .ok { aggregate (evaluated.map Prod.snd) otherRuntime with
          runtimeSeconds := runtime }) ∧
    ∃ baseline,
      evaluateSystemBaseline benchmark baselineElapsed otherRuntime =
        .ok baseline ∧
      (baseline.functionalSuccess = true →
        metricsFromEvents loader result.results runtime =
          .ok { baseline with runtimeSeconds := runtime }) := by
  obtain ⟨value, values, sums⟩ := returned_sums_up distinct played returned
    loader checkpoint elapsed runtime
  constructor
  · refine ⟨benchmark.cases.map value, ?_, ?_⟩
    · rw [mapM_eq_ok_iff, List.forall₂_map_right_iff, List.forall₂_same]
      exact values
    · rw [List.map_map]
      exact sums
  · obtain ⟨baseline, evaluated, figures⟩ := system_baseline checkpoint
      elapsed baselineElapsed values runtime otherRuntime
    exact ⟨baseline, evaluated, fun passes =>
      sums.trans (congrArg Except.ok (figures passes))⟩

namespace TwoCases

def benchmark : SystemBenchmark := ⟨"shop", cases, 2⟩

/-- Every context is that of the service it names. -/
def parts : SystemParts where
  registry := fun _ => .ok ()
  indexer := fun service => .ok ⟨service.serviceId, service.serviceId⟩
  contextStore := fun contextRef => .ok (some ⟨contextRef, contextRef⟩)
  graph := plainGraph
  recursionLimit := 40

/-- The workers take the two cases at the same time, and their results are
collected in the other order. -/
def run : List (SystemAction (Fin 2)) :=
  proceeds 6 ++ [.deliver 0 1 1, .deliver 1 0 1] ++
    (List.replicate 9 [.tick 0 {}, .tick 1 {}]).flatten ++
    [.collect 1 .returns, .collect 0 .returns] ++ proceeds 5

end TwoCases

open TwoCases in
/-- The evaluation of two cases over events returns, and the baseline has a
value as well. -/
theorem system_evaluation_twoCases :
    ∃ final out result evaluated baseline,
      play (evaluationStep benchmark parts) (benchmark.start simulators, {})
        run = some (final, out) ∧
      final.coordinator.result = some result ∧
      cases.mapM (fun evaluated => evaluateKuber plainGraph 40 emptyThread
        evaluated "0.1") = .ok evaluated ∧
      metricsFromEvents requestLoader result.results "0.3" =
        .ok { aggregate (evaluated.map Prod.snd) "0.2" with
          runtimeSeconds := "0.3" } ∧
      evaluateSystemBaseline benchmark (fun _ => "0.1") "0.2" =
        .ok baseline := by
  obtain ⟨final, out, result, played, returned⟩ : ∃ final out result,
      play (evaluationStep benchmark parts) (benchmark.start simulators, {})
        run = some (final, out) ∧
      final.coordinator.result = some result := ⟨_, _, _, rfl, rfl⟩
  obtain ⟨⟨evaluated, values, sums⟩, baseline, hasBaseline, -⟩ :=
    system_evaluation (by decide) played returned requestLoader
      (fun _ => emptyThread) (fun _ => "0.1") (fun _ => "0.1") "0.3" "0.2"
  exact ⟨final, out, result, evaluated, baseline, played, returned, values,
    sums, hasBaseline⟩

end Kuber.Judge

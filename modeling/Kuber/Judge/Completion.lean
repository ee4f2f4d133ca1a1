import Kuber.Event.CalmSteps
import Kuber.Judge.SystemBenchmarks
import Kuber.System.Termination

/-!
# Evaluations that return

An evaluation in which no call fails ends after a bounded number of steps, in
whatever order the coordinator and its workers get on, and wherever it has got
it can be continued until it returns: nobody waits for a lock, a request or a
result for ever.
-/

namespace Kuber.Judge

open Kuber.Agent Kuber.Event Kuber.Library Kuber.Rules Kuber.System
open OptimizationWorker

/-- The workers find this context, and it is that of the service. -/
structure SystemParts.Finds (parts : SystemParts) (serviceId : String)
    (context : IndexedServiceContext) : Prop where
  owner : context.serviceId = serviceId
  named : context.contextRef ≠ ""
  stored : parts.contextStore context.contextRef = .ok (some context)

/-- What an evaluation needs to return: there is a worker, the services are
registered and indexed, the names make up lock keys, and the cases return by
themselves. -/
structure SystemBenchmark.Evaluable (benchmark : SystemBenchmark)
    (parts : SystemParts) : Prop where
  workers : 0 < benchmark.workers
  registered : ∀ evaluated ∈ benchmark.cases,
    parts.registry (benchmark.service evaluated) = .ok ()
  indexed : ∀ evaluated ∈ benchmark.cases, ∃ context,
    parts.indexer (benchmark.service evaluated) = .ok context ∧
      parts.Finds evaluated.identifier context
  keyed : ∀ evaluated ∈ benchmark.cases, ∃ key,
    workloadLockKey "judge" benchmark.identifier evaluated.identifier =
      .ok key
  returns : ∀ evaluated ∈ benchmark.cases, ∃ checkpoint elapsed value,
    evaluateKuber parts.graph parts.recursionLimit checkpoint evaluated
      elapsed = .ok value

/-- The steps of an evaluation in which no call fails. -/
def undisturbed {ι : Type} : SystemAction ι → Bool
  | .proceed tick => !tick.fate.raised
  | .collect _ fate => !fate.raised
  | .deliver .. => true
  | .tick _ tick => !tick.fate.raised
  | _ => false

theorem returns_of_not_raised {fate : Fate} (calm : (!fate.raised) = true) :
    fate = .returns := by
  cases fate with
  | returns => rfl
  | raises failure landed => cases calm

section

variable (benchmark : SystemBenchmark) (parts : SystemParts)

/-- The event requests one of the cases. -/
def AsksFor (event : EventEnvelope) (evaluated : BenchmarkCase) : Prop :=
  evaluated ∈ benchmark.cases ∧ ∃ state context stamp,
    parts.Finds evaluated.identifier context ∧
      event = requestEvent state (benchmark.service evaluated) context stamp ∧
      event.runId = benchmark.runId

def Asks (event : EventEnvelope) : Prop :=
  ∃ evaluated, AsksFor benchmark parts event evaluated

/-- What is known before each phase of a worker that nothing fails. -/
def Smooth {σ : Type} : Phase σ → Prop
  | .validating message => Asks benchmark parts message.event
  | .lookingUp task => Asks benchmark parts task.message.event ∧
      ∃ key, workloadLockKey "judge" task.namespace task.workloadId = .ok key
  | .locking task _ => Asks benchmark parts task.message.event
  | .creating task _ => Asks benchmark parts task.message.event
  | .running task _ _ => Asks benchmark parts task.message.event
  | phase => phase.untroubled = true

end

section

variable {benchmark : SystemBenchmark} {parts : SystemParts}

theorem Smooth.untroubled {σ : Type} {phase : Phase σ}
    (smooth : Smooth benchmark parts phase) : phase.untroubled = true := by
  cases phase with
  | validating message => rfl
  | lookingUp task => rfl
  | locking task key => rfl
  | creating task key => rfl
  | running task key environment => rfl
  | _ => exact smooth

theorem workloadLockKey_nonempty {cluster scope workloadId key : String}
    (keyed : workloadLockKey cluster scope workloadId = .ok key) :
    scope ≠ "" ∧ workloadId ≠ "" := by
  rw [workloadLockKey] at keyed
  split at keyed
  · cases keyed
  · rename_i plain
    constructor
    · rintro rfl
      exact plain (by simp)
    · rintro rfl
      exact plain (by simp)

theorem validate_asks (evaluable : benchmark.Evaluable parts)
    (index : Fin benchmark.workers) {message : ConsumedEvent}
    (asks : Asks benchmark parts message.event) :
    ∃ task, (benchmark.worker parts index).validate message = .ok task ∧
      task.message = message ∧
      ∃ key, workloadLockKey "judge" task.namespace task.workloadId =
        .ok key := by
  obtain ⟨evaluated, member, state, context, stamp, finds, same, -⟩ := asks
  obtain ⟨key, keyed⟩ := evaluable.keyed evaluated member
  obtain ⟨scope, workload⟩ := workloadLockKey_nonempty keyed
  have named := joined_ne_empty state.runId evaluated.identifier
  have identifiers : checkIdentifiers
      [taskIdOf state.runId (benchmark.service evaluated),
        evaluated.identifier, benchmark.identifier, context.contextRef] =
        .ok () := by
    apply if_neg
    simp only [List.mem_cons, List.not_mem_nil, or_false, not_or]
    exact ⟨named.symm, workload.symm, scope.symm, finds.named.symm⟩
  have typed : checkEventType message.event = .ok () := by
    rw [same]
    rfl
  have owner : checkOwner context evaluated.identifier = .ok () :=
    if_neg (not_not_intro finds.owner)
  refine ⟨⟨message, taskIdOf state.runId (benchmark.service evaluated),
    evaluated.identifier, benchmark.identifier, context⟩, ?_, rfl, key, keyed⟩
  simp only [OptimizationWorker.validate, bind_eq_ok_iff, pure_eq_ok_iff, same]
  rw [same] at typed
  exact ⟨(), typed, _, rfl, _, rfl, _, rfl, _, rfl, (), identifiers,
    some context, finds.stored, context, rfl, (), owner, rfl⟩

theorem asks_workload {event : EventEnvelope} {evaluated : BenchmarkCase}
    (asks : AsksFor benchmark parts event evaluated) :
    payloadText event.payload "workload_id" = .ok evaluated.identifier := by
  obtain ⟨-, state, context, stamp, -, same, -⟩ := asks
  rw [same]
  rfl

theorem asks_repository {event : EventEnvelope}
    (asks : Asks benchmark parts event) :
    ∃ repositoryRef, payloadText event.payload "repository_ref" =
      .ok repositoryRef := by
  obtain ⟨evaluated, -, state, context, stamp, -, same, -⟩ := asks
  rw [same]
  exact ⟨_, rfl⟩

theorem casesByIdentifier_finds {evaluated : BenchmarkCase}
    (member : evaluated ∈ benchmark.cases) :
    ∃ found, (casesByIdentifier benchmark.cases).get? evaluated.identifier =
      some found :=
  OrderedDict.get?_ofList_of_mem
    (List.mem_map.mpr ⟨evaluated, member, rfl⟩)

theorem simulatorFactory_asks {event : EventEnvelope}
    (asks : Asks benchmark parts event) (context : IndexedServiceContext)
    (simulators : Simulators) : ∃ environment after,
    simulatorFactory (casesByIdentifier benchmark.cases) event context
      simulators = (.ok environment, after) := by
  obtain ⟨evaluated, asked⟩ := asks
  obtain ⟨found, present⟩ := casesByIdentifier_finds asked.1
  simp only [simulatorFactory, Raising.bind_run, Raising.ofExcept_run,
    Raising.get_run, Raising.modify_run, Raising.pure_run,
    asks_workload asked, caseOf, present]
  exact ⟨_, _, rfl⟩

/-- A case that returns by itself returns on a new simulator. -/
theorem simulatorAt_returns (evaluable : benchmark.Evaluable parts)
    {identifier : String} {found : BenchmarkCase} {number : Nat}
    {simulators : Simulators}
    (present : (casesByIdentifier benchmark.cases).get? identifier =
      some found)
    (unused : simulators.policies number = found.initialPolicy)
    (request : WorkloadRequest) (persisted : WorkloadGraphState) :
    ∃ execution session, runFrom parts.graph parts.recursionLimit request
      persisted (simulatorAt found number) simulators =
        (.ok execution, session) := by
  obtain ⟨other, among, same⟩ :=
    List.mem_map.mp (OrderedDict.mem_of_get?_ofList present)
  obtain ⟨-, rfl⟩ := Prod.mk.inj same
  obtain ⟨checkpoint, elapsed, value, returned⟩ := evaluable.returns _ among
  obtain ⟨alone, ran, -⟩ := bind_eq_ok_iff.mp returned
  have alike := @runFrom_onPart _ _ (Simulators.policyOf number)
    (simulatorEnvironment other) parts.graph parts.recursionLimit request
    { runId := "evaluation-" ++ other.identifier } persisted checkpoint
    simulators
  have begins : (Simulators.policyOf number).get simulators =
      other.initialPolicy := unused
  rw [begins] at alike
  change Raising.EndAlike _ _ (runFrom parts.graph parts.recursionLimit request
    persisted (simulatorAt other number) simulators) _ at alike
  cases run : runFrom parts.graph parts.recursionLimit request persisted
      (simulatorAt other number) simulators with
  | mk result session =>
  cases result with
  | ok execution => exact ⟨execution, session, rfl⟩
  | error failure =>
      rw [run] at alike
      cases byItself : runFrom parts.graph parts.recursionLimit
          { runId := "evaluation-" ++ other.identifier } checkpoint
          (simulatorEnvironment other) other.initialPolicy with
      | mk outcome reached =>
      rw [byItself] at alike ran
      cases outcome with
      | ok _ => cases alike
      | error _ => cases ran

theorem advance_smooth (evaluable : benchmark.Evaluable parts)
    {index : Fin benchmark.workers} {tick : Tick}
    {state : WorkerState Simulators} {shared : Shared Simulators}
    {next : WorkerState Simulators × Shared Simulators} {mine : Option Nat}
    (returns : tick.fate = .returns)
    (smooth : Smooth benchmark parts state.phase)
    (simulated : PhaseSimulated (casesByIdentifier benchmark.cases)
      parts.graph parts.recursionLimit mine shared.world state.phase)
    (step : (benchmark.worker parts index).advance tick state shared =
      some next) : Smooth benchmark parts next.1.phase := by
  obtain ⟨phase, stats⟩ := state
  cases phase with
  | idle => cases step
  | validating message =>
      obtain ⟨task, valid, same, keyed⟩ := validate_asks evaluable index smooth
      simp only [OptimizationWorker.advance, valid] at step
      cases step
      refine ⟨?_, keyed⟩
      rw [same]
      exact smooth
  | lookingUp task =>
      obtain ⟨asks, key, keyed⟩ := smooth
      have judges : (benchmark.worker parts index).cluster = "judge" := rfl
      simp only [OptimizationWorker.advance, returns, judges, keyed] at step
      cases present : shared.store.get? task.taskId with
      | none =>
          rw [present] at step
          cases step
          exact asks
      | some payload =>
          rw [present] at step
          cases step
          rfl
  | locking task key =>
      cases advance_decides rfl step with
      | acquired free => exact smooth
      | unacquired failure =>
          simp only [OptimizationWorker.advance, returns] at step
          split at step
          · cases step
          · cases step
  | creating task key =>
      obtain ⟨environment, world, made⟩ :=
        simulatorFactory_asks smooth task.context shared.world
      rw [advance_creating_ok made] at step
      cases step
      exact smooth
  | running task key environment =>
      obtain ⟨number, found, rfl, rfl, present, unused⟩ := simulated
      obtain ⟨repositoryRef, named⟩ := asks_repository smooth
      obtain ⟨execution, session, run⟩ := simulatorAt_returns evaluable
        present unused (task.request repositoryRef) tick.checkpoint
      rw [advance_running_ok named run] at step
      cases step
      rfl
  | republishing task payload =>
      cases call_returns returns step
      rfl
  | acknowledgingDuplicate task =>
      cases call_returns returns step
      rfl
  | storing task key environment payload =>
      cases call_returns returns step
      rfl
  | publishing task key environment payload =>
      cases call_returns returns step
      rfl
  | acknowledging task key environment =>
      cases call_returns returns step
      rfl
  | releasing task key environment failure =>
      cases failure with
      | some failure => cases smooth
      | none =>
          cases call_returns returns step
          rfl
  | rejecting message reason => cases smooth
  | recovering task environment failure => cases smooth
  | retrying task failure => cases smooth
  | deadLettering task failure => cases smooth
  | stopped failure => cases smooth

/-! ### The coordinator -/

theorem contextOf_finds {contexts : List IndexedServiceContext}
    (indexed : ∀ context ∈ contexts, ∃ serviceId,
      parts.Finds serviceId context)
    {context : IndexedServiceContext} (member : context ∈ contexts) :
    ∃ found, contextOf contexts context.serviceId = some found ∧
      parts.Finds context.serviceId found := by
  obtain ⟨found, present⟩ := OrderedDict.get?_ofList_of_mem
    (List.mem_map.mpr ⟨context, member, rfl⟩ :
      (context.serviceId, context) ∈
        contexts.map fun context => (context.serviceId, context))
  obtain ⟨other, among, same⟩ :=
    List.mem_map.mp (OrderedDict.mem_of_get?_ofList present)
  obtain ⟨named, rfl⟩ := Prod.mk.inj same
  obtain ⟨serviceId, finds⟩ := indexed other among
  exact ⟨other, present, named, finds.named, finds.stored⟩

/-- What is known before each node of an evaluation that nothing fails. -/
def CoordinatorSmooth (benchmark : SystemBenchmark) (parts : SystemParts)
    (coordinator : Coordinator) (requests : List PublishedRequest)
    (collected : List Nat) : Prop :=
  let state := coordinator.state
  match coordinator.phase with
  | .discoverSystem | .buildServiceRegistry | .indexServiceContexts =>
      collected = [] ∧ requests = []
  | .dispatchWorkloadEvents remaining =>
      collected = [] ∧
        requests.length + remaining.length = benchmark.cases.length ∧
        ∀ service ∈ remaining, ∃ evaluated ∈ benchmark.cases, ∃ context,
          service = benchmark.service evaluated ∧
            contextOf state.contexts evaluated.identifier = some context ∧
            parts.Finds evaluated.identifier context
  | .waitForCompletionEvents results =>
      state.expectedResults = requests.length ∧
        results.length = collected.length
  | .failed _ => False
  | _ => True

theorem services_indexed (evaluable : benchmark.Evaluable parts) :
    ∃ contexts, benchmark.services.mapM parts.indexer = .ok contexts ∧
      ∀ service ∈ benchmark.services, ∃ evaluated ∈ benchmark.cases,
        ∃ context, service = benchmark.service evaluated ∧
          contextOf contexts evaluated.identifier = some context ∧
          parts.Finds evaluated.identifier context := by
  have each : ∀ evaluated, ∃ context, evaluated ∈ benchmark.cases →
      parts.indexer (benchmark.service evaluated) = .ok context ∧
        parts.Finds evaluated.identifier context := by
    intro evaluated
    by_cases member : evaluated ∈ benchmark.cases
    · obtain ⟨context, both⟩ := evaluable.indexed evaluated member
      exact ⟨context, fun _ => both⟩
    · exact ⟨⟨"", ""⟩, fun among => absurd among member⟩
  choose context contexts using each
  refine ⟨benchmark.cases.map context, ?_, ?_⟩
  · rw [mapM_eq_ok_iff, SystemBenchmark.services, List.forall₂_map_left_iff,
      List.forall₂_map_right_iff, List.forall₂_same]
    exact fun evaluated member => (contexts evaluated member).1
  · intro service member
    obtain ⟨evaluated, among, rfl⟩ := List.mem_map.mp member
    have owner := (contexts evaluated among).2.owner
    have indexed : ∀ context' ∈ benchmark.cases.map context, ∃ serviceId,
        parts.Finds serviceId context' := by
      intro other isOther
      obtain ⟨case', isCase, rfl⟩ := List.mem_map.mp isOther
      exact ⟨_, (contexts case' isCase).2⟩
    obtain ⟨found, present, finds⟩ := contextOf_finds indexed
      (List.mem_map.mpr ⟨evaluated, among, rfl⟩)
    rw [owner] at present finds
    exact ⟨evaluated, among, found, rfl, present, finds⟩

theorem services_registered (evaluable : benchmark.Evaluable parts) :
    benchmark.services.forM parts.registry = .ok () := by
  have each : ∀ service ∈ benchmark.services,
      parts.registry service = .ok () := by
    intro service member
    obtain ⟨evaluated, among, rfl⟩ := List.mem_map.mp member
    exact evaluable.registered evaluated among
  revert each
  generalize benchmark.services = services
  intro each
  induction services with
  | nil => rfl
  | cons service services induction =>
      change (parts.registry service >>= fun _ =>
        services.forM parts.registry) = _
      rw [each service List.mem_cons_self]
      exact induction fun other later =>
        each other (List.mem_cons_of_mem service later)

/-- The coordinator goes on unless it waits for results or has returned. -/
theorem proceed_enabled {graph : SystemOptimizationGraph}
    {coordinator : Coordinator} {published : Published}
    (unreturned : coordinator.result = none)
    (unfailed : ∀ failure, coordinator.phase ≠ .failed failure)
    (enough : ∀ results,
      coordinator.phase = .waitForCompletionEvents results →
        ¬ results.length < coordinator.state.expectedResults) :
    ∃ next, graph.proceed {} coordinator published = some next := by
  obtain ⟨phase, state⟩ := coordinator
  cases phase with
  | discoverSystem =>
      simp only [SystemOptimizationGraph.proceed]
      split
      · exact ⟨_, rfl⟩
      · exact ⟨_, rfl⟩
  | buildServiceRegistry =>
      simp only [SystemOptimizationGraph.proceed]
      split
      · exact ⟨_, rfl⟩
      · exact ⟨_, rfl⟩
  | indexServiceContexts =>
      simp only [SystemOptimizationGraph.proceed]
      split
      · exact ⟨_, rfl⟩
      · exact ⟨_, rfl⟩
  | dispatchWorkloadEvents remaining =>
      cases remaining with
      | nil => exact ⟨_, rfl⟩
      | cons service remaining =>
          simp only [SystemOptimizationGraph.proceed]
          split
          · exact ⟨_, rfl⟩
          · exact ⟨_, rfl⟩
  | waitForCompletionEvents results =>
      exact ⟨_, if_neg (enough results rfl)⟩
  | systemVerifying requested =>
      simp only [SystemOptimizationGraph.proceed]
      split
      · exact ⟨_, rfl⟩
      · exact ⟨_, rfl⟩
  | systemReport =>
      simp only [SystemOptimizationGraph.proceed]
      split
      · exact ⟨_, rfl⟩
      · exact ⟨_, rfl⟩
  | ended => cases unreturned
  | failed failure => exact absurd rfl (unfailed failure)
  | _ => exact ⟨_, rfl⟩

theorem collect_smooth {fate : Fate} {result : PublishedResult}
    {position : Nat} {coordinator after : Coordinator}
    {requests : List PublishedRequest} {collected : List Nat}
    (returns : fate = .returns)
    (own : result.event.runId = coordinator.state.runId)
    (smooth : CoordinatorSmooth benchmark parts coordinator requests collected)
    (step : SystemOptimizationGraph.collect fate result coordinator =
      some after) :
    CoordinatorSmooth benchmark parts after requests
      (position :: collected) := by
  obtain ⟨phase, state⟩ := coordinator
  cases phase with
  | waitForCompletionEvents results =>
      obtain ⟨expected, counts⟩ := smooth
      simp only [SystemOptimizationGraph.collect, returns] at step
      split at step
      · cases step
        refine ⟨expected, ?_⟩
        rw [List.length_append, List.length_singleton, List.length_cons, counts]
      · cases step
  | _ => cases step

theorem proceed_smooth (evaluable : benchmark.Evaluable parts)
    {tick : SystemTick} {coordinator : Coordinator} {published : Published}
    {collected : List Nat} {after : Coordinator × Published}
    (returns : tick.fate = .returns)
    (runId : coordinator.state.runId = benchmark.runId)
    (scope : coordinator.state.namespace = benchmark.identifier)
    (services : SystemPhase.begun coordinator.phase = true →
      coordinator.state.services = benchmark.services)
    (asked : ∀ request ∈ published.requests,
      Asks benchmark parts request.event)
    (smooth : CoordinatorSmooth benchmark parts coordinator
      published.requests collected)
    (step : (benchmark.system parts).proceed tick coordinator published =
      some after) :
    CoordinatorSmooth benchmark parts after.1 after.2.requests collected ∧
      ∀ request ∈ after.2.requests, Asks benchmark parts request.event := by
  obtain ⟨phase, state⟩ := coordinator
  cases phase with
  | discoverSystem =>
      have discovered : (benchmark.system parts).discovery state.namespace =
          .ok benchmark.services := by
        rw [scope]
        exact congrArg Except.ok discoverStatic_services
      simp only [SystemOptimizationGraph.proceed, discovered] at step
      cases step
      exact ⟨smooth, asked⟩
  | buildServiceRegistry =>
      have registered : state.services.forM (benchmark.system parts).registry =
          .ok () := by
        rw [services rfl]
        exact services_registered evaluable
      simp only [SystemOptimizationGraph.proceed, registered] at step
      cases step
      exact ⟨smooth, asked⟩
  | indexServiceContexts =>
      obtain ⟨contexts, indexed, found⟩ := services_indexed evaluable
      have indexing : state.services.mapM (benchmark.system parts).indexer =
          .ok contexts := by
        rw [services rfl]
        exact indexed
      simp only [SystemOptimizationGraph.proceed, indexing] at step
      cases step
      have nothing : published.requests = [] := smooth.2
      have all : state.services = benchmark.services := services rfl
      refine ⟨⟨smooth.1, ?_, ?_⟩, asked⟩
      · rw [nothing, all, SystemBenchmark.services, List.length_map]
        exact Nat.zero_add _
      · rw [all]
        exact found
  | dispatchWorkloadEvents remaining =>
      obtain ⟨nothing, counts, known⟩ := smooth
      cases remaining with
      | nil =>
          cases step
          refine ⟨⟨?_, by rw [nothing]; rfl⟩, asked⟩
          change state.services.length = _
          rw [services rfl, SystemBenchmark.services, List.length_map]
          exact counts.symm
      | cons service remaining =>
          obtain ⟨evaluated, member, context, rfl, present, finds⟩ :=
            known service List.mem_cons_self
          have found : contextOf state.contexts
              (benchmark.service evaluated).serviceId = some context := present
          simp only [SystemOptimizationGraph.proceed, found, returns] at step
          cases step
          refine ⟨⟨nothing, ?_, ?_⟩, ?_⟩
          · change (published.requests ++ [_]).length + remaining.length = _
            rw [List.length_append, List.length_singleton, ← counts,
              List.length_cons]
            omega
          · exact fun other later =>
              known other (List.mem_cons_of_mem _ later)
          · intro request among
            cases List.mem_append.mp among with
            | inl before => exact asked request before
            | inr new =>
                rw [List.mem_singleton.mp new]
                exact ⟨evaluated, member, state, context, tick.stamp, finds,
                  rfl, runId⟩
  | waitForCompletionEvents results =>
      simp only [SystemOptimizationGraph.proceed] at step
      split at step
      · cases step
      · cases step
        exact ⟨trivial, asked⟩
  | aggregateResults =>
      cases step
      exact ⟨trivial, asked⟩
  | systemVerify =>
      simp only [SystemOptimizationGraph.proceed, returns] at step
      cases step
      exact ⟨trivial, asked⟩
  | systemVerifying requested =>
      have verified : endToEnd (benchmark.system parts) state tick.verdict =
          .ok (workloadPassed state) :=
        if_neg fun both => by cases both.2
      simp only [SystemOptimizationGraph.proceed, returns, verified] at step
      cases step
      cases workloadPassed state && workloadPassed state with
      | false => exact ⟨trivial, asked⟩
      | true => exact ⟨trivial, asked⟩
  | systemReport =>
      cases step
      exact ⟨trivial, asked⟩
  | systemDiagnosis =>
      cases step
      exact ⟨trivial, asked⟩
  | ended => cases step
  | failed failure => cases step

/-! ### The whole evaluation -/

/-- What holds after every step of an evaluation in which no call fails. -/
structure Completing (benchmark : SystemBenchmark) (parts : SystemParts)
    (run : SystemState (Fin benchmark.workers) Simulators × HandedOut) :
    Prop where
  evaluating : Evaluating benchmark parts run
  within : run.2.Within run.1
  coordinator : CoordinatorSmooth benchmark parts run.1.coordinator
    run.1.published.requests run.2.results
  asked : ∀ request ∈ run.1.published.requests,
    Asks benchmark parts request.event
  phases : ∀ worker, Smooth benchmark parts (run.1.pool.workers worker).phase
  retries : run.1.pool.shared.retries = []
  locks : LocksSound run.1.pool
  owned : Owned run.1.pool
  attended : Attended run.2.requests run.1.pool

theorem start_completing (simulators : Simulators) :
    Completing benchmark parts (benchmark.start simulators, {}) where
  evaluating := start_evaluating simulators
  within := HandedOut.within_start _
  coordinator := ⟨rfl, rfl⟩
  asked := by
    intro request member
    cases member
  phases := fun _ => rfl
  retries := rfl
  locks := (start_fresh simulators).opened.pool.locksSound
  owned := by
    intro key member
    cases member
  attended := by
    intro record member
    cases member

section

variable {run next : SystemState (Fin benchmark.workers) Simulators × HandedOut}
  {state after : SystemState (Fin benchmark.workers) Simulators}
  {out later : HandedOut} {action : SystemAction (Fin benchmark.workers)}

theorem onceStep_of_evaluationStep
    (step : evaluationStep benchmark parts run action = some next) :
    onceStep (benchmark.system parts) (benchmark.worker parts) run action =
      some next := by
  simp only [evaluationStep] at step
  split at step
  · exact step
  · cases step

theorem own_of_undisturbed (calm : undisturbed action = true) :
    action.own = true ∧ action.foreign = false := by
  cases action with
  | request request => cases calm
  | call worker call => cases calm
  | crash worker => cases calm
  | _ => exact ⟨rfl, rfl⟩

theorem evaluationStep_paid (within : run.2.Within run.1)
    (step : evaluationStep benchmark parts run action = some next) :
    Paid (benchmark.system parts) 3 action run next :=
  handOutStep_paid (fun _ => Int.le_refl 3) run action next within
    (handOutStep_of_onceStep (onceStep_of_evaluationStep step))

theorem Completing.act {index : Fin benchmark.workers}
    {action : OptimizationWorker.Action}
    (before : Completing benchmark parts (state, out))
    (evaluating : Evaluating benchmark parts (after, later))
    (within : later.Within after) (collected : later.results = out.results)
    (step : state.act (benchmark.worker parts) (.act index action) =
      some after)
    (tidy : Tidy (state.pool.workers index).phase state.pool.shared
      (after.pool.workers index, after.pool.shared))
    (smooth : Smooth benchmark parts (after.pool.workers index).phase)
    (attended : Attended later.requests after.pool) :
    Completing benchmark parts (after, later) := by
  obtain ⟨pool, acted, rfl⟩ := Option.map_eq_some_iff.mp step
  obtain ⟨-, others⟩ := poolStep_act acted
  refine ⟨evaluating, within, ?_, before.asked, ?_,
    tidy.retries.trans before.retries, poolStep_locksSound before.locks acted,
    before.owned.move tidy others, attended⟩
  · rw [collected]
    exact before.coordinator
  · intro other
    by_cases same : other = index
    · rw [same]
      exact smooth
    · rw [others other same]
      exact before.phases other

theorem Completing.result_own
    (completing : Completing benchmark parts (state, out))
    {result : PublishedResult} (member : result ∈ state.pool.shared.results) :
    result.event.runId = state.coordinator.state.runId := by
  obtain ⟨payload, taskId, ⟨request, present, same, -⟩, -⟩ :=
    completing.evaluating.once.sound.traced.shared.results result member
  obtain ⟨evaluated, -, asking, context, stamp, -, -, own⟩ :=
    completing.asked request (List.mem_of_getElem? present)
  exact same.symm.trans (own.trans completing.evaluating.runId.symm)

/-- One step in which no call fails. -/
theorem evaluationStep_completing (evaluable : benchmark.Evaluable parts)
    (calm : undisturbed action = true)
    (before : Completing benchmark parts run)
    (step : evaluationStep benchmark parts run action = some next) :
    Completing benchmark parts next := by
  have evaluating := evaluationStep_evaluating _ _ _ before.evaluating step
  have once := onceStep_of_evaluationStep step
  have within := (evaluationStep_paid before.within step).1
  obtain ⟨state, out⟩ := run
  simp only [onceStep] at once
  split at once
  · rename_i permits
    obtain ⟨after, stepped, rfl⟩ := Option.map_eq_some_iff.mp once
    cases action with
    | request request => cases calm
    | call worker call => cases calm
    | timeOut => cases calm
    | crash worker => cases calm
    | redeliver worker index => cases calm
    | proceed tick =>
        obtain ⟨⟨coordinator, published⟩, proceeded, rfl⟩ :=
          Option.map_eq_some_iff.mp stepped
        obtain ⟨smooth, asked⟩ := proceed_smooth evaluable
          (returns_of_not_raised calm) before.evaluating.runId
          before.evaluating.namespace before.evaluating.services before.asked
          before.coordinator proceeded
        exact ⟨evaluating, within, smooth, asked, before.phases,
          before.retries, before.locks, before.owned, before.attended⟩
    | collect position fate =>
        simp only [systemStep] at stepped
        split at stepped
        · cases stepped
        · rename_i result present
          obtain ⟨coordinator, collected, rfl⟩ :=
            Option.map_eq_some_iff.mp stepped
          have own := before.result_own (List.mem_of_getElem? present)
          have counts : CoordinatorSmooth benchmark parts coordinator
              state.published.requests (position :: out.results) :=
            collect_smooth (returns_of_not_raised calm) own before.coordinator
              collected
          exact ⟨evaluating, within, counts, before.asked, before.phases,
            before.retries, before.locks, before.owned, before.attended⟩
    | deliver worker record deliveryCount =>
        simp only [systemStep] at stepped
        split at stepped
        · cases stepped
        · rename_i request present
          obtain ⟨pool, acted, rfl⟩ := Option.map_eq_some_iff.mp stepped
          obtain ⟨claimed, others⟩ := poolStep_act acted
          have tidy := claim_tidy claimed
          have begun : (pool.workers worker).phase =
              .validating (request.delivered record deliveryCount) :=
            (claim_begins claimed).1
          refine before.act evaluating within rfl stepped tidy ?_ ?_
          · change Smooth benchmark parts (pool.workers worker).phase
            rw [begun]
            exact before.asked request (List.mem_of_getElem? present)
          · intro other member
            cases List.mem_cons.mp member with
            | inl new =>
                refine Or.inl ⟨worker, ?_⟩
                change carriedRecord (pool.workers worker).phase = _
                rw [begun, new]
                rfl
            | inr old => exact before.attended.move tidy others other old
    | tick worker tick =>
        obtain ⟨pool, acted, rfl⟩ := Option.map_eq_some_iff.mp stepped
        obtain ⟨advanced, others⟩ := poolStep_act acted
        obtain ⟨-, mine, held, -, -, phases⟩ := before.evaluating.simulated
        have smooth := advance_smooth evaluable (returns_of_not_raised calm)
          (before.phases worker) (phases worker) advanced
        have tidy := advance_tidy (returns_of_not_raised calm)
          before.locks.distinct (before.phases worker).untroubled
          smooth.untroubled advanced
        exact before.act evaluating within rfl stepped tidy smooth
          (before.attended.move tidy others)
  · cases once

theorem goes_on_with (action : SystemAction (Fin benchmark.workers))
    (calm : undisturbed action = true) (permits : out.Permits state action)
    (enabled : (systemStep (benchmark.system parts) (benchmark.worker parts)
      state action).isSome = true) :
    ∃ action next, undisturbed action = true ∧
      evaluationStep benchmark parts (state, out) action = some next := by
  obtain ⟨after, step⟩ := Option.isSome_iff_exists.mp enabled
  have within : inProcess action = true := by
    cases action with
    | request request => cases calm
    | call worker call => cases calm
    | _ => rfl
  refine ⟨action, (after, out.note action), calm, ?_⟩
  simp only [evaluationStep, onceStep, if_pos within, if_pos permits, step,
    Option.map_some]

/-- As long as there are fewer results than requests, a result can be
collected, a request delivered, or a worker goes on. -/
theorem Completing.waits_for_somebody (evaluable : benchmark.Evaluable parts)
    (completing : Completing benchmark parts (state, out))
    {results : List PublishedResult}
    (waits : state.coordinator.phase = .waitForCompletionEvents results)
    (few : results.length < state.coordinator.state.expectedResults) :
    ∃ action next, undisturbed action = true ∧
      evaluationStep benchmark parts (state, out) action = some next := by
  have known := completing.coordinator
  simp only [CoordinatorSmooth, waits] at known
  obtain ⟨expected, counts⟩ := known
  by_cases busy : ∃ worker, (state.pool.workers worker).phase ≠ .idle
  · obtain ⟨worker, busy⟩ := busy
    obtain ⟨mover, next, advanced⟩ := @exists_enabled _ _ state.pool
      (benchmark.worker parts) completing.owned
      (fun worker => (completing.phases worker).untroubled) worker busy
    apply goes_on_with (.tick mover {}) rfl ⟨trivial, fun _ => rfl⟩
    simp only [systemStep, SystemState.act, poolStep, OptimizationWorker.act,
      advanced, Option.map_some, Option.isSome_some]
  have idle : ∀ worker, (state.pool.workers worker).phase = .idle :=
    fun worker => not_not.mp fun works => busy ⟨worker, works⟩
  by_cases waiting : ∃ record, record < state.published.requests.length ∧
      record ∉ out.requests
  · obtain ⟨record, there, free⟩ := waiting
    have first := idle ⟨0, evaluable.workers⟩
    apply goes_on_with (.deliver ⟨0, evaluable.workers⟩ record 1) rfl
      ⟨free, trivial⟩
    simp only [systemStep, List.getElem?_eq_getElem there, SystemState.act,
      poolStep, OptimizationWorker.act, first, Option.map_some,
      Option.isSome_some]
  by_cases uncollected : ∃ position,
      position < state.pool.shared.results.length ∧ position ∉ out.results
  · obtain ⟨position, there, free⟩ := uncollected
    have own := completing.result_own (List.getElem_mem there)
    apply goes_on_with (.collect position .returns) rfl ⟨free, trivial⟩
    simp only [systemStep, List.getElem?_eq_getElem there,
      SystemOptimizationGraph.collect, waits, if_pos few, if_pos own,
      Option.map_some, Option.isSome_some]
  -- all requests are answered and all answers are collected
  exfalso
  have delivered : List.range state.published.requests.length ⊆
      state.pool.shared.answered := by
    intro record member
    have there := List.mem_range.mp member
    have handedOut : record ∈ out.requests :=
      not_not.mp fun free => waiting ⟨record, there, free⟩
    rcases completing.attended record handedOut with
      ⟨worker, carries⟩ | answered
    · have nothing : (none : Option Nat) = some record := by
        rw [← carries, idle worker]
        rfl
      cases nothing
    · exact answered
  have collected : List.range state.pool.shared.results.length ⊆
      out.results := by
    intro position member
    exact not_not.mp fun free =>
      uncollected ⟨position, List.mem_range.mp member, free⟩
  have answers := (List.subperm_of_subset List.nodup_range delivered).length_le
  have counted := (List.subperm_of_subset List.nodup_range collected).length_le
  rw [List.length_range, Shared.answered, List.length_map] at answers
  rw [List.length_range] at counted
  omega

/-- Wherever the evaluation has got, it has returned or can go on. -/
theorem Completing.goes_on (evaluable : benchmark.Evaluable parts)
    (completing : Completing benchmark parts run) :
    run.1.coordinator.result.isSome = true ∨
      ∃ action next, undisturbed action = true ∧
        evaluationStep benchmark parts run action = some next := by
  obtain ⟨state, out⟩ := run
  cases returned : state.coordinator.result with
  | some result => exact Or.inl rfl
  | none =>
      refine Or.inr ?_
      by_cases waiting : ∃ results,
          state.coordinator.phase = .waitForCompletionEvents results ∧
            results.length < state.coordinator.state.expectedResults
      · obtain ⟨results, waits, few⟩ := waiting
        exact completing.waits_for_somebody evaluable waits few
      · have unfailed : ∀ failure,
            state.coordinator.phase ≠ .failed failure := by
          intro failure failed
          have known := completing.coordinator
          simp only [CoordinatorSmooth, failed] at known
        obtain ⟨⟨coordinator, published⟩, proceeded⟩ := @proceed_enabled
          (benchmark.system parts) state.coordinator state.published returned
          unfailed fun results waits few => waiting ⟨results, waits, few⟩
        apply goes_on_with (.proceed {}) rfl ⟨trivial, trivial⟩
        simp only [systemStep, proceeded, Option.map_some, Option.isSome_some]

theorem evaluationStep_uses (calm : undisturbed action = true)
    (within : run.2.Within run.1)
    (step : evaluationStep benchmark parts run action = some next) :
    systemCost (benchmark.system parts) 3 next <
      systemCost (benchmark.system parts) 3 run := by
  have paid := (evaluationStep_paid within step).2
  obtain ⟨own, notForeign⟩ := own_of_undisturbed calm
  rw [own, notForeign] at paid
  exact paid

end

theorem start_cost_le {simulators : Simulators} :
    systemCost (benchmark.system parts) 3 (benchmark.start simulators, {}) ≤
      9 + 76 * benchmark.cases.length := by
  have fresh : (benchmark.start simulators).Fresh := start_fresh simulators
  have begins := fresh.systemCost_le (benchmark.system parts) 3
  have services : ((benchmark.system parts).toRequest
      (benchmark.start simulators).coordinator).length =
        benchmark.cases.length := by
    change (discoverStatic benchmark.services benchmark.identifier).length = _
    rw [discoverStatic_services, SystemBenchmark.services, List.length_map]
  have nothing : (benchmark.start simulators).published.requests.length =
      0 := rfl
  have price : 25 * max 1 3 + 1 = 76 := rfl
  rw [services, nothing, price] at begins
  exact begins

theorem counts_of_undisturbed
    {actions : List (SystemAction (Fin benchmark.workers))}
    (calm : ∀ action ∈ actions, undisturbed action = true) :
    actions.countP SystemAction.own = actions.length ∧
      actions.countP SystemAction.foreign = 0 := by
  constructor
  · apply List.countP_eq_length.mpr
    intro action member
    exact (own_of_undisturbed (calm action member)).1
  · apply List.countP_eq_zero.mpr
    intro action member foreign
    rw [(own_of_undisturbed (calm action member)).2] at foreign
    cases foreign

/-- An evaluation in which no call fails takes a bounded number of steps,
whatever the order of the workers and the coordinator, and wherever it has got
it can be continued until it returns. -/
theorem system_evaluation_returns (evaluable : benchmark.Evaluable parts)
    {simulators : Simulators}
    {actions : List (SystemAction (Fin benchmark.workers))}
    (calm : ∀ action ∈ actions, undisturbed action = true)
    {run : SystemState (Fin benchmark.workers) Simulators × HandedOut}
    (played : play (evaluationStep benchmark parts)
      (benchmark.start simulators, {}) actions = some run) :
    actions.length ≤ 9 + 76 * benchmark.cases.length ∧
      ∃ more final result,
        (∀ action ∈ more, undisturbed action = true) ∧
        play (evaluationStep benchmark parts) run more = some final ∧
        final.1.coordinator.result = some result := by
  constructor
  · have spent := @play_spends _ _ (evaluationStep benchmark parts)
      (fun run => run.2.Within run.1) (systemCost (benchmark.system parts) 3)
      SystemAction.own SystemAction.foreign 75
      (fun run action next within step => evaluationStep_paid within step)
      _ _ _ (HandedOut.within_start _) played
    have begins := @start_cost_le benchmark parts simulators
    obtain ⟨all, nobodyElse⟩ := counts_of_undisturbed calm
    rw [all, nobodyElse] at spent
    omega
  · have completing := @invariant_play _ _ (evaluationStep benchmark parts)
      (fun _ action => undisturbed action = true) (Completing benchmark parts)
      (fun run action next before allowed step =>
        evaluationStep_completing evaluable allowed before step)
      _ _ _ (start_completing simulators)
      (meets_of_forall (fun action member _ => calm action member) _) played
    obtain ⟨more, final, allowed, reached, returned⟩ := @play_reaches _ _
      (evaluationStep benchmark parts) (Completing benchmark parts)
      (systemCost (benchmark.system parts) 3)
      (fun run => run.1.coordinator.result.isSome = true)
      (fun action => undisturbed action = true)
      (fun run action next before allowed step =>
        ⟨evaluationStep_completing evaluable allowed before step,
          evaluationStep_uses allowed before.within step⟩)
      (fun run before => before.goes_on evaluable) _ completing
    obtain ⟨result, same⟩ := Option.isSome_iff_exists.mp returned
    exact ⟨more, final, result, allowed, reached, same⟩

end

namespace TwoCases

theorem evaluable : benchmark.Evaluable parts where
  workers := by decide
  registered := fun _ _ => rfl
  indexed := by
    have named : ∀ evaluated ∈ benchmark.cases,
        evaluated.identifier ≠ "" := by decide
    intro evaluated member
    exact ⟨_, rfl, rfl, named evaluated member, rfl⟩
  keyed := List.forall_mem_cons.mpr ⟨⟨_, rfl⟩, List.forall_mem_cons.mpr
    ⟨⟨_, rfl⟩, List.forall_mem_nil _⟩⟩
  returns := List.forall_mem_cons.mpr ⟨⟨emptyThread, "0.1", _, rfl⟩,
    List.forall_mem_cons.mpr ⟨⟨emptyThread, "0.1", _, rfl⟩,
      List.forall_mem_nil _⟩⟩

/-- The beginning of a run: the first worker has taken one of the cases. -/
def begun : List (SystemAction (Fin 2)) :=
  proceeds 6 ++ [.deliver 0 1 1, .tick 0 {}]

end TwoCases

open TwoCases in
/-- What has begun with two cases is continued until it returns. -/
theorem system_evaluation_returns_twoCases :
    ∃ run more final result,
      play (evaluationStep benchmark parts) (benchmark.start simulators, {})
        begun = some run ∧
      begun.length ≤ 161 ∧
      play (evaluationStep benchmark parts) run more = some final ∧
      final.1.coordinator.result = some result := by
  obtain ⟨run, played⟩ : ∃ run,
      play (evaluationStep benchmark parts) (benchmark.start simulators, {})
        begun = some run := ⟨_, rfl⟩
  obtain ⟨few, more, final, result, -, continued, returned⟩ :=
    system_evaluation_returns evaluable (List.all_eq_true.mp rfl) played
  exact ⟨run, more, final, result, played, few, continued, returned⟩

end Kuber.Judge

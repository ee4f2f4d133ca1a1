import Kuber.Agent.Isolation
import Kuber.Event.WorkerPool

/-!
# Simulators of a worker pool

The workers of a system benchmark create a new simulator for every task.  Each
simulator is a part of the world that no other worker ever sees, so every
result is computed as if its case were run by itself.
-/

namespace Kuber.Judge

open Kuber.Agent Kuber.Event Kuber.Library Kuber.Rules

/-- The simulators created so far, by number, with the policies in force. -/
structure Simulators where
  created : Nat := 0
  policies : Nat → Policy

namespace Simulators

/-- The policy of one simulator. -/
def policyOf (number : Nat) : Part Simulators Policy where
  get := fun simulators => simulators.policies number
  set := fun policy simulators =>
    { simulators with
      policies := Function.update simulators.policies number policy }
  get_set := fun policy simulators =>
    Function.update_self number policy simulators.policies

/-- A new simulator. -/
def create (policy : Policy) (simulators : Simulators) : Simulators where
  created := simulators.created + 1
  policies := Function.update simulators.policies simulators.created policy

end Simulators

def simulatorAt (benchmark : BenchmarkCase) (number : Nat) :
    EnvironmentAdapter Simulators :=
  (simulatorEnvironment benchmark).onPart (Simulators.policyOf number)

/-- `cases[identifier]`. -/
def caseOf (cases : OrderedDict String BenchmarkCase) (identifier : String) :
    Except PyException BenchmarkCase :=
  match cases.get? identifier with
  | some benchmark => .ok benchmark
  | none => .error (.keyError identifier)

/-- `_SimulatorFactory.create`. -/
def simulatorFactory (cases : OrderedDict String BenchmarkCase)
    (event : EventEnvelope) (_ : IndexedServiceContext) :
    Raising PyException Simulators (EnvironmentAdapter Simulators) := do
  let identifier ← Raising.ofExcept (payloadText event.payload "workload_id")
  let benchmark ← Raising.ofExcept (caseOf cases identifier)
  let simulators ← Raising.get
  Raising.modify (Simulators.create benchmark.initialPolicy)
  return simulatorAt benchmark simulators.created

theorem simulatorFactory_ok {cases : OrderedDict String BenchmarkCase}
    {event : EventEnvelope} {context : IndexedServiceContext}
    {environment : EnvironmentAdapter Simulators} {before after : Simulators}
    (made : simulatorFactory cases event context before =
      (.ok environment, after)) :
    ∃ identifier benchmark,
      payloadText event.payload "workload_id" = .ok identifier ∧
        cases.get? identifier = some benchmark ∧
        environment = simulatorAt benchmark before.created ∧
        after = before.create benchmark.initialPolicy := by
  simp only [simulatorFactory, Raising.bind_run, Raising.ofExcept_run,
    Raising.get_run, Raising.modify_run, Raising.pure_run] at made
  cases named : payloadText event.payload "workload_id" with
  | error failure =>
      rw [named] at made
      cases made
  | ok identifier =>
      cases found : cases.get? identifier with
      | none =>
          simp only [named, caseOf, found] at made
          cases made
      | some benchmark =>
          simp only [named, caseOf, found] at made
          cases made
          exact ⟨identifier, benchmark, rfl, found, rfl, rfl⟩

theorem simulatorFactory_error {cases : OrderedDict String BenchmarkCase}
    {event : EventEnvelope} {context : IndexedServiceContext}
    {failure : PyException} {before after : Simulators}
    (unmade : simulatorFactory cases event context before =
      (.error failure, after)) : after = before := by
  simp only [simulatorFactory, Raising.bind_run, Raising.ofExcept_run,
    Raising.get_run, Raising.modify_run, Raising.pure_run] at unmade
  cases named : payloadText event.payload "workload_id" with
  | error other =>
      rw [named] at unmade
      cases unmade
      rfl
  | ok identifier =>
      cases found : caseOf cases identifier with
      | error other =>
          simp only [named, found] at unmade
          cases unmade
          rfl
      | ok benchmark =>
          simp only [named, found] at unmade
          cases unmade

theorem simulatorAt_keeps {benchmark : BenchmarkCase} {number other : Nat}
    {before : Simulators}
    (session : Session (simulatorAt benchmark number) before)
    (different : other ≠ number) :
    session.environment.policies other = before.policies other := by
  refine recorded_onPart_keeps
    (fun simulators : Simulators => simulators.policies other) ?_
    session.recorded
  intro policy simulators
  exact Function.update_of_ne different policy simulators.policies

theorem simulatorAt_creates_none {benchmark : BenchmarkCase} {number : Nat}
    {before : Simulators}
    (session : Session (simulatorAt benchmark number) before) :
    session.environment.created = before.created := by
  refine recorded_onPart_keeps Simulators.created ?_ session.recorded
  exact fun _ _ => rfl

section

variable (cases : OrderedDict String BenchmarkCase)
  (graph : WorkloadOptimizationGraph) (recursionLimit : Nat)

/-- A worker of the benchmark, whatever it is called and whatever contexts it
finds. -/
structure Configured (worker : OptimizationWorker Simulators) : Prop where
  graph : worker.graph = graph
  recursionLimit : worker.recursionLimit = recursionLimit
  environmentFactory : worker.environmentFactory = simulatorFactory cases

/-- The payload reports what its case gives by itself, in a run of any name
and on any checkpoint. -/
def Computed (payload : Document) : Prop :=
  ∃ (worker : OptimizationWorker Simulators) (task : Task)
    (benchmark : BenchmarkCase) (seconds : String),
    cases.get? task.workloadId = some benchmark ∧
      ∀ request persisted, ∃ execution,
        (runFrom graph recursionLimit request persisted
          (simulatorEnvironment benchmark) benchmark.initialPolicy).1 =
            .ok execution ∧
          payload = resultPayload worker task execution seconds

structure SharedComputed (shared : Shared Simulators) : Prop where
  stored : ∀ taskId payload, shared.store.get? taskId = some payload →
    Computed cases graph recursionLimit payload
  results : ∀ result ∈ shared.results,
    Computed cases graph recursionLimit result.event.payload

/-- The environment is the simulator of this number, if there is one. -/
inductive Owns : Option Nat → Option (EnvironmentAdapter Simulators) → Prop
  | nothing : Owns none none
  | simulator (benchmark : BenchmarkCase) (number : Nat) :
      Owns (some number) (some (simulatorAt benchmark number))

/-- What a worker with this simulator knows in a phase. -/
def PhaseSimulated (mine : Option Nat) (simulators : Simulators) :
    Phase Simulators → Prop
  | .lookingUp task | .locking task _ | .creating task _ =>
      mine = none ∧ payloadText task.message.event.payload "workload_id" =
        .ok task.workloadId
  | .republishing _ payload =>
      mine = none ∧ Computed cases graph recursionLimit payload
  | .running task _ environment =>
      ∃ number benchmark, mine = some number ∧
        environment = simulatorAt benchmark number ∧
        cases.get? task.workloadId = some benchmark ∧
        simulators.policies number = benchmark.initialPolicy
  | .storing _ _ environment payload | .publishing _ _ environment payload =>
      Owns mine (some environment) ∧
        Computed cases graph recursionLimit payload
  | .acknowledging _ _ environment => Owns mine (some environment)
  | .releasing _ _ environment _ | .recovering _ environment _ =>
      Owns mine environment
  | .idle | .validating _ | .rejecting .. | .acknowledgingDuplicate _ =>
      mine = none
  | .retrying .. | .deadLettering .. | .stopped _ => mine = none

/-- What a step of a worker does to the simulators: it may take a new one or
give up its own, and it changes no other one. -/
structure Moves (mine later : Option Nat) (held heldAfter : List Nat)
    (before after : Simulators) : Prop where
  move : LockMove mine later held heldAfter
  numbered : ∀ number ∈ heldAfter, number < after.created
  others : ∀ number ∈ held, mine ≠ some number →
    after.policies number = before.policies number

/-- What holds behind a step. -/
def Reaches (mine : Option Nat) (held : List Nat) (before : Simulators)
    (next : WorkerState Simulators × Shared Simulators) : Prop :=
  ∃ later heldAfter,
    Moves mine later held heldAfter before next.2.world ∧
      PhaseSimulated cases graph recursionLimit later next.2.world
        next.1.phase ∧
      SharedComputed cases graph recursionLimit next.2

end

section

variable {cases : OrderedDict String BenchmarkCase}
  {graph : WorkloadOptimizationGraph} {recursionLimit : Nat}
  {worker : OptimizationWorker Simulators} {tick : Tick}
  {state : WorkerState Simulators} {shared : Shared Simulators}
  {next : WorkerState Simulators × Shared Simulators}
  {mine : Option Nat} {held : List Nat}

namespace SharedComputed

theorem put (computed : SharedComputed cases graph recursionLimit shared)
    (taskId : String) {payload : Document}
    (new : Computed cases graph recursionLimit payload) :
    SharedComputed cases graph recursionLimit (shared.put taskId payload) := by
  refine ⟨?_, computed.results⟩
  intro other found present
  rw [Shared.put, OrderedDict.get?_set] at present
  split at present
  · cases present
    exact new
  · exact computed.stored other found present

theorem publish (computed : SharedComputed cases graph recursionLimit shared)
    (task : Task) {payload : Document} (stamp : Stamp)
    (new : Computed cases graph recursionLimit payload) :
    SharedComputed cases graph recursionLimit
      (shared.publish task payload stamp) := by
  refine ⟨computed.stored, ?_⟩
  intro result member
  cases List.mem_append.mp member with
  | inl before => exact computed.results result before
  | inr added =>
      rw [List.mem_singleton.mp added]
      exact new

end SharedComputed

/-- A step that does not touch the world; the worker keeps its simulator or
gives it up. -/
theorem reaches_untouched {later : Option Nat}
    (numbered : ∀ number ∈ held, number < shared.world.created)
    (world : next.2.world = shared.world)
    (keeps : later = mine ∨ later = none)
    (phase : PhaseSimulated cases graph recursionLimit later shared.world
      next.1.phase)
    (computed : SharedComputed cases graph recursionLimit next.2) :
    Reaches cases graph recursionLimit mine held shared.world next := by
  refine ⟨later, held, ⟨?_, ?_, ?_⟩, ?_, computed⟩
  · cases keeps with
    | inl same =>
        rw [same]
        exact .keeps mine held
    | inr dropped =>
        rw [dropped]
        cases mine with
        | none => exact .keeps none held
        | some number => exact .forgets number held
  · rw [world]
    exact numbered
  · intro number _ _
    rw [world]
  · rw [world]
    exact phase

/-- A call of the bus, the store or the lock manager; a worker whose call
raises keeps its simulator. -/
theorem call_reaches {fate : Fate}
    {effect : Shared Simulators → Shared Simulators}
    {returned : WorkerState Simulators}
    {raised : PyException → WorkerState Simulators} {later : Option Nat}
    (step : some (fate.call effect shared returned raised) = some next)
    (numbered : ∀ number ∈ held, number < shared.world.created)
    (world : (effect shared).world = shared.world)
    (computed : SharedComputed cases graph recursionLimit shared)
    (effected : SharedComputed cases graph recursionLimit (effect shared))
    (keeps : later = mine ∨ later = none)
    (returns : PhaseSimulated cases graph recursionLimit later shared.world
      returned.phase)
    (raises : ∀ failure, PhaseSimulated cases graph recursionLimit mine
      shared.world (raised failure).phase) :
    Reaches cases graph recursionLimit mine held shared.world next := by
  apply Fate.call_cases step
  · exact fun _ => reaches_untouched numbered world keeps returns effected
  · intro failure _
    exact reaches_untouched numbered rfl (Or.inl rfl) (raises failure) computed
  · intro failure _
    exact reaches_untouched numbered world (Or.inl rfl) (raises failure)
      effected

theorem creating_reaches
    (configured : Configured cases graph recursionLimit worker)
    {task : Task} {key : String} {stats : WorkerStats}
    (numbered : ∀ number ∈ held, number < shared.world.created)
    (asks : payloadText task.message.event.payload "workload_id" =
      .ok task.workloadId)
    (computed : SharedComputed cases graph recursionLimit shared)
    (step : worker.advance tick ⟨.creating task key, stats⟩ shared =
      some next) :
    Reaches cases graph recursionLimit none held shared.world next := by
  simp only [OptimizationWorker.advance, configured.environmentFactory] at step
  cases made : simulatorFactory cases task.message.event task.context
      shared.world with
  | mk result after =>
  rw [made] at step
  cases result with
  | error failure =>
      cases simulatorFactory_error made
      cases step
      apply reaches_untouched numbered rfl (Or.inl rfl) _ computed
      exact .nothing
  | ok environment =>
      obtain ⟨identifier, benchmark, named, found, rfl, rfl⟩ :=
        simulatorFactory_ok made
      cases step
      cases named.symm.trans asks
      refine ⟨some shared.world.created, shared.world.created :: held,
        ⟨.takes _ _ ?_, ?_, ?_⟩, ?_, ⟨computed.stored, computed.results⟩⟩
      · exact fun taken => Nat.lt_irrefl _ (numbered _ taken)
      · intro number member
        cases List.mem_cons.mp member with
        | inl new =>
            rw [new]
            exact Nat.lt_succ_self _
        | inr old => exact Nat.lt_succ_of_lt (numbered number old)
      · intro number member _
        exact Function.update_of_ne (Nat.ne_of_lt (numbered number member)) _ _
      · exact ⟨_, benchmark, rfl, rfl, found, Function.update_self _ _ _⟩

/-- A run on a simulator that nobody has used yet gives what its case gives by
itself. -/
theorem computed_of_run
    (configured : Configured cases graph recursionLimit worker) {task : Task}
    {benchmark : BenchmarkCase} {number : Nat} {simulators : Simulators}
    {request : WorkloadRequest} {persisted : WorkloadGraphState}
    {execution : WorkloadExecution}
    {session : Session (simulatorAt benchmark number) simulators}
    (found : cases.get? task.workloadId = some benchmark)
    (unused : simulators.policies number = benchmark.initialPolicy)
    (run : runFrom worker.graph worker.recursionLimit request persisted
      (simulatorAt benchmark number) simulators = (.ok execution, session))
    (seconds : String) :
    Computed cases graph recursionLimit
      (resultPayload worker task execution seconds) := by
  refine ⟨worker, task, benchmark, seconds, found, ?_⟩
  intro otherRequest otherPersisted
  have alike := @runFrom_onPart _ _ (Simulators.policyOf number)
    (simulatorEnvironment benchmark) graph recursionLimit request otherRequest
    persisted otherPersisted simulators
  rw [configured.graph, configured.recursionLimit] at run
  have begins : (Simulators.policyOf number).get simulators =
      benchmark.initialPolicy := unused
  rw [begins] at alike
  change Raising.EndAlike _ _ (runFrom graph recursionLimit request persisted
    (simulatorAt benchmark number) simulators) _ at alike
  rw [run] at alike
  cases alone : runFrom graph recursionLimit otherRequest otherPersisted
      (simulatorEnvironment benchmark) benchmark.initialPolicy with
  | mk result reached =>
  rw [alone] at alike
  cases result with
  | error failure => cases alike
  | ok other =>
      cases alike.1
      exact ⟨other, rfl, rfl⟩

theorem running_reaches
    (configured : Configured cases graph recursionLimit worker)
    {task : Task} {key : String} {benchmark : BenchmarkCase} {number : Nat}
    {stats : WorkerStats}
    (numbered : ∀ number ∈ held, number < shared.world.created)
    (found : cases.get? task.workloadId = some benchmark)
    (unused : shared.world.policies number = benchmark.initialPolicy)
    (computed : SharedComputed cases graph recursionLimit shared)
    (step : worker.advance tick
      ⟨.running task key (simulatorAt benchmark number), stats⟩ shared =
        some next) :
    Reaches cases graph recursionLimit (some number) held shared.world
      next := by
  have owns := Owns.simulator benchmark number
  have moves : ∀ session : Session (simulatorAt benchmark number) shared.world,
      Moves (some number) (some number) held held shared.world
        session.environment := by
    intro session
    refine ⟨.keeps _ _, ?_, ?_⟩
    · intro other member
      rw [simulatorAt_creates_none session]
      exact numbered other member
    · intro other _ different
      apply simulatorAt_keeps session
      rintro rfl
      exact different rfl
  cases advance_decides rfl step with
  | ran repositoryRef execution session run =>
      exact ⟨_, held, moves session,
        ⟨owns, computed_of_run configured found unused run tick.seconds⟩,
        ⟨computed.stored, computed.results⟩⟩
  | unnamed failure unnamed =>
      exact reaches_untouched numbered rfl (Or.inl rfl) owns computed
  | raised repositoryRef failure session named run =>
      exact ⟨_, held, moves session, owns, ⟨computed.stored, computed.results⟩⟩

theorem recovering_reaches {task : Task}
    {environment : Option (EnvironmentAdapter Simulators)}
    {failure : PyException} {stats : WorkerStats}
    (numbered : ∀ number ∈ held, number < shared.world.created)
    (owns : Owns mine environment)
    (computed : SharedComputed cases graph recursionLimit shared)
    (step : worker.advance tick ⟨.recovering task environment failure, stats⟩
      shared = some next) :
    Reaches cases graph recursionLimit mine held shared.world next := by
  have after : next.2 = { shared with
      world := environment.elim shared.world
        (fun adapter => (adapter.restorePolicy shared.world).2) } ∧
        PhaseSimulated cases graph recursionLimit none next.2.world
          next.1.phase := by
    simp only [OptimizationWorker.advance] at step
    split at step
    · cases step
      exact ⟨rfl, rfl⟩
    · cases step
      exact ⟨rfl, rfl⟩
  obtain ⟨reached, phase⟩ := after
  have kept : SharedComputed cases graph recursionLimit next.2 := by
    rw [reached]
    exact ⟨computed.stored, computed.results⟩
  cases owns with
  | nothing =>
      have same : next.2.world = shared.world := by rw [reached]; rfl
      exact reaches_untouched numbered same (Or.inr rfl) (same ▸ phase) kept
  | simulator benchmark number =>
      refine ⟨none, held, ⟨.forgets _ _, ?_, ?_⟩, phase, kept⟩
      · rw [reached]
        exact numbered
      · intro other _ different
        rw [reached]
        apply Function.update_of_ne
        rintro rfl
        exact different rfl

theorem advance_reaches
    (configured : Configured cases graph recursionLimit worker)
    (numbered : ∀ number ∈ held, number < shared.world.created)
    (simulated : PhaseSimulated cases graph recursionLimit mine shared.world
      state.phase)
    (computed : SharedComputed cases graph recursionLimit shared)
    (step : worker.advance tick state shared = some next) :
    Reaches cases graph recursionLimit mine held shared.world next := by
  have unchanged : ∀ {other : Shared Simulators},
      other.store = shared.store → other.results = shared.results →
        SharedComputed cases graph recursionLimit other := by
    intro other store results
    exact ⟨store ▸ computed.stored, results ▸ computed.results⟩
  obtain ⟨phase, stats⟩ := state
  cases phase with
  | idle => cases step
  | stopped failure => cases step
  | validating message =>
      cases advance_decides rfl step with
      | validated task valid =>
          exact reaches_untouched numbered rfl (Or.inl rfl)
            ⟨simulated, validate_workload valid⟩ computed
      | rejected reason =>
          exact reaches_untouched numbered rfl (Or.inl rfl) simulated computed
      | unexpected failure =>
          exact reaches_untouched numbered rfl (Or.inl rfl) simulated computed
  | rejecting message reason =>
      exact call_reaches step numbered rfl computed (unchanged rfl rfl)
        (Or.inl rfl) simulated fun _ => simulated
  | lookingUp task =>
      obtain ⟨none, asks⟩ := simulated
      cases advance_decides rfl step with
      | found payload present =>
          exact reaches_untouched numbered rfl (Or.inl rfl)
            ⟨none, computed.stored _ payload present⟩ computed
      | missed key absent keyed =>
          exact reaches_untouched numbered rfl (Or.inl rfl) ⟨none, asks⟩
            computed
      | unlooked failure =>
          exact reaches_untouched numbered rfl (Or.inl rfl) none computed
  | republishing task payload =>
      obtain ⟨none, known⟩ := simulated
      exact call_reaches step numbered rfl computed
        (computed.publish task tick.stamp known) (Or.inl rfl) none
        fun _ => none
  | acknowledgingDuplicate task =>
      exact call_reaches step numbered rfl computed (unchanged rfl rfl)
        (Or.inl rfl) simulated fun _ => simulated
  | locking task key =>
      obtain ⟨rfl, asks⟩ := simulated
      cases advance_decides rfl step with
      | acquired free =>
          exact reaches_untouched numbered rfl (Or.inl rfl) ⟨rfl, asks⟩
            (unchanged rfl rfl)
      | unacquired failure =>
          exact reaches_untouched numbered rfl (Or.inl rfl) .nothing computed
  | creating task key =>
      obtain ⟨rfl, asks⟩ := simulated
      exact creating_reaches configured numbered asks computed step
  | running task key environment =>
      obtain ⟨number, benchmark, rfl, rfl, found, unused⟩ := simulated
      exact running_reaches configured numbered found unused computed step
  | storing task key environment payload =>
      obtain ⟨owns, known⟩ := simulated
      exact call_reaches step numbered rfl computed
        (computed.put task.taskId known) (Or.inl rfl) ⟨owns, known⟩
        fun _ => owns
  | publishing task key environment payload =>
      obtain ⟨owns, known⟩ := simulated
      exact call_reaches step numbered rfl computed
        (computed.publish task tick.stamp known) (Or.inl rfl) owns
        fun _ => owns
  | acknowledging task key environment =>
      exact call_reaches step numbered rfl computed (unchanged rfl rfl)
        (Or.inl rfl) simulated fun _ => simulated
  | releasing task key environment failure =>
      cases failure with
      | none =>
          exact call_reaches step numbered rfl computed (unchanged rfl rfl)
            (Or.inr rfl) rfl fun _ => simulated
      | some failure =>
          exact call_reaches step numbered rfl computed (unchanged rfl rfl)
            (Or.inl rfl) simulated fun _ => simulated
  | recovering task environment failure =>
      exact recovering_reaches numbered simulated computed step
  | retrying task failure =>
      exact call_reaches step numbered rfl computed (unchanged rfl rfl)
        (Or.inl rfl) simulated fun _ => simulated
  | deadLettering task failure =>
      exact call_reaches step numbered rfl computed (unchanged rfl rfl)
        (Or.inl rfl) simulated fun _ => simulated

theorem act_reaches (configured : Configured cases graph recursionLimit worker)
    {action : OptimizationWorker.Action}
    (numbered : ∀ number ∈ held, number < shared.world.created)
    (simulated : PhaseSimulated cases graph recursionLimit mine shared.world
      state.phase)
    (computed : SharedComputed cases graph recursionLimit shared)
    (step : worker.act action state shared = some next) :
    Reaches cases graph recursionLimit mine held shared.world next := by
  cases action with
  | claim message =>
      obtain ⟨phase, stats⟩ := state
      cases phase with
      | idle | stopped failure =>
          cases step
          exact reaches_untouched numbered rfl (Or.inl rfl) simulated computed
      | _ => cases step
  | tick tick =>
      exact advance_reaches configured numbered simulated computed step
  | crash =>
      cases step
      cases OptimizationWorker.heldKey state.phase with
      | none => exact reaches_untouched numbered rfl (Or.inr rfl) rfl computed
      | some key =>
          exact reaches_untouched numbered rfl (Or.inr rfl) rfl
            ⟨computed.stored, computed.results⟩

/-- What a worker knows depends on no simulator but its own. -/
theorem PhaseSimulated.of_same {phase : Phase Simulators}
    {before after : Simulators}
    (simulated : PhaseSimulated cases graph recursionLimit mine before phase)
    (same : ∀ number, mine = some number →
      after.policies number = before.policies number) :
    PhaseSimulated cases graph recursionLimit mine after phase := by
  cases phase with
  | running task key environment =>
      obtain ⟨number, benchmark, own, isSimulator, found, unused⟩ := simulated
      exact ⟨number, benchmark, own, isSimulator, found,
        (same number own).trans unused⟩
  | _ => exact simulated

end

/-- In a pool no two workers have one simulator, and all results are those of
the cases by themselves. -/
structure PoolSimulated {ι : Type} (cases : OrderedDict String BenchmarkCase)
    (graph : WorkloadOptimizationGraph) (recursionLimit : Nat)
    (state : PoolState ι Simulators) : Prop where
  shared : SharedComputed cases graph recursionLimit state.shared
  owners : ∃ mine held, @Exclusive ι Nat mine held ∧
    (∀ number ∈ held, number < state.shared.world.created) ∧
    ∀ worker, PhaseSimulated cases graph recursionLimit (mine worker)
      state.shared.world (state.workers worker).phase

/-- A pool that has not done anything yet. -/
def newPool {ι : Type} (simulators : Simulators) : PoolState ι Simulators :=
  ⟨fun _ => {}, { world := simulators }⟩

section

variable {ι : Type} [DecidableEq ι]
  {cases : OrderedDict String BenchmarkCase}
  {graph : WorkloadOptimizationGraph} {recursionLimit : Nat}
  {workers : ι → OptimizationWorker Simulators}

theorem poolStep_simulated
    (configured : ∀ worker,
      Configured cases graph recursionLimit (workers worker))
    {state next : PoolState ι Simulators} {worker : ι}
    {action : OptimizationWorker.Action}
    (simulated : PoolSimulated cases graph recursionLimit state)
    (step : poolStep workers state (.act worker action) = some next) :
    PoolSimulated cases graph recursionLimit next := by
  obtain ⟨acted, rest⟩ := poolStep_act step
  obtain ⟨computed, mine, held, exclusive, numbered, phases⟩ := simulated
  obtain ⟨later, heldAfter, moves, phase, sharedAfter⟩ :=
    act_reaches (configured worker) numbered (phases worker) computed acted
  have others : ∀ other, other ≠ worker →
      Function.update mine worker later other = mine other :=
    fun other different => Function.update_of_ne different later mine
  have own : Function.update mine worker later worker = later :=
    Function.update_self worker later mine
  refine ⟨sharedAfter, Function.update mine worker later, heldAfter,
    exclusive.move (own.symm ▸ moves.move) others, moves.numbered, ?_⟩
  intro other
  by_cases same : other = worker
  · rw [same, own]
    exact phase
  · rw [others other same, rest other same]
    apply (phases other).of_same
    intro number owned
    apply moves.others number (exclusive.recorded other number owned)
    intro taken
    exact same (exclusive.exclusive other worker number owned taken)

/-- The workers take their steps in any order.  A graph runs in one step: its
calls reach a simulator that only its worker has. -/
def benchmarkStep (workers : ι → OptimizationWorker Simulators)
    (state : PoolState ι Simulators) (label : ι × OptimizationWorker.Action) :
    Option (PoolState ι Simulators) :=
  poolStep workers state (.act label.1 label.2)

/-- Wherever the workers get, every result is that of its case by itself. -/
theorem benchmark_computes
    (configured : ∀ worker,
      Configured cases graph recursionLimit (workers worker))
    {simulators : Simulators}
    {actions : List (ι × OptimizationWorker.Action)}
    {final : PoolState ι Simulators}
    (played : play (benchmarkStep workers) (newPool simulators) actions =
      some final) :
    SharedComputed cases graph recursionLimit final.shared := by
  have opened : PoolSimulated cases graph recursionLimit
      (newPool simulators : PoolState ι Simulators) := by
    refine ⟨⟨?_, ?_⟩, fun _ => none, [], ?_, ?_, fun _ => rfl⟩
    · intro taskId payload present
      cases present
    · intro result member
      cases member
    · exact Exclusive.initial fun _ => rfl
    · intro number member
      cases member
  have reached := @invariant_play _ _ (benchmarkStep workers)
    (fun _ _ => True) (PoolSimulated cases graph recursionLimit)
    (fun _ _ _ simulated _ step =>
      poolStep_simulated configured simulated step)
    _ _ _ opened (meets_of_forall (fun _ _ _ => trivial) _) played
  exact reached.shared

end

end Kuber.Judge

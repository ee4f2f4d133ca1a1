import Kuber.Event.Worker

/-!
# What one step of a worker can do

Some phases make one call and go on by its fate; the others decide by what
they find.  Each way to go on has a name here, so that no invariant has to
look into the definition of a step.
-/

namespace Kuber.Event

open Kuber.Library Kuber.Rules Kuber.Agent OptimizationWorker

variable {σ : Type}

/-- The next step is one call of the bus, the store or the lock manager. -/
def Phase.calls : Phase σ → Bool
  | .rejecting .. => true
  | .republishing .. => true
  | .acknowledgingDuplicate _ => true
  | .storing .. => true
  | .publishing .. => true
  | .acknowledging .. => true
  | .releasing .. => true
  | .retrying .. => true
  | .deadLettering .. => true
  | _ => false

/-- How a worker goes on from a phase that decides. -/
inductive Decides (worker : OptimizationWorker σ) (tick : Tick)
    (stats : WorkerStats) (shared : Shared σ) :
    Phase σ → WorkerState σ × Shared σ → Prop where
  | validated {message : ConsumedEvent} (task : Task)
      (valid : worker.validate message = .ok task) :
      Decides worker tick stats shared (.validating message)
        (⟨.lookingUp task, stats⟩, shared)
  | rejected {message : ConsumedEvent} (reason : String) :
      Decides worker tick stats shared (.validating message)
        (⟨.rejecting message reason,
          { stats with failed := stats.failed + 1 }⟩, shared)
  | unexpected {message : ConsumedEvent} (failure : PyException) :
      Decides worker tick stats shared (.validating message)
        (⟨.stopped failure, stats⟩, shared)
  | found {task : Task} (payload : Document)
      (present : shared.store.get? task.taskId = some payload) :
      Decides worker tick stats shared (.lookingUp task)
        (⟨.republishing task payload,
          { stats with duplicates := stats.duplicates + 1 }⟩, shared)
  | missed {task : Task} (key : String)
      (absent : shared.store.get? task.taskId = none)
      (keyed : KeyOf worker task key) :
      Decides worker tick stats shared (.lookingUp task)
        (⟨.locking task key, stats⟩, shared)
  | unlooked {task : Task} (failure : PyException) :
      Decides worker tick stats shared (.lookingUp task)
        (⟨.stopped failure, stats⟩, shared)
  | acquired {task : Task} {key : String} (free : key ∉ shared.held) :
      Decides worker tick stats shared (.locking task key)
        (⟨.creating task key, stats⟩, shared.lock key)
  | unacquired {task : Task} {key : String} (failure : PyException) :
      Decides worker tick stats shared (.locking task key)
        (⟨.recovering task none failure, stats⟩, shared)
  | created {task : Task} {key : String}
      (environment : EnvironmentAdapter σ) (world : σ)
      (made : worker.environmentFactory task.message.event task.context
        shared.world = (.ok environment, world)) :
      Decides worker tick stats shared (.creating task key)
        (⟨.running task key environment, stats⟩,
          { shared with world := world })
  | uncreated {task : Task} {key : String} (failure : PyException)
      (world : σ) :
      Decides worker tick stats shared (.creating task key)
        (⟨.releasing task key none (some failure), stats⟩,
          { shared with world := world })
  | ran {task : Task} {key : String} {environment : EnvironmentAdapter σ}
      (repositoryRef : String) (execution : WorkloadExecution)
      (session : Session environment shared.world)
      (run : runFrom worker.graph worker.recursionLimit
        (task.request repositoryRef) tick.checkpoint environment
        shared.world = (.ok execution, session)) :
      Decides worker tick stats shared (.running task key environment)
        (⟨.storing task key environment
            (resultPayload worker task execution tick.seconds), stats⟩,
          { shared with
            world := session.environment
            executions := shared.executions ++ [execution] })
  | unnamed {task : Task} {key : String}
      {environment : EnvironmentAdapter σ} (failure : PyException)
      (unnamed : payloadText task.message.event.payload "repository_ref" =
        .error failure) :
      Decides worker tick stats shared (.running task key environment)
        (⟨.releasing task key (some environment) (some failure), stats⟩,
          shared)
  | raised {task : Task} {key : String}
      {environment : EnvironmentAdapter σ} (repositoryRef : String)
      (failure : PyException) (session : Session environment shared.world)
      (named : payloadText task.message.event.payload "repository_ref" =
        .ok repositoryRef)
      (run : runFrom worker.graph worker.recursionLimit
        (task.request repositoryRef) tick.checkpoint environment
        shared.world = (.error failure, session)) :
      Decides worker tick stats shared (.running task key environment)
        (⟨.releasing task key (some environment) (some failure), stats⟩,
          { shared with world := session.environment })
  | retries {task : Task} {environment : Option (EnvironmentAdapter σ)}
      {failure : PyException} (world : σ) :
      Decides worker tick stats shared (.recovering task environment failure)
        (⟨.retrying task failure,
          { stats with retried := stats.retried + 1 }⟩,
          { shared with world := world })
  | givesUp {task : Task} {environment : Option (EnvironmentAdapter σ)}
      {failure : PyException} (world : σ) :
      Decides worker tick stats shared (.recovering task environment failure)
        (⟨.deadLettering task failure,
          { stats with failed := stats.failed + 1 }⟩,
          { shared with world := world })

/-- A step from a phase that does not call is one of the named ways on. -/
theorem advance_decides {worker : OptimizationWorker σ} {tick : Tick}
    {phase : Phase σ} {stats : WorkerStats} {shared : Shared σ}
    {next : WorkerState σ × Shared σ} (decides : phase.calls = false)
    (step : worker.advance tick ⟨phase, stats⟩ shared = some next) :
    Decides worker tick stats shared phase next := by
  cases phase with
  | validating message =>
      simp only [OptimizationWorker.advance] at step
      split at step
      · rename_i task valid
        cases step
        exact .validated task valid
      · split at step
        · cases step
          exact .rejected _
        · cases step
          exact .unexpected _
  | lookingUp task =>
      simp only [OptimizationWorker.advance] at step
      split at step
      · cases step
        exact .unlooked _
      · rename_i payload _ present
        cases step
        exact .found payload present
      · cases step
        exact .unlooked _
      · rename_i key _ absent keyed
        cases step
        exact .missed key absent keyed
  | locking task key =>
      simp only [OptimizationWorker.advance] at step
      split at step
      · cases step
        exact .unacquired _
      · split at step
        · cases step
        · rename_i free
          cases step
          exact .acquired free
  | creating task key =>
      simp only [OptimizationWorker.advance] at step
      split at step
      · rename_i environment world made
        cases step
        exact .created environment world made
      · cases step
        exact .uncreated _ _
  | running task key environment =>
      simp only [OptimizationWorker.advance] at step
      split at step
      · rename_i failure unnamed
        cases step
        exact .unnamed failure unnamed
      · rename_i repositoryRef named
        split at step
        · rename_i execution session run
          cases step
          exact .ran repositoryRef execution session run
        · rename_i failure session run
          cases step
          exact .raised repositoryRef failure session named run
  | recovering task environment failure =>
      simp only [OptimizationWorker.advance] at step
      split at step
      · cases step
        exact .retries _
      · cases step
        exact .givesUp _
  | idle => cases step
  | stopped failure => cases step
  | _ => cases decides

namespace OptimizationWorker

variable {worker : OptimizationWorker σ} {tick : Tick} {task : Task}
  {key : String} {stats : WorkerStats} {shared : Shared σ}

theorem advance_locking_free (returned : tick.fate = .returns)
    (free : key ∉ shared.held) :
    worker.advance tick ⟨.locking task key, stats⟩ shared =
      some (⟨.creating task key, stats⟩, shared.lock key) := by
  simp only [OptimizationWorker.advance, returned, if_neg free]

theorem advance_locking_raises {failure : PyException} {landed : Bool}
    (raised : tick.fate = .raises failure landed) :
    worker.advance tick ⟨.locking task key, stats⟩ shared =
      some (⟨.recovering task none failure, stats⟩, shared) := by
  simp only [OptimizationWorker.advance, raised]

theorem advance_creating_ok {environment : EnvironmentAdapter σ} {world : σ}
    (made : worker.environmentFactory task.message.event task.context
      shared.world = (.ok environment, world)) :
    worker.advance tick ⟨.creating task key, stats⟩ shared =
      some (⟨.running task key environment, stats⟩,
        { shared with world := world }) := by
  simp only [OptimizationWorker.advance, made]

theorem advance_creating_error {failure : PyException} {world : σ}
    (made : worker.environmentFactory task.message.event task.context
      shared.world = (.error failure, world)) :
    worker.advance tick ⟨.creating task key, stats⟩ shared =
      some (⟨.releasing task key none (some failure), stats⟩,
        { shared with world := world }) := by
  simp only [OptimizationWorker.advance, made]

variable {environment : EnvironmentAdapter σ} {repositoryRef : String}

theorem advance_running_unnamed {failure : PyException}
    (named : payloadText task.message.event.payload "repository_ref" =
      .error failure) :
    worker.advance tick ⟨.running task key environment, stats⟩ shared =
      some (⟨.releasing task key (some environment) (some failure), stats⟩,
        shared) := by
  simp only [OptimizationWorker.advance, named]

theorem advance_running_error {failure : PyException}
    {session : Session environment shared.world}
    (named : payloadText task.message.event.payload "repository_ref" =
      .ok repositoryRef)
    (run : runFrom worker.graph worker.recursionLimit
      (task.request repositoryRef) tick.checkpoint environment shared.world =
        (.error failure, session)) :
    worker.advance tick ⟨.running task key environment, stats⟩ shared =
      some (⟨.releasing task key (some environment) (some failure), stats⟩,
        { shared with world := session.environment }) := by
  simp only [OptimizationWorker.advance, named, run]

theorem advance_running_ok {execution : WorkloadExecution}
    {session : Session environment shared.world}
    (named : payloadText task.message.event.payload "repository_ref" =
      .ok repositoryRef)
    (run : runFrom worker.graph worker.recursionLimit
      (task.request repositoryRef) tick.checkpoint environment shared.world =
        (.ok execution, session)) :
    worker.advance tick ⟨.running task key environment, stats⟩ shared =
      some (⟨.storing task key environment
          (resultPayload worker task execution tick.seconds), stats⟩,
        { shared with
          world := session.environment
          executions := shared.executions ++ [execution] }) := by
  simp only [OptimizationWorker.advance, named, run]

end OptimizationWorker

end Kuber.Event

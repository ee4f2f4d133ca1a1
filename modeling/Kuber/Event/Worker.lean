import Kuber.Agent.Outcome
import Kuber.Event.Contracts
import Kuber.Library.OrderedDict
import Kuber.Rules.Canonicalizer

/-!
# The optimization worker

`process` as a machine: one phase before every call that may fail, be delayed
or be the last thing a worker does before it dies.  A call that raises may
have taken effect all the same.  The graph runs in one step, on the part of
the world that the environment of the task acts on.
-/

namespace Kuber.Event

open Kuber.Library Kuber.Rules Kuber.Agent

structure IndexedServiceContext where
  contextRef : String
  serviceId : String
deriving DecidableEq, Repr

/-- The configuration of a worker. -/
structure OptimizationWorker (σ : Type) where
  workerId : String
  contextStore : String → Except PyException (Option IndexedServiceContext)
  environmentFactory : EventEnvelope → IndexedServiceContext →
    Raising PyException σ (EnvironmentAdapter σ)
  graph : WorkloadOptimizationGraph
  recursionLimit : Nat := WorkloadOptimizationGraph.defaultRecursionLimit
  cluster : String := "kind-kuber"
  maxDeliveryAttempts : Int := 3

structure WorkerStats where
  claimed : Nat := 0
  completed : Nat := 0
  failed : Nat := 0
  retried : Nat := 0
  duplicates : Nat := 0
deriving DecidableEq, Repr

/-- A validated task. -/
structure Task where
  message : ConsumedEvent
  taskId : String
  workloadId : String
  «namespace» : String
  context : IndexedServiceContext

/-- `payload[name]`, as a text. -/
def payloadText (payload : Document) (name : String) :
    Except PyException String :=
  match payload.lookup name with
  | some value => .ok value.str
  | none => .error (.keyError name)

def checkEventType (event : EventEnvelope) : Except PyException Unit :=
  if event.eventType ≠ .workloadOptimizationRequested then
    .error (.valueError ("unexpected event type " ++ event.eventType.value))
  else .ok ()

def checkIdentifiers (texts : List String) : Except PyException Unit :=
  if "" ∈ texts then
    .error (.valueError "task identifiers must not be empty")
  else .ok ()

def requireContext (contextRef : String) :
    Option IndexedServiceContext → Except PyException IndexedServiceContext
  | some context => .ok context
  | none => .error (.valueError ("unknown context_ref " ++ contextRef))

def checkOwner (context : IndexedServiceContext) (workloadId : String) :
    Except PyException Unit :=
  if context.serviceId ≠ workloadId then
    .error (.valueError "context belongs to a different workload")
  else .ok ()

/-- `workload_lock_key`. -/
def workloadLockKey (cluster scope workloadId : String) :
    Except PyException String :=
  if [cluster, scope, workloadId].any
      (fun value => decide (value = "" ∨ ':' ∈ value.toList)) then
    .error (.valueError
      "lock key components must be non-empty and may not contain ':'")
  else .ok (":".intercalate [cluster, scope, workloadId])

variable {σ : Type}

/-- `_validate`. -/
def OptimizationWorker.validate (worker : OptimizationWorker σ)
    (message : ConsumedEvent) : Except PyException Task := do
  checkEventType message.event
  let taskId ← payloadText message.event.payload "task_id"
  let workloadId ← payloadText message.event.payload "workload_id"
  let scope ← payloadText message.event.payload "namespace"
  let contextRef ← payloadText message.event.payload "context_ref"
  checkIdentifiers [taskId, workloadId, scope, contextRef]
  let found ← worker.contextStore contextRef
  let context ← requireContext contextRef found
  checkOwner context workloadId
  return ⟨message, taskId, workloadId, scope, context⟩

/-- The lock key of the workload that a task is about. -/
def KeyOf (worker : OptimizationWorker σ) (task : Task) (key : String) :
    Prop :=
  workloadLockKey worker.cluster task.namespace task.workloadId = .ok key

/-- A permission that still carries a high risk. -/
def highRiskPermission (permission : Permission) : Bool :=
  decide (permission.verb = "*" ∨ permission.resource = "*" ∨
    permission.resource = "secrets" ∨
    permission.verb ∈ ["create", "delete"])

/-- The payload of a result; the processing time is a printed number. -/
def resultPayload (worker : OptimizationWorker σ) (task : Task)
    (execution : WorkloadExecution) (seconds : String) : Document :=
  [("task_id", .string task.taskId),
    ("workload_id", .string task.workloadId),
    ("worker_id", .string worker.workerId),
    ("accepted", .bool execution.accepted),
    ("repairs", .int execution.repairIterations),
    ("original_risk", .int execution.originalRisk.score),
    ("final_risk", .int execution.finalRisk.score),
    ("original_permissions",
      .int (effectivePermissionCount execution.originalPolicy)),
    ("final_permissions",
      .int (effectivePermissionCount execution.finalPolicy)),
    ("high_risk_permissions_remaining",
      .int (execution.finalPolicy.permissions.countP highRiskPermission)),
    ("cluster_wide_grants_remaining",
      .int ((expandPolicy execution.finalPolicy).permissions.countP
        fun permission => decide (permission.namespace = none))),
    ("incorrect_removals", .int execution.incorrectRemovals),
    ("tests_passed", .int execution.verification.testsPassed),
    ("tests_total", .int execution.verification.testsTotal),
    ("processing_seconds", .float seconds)]

/-- `bool(payload.get("accepted"))`. -/
def accepted (payload : Document) : Bool := (payload.field "accepted").truthy

/-- The call that `process` makes next. -/
inductive Phase (σ : Type) where
  | idle
  | validating (message : ConsumedEvent)
  | rejecting (message : ConsumedEvent) (reason : String)
  | lookingUp (task : Task)
  | republishing (task : Task) (payload : Document)
  | acknowledgingDuplicate (task : Task)
  | locking (task : Task) (key : String)
  | creating (task : Task) (key : String)
  | running (task : Task) (key : String) (environment : EnvironmentAdapter σ)
  | storing (task : Task) (key : String) (environment : EnvironmentAdapter σ)
      (payload : Document)
  | publishing (task : Task) (key : String)
      (environment : EnvironmentAdapter σ) (payload : Document)
  | acknowledging (task : Task) (key : String)
      (environment : EnvironmentAdapter σ)
  | releasing (task : Task) (key : String)
      (environment : Option (EnvironmentAdapter σ))
      (failure : Option PyException)
  | recovering (task : Task) (environment : Option (EnvironmentAdapter σ))
      (failure : PyException)
  | retrying (task : Task) (failure : PyException)
  | deadLettering (task : Task) (failure : PyException)
  | stopped (failure : PyException)

/-- A result on the results topic.  `origin` is the record of the request it
answers; it is bookkeeping that no function reads. -/
structure PublishedResult where
  key : String
  event : EventEnvelope
  origin : Nat

/-- What workers share: the part of the world that environments act on, the
deduplication store, the topics and the locks, and the executions so far,
which are bookkeeping as well.  No step of a worker empties the store;
`forget` is what a `RedisDeduplicationStore` does after `ttl_seconds`. -/
structure Shared (σ : Type) where
  world : σ
  store : OrderedDict String Document := .empty
  results : List PublishedResult := []
  deadLetters : List (ConsumedEvent × String) := []
  retries : List ConsumedEvent := []
  acknowledged : List Nat := []
  held : List String := []
  executions : List WorkloadExecution := []

structure WorkerState (σ : Type) where
  phase : Phase σ := .idle
  stats : WorkerStats := {}

/-- What becomes of a call: it raises before or after it took effect, or it
returns. -/
inductive Fate where
  | returns
  | raises (failure : PyException) (landed : Bool)

/-- The circumstances of one step: the fate of its call, the stamp of a new
event, the processing time, and the checkpoint that an earlier run of the
graph has left. -/
structure Tick where
  fate : Fate := .returns
  stamp : Stamp := ⟨"0", "", zero_ne_empty⟩
  seconds : String := "0.0"
  checkpoint : WorkloadGraphState := emptyThread

/-- The state reached by a call that takes effect through `effect`. -/
def Fate.call (fate : Fate) (effect : Shared σ → Shared σ)
    (shared : Shared σ) (returned : WorkerState σ)
    (raised : PyException → WorkerState σ) : WorkerState σ × Shared σ :=
  match fate with
  | .returns => (returned, effect shared)
  | .raises failure landed =>
      (raised failure, if landed then effect shared else shared)

/-- A call returned, raised without effect, or raised after its effect. -/
theorem Fate.call_cases {fate : Fate} {effect : Shared σ → Shared σ}
    {shared : Shared σ} {returned : WorkerState σ}
    {raised : PyException → WorkerState σ} {next : WorkerState σ × Shared σ}
    {property : WorkerState σ × Shared σ → Prop}
    (step : some (fate.call effect shared returned raised) = some next)
    (onReturn : fate = .returns → property (returned, effect shared))
    (onRaise : ∀ failure, fate = .raises failure false →
      property (raised failure, shared))
    (onLanded : ∀ failure, fate = .raises failure true →
      property (raised failure, effect shared)) : property next := by
  cases fate with
  | returns =>
      cases step
      exact onReturn rfl
  | raises failure landed =>
      cases landed with
      | false =>
          cases step
          exact onRaise failure rfl
      | true =>
          cases step
          exact onLanded failure rfl

namespace Shared

def put (taskId : String) (payload : Document) (shared : Shared σ) :
    Shared σ :=
  { shared with store := shared.store.set taskId payload }

def forget (taskId : String) (shared : Shared σ) : Shared σ :=
  { shared with store := shared.store.erase taskId }

def publish (task : Task) (payload : Document) (stamp : Stamp)
    (shared : Shared σ) : Shared σ :=
  { shared with
    results := shared.results ++ [⟨task.message.key,
      task.message.event.answer .workloadOptimizationCompleted payload stamp,
      task.message.record⟩] }

def acknowledge (message : ConsumedEvent) (shared : Shared σ) : Shared σ :=
  { shared with acknowledged := shared.acknowledged ++ [message.record] }

def retry (message : ConsumedEvent) (stamp : Stamp) (shared : Shared σ) :
    Shared σ :=
  { shared with retries := shared.retries ++ [message.retried stamp] }

/-- A dead letter also acknowledges the message. -/
def deadLetter (message : ConsumedEvent) (reason : String)
    (shared : Shared σ) : Shared σ :=
  { shared with
    deadLetters := shared.deadLetters ++ [(message, reason)]
    acknowledged := shared.acknowledged ++ [message.record] }

def lock (key : String) (shared : Shared σ) : Shared σ :=
  { shared with held := key :: shared.held }

def release (key : String) (shared : Shared σ) : Shared σ :=
  { shared with held := shared.held.erase key }

end Shared

/-- The text of an exception. -/
def exceptionText (failure : PyException) : String :=
  if failure.kind = .keyError then Json.quoteText failure.message
  else failure.message

/-- The arguments of a graph run. -/
def Task.request (task : Task) (repositoryRef : String) : WorkloadRequest where
  runId := task.message.event.runId
  taskId := some task.taskId
  workloadId := some task.workloadId
  contextRef := task.context.contextRef
  repositoryRef := repositoryRef

namespace OptimizationWorker

/-- One step of `process`; a held lock blocks, and an idle or stopped worker
has no step. -/
def advance (worker : OptimizationWorker σ) (tick : Tick)
    (state : WorkerState σ) (shared : Shared σ) :
    Option (WorkerState σ × Shared σ) :=
  let stats := state.stats
  let enter (phase : Phase σ) : WorkerState σ := ⟨phase, stats⟩
  let stop (failure : PyException) := enter (.stopped failure)
  match state.phase with
  | .idle => none
  | .stopped _ => none
  | .validating message =>
      match worker.validate message with
      | .ok task => some (enter (.lookingUp task), shared)
      | .error failure =>
          if failure.kind = .keyError ∨ failure.kind.isValueError = true then
            some (⟨.rejecting message
              ("invalid task: " ++ exceptionText failure),
              { stats with failed := stats.failed + 1 }⟩, shared)
          else some (stop failure, shared)
  | .rejecting message reason =>
      some (tick.fate.call (Shared.deadLetter message reason) shared
        (enter .idle) stop)
  | .lookingUp task =>
      match tick.fate, shared.store.get? task.taskId,
        workloadLockKey worker.cluster task.namespace task.workloadId with
      | .raises failure _, _, _ => some (stop failure, shared)
      | .returns, some payload, _ =>
          some (⟨.republishing task payload,
            { stats with duplicates := stats.duplicates + 1 }⟩, shared)
      | .returns, none, .error failure => some (stop failure, shared)
      | .returns, none, .ok key => some (enter (.locking task key), shared)
  | .republishing task payload =>
      some (tick.fate.call (Shared.publish task payload tick.stamp) shared
        (enter (.acknowledgingDuplicate task)) stop)
  | .acknowledgingDuplicate task =>
      some (tick.fate.call (Shared.acknowledge task.message) shared
        (enter .idle) stop)
  | .locking task key =>
      -- a failed acquisition holds nothing
      match tick.fate with
      | .raises failure _ =>
          some (enter (.recovering task none failure), shared)
      | .returns =>
          if key ∈ shared.held then none
          else some (enter (.creating task key), shared.lock key)
  | .creating task key =>
      match worker.environmentFactory task.message.event task.context
        shared.world with
      | (.ok environment, world) =>
          some (enter (.running task key environment),
            { shared with world := world })
      | (.error failure, world) =>
          some (enter (.releasing task key none (some failure)),
            { shared with world := world })
  | .running task key environment =>
      match payloadText task.message.event.payload "repository_ref" with
      | .error failure =>
          some (enter (.releasing task key (some environment)
            (some failure)), shared)
      | .ok repositoryRef =>
          match runFrom worker.graph worker.recursionLimit
            (task.request repositoryRef) tick.checkpoint environment
            shared.world with
          | (.ok execution, session) =>
              some (enter (.storing task key environment
                  (resultPayload worker task execution tick.seconds)),
                { shared with
                  world := session.environment
                  executions := shared.executions ++ [execution] })
          | (.error failure, session) =>
              some (enter (.releasing task key (some environment)
                (some failure)),
                { shared with world := session.environment })
  | .storing task key environment payload =>
      some (tick.fate.call (Shared.put task.taskId payload) shared
        (enter (.publishing task key environment payload))
        fun failure => enter (.releasing task key (some environment)
          (some failure)))
  | .publishing task key environment payload =>
      some (tick.fate.call (Shared.publish task payload tick.stamp) shared
        (enter (.acknowledging task key environment))
        fun failure => enter (.releasing task key (some environment)
          (some failure)))
  | .acknowledging task key environment =>
      some (tick.fate.call (Shared.acknowledge task.message) shared
        ⟨.releasing task key (some environment) none,
          { stats with completed := stats.completed + 1 }⟩
        fun failure => enter (.releasing task key (some environment)
          (some failure)))
  | .releasing task key environment failure =>
      some (tick.fate.call (Shared.release key) shared
        (enter (failure.elim .idle (.recovering task environment)))
        fun raised => enter (.recovering task environment raised))
  | .recovering task environment failure =>
      let world := environment.elim shared.world
        fun adapter => (adapter.restorePolicy shared.world).2
      if (task.message.event.attempt : Int) + 1 < worker.maxDeliveryAttempts
      then
        some (⟨.retrying task failure,
          { stats with retried := stats.retried + 1 }⟩,
          { shared with world := world })
      else
        some (⟨.deadLettering task failure,
          { stats with failed := stats.failed + 1 }⟩,
          { shared with world := world })
  | .retrying task _ =>
      some (tick.fate.call (Shared.retry task.message tick.stamp) shared
        (enter .idle) stop)
  | .deadLettering task failure =>
      some (tick.fate.call (Shared.deadLetter task.message
        (failure.kind.name ++ ": " ++ exceptionText failure)) shared
        (enter .idle) stop)

/-- What a worker does next: claim a message, go on, or die.  A worker that
dies loses its lock; a stopped one is started again when it claims. -/
inductive Action where
  | claim (message : ConsumedEvent)
  | tick (tick : Tick)
  | crash

/-- The lock that a worker holds in a phase. -/
def heldKey : Phase σ → Option String
  | .creating _ key => some key
  | .running _ key _ => some key
  | .storing _ key _ _ => some key
  | .publishing _ key _ _ => some key
  | .acknowledging _ key _ => some key
  | .releasing _ key _ _ => some key
  | _ => none

def terminated : PyException := ⟨.other "Terminated", ""⟩

def act (worker : OptimizationWorker σ) (action : Action)
    (state : WorkerState σ) (shared : Shared σ) :
    Option (WorkerState σ × Shared σ) :=
  match action with
  | .tick tick => worker.advance tick state shared
  | .crash =>
      some (⟨.stopped terminated, state.stats⟩,
        (heldKey state.phase).elim shared shared.release)
  | .claim message =>
      match state.phase with
      | .idle | .stopped _ =>
          some (⟨.validating message,
            { state.stats with claimed := state.stats.claimed + 1 }⟩, shared)
      | _ => none

end OptimizationWorker

end Kuber.Event

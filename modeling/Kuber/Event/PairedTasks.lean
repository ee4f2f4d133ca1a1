import Kuber.Event.WorkerPool

/-!
# Tasks that are named after their workloads

A coordinator names a task after its run and its workload.  If all requests
are named like that then all results are, so that a result says which workload
it is about by the name of its task.
-/

namespace Kuber.Event

open Kuber.Library Kuber.Rules Kuber.Agent OptimizationWorker

variable {ι σ : Type}

section

variable (runId : String)

/-- The payload names a task after its workload. -/
def Paired (payload : Document) : Prop :=
  ∃ workloadId,
    payload.lookup "task_id" = some (.string (runId ++ ":" ++ workloadId)) ∧
      payload.lookup "workload_id" = some (.string workloadId)

structure TaskPaired (task : Task) : Prop where
  named : task.taskId = runId ++ ":" ++ task.workloadId
  message : Paired runId task.message.event.payload

def PhasePaired : Phase σ → Prop
  | .idle => True
  | .stopped _ => True
  | .validating message => Paired runId message.event.payload
  | .rejecting _ _ => True
  | .lookingUp task => TaskPaired runId task
  | .republishing _ payload => Paired runId payload
  | .acknowledgingDuplicate _ => True
  | .locking task _ => TaskPaired runId task
  | .creating task _ => TaskPaired runId task
  | .running task _ _ => TaskPaired runId task
  | .storing task _ _ payload => TaskPaired runId task ∧ Paired runId payload
  | .publishing task _ _ payload =>
      TaskPaired runId task ∧ Paired runId payload
  | .acknowledging task _ _ => TaskPaired runId task
  | .releasing task _ _ _ => TaskPaired runId task
  | .recovering task _ _ => TaskPaired runId task
  | .retrying task _ => TaskPaired runId task
  | .deadLettering _ _ => True

structure SharedPaired (shared : Shared σ) : Prop where
  retries : ∀ message ∈ shared.retries, Paired runId message.event.payload
  stored : ∀ taskId payload, shared.store.get? taskId = some payload →
    Paired runId payload
  results : ∀ result ∈ shared.results, Paired runId result.event.payload

/-- A worker and what it shares. -/
def WorkerPaired (state : WorkerState σ × Shared σ) : Prop :=
  SharedPaired runId state.2 ∧ PhasePaired runId state.1.phase

structure PoolPaired (state : PoolState ι σ) : Prop where
  shared : SharedPaired runId state.shared
  phases : ∀ worker, PhasePaired runId (state.workers worker).phase

end

section

variable {runId : String} {worker : OptimizationWorker σ} {tick : Tick}
  {shared : Shared σ} {task : Task} {payload : Document}
  {state : WorkerState σ} {next : WorkerState σ × Shared σ}

theorem payloadText_of_lookup {name text : String}
    (present : payload.lookup name = some (.string text)) :
    payloadText payload name = .ok text := by
  rw [payloadText, present]
  rfl

theorem validate_paired {message : ConsumedEvent}
    (paired : Paired runId message.event.payload)
    (valid : worker.validate message = .ok task) :
    TaskPaired runId task := by
  have workload := validate_workload valid
  obtain ⟨rfl, named⟩ := validate_ok valid
  obtain ⟨workloadId, isTask, isWorkload⟩ := id paired
  refine ⟨?_, paired⟩
  rw [payloadText_of_lookup isTask] at named
  rw [payloadText_of_lookup isWorkload] at workload
  rw [← Except.ok.inj named, ← Except.ok.inj workload]

theorem TaskPaired.resultPayload (paired : TaskPaired runId task)
    (execution : WorkloadExecution) (seconds : String) :
    Paired runId (resultPayload worker task execution seconds) := by
  refine ⟨task.workloadId, ?_, rfl⟩
  rw [← paired.named]
  rfl

namespace SharedPaired

theorem put (paired : SharedPaired runId shared) (new : Paired runId payload) :
    SharedPaired runId (shared.put task.taskId payload) := by
  refine ⟨paired.retries, ?_, paired.results⟩
  intro taskId found present
  rw [Shared.put, OrderedDict.get?_set] at present
  split at present
  · cases present
    exact new
  · exact paired.stored taskId found present

theorem publish (paired : SharedPaired runId shared)
    (new : Paired runId payload) (stamp : Stamp) :
    SharedPaired runId (shared.publish task payload stamp) := by
  refine ⟨paired.retries, paired.stored, ?_⟩
  intro result member
  rcases List.mem_append.mp member with before | added
  · exact paired.results result before
  · rw [List.mem_singleton.mp added]
    exact new

theorem retry {message : ConsumedEvent} (paired : SharedPaired runId shared)
    (delivered : Paired runId message.event.payload) (stamp : Stamp) :
    SharedPaired runId (shared.retry message stamp) := by
  refine ⟨?_, paired.stored, paired.results⟩
  intro other member
  rcases List.mem_append.mp member with before | added
  · exact paired.retries other before
  · rw [List.mem_singleton.mp added]
    exact delivered

end SharedPaired

theorem call_paired {fate : Fate} {effect : Shared σ → Shared σ}
    {returned : WorkerState σ} {raised : PyException → WorkerState σ}
    (step : some (fate.call effect shared returned raised) = some next)
    (paired : SharedPaired runId shared)
    (later : SharedPaired runId (effect shared))
    (onReturn : PhasePaired runId returned.phase)
    (onRaise : ∀ failure, PhasePaired runId (raised failure).phase) :
    WorkerPaired runId next := by
  apply Fate.call_cases step
  · exact fun _ => ⟨later, onReturn⟩
  · exact fun failure _ => ⟨paired, onRaise failure⟩
  · exact fun failure _ => ⟨later, onRaise failure⟩

theorem advance_paired (paired : SharedPaired runId shared)
    (phasePaired : PhasePaired runId state.phase)
    (step : worker.advance tick state shared = some next) :
    WorkerPaired runId next := by
  have unchanged : ∀ {other : Shared σ}, other.retries = shared.retries →
      other.store = shared.store → other.results = shared.results →
        SharedPaired runId other := by
    intro other retries store results
    exact ⟨retries ▸ paired.retries, store ▸ paired.stored,
      results ▸ paired.results⟩
  obtain ⟨phase, stats⟩ := state
  cases phase with
  | idle => cases step
  | stopped failure => cases step
  | validating message =>
      cases advance_decides rfl step with
      | validated task valid =>
          exact ⟨paired, validate_paired phasePaired valid⟩
      | rejected reason => exact ⟨paired, trivial⟩
      | unexpected failure => exact ⟨paired, trivial⟩
  | rejecting message reason =>
      exact call_paired step paired (unchanged rfl rfl rfl) trivial
        fun _ => trivial
  | lookingUp task =>
      cases advance_decides rfl step with
      | found payload present =>
          exact ⟨paired, paired.stored _ _ present⟩
      | missed key absent keyed => exact ⟨paired, phasePaired⟩
      | unlooked failure => exact ⟨paired, trivial⟩
  | republishing task payload =>
      exact call_paired step paired (paired.publish phasePaired tick.stamp)
        trivial fun _ => trivial
  | acknowledgingDuplicate task =>
      exact call_paired step paired (unchanged rfl rfl rfl) trivial
        fun _ => trivial
  | locking task key =>
      cases advance_decides rfl step with
      | acquired free => exact ⟨unchanged rfl rfl rfl, phasePaired⟩
      | unacquired failure => exact ⟨paired, phasePaired⟩
  | creating task key =>
      cases advance_decides rfl step with
      | created environment world made =>
          exact ⟨unchanged rfl rfl rfl, phasePaired⟩
      | uncreated failure world => exact ⟨unchanged rfl rfl rfl, phasePaired⟩
  | running task key environment =>
      cases advance_decides rfl step with
      | ran repositoryRef execution session run =>
          exact ⟨unchanged rfl rfl rfl, phasePaired,
            phasePaired.resultPayload execution tick.seconds⟩
      | unnamed failure unnamed => exact ⟨paired, phasePaired⟩
      | raised repositoryRef failure session named run =>
          exact ⟨unchanged rfl rfl rfl, phasePaired⟩
  | storing task key environment payload =>
      obtain ⟨taskPaired, known⟩ := phasePaired
      exact call_paired step paired (paired.put known) ⟨taskPaired, known⟩
        fun _ => taskPaired
  | publishing task key environment payload =>
      obtain ⟨taskPaired, known⟩ := phasePaired
      exact call_paired step paired (paired.publish known tick.stamp)
        taskPaired fun _ => taskPaired
  | acknowledging task key environment =>
      exact call_paired step paired (unchanged rfl rfl rfl) phasePaired
        fun _ => phasePaired
  | releasing task key environment failure =>
      apply call_paired step paired (unchanged rfl rfl rfl)
      · cases failure with
        | none => trivial
        | some failure => exact phasePaired
      · exact fun _ => phasePaired
  | recovering task environment failure =>
      cases advance_decides rfl step with
      | retries world => exact ⟨unchanged rfl rfl rfl, phasePaired⟩
      | givesUp world => exact ⟨unchanged rfl rfl rfl, trivial⟩
  | retrying task failure =>
      exact call_paired step paired
        (paired.retry phasePaired.message tick.stamp) trivial fun _ => trivial
  | deadLettering task failure =>
      exact call_paired step paired (unchanged rfl rfl rfl) trivial
        fun _ => trivial

theorem act_paired {action : OptimizationWorker.Action}
    (paired : SharedPaired runId shared)
    (phasePaired : PhasePaired runId state.phase)
    (claims : ∀ message, action = .claim message →
      Paired runId message.event.payload)
    (step : worker.act action state shared = some next) :
    WorkerPaired runId next := by
  cases action with
  | claim message =>
      have delivered := claims message rfl
      obtain ⟨phase, stats⟩ := state
      cases phase with
      | idle =>
          cases step
          exact ⟨paired, delivered⟩
      | stopped failure =>
          cases step
          exact ⟨paired, delivered⟩
      | _ => cases step
  | tick tick => exact advance_paired paired phasePaired step
  | crash =>
      cases step
      cases heldKey state.phase with
      | none => exact ⟨paired, trivial⟩
      | some key =>
          exact ⟨⟨paired.retries, paired.stored, paired.results⟩, trivial⟩

end

theorem poolStep_paired [DecidableEq ι] {runId : String}
    {workers : ι → OptimizationWorker σ} {state next : PoolState ι σ}
    {worker : ι} {action : OptimizationWorker.Action}
    (paired : PoolPaired runId state)
    (claims : ∀ message, action = .claim message →
      Paired runId message.event.payload)
    (step : poolStep workers state (.act worker action) = some next) :
    PoolPaired runId next := by
  obtain ⟨acted, others⟩ := poolStep_act step
  obtain ⟨shared, phase⟩ :=
    act_paired paired.shared (paired.phases worker) claims acted
  refine ⟨shared, ?_⟩
  intro other
  by_cases same : other = worker
  · rw [same]
    exact phase
  · rw [others other same]
    exact paired.phases other

end Kuber.Event

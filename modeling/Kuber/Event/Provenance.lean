import Kuber.Event.WorkerStep

/-!
# Where results come from

Every result answers a request that was delivered, names the task of that
request and belongs to its run, however often requests are delivered and
whichever calls raise.  The requests are a parameter; nothing is assumed about
how they are delivered.
-/

namespace Kuber.Event

open Kuber.Library Kuber.Rules Kuber.Agent

variable {σ : Type}

/-- The payload of a result is about this task. -/
def Names (taskId : String) (payload : Document) : Prop :=
  payload.field "task_id" = .string taskId

section

-- there is a request at this record, of this run and with this payload
variable (requested : Nat → String → Document → Prop)

/-- A message delivers one of the requests, possibly once more. -/
def Delivers (message : ConsumedEvent) : Prop :=
  requested message.record message.event.runId message.event.payload

/-- The task of a delivered request. -/
def TaskTraced (task : Task) : Prop :=
  Delivers requested task.message ∧
    payloadText task.message.event.payload "task_id" = .ok task.taskId

def PhaseTraced : Phase σ → Prop
  | .idle => True
  | .stopped _ => True
  | .validating message => Delivers requested message
  | .rejecting message _ => Delivers requested message
  | .lookingUp task => TaskTraced requested task
  | .republishing task payload =>
      TaskTraced requested task ∧ Names task.taskId payload
  | .acknowledgingDuplicate task => TaskTraced requested task
  | .locking task _ => TaskTraced requested task
  | .creating task _ => TaskTraced requested task
  | .running task _ _ => TaskTraced requested task
  | .storing task _ _ payload =>
      TaskTraced requested task ∧ Names task.taskId payload
  | .publishing task _ _ payload =>
      TaskTraced requested task ∧ Names task.taskId payload
  | .acknowledging task _ _ => TaskTraced requested task
  | .releasing task _ _ _ => TaskTraced requested task
  | .recovering task _ _ => TaskTraced requested task
  | .retrying task _ => TaskTraced requested task
  | .deadLettering task _ => TaskTraced requested task

/-- A result names the task of a request, of the request's run. -/
def Answers (result : PublishedResult) : Prop :=
  ∃ payload taskId, requested result.origin result.event.runId payload ∧
    payloadText payload "task_id" = .ok taskId ∧
      Names taskId result.event.payload

/-- What workers share says where it comes from. -/
structure SharedTraced (shared : Shared σ) : Prop where
  retries : ∀ message ∈ shared.retries, Delivers requested message
  stored : ∀ taskId payload, shared.store.get? taskId = some payload →
    Names taskId payload
  results : ∀ result ∈ shared.results, Answers requested result

end

variable {requested : Nat → String → Document → Prop}
  {worker : OptimizationWorker σ} {shared : Shared σ} {stats : WorkerStats}
  {tick : Tick} {task : Task} {payload : Document}

theorem names_resultPayload (execution : WorkloadExecution)
    (seconds : String) :
    Names task.taskId (resultPayload worker task execution seconds) := rfl

theorem validate_ok {message : ConsumedEvent}
    (validated : worker.validate message = .ok task) :
    task.message = message ∧
      payloadText message.event.payload "task_id" = .ok task.taskId := by
  simp only [OptimizationWorker.validate, bind_eq_ok_iff, pure_eq_ok_iff]
    at validated
  obtain ⟨_, -, taskId, named, _, -, _, -, _, -, _, -, _, -, _, -, _, -, rfl⟩ :=
    validated
  exact ⟨rfl, named⟩

theorem validate_workload {message : ConsumedEvent}
    (validated : worker.validate message = .ok task) :
    payloadText task.message.event.payload "workload_id" =
      .ok task.workloadId := by
  simp only [OptimizationWorker.validate, bind_eq_ok_iff, pure_eq_ok_iff]
    at validated
  obtain ⟨_, -, _, -, workloadId, named, _, -, _, -, _, -, _, -, _, -, _, -,
    rfl⟩ := validated
  exact named

namespace SharedTraced

theorem put (traced : SharedTraced requested shared)
    (named : Names task.taskId payload) :
    SharedTraced requested (shared.put task.taskId payload) := by
  refine ⟨traced.retries, ?_, traced.results⟩
  intro taskId found present
  rw [Shared.put, OrderedDict.get?_set] at present
  split at present
  · rename_i same
    cases present
    exact same ▸ named
  · exact traced.stored taskId found present

theorem publish (traced : SharedTraced requested shared)
    (taskTraced : TaskTraced requested task)
    (named : Names task.taskId payload) (stamp : Stamp) :
    SharedTraced requested (shared.publish task payload stamp) := by
  refine ⟨traced.retries, traced.stored, ?_⟩
  intro result member
  rcases List.mem_append.mp member with before | new
  · exact traced.results result before
  · rw [List.mem_singleton.mp new]
    exact ⟨_, _, taskTraced.1, taskTraced.2, named⟩

theorem retry {message : ConsumedEvent}
    (traced : SharedTraced requested shared)
    (delivers : Delivers requested message) (stamp : Stamp) :
    SharedTraced requested (shared.retry message stamp) := by
  refine ⟨?_, traced.stored, traced.results⟩
  intro other member
  rcases List.mem_append.mp member with before | new
  · exact traced.retries other before
  · rw [List.mem_singleton.mp new]
    exact delivers

end SharedTraced

section

variable {more : Nat → String → Document → Prop}

/-- What delivers a request delivers one of more requests. -/
theorem TaskTraced.mono (traced : TaskTraced requested task)
    (implies : ∀ record runId payload, requested record runId payload →
      more record runId payload) : TaskTraced more task :=
  ⟨implies _ _ _ traced.1, traced.2⟩

theorem Answers.mono {result : PublishedResult}
    (answers : Answers requested result)
    (implies : ∀ record runId payload, requested record runId payload →
      more record runId payload) : Answers more result := by
  obtain ⟨payload, taskId, request, named, own⟩ := answers
  exact ⟨payload, taskId, implies _ _ _ request, named, own⟩

theorem SharedTraced.mono (traced : SharedTraced requested shared)
    (implies : ∀ record runId payload, requested record runId payload →
      more record runId payload) : SharedTraced more shared :=
  ⟨fun message member => implies _ _ _ (traced.retries message member),
    traced.stored,
    fun result member => (traced.results result member).mono implies⟩

theorem PhaseTraced.mono {phase : Phase σ}
    (traced : PhaseTraced requested phase)
    (implies : ∀ record runId payload, requested record runId payload →
      more record runId payload) : PhaseTraced more phase := by
  cases phase with
  | idle => trivial
  | stopped failure => trivial
  | validating message => exact implies _ _ _ traced
  | rejecting message reason => exact implies _ _ _ traced
  | republishing task payload => exact ⟨traced.1.mono implies, traced.2⟩
  | storing task key environment payload =>
      exact ⟨traced.1.mono implies, traced.2⟩
  | publishing task key environment payload =>
      exact ⟨traced.1.mono implies, traced.2⟩
  | _ => exact TaskTraced.mono traced implies

end

/-- A worker and what it shares. -/
def Traced (requested : Nat → String → Document → Prop)
    (state : WorkerState σ × Shared σ) : Prop :=
  SharedTraced requested state.2 ∧ PhaseTraced requested state.1.phase

/-- A call keeps track of where everything comes from when its effect does, and
the phases that it may end in. -/
theorem call_traced {fate : Fate} {effect : Shared σ → Shared σ}
    {returned : WorkerState σ} {raised : PyException → WorkerState σ}
    {next : WorkerState σ × Shared σ}
    (step : some (fate.call effect shared returned raised) = some next)
    (traced : SharedTraced requested shared)
    (later : SharedTraced requested (effect shared))
    (onReturn : PhaseTraced requested returned.phase)
    (onRaise : ∀ failure, PhaseTraced requested (raised failure).phase) :
    Traced requested next := by
  apply Fate.call_cases step
  · exact fun _ => ⟨later, onReturn⟩
  · exact fun failure _ => ⟨traced, onRaise failure⟩
  · exact fun failure _ => ⟨later, onRaise failure⟩

theorem advance_traced {state : WorkerState σ}
    {next : WorkerState σ × Shared σ}
    (traced : SharedTraced requested shared)
    (phaseTraced : PhaseTraced requested state.phase)
    (step : worker.advance tick state shared = some next) :
    Traced requested next := by
  obtain ⟨phase, stats⟩ := state
  cases phase with
  | idle => cases step
  | stopped failure => cases step
  | validating message =>
      cases advance_decides rfl step with
      | validated task valid =>
          obtain ⟨rfl, named⟩ := validate_ok valid
          exact ⟨traced, phaseTraced, named⟩
      | rejected reason => exact ⟨traced, phaseTraced⟩
      | unexpected failure => exact ⟨traced, trivial⟩
  | rejecting message reason =>
      have later : SharedTraced requested
          (shared.deadLetter message reason) :=
        ⟨traced.retries, traced.stored, traced.results⟩
      exact call_traced step traced later trivial fun _ => trivial
  | lookingUp task =>
      cases advance_decides rfl step with
      | found payload present =>
          exact ⟨traced, phaseTraced, traced.stored _ _ present⟩
      | missed key absent keyed => exact ⟨traced, phaseTraced⟩
      | unlooked failure => exact ⟨traced, trivial⟩
  | republishing task payload =>
      obtain ⟨taskTraced, named⟩ := phaseTraced
      have later := traced.publish taskTraced named tick.stamp
      exact call_traced step traced later taskTraced fun _ => trivial
  | acknowledgingDuplicate task =>
      have later : SharedTraced requested (shared.acknowledge task.message) :=
        ⟨traced.retries, traced.stored, traced.results⟩
      exact call_traced step traced later trivial fun _ => trivial
  | locking task key =>
      cases advance_decides rfl step with
      | acquired free =>
          exact ⟨⟨traced.retries, traced.stored, traced.results⟩, phaseTraced⟩
      | unacquired failure => exact ⟨traced, phaseTraced⟩
  | creating task key =>
      cases advance_decides rfl step with
      | created environment world made =>
          exact ⟨⟨traced.retries, traced.stored, traced.results⟩, phaseTraced⟩
      | uncreated failure world =>
          exact ⟨⟨traced.retries, traced.stored, traced.results⟩, phaseTraced⟩
  | running task key environment =>
      cases advance_decides rfl step with
      | ran repositoryRef execution session run =>
          exact ⟨⟨traced.retries, traced.stored, traced.results⟩, phaseTraced,
            names_resultPayload _ _⟩
      | unnamed failure unnamed => exact ⟨traced, phaseTraced⟩
      | raised repositoryRef failure session named run =>
          exact ⟨⟨traced.retries, traced.stored, traced.results⟩, phaseTraced⟩
  | storing task key environment payload =>
      obtain ⟨taskTraced, named⟩ := phaseTraced
      have later := traced.put named
      exact call_traced step traced later ⟨taskTraced, named⟩ fun _ => taskTraced
  | publishing task key environment payload =>
      obtain ⟨taskTraced, named⟩ := phaseTraced
      have later := traced.publish taskTraced named tick.stamp
      exact call_traced step traced later taskTraced fun _ => taskTraced
  | acknowledging task key environment =>
      have later : SharedTraced requested (shared.acknowledge task.message) :=
        ⟨traced.retries, traced.stored, traced.results⟩
      exact call_traced step traced later phaseTraced fun _ => phaseTraced
  | releasing task key environment failure =>
      have later : SharedTraced requested (shared.release key) :=
        ⟨traced.retries, traced.stored, traced.results⟩
      apply call_traced step traced later
      · cases failure with
        | none => trivial
        | some failure => exact phaseTraced
      · exact fun _ => phaseTraced
  | recovering task environment failure =>
      cases advance_decides rfl step with
      | retries world =>
          exact ⟨⟨traced.retries, traced.stored, traced.results⟩, phaseTraced⟩
      | givesUp world =>
          exact ⟨⟨traced.retries, traced.stored, traced.results⟩, phaseTraced⟩
  | retrying task failure =>
      have later := traced.retry phaseTraced.1 tick.stamp
      exact call_traced step traced later trivial fun _ => trivial
  | deadLettering task failure =>
      have later : ∀ reason, SharedTraced requested
          (shared.deadLetter task.message reason) :=
        fun _ => ⟨traced.retries, traced.stored, traced.results⟩
      exact call_traced step traced (later _) trivial fun _ => trivial

theorem act_traced {action : OptimizationWorker.Action}
    {state : WorkerState σ} {next : WorkerState σ × Shared σ}
    (traced : SharedTraced requested shared)
    (phaseTraced : PhaseTraced requested state.phase)
    (claims : ∀ message, action = .claim message →
      Delivers requested message)
    (step : worker.act action state shared = some next) :
    Traced requested next := by
  cases action with
  | claim message =>
      have delivers := claims message rfl
      simp only [OptimizationWorker.act] at step
      split at step
      · cases step
        exact ⟨traced, delivers⟩
      · cases step
        exact ⟨traced, delivers⟩
      · cases step
  | tick tick => exact advance_traced traced phaseTraced step
  | crash =>
      cases step
      cases OptimizationWorker.heldKey state.phase with
      | none => exact ⟨traced, trivial⟩
      | some key =>
          exact ⟨⟨traced.retries, traced.stored, traced.results⟩, trivial⟩

end Kuber.Event

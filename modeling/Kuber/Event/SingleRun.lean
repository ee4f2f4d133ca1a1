import Kuber.Event.LockScope
import Kuber.Library.SingleFlight
import Mathlib.Data.Fintype.Basic

/-!
# One run per task

Workers that share a deduplication store look a task up before they take its
lock, and not again under the lock.  The graph therefore runs once for a task
if no delivery looks it up while another one is between its own look and its
storing.
-/

namespace Kuber.Event

open Kuber.Library Kuber.Rules Kuber.Agent OptimizationWorker

variable {ι σ : Type}

/-- Some call of the attempt has raised. -/
def Phase.failed : Phase σ → Bool
  | .releasing _ _ _ (some _) => true
  | .recovering .. => true
  | .retrying .. => true
  | .deadLettering .. => true
  | .stopped _ => true
  | _ => false

/-- `Names`, as a test. -/
def namesTask (taskId : String) (payload : Document) : Bool :=
  match payload.field "task_id" with
  | .string value => value == taskId
  | _ => false

theorem namesTask_iff {taskId : String} {payload : Document} :
    namesTask taskId payload = true ↔ Names taskId payload := by
  rw [namesTask, Names]
  split
  · rename_i value named
    rw [named, beq_iff_eq, Json.string.injEq]
  · rename_i other
    constructor
    · intro impossible
      cases impossible
    · intro named
      exact absurd named (other taskId)

section

variable (taskId : String)

/-- How far a delivery of the task has got. -/
def flightOf : Phase σ → Flight Document
  | .republishing task payload =>
      if task.taskId = taskId then .answering payload else .away
  | .locking task _ => if task.taskId = taskId then .pending else .away
  | .creating task _ => if task.taskId = taskId then .pending else .away
  | .running task _ _ => if task.taskId = taskId then .pending else .away
  | .storing task _ _ payload =>
      if task.taskId = taskId then .computed payload else .away
  | .publishing task _ _ payload =>
      if task.taskId = taskId then .answering payload else .away
  | _ => .away

/-- What is stored and what has been answered for the task. -/
def flightRecord (shared : Shared σ) : FlightRecord Document where
  recorded := shared.store.get? taskId
  answers := (shared.results.map fun result => result.event.payload).filter
    (namesTask taskId)

/-- The next step in this phase looks the task up. -/
def looksIn : Phase σ → Bool
  | .lookingUp task => decide (task.taskId = taskId)
  | _ => false

/-- The next step in this phase executes the graph for the task. -/
def runsIn : Phase σ → Bool
  | .running task _ _ => decide (task.taskId = taskId)
  | _ => false

/-- The step looks the task up. -/
def Looks (state : PoolState ι σ) : PoolAction ι → Bool
  | .act worker (.tick _) => looksIn taskId (state.workers worker).phase
  | _ => false

/-- The step executes the graph for the task. -/
def Runs (state : PoolState ι σ) : PoolAction ι → Bool
  | .act worker (.tick _) => runsIn taskId (state.workers worker).phase
  | _ => false

end

/-- No call raises, and nobody dies. -/
def NoFailure [DecidableEq ι] (workers : ι → OptimizationWorker σ)
    (state : PoolState ι σ) (action : PoolAction ι) : Prop :=
  (poolStep workers state action).all
    (fun next => !(next.workers action.worker).phase.failed) = true

/-- The task is not looked up while another delivery of it has looked but not
yet stored a result. -/
def Serialized (taskId : String) (state : PoolState ι σ)
    (action : PoolAction ι) : Prop :=
  Looks taskId state action = true →
    ∀ other, ¬(flightOf taskId (state.workers other).phase).Aloft

section

variable {taskId : String} {shared : Shared σ} {task : Task}
  {payload : Document} {stamp : Stamp}

theorem flightRecord_put (own : task.taskId = taskId) :
    flightRecord taskId (shared.put task.taskId payload) =
      ⟨some payload, (flightRecord taskId shared).answers⟩ := by
  subst own
  simp only [flightRecord, Shared.put, OrderedDict.get?_set_self]

theorem flightRecord_put_other (other : task.taskId ≠ taskId) :
    flightRecord taskId (shared.put task.taskId payload) =
      flightRecord taskId shared := by
  have unequal : taskId ≠ task.taskId := fun same => other same.symm
  simp only [flightRecord, Shared.put,
    OrderedDict.get?_set_of_ne _ _ unequal]

theorem flightRecord_publish (own : task.taskId = taskId)
    (named : Names task.taskId payload) :
    flightRecord taskId (shared.publish task payload stamp) =
      ⟨(flightRecord taskId shared).recorded,
        (flightRecord taskId shared).answers ++ [payload]⟩ := by
  subst own
  simp only [flightRecord, Shared.publish, List.map_append, List.map_cons,
    List.map_nil, List.filter_append, EventEnvelope.answer,
    List.filter_singleton, namesTask_iff.mpr named, cond_true]

theorem flightRecord_publish_other (other : task.taskId ≠ taskId)
    (named : Names task.taskId payload) :
    flightRecord taskId (shared.publish task payload stamp) =
      flightRecord taskId shared := by
  have unnamed : namesTask taskId payload = false := by
    rw [Bool.eq_false_iff]
    intro own
    have same := named.symm.trans (namesTask_iff.mp own)
    exact other (Json.string.inj same)
  simp [flightRecord, Shared.publish, EventEnvelope.answer, unnamed]

end

section

variable {worker : OptimizationWorker σ} {taskId : String} {tick : Tick}
  {state : WorkerState σ} {shared : Shared σ}
  {next : WorkerState σ × Shared σ} {free : Prop}

/-- The part of a worker's step that is about the task. -/
def TaskMove (taskId : String) (free : Prop) (state : WorkerState σ)
    (shared : Shared σ) (next : WorkerState σ × Shared σ) : Prop :=
  FlightMove free (runsIn taskId state.phase) (flightOf taskId state.phase)
    (flightOf taskId next.1.phase) (flightRecord taskId shared)
    (flightRecord taskId next.2)

private theorem Fate.call_unfailed {fate : Fate}
    {effect : Shared σ → Shared σ} {returned : WorkerState σ}
    {raised : PyException → WorkerState σ}
    (unfailed : next.1.phase.failed = false)
    (fails : ∀ failure, (raised failure).phase.failed = true)
    (step : some (fate.call effect shared returned raised) = some next) :
    next = (returned, effect shared) := by
  cases fate with
  | returns => exact (Option.some.inj step).symm
  | raises failure landed =>
      cases step
      have impossible : false = true := unfailed.symm.trans (fails failure)
      cases impossible

theorem lookingUp_taskMove {task : Task} {stats : WorkerStats}
    (unfailed : next.1.phase.failed = false)
    (turn : looksIn taskId (.lookingUp task : Phase σ) = true → free)
    (step : worker.advance tick ⟨.lookingUp task, stats⟩ shared = some next) :
    TaskMove taskId free ⟨.lookingUp task, stats⟩ shared next := by
  cases advance_decides rfl step with
  | found payload present =>
      by_cases own : task.taskId = taskId
      · subst own
        simp only [TaskMove, runsIn, flightOf, if_true, flightRecord, present]
        exact .finds payload _
      · simp only [TaskMove, runsIn, flightOf, if_neg own]
        exact .stays _ _
  | missed key absent keyed =>
      by_cases own : task.taskId = taskId
      · have mine := turn (decide_eq_true own)
        subst own
        simp only [TaskMove, runsIn, flightOf, if_true, flightRecord, absent]
        exact .misses _ mine
      · simp only [TaskMove, runsIn, flightOf, if_neg own]
        exact .stays _ _
  | unlooked failure => cases unfailed

theorem running_taskMove {task : Task} {key : String}
    {environment : EnvironmentAdapter σ} {stats : WorkerStats}
    (unfailed : next.1.phase.failed = false)
    (step : worker.advance tick ⟨.running task key environment, stats⟩
      shared = some next) :
    TaskMove taskId free ⟨.running task key environment, stats⟩ shared
      next := by
  cases advance_decides rfl step with
  | ran repositoryRef execution session run =>
      by_cases own : task.taskId = taskId
      · simp only [TaskMove, runsIn, flightOf, own, if_true, decide_true]
        exact .computes _ _
      · simp only [TaskMove, runsIn, flightOf, own, if_false, decide_false]
        exact .stays _ _
  | unnamed failure unnamed => cases unfailed
  | raised repositoryRef failure session named run => cases unfailed

theorem publish_taskMove {task : Task} {payload : Document} {stamp : Stamp}
    {returned : WorkerState σ} (named : Names task.taskId payload)
    (before : flightOf taskId state.phase =
      if task.taskId = taskId then .answering payload else .away)
    (idle : runsIn taskId state.phase = false)
    (after : flightOf taskId returned.phase = .away) :
    TaskMove taskId free state shared
      (returned, shared.publish task payload stamp) := by
  rw [TaskMove, before, idle, after]
  by_cases own : task.taskId = taskId
  · rw [if_pos own, flightRecord_publish own named]
    exact .answers payload _ _
  · rw [if_neg own, flightRecord_publish_other own named]
    exact .stays _ _

/-- A step that does not fail and looks the task up only in its turn is one of
the moves of a single flight. -/
theorem advance_taskMove
    (traced : PhaseTraced (fun _ _ _ => True) state.phase)
    (unfailed : next.1.phase.failed = false)
    (turn : looksIn taskId state.phase = true → free)
    (step : worker.advance tick state shared = some next) :
    TaskMove taskId free state shared next := by
  obtain ⟨phase, stats⟩ := state
  cases phase with
  | idle => cases step
  | stopped failure => cases step
  | validating message =>
      cases advance_decides rfl step with
      | validated task valid => exact .stays _ _
      | rejected reason => exact .stays _ _
      | unexpected failure => exact .stays _ _
  | rejecting message reason =>
      rw [Fate.call_unfailed unfailed (fun _ => rfl) step]
      exact .stays _ _
  | lookingUp task => exact lookingUp_taskMove unfailed turn step
  | republishing task payload =>
      rw [Fate.call_unfailed unfailed (fun _ => rfl) step]
      exact publish_taskMove traced.2 rfl rfl rfl
  | acknowledgingDuplicate task =>
      rw [Fate.call_unfailed unfailed (fun _ => rfl) step]
      exact .stays _ _
  | locking task key =>
      cases advance_decides rfl step with
      | acquired free => exact .stays _ _
      | unacquired failure => cases unfailed
  | creating task key =>
      cases advance_decides rfl step with
      | created environment world made => exact .stays _ _
      | uncreated failure world => cases unfailed
  | running task key environment => exact running_taskMove unfailed step
  | storing task key environment payload =>
      rw [Fate.call_unfailed unfailed (fun _ => rfl) step]
      by_cases own : task.taskId = taskId
      · simp only [TaskMove, runsIn, flightOf, if_pos own,
          flightRecord_put own]
        exact .records payload _ _
      · simp only [TaskMove, runsIn, flightOf, if_neg own,
          flightRecord_put_other own]
        exact .stays _ _
  | publishing task key environment payload =>
      rw [Fate.call_unfailed unfailed (fun _ => rfl) step]
      exact publish_taskMove traced.2 rfl rfl rfl
  | acknowledging task key environment =>
      rw [Fate.call_unfailed unfailed (fun _ => rfl) step]
      exact .stays _ _
  | releasing task key environment failure =>
      have reached := Fate.call_unfailed unfailed (fun _ => rfl) step
      subst reached
      cases failure with
      | none => exact .stays _ _
      | some failure => cases unfailed
  | recovering task environment failure =>
      cases advance_decides rfl step with
      | retries world => cases unfailed
      | givesUp world => cases unfailed
  | retrying task failure =>
      rw [Fate.call_unfailed unfailed (fun _ => rfl) step]
      exact .stays _ _
  | deadLettering task failure =>
      rw [Fate.call_unfailed unfailed (fun _ => rfl) step]
      exact .stays _ _

theorem claim_taskMove {message : ConsumedEvent}
    (step : worker.act (.claim message) state shared = some next) :
    FlightMove free false (flightOf taskId state.phase)
      (flightOf taskId next.1.phase) (flightRecord taskId shared)
      (flightRecord taskId next.2) := by
  obtain ⟨phase, stats⟩ := state
  cases phase with
  | idle =>
      cases step
      exact .stays _ _
  | stopped failure =>
      cases step
      exact .stays _ _
  | _ => cases step

end

/-- Everything stored is about its task, every result is about some task, and
every answer for this task is the stored one. -/
structure AnswersStored (taskId : String) (shared : Shared σ) : Prop where
  named : ∀ other payload, shared.store.get? other = some payload →
    Names other payload
  about : ∀ result ∈ shared.results,
    ∃ other, Names other result.event.payload
  answered : ∀ result ∈ shared.results,
    Names taskId result.event.payload →
      shared.store.get? taskId = some result.event.payload

/-- The workers' deliveries of the task make up a single flight, in which the
graph was executed this often. -/
structure OneRun (taskId : String) (executions : Nat)
    (state : PoolState ι σ) : Prop where
  traced : PoolTraced (fun _ _ _ => True) state
  flights : SingleFlight
    (fun worker => flightOf taskId (state.workers worker).phase)
    (flightRecord taskId state.shared) executions

theorem mem_answers_iff {taskId : String} {shared : Shared σ}
    {payload : Document} :
    payload ∈ (flightRecord taskId shared).answers ↔
      (∃ result ∈ shared.results, result.event.payload = payload) ∧
        Names taskId payload := by
  rw [flightRecord, List.mem_filter, List.mem_map, namesTask_iff]

variable [DecidableEq ι] {workers : ι → OptimizationWorker σ}
  {start final : PoolState ι σ} {actions : List (PoolAction ι)}
  {taskId : String}

theorem poolStep_oneRun (executions : Nat) (state : PoolState ι σ)
    (action : PoolAction ι) (next : PoolState ι σ)
    (sound : OneRun taskId executions state)
    (permitted : NoFailure workers state action ∧
      Serialized taskId state action)
    (step : poolStep workers state action = some next) :
    OneRun taskId (executions + (Runs taskId state action).toNat) next := by
  obtain ⟨noFailure, serialized⟩ := permitted
  rw [NoFailure, step, Option.all_some, Bool.not_eq_true'] at noFailure
  have traced := poolStep_traced sound.traced (fun _ _ _ => trivial) step
  refine ⟨traced, ?_⟩
  cases action with
  | act worker action =>
      obtain ⟨acted, others⟩ := poolStep_act step
      have unmoved : ∀ other, other ≠ worker →
          flightOf taskId (next.workers other).phase =
            flightOf taskId (state.workers other).phase := by
        intro other different
        rw [others other different]
      cases action with
      | claim message =>
          exact sound.flights.move (claim_taskMove acted) unmoved
      | tick tick =>
          exact sound.flights.move (advance_taskMove
            (sound.traced.phases worker) noFailure serialized acted) unmoved
      | crash =>
          obtain ⟨died, _⟩ := Prod.mk.inj (Option.some.inj acted)
          rw [PoolAction.worker, ← died] at noFailure
          cases noFailure
  | call worker call =>
      obtain ⟨same, world, sameShared⟩ := poolStep_call step
      rw [same, sameShared]
      exact sound.flights

/-- In a run without failures in which no delivery looks the task up while
another one is between its look and its storing, the graph is executed at most
once for the task, and every answer is the stored result. -/
theorem task_runs_once (opened : start.Opened)
    (stored : AnswersStored taskId start.shared)
    (permitted : Meets (poolStep workers) (fun state action =>
      NoFailure workers state action ∧ Serialized taskId state action)
      start actions)
    (played : play (poolStep workers) start actions = some final) :
    countSteps (poolStep workers) (Runs taskId) start actions ≤ 1 ∧
      AnswersStored taskId final.shared := by
  have begins : OneRun taskId 0 start := by
    refine ⟨opened.traced ⟨fun _ _ => trivial, stored.named, ?_⟩, ?_⟩
    · intro result among
      obtain ⟨other, named⟩ := stored.about result among
      exact ⟨[("task_id", .string other)], other, trivial, rfl, named⟩
    · apply SingleFlight.initial
      · intro worker
        rw [opened.idle worker]
        rfl
      · intro payload member
        obtain ⟨⟨result, among, rfl⟩, named⟩ := mem_answers_iff.mp member
        exact stored.answered result among named
  have ends := invariant_countSteps poolStep_oneRun begins permitted played
  rw [Nat.zero_add] at ends
  have shared := ends.traced.shared
  refine ⟨ends.flights.count_le_one, shared.stored, ?_, ?_⟩
  · intro result among
    obtain ⟨_, other, _, _, named⟩ := shared.results result among
    exact ⟨other, named⟩
  · intro result among named
    exact ends.flights.answered _ (mem_answers_iff.mpr
      ⟨⟨result, among, rfl⟩, named⟩)

instance (taskId : String) (phase : Phase σ) :
    Decidable (flightOf taskId phase).Aloft :=
  match flightOf taskId phase with
  | .pending => .isTrue trivial
  | .computed _ => .isTrue trivial
  | .away => .isFalse id
  | .answering _ => .isFalse id

instance (state : PoolState ι σ) (action : PoolAction ι) :
    Decidable (NoFailure workers state action) :=
  inferInstanceAs (Decidable (_ = true))

instance [Fintype ι] (state : PoolState ι σ) (action : PoolAction ι) :
    Decidable (Serialized taskId state action) :=
  inferInstanceAs (Decidable (_ → _))

/-- Two deliveries of one request are both looked up before either run
stores a result. -/
def simultaneousLooks : List (PoolAction (Fin 2)) :=
  [.act 0 (.claim watcherRequest), .act 1 (.claim watcherRequest)] ++
    ticks 0 2 ++ ticks 1 2 ++ ticks 0 7 ++ ticks 1 7

/-- Without any failure the graph is executed twice for one task. -/
theorem task_runs_twice :
    Meets (poolStep watcherWorkers) (NoFailure watcherWorkers) watcherPool
      simultaneousLooks ∧
    ∃ final,
      play (poolStep watcherWorkers) watcherPool simultaneousLooks =
        some final ∧
      countSteps (poolStep watcherWorkers) (Runs "run:web") watcherPool
        simultaneousLooks = 2 ∧
      final.shared.executions.length = 2 := by
  refine ⟨by decide +kernel, _, rfl, rfl, rfl⟩

/-- One delivery is processed before the other one is looked up. -/
def successiveLooks : List (PoolAction (Fin 2)) :=
  [.act 0 (.claim watcherRequest)] ++ ticks 0 9 ++
    [.act 1 (.claim watcherRequest)] ++ ticks 1 4

theorem task_runs_once_watcher :
    ∃ final,
      play (poolStep watcherWorkers) watcherPool successiveLooks =
        some final ∧
      countSteps (poolStep watcherWorkers) (Runs "run:web") watcherPool
        successiveLooks ≤ 1 ∧
      AnswersStored "run:web" final.shared ∧
      final.shared.results.length = 2 := by
  obtain ⟨final, played, answers⟩ : ∃ final,
      play (poolStep watcherWorkers) watcherPool successiveLooks =
        some final ∧ final.shared.results.length = 2 := ⟨_, rfl, rfl⟩
  have stored : AnswersStored "run:web" watcherPool.shared := by
    refine ⟨?_, ?_, ?_⟩
    · intro other payload present
      cases present
    · intro result among
      cases among
    · intro result among
      cases among
  obtain ⟨once, kept⟩ := task_runs_once watcherPool_opened stored
    (by decide +kernel) played
  exact ⟨final, played, once, kept, answers⟩

end Kuber.Event

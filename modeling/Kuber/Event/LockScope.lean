import Kuber.Event.Acceptance
import Kuber.Event.WorkerPool

/-!
# What happens under the workload lock

The calls of a run are made under the lock of its workload.  The handler of
`process` restores the original policy after the lock was released, so every
exception behind the creation of an environment is rolled back without it.
-/

namespace Kuber.Event

open Kuber.Library Kuber.Rules Kuber.Agent OptimizationWorker

variable {ι σ : Type}

/-- The calls that change the policy of the workload. -/
def EnvironmentCall.mutates : EnvironmentCall → Prop
  | .applyPolicy _ _ => True
  | .restorePolicy _ => True
  | _ => False

/-- The step applies or restores a policy on behalf of the workload with this
lock key: a run does, and so does the handler, which restores. -/
def Mutates (workers : ι → OptimizationWorker σ) (state : PoolState ι σ)
    (action : PoolAction ι) (key : String) : Prop :=
  match action with
  | .call worker call =>
      match (state.workers worker).phase with
      | .running task _ _ =>
          EnvironmentCall.mutates call ∧ KeyOf (workers worker) task key
      | _ => False
  | .act worker (.tick _) =>
      match (state.workers worker).phase with
      | .running task _ _ => KeyOf (workers worker) task key
      | .recovering task (some _) _ => KeyOf (workers worker) task key
      | _ => False
  | .act _ _ => False

/-- The next call of an attempt returns, once its environment was created and
until its lock is released. -/
def PhaseSteady (worker : OptimizationWorker σ) (tick : Tick) (world : σ) :
    Phase σ → Prop
  | .running task _ environment =>
      ∃ repositoryRef execution,
        payloadText task.message.event.payload "repository_ref" =
          .ok repositoryRef ∧
        (runFrom worker.graph worker.recursionLimit
          (task.request repositoryRef) tick.checkpoint environment world).1 =
            .ok execution
  | .storing .. | .publishing .. | .acknowledging .. => tick.fate = .returns
  | .releasing _ _ (some _) _ => tick.fate = .returns
  | _ => True

/-- No call raises between the creation of an environment and the release of
the lock. -/
def Steady (workers : ι → OptimizationWorker σ) (state : PoolState ι σ) :
    PoolAction ι → Prop
  | .act worker (.tick tick) =>
      PhaseSteady (workers worker) tick state.shared.world
        (state.workers worker).phase
  | _ => True

/-- What a worker knows in a phase whose attempt has not failed. -/
def PhaseScoped (worker : OptimizationWorker σ) : Phase σ → Prop
  | .locking task key => KeyOf worker task key
  | .creating task key => KeyOf worker task key
  | .running task key _ => KeyOf worker task key
  | .storing task key _ _ => KeyOf worker task key
  | .publishing task key _ _ => KeyOf worker task key
  | .acknowledging task key _ => KeyOf worker task key
  | .releasing task key environment failure =>
      KeyOf worker task key ∧ (environment ≠ none → failure = none)
  | .recovering _ environment _ => environment = none
  | _ => True

section

variable {worker : OptimizationWorker σ} {tick : Tick}
  {state : WorkerState σ} {shared : Shared σ}
  {next : WorkerState σ × Shared σ}

private theorem Fate.call_returns {fate : Fate}
    {effect : Shared σ → Shared σ} {shared : Shared σ}
    {returned : WorkerState σ} {raised : PyException → WorkerState σ}
    (returns : fate = .returns)
    (step : some (fate.call effect shared returned raised) = some next) :
    next = (returned, effect shared) := by
  subst returns
  exact (Option.some.inj step).symm

private theorem Fate.call_scoped {fate : Fate}
    {effect : Shared σ → Shared σ} {returned : WorkerState σ}
    {raised : PyException → WorkerState σ}
    (step : some (fate.call effect shared returned raised) = some next)
    (onReturn : PhaseScoped worker returned.phase)
    (onRaise : ∀ failure, PhaseScoped worker (raised failure).phase) :
    PhaseScoped worker next.1.phase := by
  apply Fate.call_cases step
  · exact fun _ => onReturn
  · exact fun failure _ => onRaise failure
  · exact fun failure _ => onRaise failure

theorem advance_scoped
    (steady : PhaseSteady worker tick shared.world state.phase)
    (inScope : PhaseScoped worker state.phase)
    (step : worker.advance tick state shared = some next) :
    PhaseScoped worker next.1.phase := by
  obtain ⟨phase, stats⟩ := state
  cases phase with
  | idle => cases step
  | stopped failure => cases step
  | validating message =>
      cases advance_decides rfl step with
      | validated task valid => trivial
      | rejected reason => trivial
      | unexpected failure => trivial
  | rejecting message reason =>
      exact Fate.call_scoped step trivial fun _ => trivial
  | lookingUp task =>
      cases advance_decides rfl step with
      | found payload present => trivial
      | missed key absent keyed => exact keyed
      | unlooked failure => trivial
  | republishing task payload =>
      exact Fate.call_scoped step trivial fun _ => trivial
  | acknowledgingDuplicate task =>
      exact Fate.call_scoped step trivial fun _ => trivial
  | locking task key =>
      cases advance_decides rfl step with
      | acquired free => exact inScope
      | unacquired failure => rfl
  | creating task key =>
      cases advance_decides rfl step with
      | created environment world made => exact inScope
      | uncreated failure world =>
          exact ⟨inScope, fun present => absurd rfl present⟩
  | running task key environment =>
      obtain ⟨repositoryRef, execution, named, returned⟩ := steady
      cases advance_decides rfl step with
      | ran repositoryRef execution session run => exact inScope
      | unnamed failure unnamed =>
          rw [unnamed] at named
          cases named
      | raised nameless failure session given run =>
          rw [given] at named
          cases named
          rw [run] at returned
          cases returned
  | storing task key environment payload =>
      rw [Fate.call_returns steady step]
      exact inScope
  | publishing task key environment payload =>
      rw [Fate.call_returns steady step]
      exact inScope
  | acknowledging task key environment =>
      rw [Fate.call_returns steady step]
      exact ⟨inScope, fun _ => rfl⟩
  | releasing task key environment failure =>
      cases environment with
      | none =>
          refine Fate.call_scoped step ?_ fun _ => rfl
          cases failure with
          | none => trivial
          | some failure => rfl
      | some environment =>
          rw [Fate.call_returns steady step,
            inScope.2 (Option.some_ne_none environment)]
          trivial
  | recovering task environment failure =>
      cases advance_decides rfl step with
      | retries world => trivial
      | givesUp world => trivial
  | retrying task failure =>
      exact Fate.call_scoped step trivial fun _ => trivial
  | deadLettering task failure =>
      exact Fate.call_scoped step trivial fun _ => trivial

theorem act_scoped {action : OptimizationWorker.Action}
    (steady : ∀ tick, action = .tick tick →
      PhaseSteady worker tick shared.world state.phase)
    (inScope : PhaseScoped worker state.phase)
    (step : worker.act action state shared = some next) :
    PhaseScoped worker next.1.phase := by
  cases action with
  | claim message =>
      simp only [OptimizationWorker.act] at step
      split at step
      · cases step
        trivial
      · cases step
        trivial
      · cases step
  | tick tick => exact advance_scoped (steady tick rfl) inScope step
  | crash =>
      cases step
      trivial

end

/-- Locks are exclusive, and no attempt has failed behind the creation of its
environment. -/
structure LockScopeSound (workers : ι → OptimizationWorker σ)
    (state : PoolState ι σ) : Prop where
  locks : LocksSound state
  inScope : ∀ worker,
    PhaseScoped (workers worker) (state.workers worker).phase

variable [DecidableEq ι] {workers : ι → OptimizationWorker σ}
  {start final : PoolState ι σ} {actions : List (PoolAction ι)}

theorem poolStep_lockScopeSound (state : PoolState ι σ)
    (action : PoolAction ι) (next : PoolState ι σ)
    (sound : LockScopeSound workers state)
    (steady : Steady workers state action)
    (step : poolStep workers state action = some next) :
    LockScopeSound workers next := by
  refine ⟨poolStep_locksSound sound.locks step, ?_⟩
  intro other
  cases action with
  | act worker action =>
      obtain ⟨acted, unmoved⟩ := poolStep_act step
      by_cases same : other = worker
      · subst same
        apply act_scoped _ (sound.inScope other) acted
        intro tick isTick
        subst isTick
        exact steady
      · rw [unmoved other same]
        exact sound.inScope other
  | call worker call =>
      rw [(poolStep_call step).1]
      exact sound.inScope other

/-- In every run in which no call raises between the creation of an environment
and the release of its lock, each application and each restoration of a policy
is made by the one worker that holds the lock of the workload. -/
theorem mutations_hold_the_lock (opened : start.Opened)
    (steady : Meets (poolStep workers) (Steady workers) start actions)
    (played : play (poolStep workers) start actions = some final) :
    ∀ action key, Mutates workers final action key →
      heldKey (final.workers action.worker).phase = some key ∧
      key ∈ final.shared.held ∧
      ∀ other, other ≠ action.worker →
        heldKey (final.workers other).phase ≠ some key := by
  have begins : LockScopeSound workers start := by
    refine ⟨opened.locksSound, ?_⟩
    intro worker
    rw [opened.idle worker]
    trivial
  have sound := invariant_play poolStep_lockScopeSound begins steady played
  have holds : ∀ action key, Mutates workers final action key →
      heldKey (final.workers action.worker).phase = some key := by
    intro action key mutates
    have inScope := sound.inScope action.worker
    cases action with
    | call worker call =>
        simp only [Mutates] at mutates
        split at mutates
        · rename_i task held environment running
          rw [PoolAction.worker, running] at inScope ⊢
          have sameKey := inScope.symm.trans mutates.2
          cases sameKey
          rfl
        · exact absurd mutates id
    | act worker action =>
        cases action with
        | tick tick =>
            simp only [Mutates] at mutates
            split at mutates
            · rename_i task held environment running
              rw [PoolAction.worker, running] at inScope ⊢
              have sameKey := inScope.symm.trans mutates
              cases sameKey
              rfl
            · rename_i task environment failure recovering
              rw [PoolAction.worker, recovering] at inScope
              cases inScope
            · exact absurd mutates id
        | claim message => exact absurd mutates id
        | crash => exact absurd mutates id
  intro action key mutates
  have mine := holds action key mutates
  refine ⟨mine, sound.locks.recorded _ key mine, ?_⟩
  intro other different theirs
  exact different (sound.locks.exclusive other _ key theirs mine)

/-- Two workers in front of the watcher. -/
def watcherWorkers : Fin 2 → OptimizationWorker Policy :=
  fun _ => watcherWorker

def watcherPool : PoolState (Fin 2) Policy :=
  ⟨fun _ => {}, { world := podWatcher.initialPolicy }⟩

def ticks (worker : Fin 2) (count : Nat) : List (PoolAction (Fin 2)) :=
  List.replicate count (.act worker (.tick {}))

theorem watcherPool_opened : watcherPool.Opened := ⟨fun _ => rfl, rfl⟩

/-- What the second run has applied. -/
def watchedCandidate : Policy := podWatcher.initialPolicy.withPermissions []

/-- The first worker fails to store its result and gives the lock back; the
second one takes it and applies a candidate. -/
def interruptedRecovery : List (PoolAction (Fin 2)) :=
  [.act 0 (.claim watcherRequest)] ++ ticks 0 5 ++
    [.act 0 (.tick { fate := .raises connectionError false })] ++
    [.act 1 (.claim watcherRequest)] ++ ticks 1 2 ++ ticks 0 1 ++ ticks 1 2 ++
    [.call 1 (.applyPolicy watchedCandidate (.ok ()))]

/-- The rollback of the first worker happens without the lock, and replaces
the candidate of the second one, which holds it. -/
theorem rollback_without_the_lock :
    ∃ before after,
      play (poolStep watcherWorkers) watcherPool interruptedRecovery =
        some before ∧
      Mutates watcherWorkers before (.act 0 (.tick {}))
        "kind-kuber:shop:web" ∧
      heldKey (before.workers 0).phase = none ∧
      heldKey (before.workers 1).phase = some "kind-kuber:shop:web" ∧
      before.shared.world = watchedCandidate ∧
      poolStep watcherWorkers before (.act 0 (.tick {})) = some after ∧
      after.shared.world ≠ watchedCandidate := by
  obtain ⟨before, task, environment, failure, played, recovering, key, mine,
    theirs, candidate, after, step, restored⟩ :
      ∃ before task environment failure,
        play (poolStep watcherWorkers) watcherPool interruptedRecovery =
          some before ∧
        (before.workers 0).phase =
          .recovering task (some environment) failure ∧
        KeyOf watcherWorker task "kind-kuber:shop:web" ∧
        heldKey (before.workers 0).phase = none ∧
        heldKey (before.workers 1).phase = some "kind-kuber:shop:web" ∧
        before.shared.world = watchedCandidate ∧
        ∃ after,
          poolStep watcherWorkers before (.act 0 (.tick {})) = some after ∧
          after.shared.world = podWatcher.initialPolicy :=
    ⟨_, _, _, _, rfl, rfl, rfl, rfl, rfl, rfl, _, rfl, rfl⟩
  refine ⟨before, after, played, ?_, mine, theirs, candidate, step, ?_⟩
  · rw [Mutates, recovering]
    exact key
  · rw [restored]
    decide

/-- A run that has reached its graph, and whose next call is about the
policy. -/
theorem mutations_hold_the_lock_watcher :
    ∃ final,
      play (poolStep watcherWorkers) watcherPool
        ([.act 0 (.claim watcherRequest)] ++ ticks 0 4) = some final ∧
      heldKey (final.workers 0).phase = some "kind-kuber:shop:web" := by
  have steady : Meets (poolStep watcherWorkers) (Steady watcherWorkers)
      watcherPool ([.act 0 (.claim watcherRequest)] ++ ticks 0 4) :=
    meets_cons trivial rfl <| meets_cons trivial rfl <|
      meets_cons trivial rfl <| meets_cons trivial rfl <|
        meets_cons trivial rfl trivial
  obtain ⟨final, task, key, environment, played, running, named⟩ :
      ∃ final task key environment,
        play (poolStep watcherWorkers) watcherPool
          ([.act 0 (.claim watcherRequest)] ++ ticks 0 4) = some final ∧
        (final.workers 0).phase = .running task key environment ∧
        KeyOf watcherWorker task "kind-kuber:shop:web" := by
    refine ⟨_, _, _, _, rfl, rfl, ?_⟩
    rfl
  refine ⟨final, played, ?_⟩
  apply (mutations_hold_the_lock watcherPool_opened steady played
    (.call 0 (.applyPolicy watchedCandidate (.ok ()))) _ _).1
  rw [Mutates, running]
  exact ⟨trivial, named⟩

end Kuber.Event

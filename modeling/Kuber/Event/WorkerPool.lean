import Kuber.Event.Provenance
import Kuber.Library.Locks
import Kuber.Library.Transition
import Mathlib.Logic.Function.Basic

/-!
# Workers that share a lock manager

Any number of workers take their steps in any order.  A graph run makes its
calls to the environment one at a time, so steps of other workers may come
between them.  A lock is held by one worker at most, whatever raises and
whoever dies.
-/

namespace Kuber.Event

open Kuber.Library Kuber.Rules Kuber.Agent

variable {ι σ : Type}

/-- Pools of two workers are the ones that the examples look at. -/
instance twoWorkers : NeZero 2 := ⟨by decide⟩

structure PoolState (ι σ : Type) where
  workers : ι → WorkerState σ
  shared : Shared σ

/-- A step of `process`, or one call that a running graph makes. -/
inductive PoolAction (ι : Type) where
  | act (worker : ι) (action : OptimizationWorker.Action)
  | call (worker : ι) (call : EnvironmentCall)

def PoolAction.worker : PoolAction ι → ι
  | act worker _ => worker
  | call worker _ => worker

/-- What a call does to the world. -/
def callEffect (environment : EnvironmentAdapter σ) :
    EnvironmentCall → σ → σ
  | .getCurrentPolicy _, world => (environment.getCurrentPolicy world).2
  | .getObservedUsage _, world => (environment.getObservedUsage world).2
  | .applyPolicy policy _, world => (environment.applyPolicy policy world).2
  | .verifyWorkload _, world => (environment.verifyWorkload world).2
  | .restorePolicy _, world => (environment.restorePolicy world).2
  | .describeFailure verification _, world =>
      (environment.describeFailure verification world).2

def poolStep [DecidableEq ι] (workers : ι → OptimizationWorker σ)
    (state : PoolState ι σ) : PoolAction ι → Option (PoolState ι σ)
  | .act worker action =>
      ((workers worker).act action (state.workers worker) state.shared).map
        fun next => ⟨Function.update state.workers worker next.1, next.2⟩
  | .call worker call =>
      match (state.workers worker).phase with
      | .running _ _ environment =>
          some ⟨state.workers, { state.shared with
            world := callEffect environment call state.shared.world }⟩
      | _ => none

/-- Nobody is at work yet and no lock is held. -/
structure PoolState.Opened (state : PoolState ι σ) : Prop where
  idle : ∀ worker, (state.workers worker).phase = .idle
  free : state.shared.held = []

theorem poolStep_act [DecidableEq ι] {workers : ι → OptimizationWorker σ}
    {state next : PoolState ι σ} {worker : ι}
    {action : OptimizationWorker.Action}
    (step : poolStep workers state (.act worker action) = some next) :
    (workers worker).act action (state.workers worker) state.shared =
        some (next.workers worker, next.shared) ∧
      ∀ other, other ≠ worker → next.workers other = state.workers other := by
  obtain ⟨⟨moved, shared⟩, acted, rfl⟩ := Option.map_eq_some_iff.mp step
  constructor
  · rw [acted]
    exact congrArg (fun kept => some (kept, shared))
      (Function.update_self worker moved state.workers).symm
  · intro other different
    exact Function.update_of_ne different _ _

theorem poolStep_call [DecidableEq ι] {workers : ι → OptimizationWorker σ}
    {state next : PoolState ι σ} {worker : ι} {call : EnvironmentCall}
    (step : poolStep workers state (.call worker call) = some next) :
    next.workers = state.workers ∧
      ∃ world, next.shared = { state.shared with world := world } := by
  simp only [poolStep] at step
  split at step
  · cases step
    exact ⟨rfl, _, rfl⟩
  · cases step

open OptimizationWorker

/-- A call that has nothing to do with locks, made by a worker that keeps its
own one whatever becomes of the call. -/
private theorem Fate.call_keepsLock {fate : Fate}
    {effect : Shared σ → Shared σ} {shared : Shared σ}
    {returned : WorkerState σ} {raised : PyException → WorkerState σ}
    {next : WorkerState σ × Shared σ} {mine : Option String}
    (step : some (fate.call effect shared returned raised) = some next)
    (kept : (effect shared).held = shared.held)
    (onReturn : heldKey returned.phase = mine)
    (onRaise : ∀ failure, heldKey (raised failure).phase = mine) :
    heldKey next.1.phase = mine ∧ next.2.held = shared.held := by
  apply Fate.call_cases step
  · exact fun _ => ⟨onReturn, kept⟩
  · exact fun failure _ => ⟨onRaise failure, rfl⟩
  · exact fun failure _ => ⟨onRaise failure, kept⟩

/-- The next step asks for a lock or gives one back. -/
def Phase.locks : Phase σ → Bool
  | .locking .. => true
  | .releasing .. => true
  | _ => false

theorem advance_keepsLock {worker : OptimizationWorker σ} {tick : Tick}
    {state : WorkerState σ} {shared : Shared σ}
    {next : WorkerState σ × Shared σ} (passive : state.phase.locks = false)
    (step : worker.advance tick state shared = some next) :
    heldKey next.1.phase = heldKey state.phase ∧
      next.2.held = shared.held := by
  obtain ⟨phase, stats⟩ := state
  cases phase with
  | idle => cases step
  | stopped failure => cases step
  | locking task key => cases passive
  | releasing task key environment failure => cases passive
  | validating message =>
      cases advance_decides rfl step with
      | validated task valid => exact ⟨rfl, rfl⟩
      | rejected reason => exact ⟨rfl, rfl⟩
      | unexpected failure => exact ⟨rfl, rfl⟩
  | rejecting message reason =>
      exact Fate.call_keepsLock step rfl rfl fun _ => rfl
  | lookingUp task =>
      cases advance_decides rfl step with
      | found payload present => exact ⟨rfl, rfl⟩
      | missed key absent keyed => exact ⟨rfl, rfl⟩
      | unlooked failure => exact ⟨rfl, rfl⟩
  | republishing task payload =>
      exact Fate.call_keepsLock step rfl rfl fun _ => rfl
  | acknowledgingDuplicate task =>
      exact Fate.call_keepsLock step rfl rfl fun _ => rfl
  | creating task key =>
      cases advance_decides rfl step with
      | created environment world made => exact ⟨rfl, rfl⟩
      | uncreated failure world => exact ⟨rfl, rfl⟩
  | running task key environment =>
      cases advance_decides rfl step with
      | ran repositoryRef execution session run => exact ⟨rfl, rfl⟩
      | unnamed failure unnamed => exact ⟨rfl, rfl⟩
      | raised repositoryRef failure session named run => exact ⟨rfl, rfl⟩
  | storing task key environment payload =>
      exact Fate.call_keepsLock step rfl rfl fun _ => rfl
  | publishing task key environment payload =>
      exact Fate.call_keepsLock step rfl rfl fun _ => rfl
  | acknowledging task key environment =>
      exact Fate.call_keepsLock step rfl rfl fun _ => rfl
  | recovering task environment failure =>
      cases advance_decides rfl step with
      | retries world => exact ⟨rfl, rfl⟩
      | givesUp world => exact ⟨rfl, rfl⟩
  | retrying task failure =>
      exact Fate.call_keepsLock step rfl rfl fun _ => rfl
  | deadLettering task failure =>
      exact Fate.call_keepsLock step rfl rfl fun _ => rfl

theorem advance_locks {worker : OptimizationWorker σ} {tick : Tick}
    {task : Task} {key : String} {stats : WorkerStats} {shared : Shared σ}
    {next : WorkerState σ × Shared σ}
    (step : worker.advance tick ⟨.locking task key, stats⟩ shared =
      some next) :
    (next.1.phase = .creating task key ∧ key ∉ shared.held ∧
        next.2.held = key :: shared.held) ∨
      heldKey next.1.phase = none ∧ next.2.held = shared.held := by
  cases advance_decides rfl step with
  | acquired free => exact Or.inl ⟨rfl, free, rfl⟩
  | unacquired failure => exact Or.inr ⟨rfl, rfl⟩

/-- A worker that releases its lock has left the body, whatever becomes of the
call. -/
theorem advance_releases {worker : OptimizationWorker σ} {tick : Tick}
    {task : Task} {key : String}
    {environment : Option (EnvironmentAdapter σ)}
    {failure : Option PyException} {stats : WorkerStats} {shared : Shared σ}
    {next : WorkerState σ × Shared σ}
    (step : worker.advance tick
      ⟨.releasing task key environment failure, stats⟩ shared = some next) :
    heldKey next.1.phase = none ∧
      (next.2.held = shared.held ∨
        next.2.held = shared.held.erase key ∧
          ∀ raised, tick.fate ≠ .raises raised false) := by
  apply Fate.call_cases step
  · intro returns
    refine ⟨?_, Or.inr ⟨rfl, fun raised => by simp [returns]⟩⟩
    cases failure with
    | none => rfl
    | some failure => rfl
  · exact fun _ _ => ⟨rfl, Or.inl rfl⟩
  · exact fun landed lands =>
      ⟨rfl, Or.inr ⟨rfl, fun raised => by simp [lands]⟩⟩

theorem advance_lockMove {worker : OptimizationWorker σ} {tick : Tick}
    {state : WorkerState σ} {shared : Shared σ}
    {next : WorkerState σ × Shared σ}
    (step : worker.advance tick state shared = some next) :
    LockMove (heldKey state.phase) (heldKey next.1.phase) shared.held
      next.2.held := by
  cases locks : state.phase.locks with
  | false =>
      obtain ⟨sameKey, sameHeld⟩ := advance_keepsLock locks step
      rw [sameKey, sameHeld]
      exact .keeps _ _
  | true =>
      obtain ⟨phase, stats⟩ := state
      cases phase with
      | locking task key =>
          obtain ⟨entered, free, grown⟩ | ⟨without, same⟩ :=
            advance_locks step
          · rw [entered, grown]
            exact .takes key _ free
          · rw [without, same]
            exact .keeps _ _
      | releasing task key environment failure =>
          obtain ⟨left, same | ⟨gone, -⟩⟩ := advance_releases step
          · rw [left, same]
            exact .forgets key _
          · rw [left, gone]
            exact .gives key _
      | _ => cases locks

theorem act_lockMove {worker : OptimizationWorker σ} {action : Action}
    {state : WorkerState σ} {shared : Shared σ}
    {next : WorkerState σ × Shared σ}
    (step : worker.act action state shared = some next) :
    LockMove (heldKey state.phase) (heldKey next.1.phase) shared.held
      next.2.held := by
  cases action with
  | claim message =>
      obtain ⟨phase, stats⟩ := state
      cases phase with
      | idle =>
          cases step
          exact .keeps _ _
      | stopped failure =>
          cases step
          exact .keeps _ _
      | _ => cases step
  | tick tick => exact advance_lockMove step
  | crash =>
      cases step
      cases mine : heldKey state.phase with
      | none => exact .keeps _ _
      | some key => exact .gives key _

/-- Every lock is held by one worker at most, and whoever has it holds it. -/
def LocksSound (state : PoolState ι σ) : Prop :=
  Exclusive (fun worker => heldKey (state.workers worker).phase)
    state.shared.held

theorem PoolState.Opened.locksSound {state : PoolState ι σ}
    (opened : state.Opened) : LocksSound state := by
  rw [LocksSound, opened.free]
  apply Exclusive.initial
  intro worker
  rw [opened.idle worker]
  rfl

theorem poolStep_locksSound [DecidableEq ι]
    {workers : ι → OptimizationWorker σ} {state next : PoolState ι σ}
    {action : PoolAction ι} (sound : LocksSound state)
    (step : poolStep workers state action = some next) : LocksSound next := by
  cases action with
  | act worker action =>
      obtain ⟨acted, others⟩ := poolStep_act step
      apply Exclusive.move sound (act_lockMove acted)
      intro other different
      rw [others other different]
  | call worker call =>
      obtain ⟨same, world, sameShared⟩ := poolStep_call step
      rw [LocksSound, same, sameShared]
      exact sound

/-- Everything that the workers hold or share is traced to a request. -/
structure PoolTraced (requested : Nat → String → Document → Prop)
    (state : PoolState ι σ) : Prop where
  shared : SharedTraced requested state.shared
  phases : ∀ worker, PhaseTraced requested (state.workers worker).phase

theorem PoolState.Opened.traced
    {requested : Nat → String → Document → Prop} {state : PoolState ι σ}
    (opened : state.Opened) (shared : SharedTraced requested state.shared) :
    PoolTraced requested state := by
  refine ⟨shared, ?_⟩
  intro worker
  rw [opened.idle worker]
  trivial

theorem PoolTraced.mono {requested more : Nat → String → Document → Prop}
    {state : PoolState ι σ} (traced : PoolTraced requested state)
    (implies : ∀ record runId payload, requested record runId payload →
      more record runId payload) : PoolTraced more state :=
  ⟨traced.shared.mono implies,
    fun worker => (traced.phases worker).mono implies⟩

theorem poolStep_traced [DecidableEq ι]
    {requested : Nat → String → Document → Prop}
    {workers : ι → OptimizationWorker σ} {state next : PoolState ι σ}
    {action : PoolAction ι} (traced : PoolTraced requested state)
    (claims : ∀ worker message, action = .act worker (.claim message) →
      Delivers requested message)
    (step : poolStep workers state action = some next) :
    PoolTraced requested next := by
  cases action with
  | act worker action =>
      obtain ⟨acted, others⟩ := poolStep_act step
      obtain ⟨shared, phase⟩ := act_traced traced.shared
        (traced.phases worker)
        (fun message isClaim => claims worker message (isClaim ▸ rfl)) acted
      refine ⟨shared, ?_⟩
      intro other
      by_cases same : other = worker
      · rw [same]
        exact phase
      · rw [others other same]
        exact traced.phases other
  | call worker call =>
      obtain ⟨same, world, sameShared⟩ := poolStep_call step
      refine ⟨?_, ?_⟩
      · rw [sameShared]
        exact ⟨traced.shared.retries, traced.shared.stored,
          traced.shared.results⟩
      · rw [same]
        exact traced.phases

end Kuber.Event

import Kuber.Event.LockScope

/-!
# Locks that are leases

The workers on top of a lock manager whose locks are leases: a lease ends when
its time is over, whether or not its holder is still at work, and it outlives
a holder that was killed.  Nothing renews a lease, so the body of a lock is
exclusive as long as no lease ends under its holder.  That the policy of a
workload is changed in the body only takes more: the handler restores it after
the release, and the thread of a cancelled run goes on without the lease.
-/

namespace Kuber.Event

open Kuber.Library Kuber.Rules Kuber.Agent OptimizationWorker

variable {ι σ : Type}

/-- The thread in which `asyncio.to_thread` runs the graph, after the task that
waited for it was cancelled. -/
structure AbandonedRun (ι σ : Type) where
  worker : ι
  task : Task
  environment : EnvironmentAdapter σ

/-- The pool, the worker whose token each lease carries, and the threads that
nobody waits for. -/
structure LeaseState (ι σ : Type) where
  pool : PoolState ι σ
  owner : String → Option ι
  abandoned : List (AbandonedRun ι σ) := []

/-- A worker claims, goes on, makes a call of its run, is cancelled or is
killed; an abandoned run makes a call or ends; or the time of a lease is
over. -/
inductive LeaseAction (ι : Type) where
  | claim (worker : ι) (message : ConsumedEvent)
  | tick (worker : ι) (tick : Tick)
  | call (worker : ι) (call : EnvironmentCall)
  | cancel (worker : ι)
  | kill (worker : ι)
  | callAbandoned (index : Nat) (call : EnvironmentCall)
  | endAbandoned (index : Nat)
  | expire (key : String)

def lockNotOwned : PyException :=
  ⟨.other "LockNotOwnedError",
    "Cannot release a lock that's no longer owned"⟩

/-- The key whose lock body a worker is in. -/
def bodyKey : Phase σ → Option String
  | .releasing .. => none
  | phase => heldKey phase

namespace LeaseState

/-- The lease of this key is the worker's own. -/
def Owns (state : LeaseState ι σ) (worker : ι) (key : String) : Prop :=
  key ∈ state.pool.shared.held ∧ state.owner key = some worker

instance [DecidableEq ι] (state : LeaseState ι σ) (worker : ι)
    (key : String) : Decidable (state.Owns worker key) :=
  inferInstanceAs (Decidable (_ ∧ _))

/-- The release of a lease that is not owned any more raises, and releases
nothing. -/
def released [DecidableEq ι] (state : LeaseState ι σ) (worker : ι)
    (tick : Tick) : Tick :=
  match (state.pool.workers worker).phase with
  | .releasing _ key _ _ =>
      if state.Owns worker key then tick
      else { tick with fate := .raises lockNotOwned false }
  | _ => tick

/-- A lease that appears is the worker's, and one that is gone is nobody's. -/
def moved (state : LeaseState ι σ) (worker : ι) (pool : PoolState ι σ) :
    LeaseState ι σ :=
  { state with
    pool := pool
    owner := fun key =>
      if key ∈ pool.shared.held then
        if key ∈ state.pool.shared.held then state.owner key else some worker
      else none }

def stopped [DecidableEq ι] (state : LeaseState ι σ) (worker : ι) :
    LeaseState ι σ :=
  { state with
    pool := { state.pool with
      workers := Function.update state.pool.workers worker
        ⟨.stopped terminated, (state.pool.workers worker).stats⟩ } }

/-- The worker's process ends without a word, with all of its threads. -/
def killed [DecidableEq ι] (state : LeaseState ι σ) (worker : ι) :
    LeaseState ι σ :=
  { state.stopped worker with
    abandoned :=
      state.abandoned.filter fun run => decide (run.worker ≠ worker) }

/-- A lease is gone. -/
def expired (state : LeaseState ι σ) (key : String) : LeaseState ι σ :=
  { state with
    pool := { state.pool with
      shared := { state.pool.shared with
        held := state.pool.shared.held.filter (· ≠ key) } }
    owner := fun other => if other = key then none else state.owner other }

/-- A worker that is cancelled leaves the thread of its run alone. -/
def abandon [DecidableEq ι] (state : LeaseState ι σ) (worker : ι) :
    LeaseState ι σ :=
  match (state.pool.workers worker).phase with
  | .running task _ environment =>
      { state.stopped worker with
        abandoned := state.abandoned ++ [⟨worker, task, environment⟩] }
  | _ => state.stopped worker

/-- It still releases the lease that it owns. -/
def cancelled [DecidableEq ι] (state : LeaseState ι σ) (worker : ι) :
    LeaseState ι σ :=
  match heldKey (state.pool.workers worker).phase with
  | none => state.abandon worker
  | some key =>
      if state.Owns worker key then (state.abandon worker).expired key
      else state.abandon worker

/-- The world after a call of an abandoned run. -/
def calledBy (state : LeaseState ι σ) (run : AbandonedRun ι σ)
    (call : EnvironmentCall) : LeaseState ι σ :=
  { state with
    pool := { state.pool with
      shared := { state.pool.shared with
        world := callEffect run.environment call state.pool.shared.world } } }

end LeaseState

def leaseStep [DecidableEq ι] (workers : ι → OptimizationWorker σ)
    (state : LeaseState ι σ) : LeaseAction ι → Option (LeaseState ι σ)
  | .claim worker message =>
      (poolStep workers state.pool (.act worker (.claim message))).map
        (state.moved worker)
  | .tick worker tick =>
      (poolStep workers state.pool
        (.act worker (.tick (state.released worker tick)))).map
        (state.moved worker)
  | .call worker call =>
      (poolStep workers state.pool (.call worker call)).map
        (state.moved worker)
  | .cancel worker => some (state.cancelled worker)
  | .kill worker => some (state.killed worker)
  | .callAbandoned index call =>
      state.abandoned[index]?.map fun run => state.calledBy run call
  | .endAbandoned index =>
      some { state with abandoned := state.abandoned.eraseIdx index }
  | .expire key => some (state.expired key)

/-- Who may change the policy of a workload: a worker, or an abandoned run. -/
inductive Optimizer (ι : Type) where
  | worker (worker : ι)
  | abandoned (index : Nat)

/-- The next steps of this optimizer apply or restore policies of the workload
with this lock key: those of a run do, and the handler restores. -/
def MayMutate (workers : ι → OptimizationWorker σ) (state : LeaseState ι σ)
    (key : String) : Optimizer ι → Prop
  | .worker worker =>
      match (state.pool.workers worker).phase with
      | .running task _ _ => KeyOf (workers worker) task key
      | .recovering task (some _) _ => KeyOf (workers worker) task key
      | _ => False
  | .abandoned index => ∃ run, state.abandoned[index]? = some run ∧
      KeyOf (workers run.worker) run.task key

/-- No lease ends while the worker that owns it is in the body of its lock. -/
def Renewed (state : LeaseState ι σ) : LeaseAction ι → Prop
  | .expire key => ∀ worker, state.Owns worker key →
      bodyKey (state.pool.workers worker).phase ≠ some key
  | _ => True

/-- Moreover no call raises between the creation of an environment and the
release of the lease, and no worker is cancelled during the run of its
graph. -/
def Unbroken [DecidableEq ι] (workers : ι → OptimizationWorker σ)
    (state : LeaseState ι σ) : LeaseAction ι → Prop
  | .tick worker tick =>
      PhaseSteady (workers worker) (state.released worker tick)
        state.pool.shared.world (state.pool.workers worker).phase
  | .cancel worker => ∀ task key environment,
      (state.pool.workers worker).phase ≠ .running task key environment
  | action => Renewed state action

theorem Unbroken.renewed [DecidableEq ι]
    {workers : ι → OptimizationWorker σ} {state : LeaseState ι σ}
    {action : LeaseAction ι}
    (unbroken : Unbroken workers state action) : Renewed state action := by
  cases action with
  | tick worker tick => trivial
  | cancel worker => trivial
  | _ => exact unbroken

/-- Whoever is in the body of a lock owns its lease. -/
def LeasesSound (state : LeaseState ι σ) : Prop :=
  ∀ worker key, bodyKey (state.pool.workers worker).phase = some key →
    state.Owns worker key

section

variable {state : LeaseState ι σ}

theorem bodyKey_le_heldKey {phase : Phase σ} {key : String}
    (inside : bodyKey phase = some key) : heldKey phase = some key := by
  cases phase with
  | releasing task held environment failure => cases inside
  | _ => exact inside

theorem bodyKey_eq_heldKey {phase : Phase σ} (passive : phase.locks = false) :
    bodyKey phase = heldKey phase := by
  cases phase with
  | releasing task key environment failure => cases passive
  | _ => rfl

theorem moved_owns {pool : PoolState ι σ} {mover worker : ι} {key : String}
    (held : key ∈ pool.shared.held) :
    (state.moved mover pool).Owns worker key ↔
      state.Owns worker key ∨
        key ∉ state.pool.shared.held ∧ worker = mover := by
  simp only [LeaseState.Owns, LeaseState.moved, held, if_true, true_and]
  by_cases before : key ∈ state.pool.shared.held
  · simp [before]
  · simp [before, eq_comm]

/-- The rule of moves: a worker that moves keeps what the others own, and owns
what it is inside of. -/
theorem LeasesSound.moved (sound : LeasesSound state)
    {pool : PoolState ι σ} {mover : ι}
    (others : ∀ other, other ≠ mover →
      pool.workers other = state.pool.workers other)
    (kept : ∀ other key, other ≠ mover → state.Owns other key →
      key ∈ pool.shared.held)
    (own : ∀ key, bodyKey (pool.workers mover).phase = some key →
      key ∈ pool.shared.held ∧
        (state.Owns mover key ∨ key ∉ state.pool.shared.held)) :
    LeasesSound (state.moved mover pool) := by
  intro worker key inside
  by_cases same : worker = mover
  · subst same
    obtain ⟨held, owned | fresh⟩ := own key inside
    · exact (moved_owns held).mpr (Or.inl owned)
    · exact (moved_owns held).mpr (Or.inr ⟨fresh, rfl⟩)
  · change bodyKey (pool.workers worker).phase = some key at inside
    rw [others worker same] at inside
    have owned := sound worker key inside
    exact (moved_owns (kept worker key same owned)).mpr (Or.inl owned)

theorem expired_leasesSound (sound : LeasesSound state) {key : String}
    (outside : ∀ worker, state.Owns worker key →
      bodyKey (state.pool.workers worker).phase ≠ some key) :
    LeasesSound (state.expired key) := by
  intro worker other inside
  have owned := sound worker other inside
  have different : other ≠ key := by
    rintro rfl
    exact outside worker owned inside
  refine ⟨List.mem_filter.mpr ⟨owned.1, by simpa using different⟩, ?_⟩
  simp only [LeaseState.expired, if_neg different]
  exact owned.2

/-- Two workers in the body of a lock would both own its lease. -/
theorem LeasesSound.exclusive (sound : LeasesSound state) {worker other : ι}
    {key : String}
    (inside : bodyKey (state.pool.workers worker).phase = some key)
    (otherInside : bodyKey (state.pool.workers other).phase = some key) :
    worker = other := by
  have mine := sound worker key inside
  have theirs := sound other key otherInside
  exact Option.some.inj (mine.2.symm.trans theirs.2)

/-- No attempt has failed behind the creation of its environment, and no run
was abandoned. -/
structure LeaseScopeSound (workers : ι → OptimizationWorker σ)
    (state : LeaseState ι σ) : Prop where
  leases : LeasesSound state
  inScope : ∀ worker,
    PhaseScoped (workers worker) (state.pool.workers worker).phase
  none : state.abandoned = []

theorem LeaseScopeSound.inside {workers : ι → OptimizationWorker σ}
    (sound : LeaseScopeSound workers state)
    {key : String} {optimizer : Optimizer ι}
    (mutates : MayMutate workers state key optimizer) :
    ∃ worker, optimizer = .worker worker ∧
      bodyKey (state.pool.workers worker).phase = some key := by
  cases optimizer with
  | abandoned index =>
      obtain ⟨run, present, -⟩ := mutates
      rw [sound.none] at present
      cases present
  | worker worker =>
      refine ⟨worker, rfl, ?_⟩
      have inScope := sound.inScope worker
      simp only [MayMutate] at mutates
      split at mutates
      · rename_i task held environment running
        rw [running] at inScope ⊢
        cases inScope.symm.trans mutates
        rfl
      · rename_i task environment failure recovering
        rw [recovering] at inScope
        cases inScope
      · exact absurd mutates id

variable [DecidableEq ι] {workers : ι → OptimizationWorker σ}

theorem tick_leasesSound (sound : LeasesSound state) {mover : ι}
    {tick : Tick} {pool : PoolState ι σ}
    (step : poolStep workers state.pool
      (.act mover (.tick (state.released mover tick))) = some pool) :
    LeasesSound (state.moved mover pool) := by
  obtain ⟨acted, others⟩ := poolStep_act step
  change (workers mover).advance _ _ _ = _ at acted
  cases locks : (state.pool.workers mover).phase.locks with
  | false =>
      obtain ⟨sameKey, sameHeld⟩ := advance_keepsLock locks acted
      apply sound.moved others
      · intro other key _ owned
        rw [sameHeld]
        exact owned.1
      · intro key inside
        have before : bodyKey (state.pool.workers mover).phase = some key := by
          rw [bodyKey_eq_heldKey locks, ← sameKey]
          exact bodyKey_le_heldKey inside
        have owned := sound mover key before
        rw [sameHeld]
        exact ⟨owned.1, Or.inl owned⟩
  | true =>
      cases now : state.pool.workers mover with
      | mk phase stats =>
          rw [now] at acted locks
          cases phase with
          | locking task key =>
              obtain ⟨entered, free, grown⟩ | ⟨without, same⟩ :=
                advance_locks acted
              · apply sound.moved others
                · intro other wanted _ owned
                  rw [grown]
                  exact List.mem_cons_of_mem key owned.1
                · intro wanted inside
                  rw [entered] at inside
                  cases inside
                  rw [grown]
                  exact ⟨List.mem_cons_self, Or.inr free⟩
              · apply sound.moved others
                · intro other wanted _ owned
                  rw [same]
                  exact owned.1
                · intro wanted inside
                  rw [bodyKey_le_heldKey inside] at without
                  cases without
          | releasing task key environment failure =>
              obtain ⟨left, kept⟩ := advance_releases acted
              apply sound.moved others
              · intro other wanted different owned
                rcases kept with same | ⟨gone, lands⟩
                · rw [same]
                  exact owned.1
                · have mine : state.Owns mover key := by
                    by_contra lost
                    apply lands lockNotOwned
                    simp only [LeaseState.released, now, if_neg lost]
                  rw [gone]
                  refine (List.mem_erase_of_ne ?_).mpr owned.1
                  rintro rfl
                  exact different (Option.some.inj
                    (owned.2.symm.trans mine.2))
              · intro wanted inside
                rw [bodyKey_le_heldKey inside] at left
                cases left
          | _ => cases locks

theorem claim_leasesSound (sound : LeasesSound state) {mover : ι}
    {message : ConsumedEvent} {pool : PoolState ι σ}
    (step : poolStep workers state.pool (.act mover (.claim message)) =
      some pool) : LeasesSound (state.moved mover pool) := by
  obtain ⟨acted, others⟩ := poolStep_act step
  have claimed : (pool.workers mover).phase = .validating message ∧
      pool.shared = state.pool.shared := by
    simp only [OptimizationWorker.act] at acted
    split at acted
    · obtain ⟨entered, same⟩ := Prod.mk.inj (Option.some.inj acted)
      exact ⟨congrArg WorkerState.phase entered.symm, same.symm⟩
    · obtain ⟨entered, same⟩ := Prod.mk.inj (Option.some.inj acted)
      exact ⟨congrArg WorkerState.phase entered.symm, same.symm⟩
    · cases acted
  apply sound.moved others
  · intro other key _ owned
    rw [claimed.2]
    exact owned.1
  · intro key inside
    rw [claimed.1] at inside
    cases inside

theorem call_leasesSound (sound : LeasesSound state) {mover : ι}
    {call : EnvironmentCall} {pool : PoolState ι σ}
    (step : poolStep workers state.pool (.call mover call) = some pool) :
    LeasesSound (state.moved mover pool) := by
  obtain ⟨same, world, sameShared⟩ := poolStep_call step
  apply sound.moved
  · intro other _
    rw [same]
  · intro other key _ owned
    rw [sameShared]
    exact owned.1
  · intro key inside
    rw [same] at inside
    have owned := sound mover key inside
    rw [sameShared]
    exact ⟨owned.1, Or.inl owned⟩

theorem stopped_workers (state : LeaseState ι σ) (worker : ι) :
    ((state.stopped worker).pool.workers worker).phase = .stopped terminated ∧
      ∀ other, other ≠ worker → (state.stopped worker).pool.workers other =
        state.pool.workers other := by
  constructor
  · simp [LeaseState.stopped]
  · intro other different
    exact Function.update_of_ne different _ _

theorem stopped_leasesSound (sound : LeasesSound state) (worker : ι) :
    LeasesSound (state.stopped worker) := by
  intro other key inside
  obtain ⟨stopped, others⟩ := stopped_workers state worker
  by_cases same : other = worker
  · rw [same, stopped] at inside
    cases inside
  · rw [others other same] at inside
    exact sound other key inside

theorem abandon_pool (state : LeaseState ι σ) (worker : ι) :
    (state.abandon worker).pool = (state.stopped worker).pool ∧
      (state.abandon worker).owner = state.owner := by
  rw [LeaseState.abandon]
  split
  · exact ⟨rfl, rfl⟩
  · exact ⟨rfl, rfl⟩

theorem cancelled_leasesSound (sound : LeasesSound state) (worker : ι) :
    LeasesSound (state.cancelled worker) := by
  obtain ⟨samePool, sameOwner⟩ := abandon_pool state worker
  have stopped : LeasesSound (state.abandon worker) := by
    intro other key inside
    rw [samePool] at inside
    have owned := stopped_leasesSound sound worker other key inside
    rw [LeaseState.Owns, samePool, sameOwner]
    exact owned
  rw [LeaseState.cancelled]
  split
  · exact stopped
  · rename_i key _
    split
    · rename_i mine
      apply expired_leasesSound stopped
      intro other owned inside
      rw [LeaseState.Owns, sameOwner] at owned
      have same : other = worker :=
        Option.some.inj (owned.2.symm.trans mine.2)
      rw [same, samePool, (stopped_workers state worker).1] at inside
      cases inside
    · exact stopped

theorem leaseStep_leasesSound (state : LeaseState ι σ)
    (action : LeaseAction ι) (next : LeaseState ι σ)
    (sound : LeasesSound state) (renewed : Renewed state action)
    (step : leaseStep workers state action = some next) :
    LeasesSound next := by
  cases action with
  | claim worker message =>
      obtain ⟨pool, moves, rfl⟩ := Option.map_eq_some_iff.mp step
      exact claim_leasesSound sound moves
  | tick worker tick =>
      obtain ⟨pool, moves, rfl⟩ := Option.map_eq_some_iff.mp step
      exact tick_leasesSound sound moves
  | call worker call =>
      obtain ⟨pool, moves, rfl⟩ := Option.map_eq_some_iff.mp step
      exact call_leasesSound sound moves
  | cancel worker =>
      cases step
      exact cancelled_leasesSound sound worker
  | kill worker =>
      cases step
      exact stopped_leasesSound sound worker
  | callAbandoned index call =>
      obtain ⟨run, -, rfl⟩ := Option.map_eq_some_iff.mp step
      exact sound
  | endAbandoned index =>
      cases step
      exact sound
  | expire key =>
      cases step
      exact expired_leasesSound sound renewed

theorem stopped_inScope
    (inScope : ∀ worker,
      PhaseScoped (workers worker) (state.pool.workers worker).phase)
    (worker other : ι) : PhaseScoped (workers other)
      ((state.stopped worker).pool.workers other).phase := by
  obtain ⟨stopped, others⟩ := stopped_workers state worker
  by_cases same : other = worker
  · rw [same, stopped]
    trivial
  · rw [others other same]
    exact inScope other

private theorem act_inScope
    (inScope : ∀ worker,
      PhaseScoped (workers worker) (state.pool.workers worker).phase)
    {mover : ι} {action : OptimizationWorker.Action} {pool : PoolState ι σ}
    (steady : ∀ tick, action = .tick tick →
      PhaseSteady (workers mover) tick state.pool.shared.world
        (state.pool.workers mover).phase)
    (step : poolStep workers state.pool (.act mover action) = some pool)
    (worker : ι) :
    PhaseScoped (workers worker) (pool.workers worker).phase := by
  obtain ⟨acted, others⟩ := poolStep_act step
  by_cases same : worker = mover
  · rw [same]
    exact act_scoped steady (inScope mover) acted
  · rw [others worker same]
    exact inScope worker

theorem cancelled_eq {worker : ι} (outside : ∀ task key environment,
      (state.pool.workers worker).phase ≠ .running task key environment) :
    (state.cancelled worker).pool.workers =
        (state.stopped worker).pool.workers ∧
      (state.cancelled worker).abandoned = state.abandoned := by
  have stopped : state.abandon worker = state.stopped worker := by
    rw [LeaseState.abandon]
    split
    · rename_i task key environment running
      exact absurd running (outside task key environment)
    · rfl
  rw [LeaseState.cancelled, stopped]
  split
  · exact ⟨rfl, rfl⟩
  · split
    · exact ⟨rfl, rfl⟩
    · exact ⟨rfl, rfl⟩

theorem leaseStep_leaseScopeSound (state : LeaseState ι σ)
    (action : LeaseAction ι) (next : LeaseState ι σ)
    (sound : LeaseScopeSound workers state)
    (unbroken : Unbroken workers state action)
    (step : leaseStep workers state action = some next) :
    LeaseScopeSound workers next := by
  have leases := leaseStep_leasesSound state action next sound.leases
    unbroken.renewed step
  obtain ⟨-, inScope, nothing⟩ := sound
  cases action with
  | claim worker message =>
      obtain ⟨pool, moves, rfl⟩ := Option.map_eq_some_iff.mp step
      refine ⟨leases, act_inScope inScope (fun _ same => ?_) moves, nothing⟩
      cases same
  | tick worker tick =>
      obtain ⟨pool, moves, rfl⟩ := Option.map_eq_some_iff.mp step
      refine ⟨leases, act_inScope inScope (fun _ same => ?_) moves, nothing⟩
      cases same
      exact unbroken
  | call worker call =>
      obtain ⟨pool, moves, rfl⟩ := Option.map_eq_some_iff.mp step
      refine ⟨leases, fun other => ?_, nothing⟩
      change PhaseScoped (workers other) (pool.workers other).phase
      rw [(poolStep_call moves).1]
      exact inScope other
  | cancel worker =>
      cases step
      obtain ⟨same, kept⟩ := cancelled_eq unbroken
      refine ⟨leases, fun other => ?_, kept.trans nothing⟩
      rw [same]
      exact stopped_inScope inScope worker other
  | kill worker =>
      cases step
      refine ⟨leases, stopped_inScope inScope worker, ?_⟩
      simp only [LeaseState.killed, nothing, List.filter_nil]
  | callAbandoned index call =>
      obtain ⟨run, -, rfl⟩ := Option.map_eq_some_iff.mp step
      exact ⟨leases, inScope, nothing⟩
  | endAbandoned index =>
      cases step
      refine ⟨leases, inScope, ?_⟩
      simp only [nothing, List.eraseIdx_nil]
  | expire key =>
      cases step
      exact ⟨leases, inScope, nothing⟩

/-- In every run in which no lease ends while its owner is in the body, no two
workers are in the body of the same lock.  If moreover no call raises behind
the creation of an environment and no run is abandoned, only the one that is in
the body may change the policy of its workload. -/
theorem leases_exclude {start final : LeaseState ι σ}
    {actions : List (LeaseAction ι)} (opened : start.pool.Opened)
    (fresh : start.abandoned = [])
    (played : play (leaseStep workers) start actions = some final) :
    (Meets (leaseStep workers) Renewed start actions →
      ∀ worker other key,
        bodyKey (final.pool.workers worker).phase = some key →
        bodyKey (final.pool.workers other).phase = some key →
        worker = other) ∧
    (Meets (leaseStep workers) (Unbroken workers) start actions →
      (∀ key optimizer, MayMutate workers final key optimizer →
        ∃ worker, optimizer = .worker worker ∧
          bodyKey (final.pool.workers worker).phase = some key ∧
          final.Owns worker key) ∧
      ∀ key optimizer other, MayMutate workers final key optimizer →
        MayMutate workers final key other → optimizer = other) := by
  have begins : LeasesSound start := by
    intro worker key inside
    rw [opened.idle worker] at inside
    cases inside
  have begun : LeaseScopeSound workers start := by
    refine ⟨begins, fun worker => ?_, fresh⟩
    rw [opened.idle worker]
    trivial
  constructor
  · intro renewed worker other key inside otherInside
    exact (invariant_play leaseStep_leasesSound begins renewed
      played).exclusive inside otherInside
  · intro unbroken
    have sound := invariant_play leaseStep_leaseScopeSound begun unbroken
      played
    constructor
    · intro key optimizer mutates
      obtain ⟨worker, same, inside⟩ := sound.inside mutates
      exact ⟨worker, same, inside, sound.leases worker key inside⟩
    · intro key optimizer other mutates mutatesToo
      obtain ⟨worker, rfl, inside⟩ := sound.inside mutates
      obtain ⟨another, rfl, insideToo⟩ := sound.inside mutatesToo
      rw [sound.leases.exclusive inside insideToo]

end

/-- The two workers in front of the watcher, without any lease. -/
def leasedPool : LeaseState (Fin 2) Policy where
  pool := watcherPool
  owner := fun _ => none

def leasedTicks (worker : Fin 2) (count : Nat) : List (LeaseAction (Fin 2)) :=
  List.replicate count (.tick worker {})

/-- A lease ends while the run of its owner is under way. -/
def outlastedLease : List (LeaseAction (Fin 2)) :=
  [.claim 0 watcherRequest] ++ leasedTicks 0 4 ++
    [.expire "kind-kuber:shop:web"] ++
    [.claim 1 watcherRequest] ++ leasedTicks 1 4

/-- Both workers optimize the same workload, and may change its policy. -/
theorem outlasted_lease_is_shared :
    ∃ final,
      play (leaseStep watcherWorkers) leasedPool outlastedLease =
        some final ∧
      bodyKey (final.pool.workers 0).phase = some "kind-kuber:shop:web" ∧
      bodyKey (final.pool.workers 1).phase = some "kind-kuber:shop:web" ∧
      MayMutate watcherWorkers final "kind-kuber:shop:web" (.worker 0) ∧
      MayMutate watcherWorkers final "kind-kuber:shop:web" (.worker 1) := by
  refine ⟨_, rfl, rfl, rfl, ?_, ?_⟩
  · exact (rfl : workloadLockKey _ _ _ = _)
  · exact (rfl : workloadLockKey _ _ _ = _)

/-- A worker is killed, its lease ends, and the other worker enters. -/
def succeededLease : List (LeaseAction (Fin 2)) :=
  [.claim 0 watcherRequest] ++ leasedTicks 0 4 ++
    [.kill 0, .expire "kind-kuber:shop:web", .claim 1 watcherRequest] ++
    leasedTicks 1 4

theorem leases_exclude_succeeded :
    ∃ final,
      play (leaseStep watcherWorkers) leasedPool succeededLease =
        some final ∧
      bodyKey (final.pool.workers 1).phase = some "kind-kuber:shop:web" ∧
      bodyKey (final.pool.workers 0).phase ≠ some "kind-kuber:shop:web" ∧
      ∀ optimizer,
        MayMutate watcherWorkers final "kind-kuber:shop:web" optimizer →
          optimizer = .worker 1 := by
  have outside : ∀ state : LeaseState (Fin 2) Policy,
      (∀ worker, bodyKey (state.pool.workers worker).phase = none) →
        Renewed state (.expire "kind-kuber:shop:web") := by
    intro state nobody worker _
    rw [nobody worker]
    exact (Option.some_ne_none _).symm
  have renewed : Meets (leaseStep watcherWorkers) Renewed leasedPool
      succeededLease :=
    meets_cons trivial rfl <| meets_cons trivial rfl <|
      meets_cons trivial rfl <| meets_cons trivial rfl <|
      meets_cons trivial rfl <| meets_cons trivial rfl <|
      meets_cons (outside _ (Fin.forall_fin_two.mpr ⟨rfl, rfl⟩)) rfl <|
      meets_cons trivial rfl <| meets_cons trivial rfl <|
      meets_cons trivial rfl <| meets_cons trivial rfl <|
      meets_cons trivial rfl trivial
  have unbroken : Meets (leaseStep watcherWorkers) (Unbroken watcherWorkers)
      leasedPool succeededLease :=
    meets_cons trivial rfl <| meets_cons trivial rfl <|
      meets_cons trivial rfl <| meets_cons trivial rfl <|
      meets_cons trivial rfl <| meets_cons trivial rfl <|
      meets_cons (outside _ (Fin.forall_fin_two.mpr ⟨rfl, rfl⟩)) rfl <|
      meets_cons trivial rfl <| meets_cons trivial rfl <|
      meets_cons trivial rfl <| meets_cons trivial rfl <|
      meets_cons trivial rfl trivial
  obtain ⟨final, played, inside, mutates⟩ : ∃ final,
      play (leaseStep watcherWorkers) leasedPool succeededLease =
        some final ∧
      bodyKey (final.pool.workers 1).phase = some "kind-kuber:shop:web" ∧
      MayMutate watcherWorkers final "kind-kuber:shop:web" (.worker 1) :=
    ⟨_, rfl, rfl, (rfl : workloadLockKey _ _ _ = _)⟩
  obtain ⟨bodies, mutators⟩ :=
    leases_exclude watcherPool_opened rfl played
  refine ⟨final, played, inside, fun both => ?_, fun optimizer also => ?_⟩
  · cases bodies renewed 0 1 _ both inside
  · exact (mutators unbroken).2 _ _ _ also mutates

end Kuber.Event

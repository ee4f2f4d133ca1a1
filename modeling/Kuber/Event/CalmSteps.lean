import Kuber.Event.RecordMoves

/-!
# Steps without failures

While nothing fails, a worker answers every record that it is given and gives
its lock back.  Only a lock that another worker has can keep it waiting, and
that one can go on.
-/

namespace Kuber.Event

open Kuber.Library Kuber.Rules Kuber.Agent OptimizationWorker

variable {ι σ : Type}

/-- Nothing has gone wrong with the delivery so far. -/
def Phase.untroubled : Phase σ → Bool
  | .rejecting .. => false
  | .releasing _ _ _ (some _) => false
  | .recovering .. => false
  | .retrying .. => false
  | .deadLettering .. => false
  | .stopped _ => false
  | _ => true

/-- What a worker does with its record and its lock while nothing fails. -/
structure Tidy (phase : Phase σ) (shared : Shared σ)
    (next : WorkerState σ × Shared σ) : Prop where
  retries : next.2.retries = shared.retries
  answered : ∀ record ∈ shared.answered, record ∈ next.2.answered
  carried : ∀ record, carriedRecord phase = some record →
    carriedRecord next.1.phase = some record ∨ record ∈ next.2.answered
  kept : ∀ key ∈ next.2.held, heldKey next.1.phase = some key ∨
    key ∈ shared.held ∧ heldKey phase ≠ some key

section

variable {worker : OptimizationWorker σ} {tick : Tick} {phase : Phase σ}
  {stats : WorkerStats} {state : WorkerState σ} {shared : Shared σ}
  {next : WorkerState σ × Shared σ}

/-- A worker that is at work goes on, unless somebody else has its lock. -/
theorem advance_enabled (untroubled : phase.untroubled = true)
    (busy : phase ≠ .idle)
    (free : ∀ task key, phase = .locking task key → key ∉ shared.held) :
    ∃ next, worker.advance {} ⟨phase, stats⟩ shared = some next := by
  cases phase with
  | idle => exact absurd rfl busy
  | stopped failure => cases untroubled
  | validating message =>
      simp only [OptimizationWorker.advance]
      split
      · exact ⟨_, rfl⟩
      · split
        · exact ⟨_, rfl⟩
        · exact ⟨_, rfl⟩
  | lookingUp task =>
      simp only [OptimizationWorker.advance]
      split
      · exact ⟨_, rfl⟩
      · exact ⟨_, rfl⟩
      · exact ⟨_, rfl⟩
      · exact ⟨_, rfl⟩
  | locking task key =>
      exact ⟨_, advance_locking_free rfl (free task key rfl)⟩
  | creating task key =>
      simp only [OptimizationWorker.advance]
      split
      · exact ⟨_, rfl⟩
      · exact ⟨_, rfl⟩
  | running task key environment =>
      simp only [OptimizationWorker.advance]
      split
      · exact ⟨_, rfl⟩
      · split
        · exact ⟨_, rfl⟩
        · exact ⟨_, rfl⟩
  | recovering task environment failure => cases untroubled
  | _ => exact ⟨_, rfl⟩

theorem tidy_keeps (retries : next.2.retries = shared.retries)
    (answered : next.2.answered = shared.answered)
    (carried : ∀ record, carriedRecord phase = some record →
      carriedRecord next.1.phase = some record)
    (key : heldKey next.1.phase = heldKey phase)
    (held : next.2.held = shared.held) : Tidy phase shared next := by
  refine ⟨retries, ?_, fun record mine => Or.inl (carried record mine), ?_⟩
  · rw [answered]
    exact fun _ member => member
  · intro other member
    rw [held] at member
    rw [key]
    by_cases mine : heldKey phase = some other
    · exact Or.inl mine
    · exact Or.inr ⟨member, mine⟩

theorem tidy_answers {task : Task} {payload : Document} {stamp : Stamp}
    {later : WorkerState σ}
    (mine : carriedRecord phase = some task.message.record)
    (key : heldKey later.phase = heldKey phase) :
    Tidy phase shared (later, shared.publish task payload stamp) := by
  have answered := shared.answered_publish task payload stamp
  refine ⟨rfl, ?_, ?_, ?_⟩
  · intro record member
    rw [answered]
    exact List.mem_append_left _ member
  · intro record same
    cases mine.symm.trans same
    rw [answered]
    exact Or.inr (List.mem_append_right _ List.mem_cons_self)
  · intro other member
    change other ∈ shared.held at member
    rw [key]
    by_cases holds : heldKey phase = some other
    · exact Or.inl holds
    · exact Or.inr ⟨member, holds⟩

theorem call_returns {fate : Fate} {effect : Shared σ → Shared σ}
    {returned : WorkerState σ} {raised : PyException → WorkerState σ}
    (returns : fate = .returns)
    (step : some (fate.call effect shared returned raised) = some next) :
    next = (returned, effect shared) := by
  rw [returns] at step
  cases step
  rfl

theorem claim_tidy {message : ConsumedEvent}
    (step : worker.act (.claim message) state shared = some next) :
    Tidy state.phase shared next := by
  obtain ⟨phase, stats⟩ := state
  have waits : ∀ reached : WorkerState σ, carriedRecord phase = none →
      heldKey phase = none → Tidy phase shared (reached, shared) := by
    intro reached nothing unlocked
    refine ⟨rfl, fun _ member => member, ?_, ?_⟩
    · intro record mine
      rw [nothing] at mine
      cases mine
    · intro key member
      refine Or.inr ⟨member, ?_⟩
      rw [unlocked]
      exact fun mine => by cases mine
  cases phase with
  | idle =>
      cases step
      exact waits _ rfl rfl
  | stopped failure =>
      cases step
      exact waits _ rfl rfl
  | _ => cases step

theorem advance_tidy (returns : tick.fate = .returns)
    (distinct : shared.held.Nodup) (untroubled : state.phase.untroubled = true)
    (later : next.1.phase.untroubled = true)
    (step : worker.advance tick state shared = some next) :
    Tidy state.phase shared next := by
  obtain ⟨phase, stats⟩ := state
  cases phase with
  | idle => cases step
  | validating message =>
      cases advance_decides rfl step with
      | validated task valid =>
          obtain ⟨rfl, -⟩ := validate_ok valid
          exact tidy_keeps rfl rfl (fun _ mine => mine) rfl rfl
      | rejected reason => cases later
      | unexpected failure => cases later
  | lookingUp task =>
      cases advance_decides rfl step with
      | found payload present =>
          exact tidy_keeps rfl rfl (fun _ mine => mine) rfl rfl
      | missed key absent keyed =>
          exact tidy_keeps rfl rfl (fun _ mine => mine) rfl rfl
      | unlooked failure => cases later
  | republishing task payload =>
      cases call_returns returns step
      exact tidy_answers rfl rfl
  | acknowledgingDuplicate task =>
      cases call_returns returns step
      exact tidy_keeps rfl rfl (fun _ mine => mine) rfl rfl
  | locking task key =>
      cases advance_decides rfl step with
      | acquired free =>
          refine ⟨rfl, fun _ member => member, fun _ mine => Or.inl mine, ?_⟩
          intro other member
          cases List.mem_cons.mp member with
          | inl new => exact Or.inl (congrArg some new.symm)
          | inr old => exact Or.inr ⟨old, fun holds => by cases holds⟩
      | unacquired failure => cases later
  | creating task key =>
      cases advance_decides rfl step with
      | created environment world made =>
          exact tidy_keeps rfl rfl (fun _ mine => mine) rfl rfl
      | uncreated failure world => cases later
  | running task key environment =>
      cases advance_decides rfl step with
      | ran repositoryRef execution session run =>
          exact tidy_keeps rfl rfl (fun _ mine => mine) rfl rfl
      | unnamed failure unnamed => cases later
      | raised repositoryRef failure session named run => cases later
  | storing task key environment payload =>
      cases call_returns returns step
      exact tidy_keeps rfl rfl (fun _ mine => mine) rfl rfl
  | publishing task key environment payload =>
      cases call_returns returns step
      exact tidy_answers rfl rfl
  | acknowledging task key environment =>
      cases call_returns returns step
      exact tidy_keeps rfl rfl (fun _ mine => by cases mine) rfl rfl
  | releasing task key environment failure =>
      cases failure with
      | some failure => cases untroubled
      | none =>
          cases call_returns returns step
          refine ⟨rfl, fun _ member => member, fun _ mine => Or.inl mine, ?_⟩
          intro other member
          obtain ⟨different, before⟩ := distinct.mem_erase_iff.mp member
          refine Or.inr ⟨before, fun holds => ?_⟩
          exact different (Option.some.inj holds).symm
  | rejecting message reason => cases untroubled
  | recovering task environment failure => cases untroubled
  | retrying task failure => cases untroubled
  | deadLettering task failure => cases untroubled
  | stopped failure => cases untroubled

end

/-- Whoever holds a lock is still there. -/
def Owned (state : PoolState ι σ) : Prop :=
  ∀ key ∈ state.shared.held,
    ∃ worker, heldKey (state.workers worker).phase = some key

/-- Every one of these records is carried or has been answered. -/
def Attended (records : List Nat) (state : PoolState ι σ) : Prop :=
  ∀ record ∈ records,
    (∃ worker, carriedRecord (state.workers worker).phase = some record) ∨
      record ∈ state.shared.answered

section

variable {state next : PoolState ι σ} {mover : ι} {records : List Nat}

theorem Owned.move (owned : Owned state)
    (tidy : Tidy (state.workers mover).phase state.shared
      (next.workers mover, next.shared))
    (others : ∀ other, other ≠ mover →
      next.workers other = state.workers other) : Owned next := by
  intro key member
  rcases tidy.kept key member with mine | ⟨before, notMine⟩
  · exact ⟨mover, mine⟩
  · obtain ⟨owner, holds⟩ := owned key before
    have different : owner ≠ mover := by
      intro same
      exact notMine (same ▸ holds)
    exact ⟨owner, by rw [others owner different]; exact holds⟩

theorem Attended.move (attended : Attended records state)
    (tidy : Tidy (state.workers mover).phase state.shared
      (next.workers mover, next.shared))
    (others : ∀ other, other ≠ mover →
      next.workers other = state.workers other) : Attended records next := by
  intro record member
  rcases attended record member with ⟨carrier, carries⟩ | answered
  · by_cases same : carrier = mover
    · subst same
      cases tidy.carried record carries with
      | inl still => exact Or.inl ⟨carrier, still⟩
      | inr answered => exact Or.inr answered
    · exact Or.inl ⟨carrier, by rw [others carrier same]; exact carries⟩
  · exact Or.inr (tidy.answered record answered)

/-- Of workers that are at work one can go on: if one waits for a lock then
the other one that has it. -/
theorem exists_enabled {workers : ι → OptimizationWorker σ}
    (owned : Owned state)
    (untroubled : ∀ worker, (state.workers worker).phase.untroubled = true)
    {worker : ι} (busy : (state.workers worker).phase ≠ .idle) :
    ∃ worker next, (workers worker).advance {} (state.workers worker)
      state.shared = some next := by
  by_cases waits : ∃ task key,
      (state.workers worker).phase = .locking task key ∧
        key ∈ state.shared.held
  · obtain ⟨task, key, -, taken⟩ := waits
    obtain ⟨owner, holds⟩ := owned key taken
    refine ⟨owner, advance_enabled (untroubled owner) ?_ ?_⟩
    · intro idle
      rw [idle] at holds
      cases holds
    · intro task key locking
      rw [locking] at holds
      cases holds
  · refine ⟨worker, advance_enabled (untroubled worker) busy ?_⟩
    intro task key locking taken
    exact waits ⟨task, key, locking, taken⟩

end

end Kuber.Event

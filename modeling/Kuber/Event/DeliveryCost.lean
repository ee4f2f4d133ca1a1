import Kuber.Event.Redelivery

/-!
# What a delivery may cost

Every step of a worker uses up a part of what the delivery of its message may
cost.  A message that it puts back costs less than the delivery before, as it
counts one attempt more, and a result has to be collected only.
-/

namespace Kuber.Event

open Kuber.Library Kuber.Rules Kuber.Agent OptimizationWorker

variable {σ : Type}

/-- What the deliveries of a message may cost, with one attempt after the
other. -/
def deliveryCost (bound attempt : Nat) : Nat := 25 * max 1 (bound - attempt)

theorem deliveryCost_le (bound attempt : Nat) :
    deliveryCost bound attempt ≤ 25 * max 1 bound := by
  rw [deliveryCost]
  omega

/-- What a delivery leaves for later ones. -/
def retryCost (bound : Nat) (message : ConsumedEvent) : Nat :=
  25 * (max 1 (bound - message.event.attempt) - 1)

namespace Phase

/-- What a worker may still put back. -/
def reserve (bound : Nat) : Phase σ → Nat
  | .validating message => retryCost bound message
  | .lookingUp task => retryCost bound task.message
  | .locking task _ => retryCost bound task.message
  | .creating task _ => retryCost bound task.message
  | .running task _ _ => retryCost bound task.message
  | .storing task _ _ _ => retryCost bound task.message
  | .publishing task _ _ _ => retryCost bound task.message
  | .acknowledging task _ _ => retryCost bound task.message
  | .releasing task _ _ _ => retryCost bound task.message
  | .recovering task _ _ => retryCost bound task.message
  | .retrying task _ => deliveryCost bound (task.message.event.attempt + 1)
  | _ => 0

/-- What may become of the delivery from here on. -/
def cost (bound : Nat) (phase : Phase σ) : Nat :=
  2 * (12 - phase.rank) + phase.reserve bound

theorem rank_le (phase : Phase σ) : phase.rank ≤ 12 := by
  cases phase with
  | _ => exact Nat.le_of_ble_eq_true rfl

theorem cost_add_two_le {bound : Nat} {before after : Phase σ}
    (climbs : before.rank < after.rank)
    (reserve : after.reserve bound ≤ before.reserve bound) :
    after.cost bound + 2 ≤ before.cost bound := by
  have high := after.rank_le
  simp only [cost]
  omega

end Phase

theorem validating_cost {bound : Nat} {message : ConsumedEvent} :
    (Phase.validating message : Phase σ).cost bound + 1 =
      deliveryCost bound message.event.attempt := by
  change 2 * (12 - 0) + retryCost bound message + 1 = _
  rw [retryCost, deliveryCost]
  omega

/-- A step has used something up: what it has put back and published is paid
for. -/
def Spends (bound : Nat) (phase : Phase σ) (shared : Shared σ)
    (next : WorkerState σ × Shared σ) : Prop :=
  ∃ retries results, next.2.retries = shared.retries ++ retries ∧
    next.2.results = shared.results ++ results ∧
    next.1.phase.cost bound +
        (retries.map fun message =>
          deliveryCost bound message.event.attempt).sum +
        results.length + 1 ≤ phase.cost bound

section

variable {bound : Nat} {phase : Phase σ} {worker : OptimizationWorker σ}
  {tick : Tick} {state : WorkerState σ} {shared : Shared σ}
  {next : WorkerState σ × Shared σ}

theorem spends_quietly (climbs : phase.rank < next.1.phase.rank)
    (retries : next.2.retries = shared.retries)
    (results : next.2.results = shared.results)
    (reserve : next.1.phase.reserve bound ≤ phase.reserve bound) :
    Spends bound phase shared next := by
  have cheaper := Phase.cost_add_two_le climbs reserve
  refine ⟨[], [], ?_, ?_, ?_⟩
  · rw [retries, List.append_nil]
  · rw [results, List.append_nil]
  · rw [List.map_nil, List.sum_nil, List.length_nil]
    omega

/-- A result that is published has to be collected. -/
theorem spends_result {result : PublishedResult}
    (climbs : phase.rank < next.1.phase.rank)
    (retries : next.2.retries = shared.retries)
    (results : next.2.results = shared.results ++ [result])
    (reserve : next.1.phase.reserve bound ≤ phase.reserve bound) :
    Spends bound phase shared next := by
  have cheaper := Phase.cost_add_two_le climbs reserve
  refine ⟨[], [result], ?_, results, ?_⟩
  · rw [retries, List.append_nil]
  · rw [List.map_nil, List.sum_nil, List.length_singleton]
    omega

theorem call_spends {fate : Fate} {effect : Shared σ → Shared σ}
    {returned : WorkerState σ} {raised : PyException → WorkerState σ}
    (step : some (fate.call effect shared returned raised) = some next)
    (climbs : phase.rank < next.1.phase.rank)
    (retries : (effect shared).retries = shared.retries)
    (results : (effect shared).results = shared.results)
    (onReturn : returned.phase.reserve bound ≤ phase.reserve bound)
    (onRaise : ∀ failure, (raised failure).phase.reserve bound ≤
      phase.reserve bound) : Spends bound phase shared next := by
  revert climbs
  apply Fate.call_cases step
  · exact fun _ climbs => spends_quietly climbs retries results onReturn
  · exact fun failure _ climbs =>
      spends_quietly climbs rfl rfl (onRaise failure)
  · exact fun failure _ climbs =>
      spends_quietly climbs retries results (onRaise failure)

theorem publish_spends {fate : Fate} {task : Task} {payload : Document}
    {stamp : Stamp} {returned : WorkerState σ}
    {raised : PyException → WorkerState σ}
    (step : some (fate.call (Shared.publish task payload stamp) shared returned
      raised) = some next)
    (climbs : phase.rank < next.1.phase.rank)
    (onReturn : returned.phase.reserve bound ≤ phase.reserve bound)
    (onRaise : ∀ failure, (raised failure).phase.reserve bound ≤
      phase.reserve bound) : Spends bound phase shared next := by
  revert climbs
  apply Fate.call_cases step
  · exact fun _ climbs => spends_result climbs rfl rfl onReturn
  · exact fun failure _ climbs =>
      spends_quietly climbs rfl rfl (onRaise failure)
  · exact fun failure _ climbs =>
      spends_result climbs rfl rfl (onRaise failure)

/-- What is put back is paid for by the delivery before. -/
theorem retrying_spends {task : Task} {failure : PyException}
    {stats : WorkerStats}
    (step : worker.advance tick ⟨.retrying task failure, stats⟩ shared =
      some next) : Spends bound (.retrying task failure) shared next := by
  have climbs := advance_climbs step
  have putBack : ∀ reached : WorkerState σ,
      10 < reached.phase.rank →
      reached.phase.reserve bound = 0 →
      Spends bound (.retrying task failure) shared
        (reached, shared.retry task.message tick.stamp) := by
    intro reached climbs nothing
    refine ⟨_, [], rfl, (List.append_nil _).symm, ?_⟩
    change reached.phase.cost bound +
      (deliveryCost bound (task.message.event.attempt + 1) + 0) + 0 + 1 ≤
        2 * (12 - 10) + deliveryCost bound (task.message.event.attempt + 1)
    rw [Phase.cost, nothing]
    omega
  revert climbs
  apply Fate.call_cases step
  · exact fun _ climbs => putBack _ climbs rfl
  · exact fun _ _ climbs => spends_quietly climbs rfl rfl (Nat.zero_le _)
  · exact fun _ _ climbs => putBack _ climbs rfl

/-- A worker puts a message back only below its bound. -/
theorem recovering_spends {task : Task}
    {environment : Option (EnvironmentAdapter σ)} {failure : PyException}
    {stats : WorkerStats} (bounded : worker.maxDeliveryAttempts ≤ bound)
    (step : worker.advance tick ⟨.recovering task environment failure, stats⟩
      shared = some next) :
    Spends bound (.recovering task environment failure) shared next := by
  have climbs := advance_climbs step
  simp only [OptimizationWorker.advance] at step
  split at step
  · rename_i below
    cases step
    refine spends_quietly climbs rfl rfl ?_
    simp only [Phase.reserve, deliveryCost, retryCost]
    omega
  · cases step
    exact spends_quietly climbs rfl rfl (Nat.zero_le _)

theorem advance_spends (bounded : worker.maxDeliveryAttempts ≤ bound)
    (step : worker.advance tick state shared = some next) :
    Spends bound state.phase shared next := by
  have climbs := advance_climbs step
  obtain ⟨phase, stats⟩ := state
  cases phase with
  | idle => cases step
  | stopped failure => cases step
  | validating message =>
      cases advance_decides rfl step with
      | validated task valid =>
          obtain ⟨rfl, -⟩ := validate_ok valid
          exact spends_quietly climbs rfl rfl (Nat.le_refl _)
      | rejected reason =>
          exact spends_quietly climbs rfl rfl (Nat.zero_le _)
      | unexpected failure =>
          exact spends_quietly climbs rfl rfl (Nat.zero_le _)
  | rejecting message reason =>
      exact call_spends step climbs rfl rfl (Nat.le_refl _)
        fun _ => Nat.le_refl _
  | lookingUp task =>
      cases advance_decides rfl step with
      | found payload present =>
          exact spends_quietly climbs rfl rfl (Nat.zero_le _)
      | missed key absent keyed =>
          exact spends_quietly climbs rfl rfl (Nat.le_refl _)
      | unlooked failure => exact spends_quietly climbs rfl rfl (Nat.zero_le _)
  | republishing task payload =>
      exact publish_spends step climbs (Nat.le_refl _) fun _ => Nat.le_refl _
  | acknowledgingDuplicate task =>
      exact call_spends step climbs rfl rfl (Nat.le_refl _)
        fun _ => Nat.le_refl _
  | locking task key =>
      cases advance_decides rfl step with
      | acquired free => exact spends_quietly climbs rfl rfl (Nat.le_refl _)
      | unacquired failure =>
          exact spends_quietly climbs rfl rfl (Nat.le_refl _)
  | creating task key =>
      cases advance_decides rfl step with
      | created environment world made =>
          exact spends_quietly climbs rfl rfl (Nat.le_refl _)
      | uncreated failure world =>
          exact spends_quietly climbs rfl rfl (Nat.le_refl _)
  | running task key environment =>
      cases advance_decides rfl step with
      | ran repositoryRef execution session run =>
          exact spends_quietly climbs rfl rfl (Nat.le_refl _)
      | unnamed failure unnamed =>
          exact spends_quietly climbs rfl rfl (Nat.le_refl _)
      | raised repositoryRef failure session named run =>
          exact spends_quietly climbs rfl rfl (Nat.le_refl _)
  | storing task key environment payload =>
      exact call_spends step climbs rfl rfl (Nat.le_refl _)
        fun _ => Nat.le_refl _
  | publishing task key environment payload =>
      exact publish_spends step climbs (Nat.le_refl _) fun _ => Nat.le_refl _
  | acknowledging task key environment =>
      exact call_spends step climbs rfl rfl (Nat.le_refl _)
        fun _ => Nat.le_refl _
  | releasing task key environment failure =>
      cases failure with
      | none =>
          exact call_spends step climbs rfl rfl (Nat.zero_le _)
            fun _ => Nat.le_refl _
      | some failure =>
          exact call_spends step climbs rfl rfl (Nat.le_refl _)
            fun _ => Nat.le_refl _
  | recovering task environment failure =>
      exact recovering_spends bounded step
  | retrying task failure => exact retrying_spends step
  | deadLettering task failure =>
      exact call_spends step climbs rfl rfl (Nat.le_refl _)
        fun _ => Nat.le_refl _

theorem claim_begins {message : ConsumedEvent}
    (step : worker.act (.claim message) state shared = some next) :
    next.1.phase = .validating message ∧ next.2 = shared := by
  obtain ⟨phase, stats⟩ := state
  cases phase with
  | idle =>
      cases step
      exact ⟨rfl, rfl⟩
  | stopped failure =>
      cases step
      exact ⟨rfl, rfl⟩
  | _ => cases step

end

end Kuber.Event

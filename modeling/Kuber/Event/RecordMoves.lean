import Kuber.Event.Disposal
import Kuber.Event.WorkerPool
import Kuber.Library.Circulation

/-!
# What becomes of a delivered record

A worker answers the record of a delivery, puts it back, or gives it up.  It
does only one of these, as long as no call fails from the publication of a
result on; what fails earlier leads to a retry of a record that nobody has
answered.
-/

namespace Kuber.Event

open Kuber.Library Kuber.Rules Kuber.Agent OptimizationWorker

variable {ι σ : Type}

/-- The record that a worker may still answer or put back. -/
def carriedRecord : Phase σ → Option Nat
  | .validating message => some message.record
  | .lookingUp task => some task.message.record
  | .republishing task _ => some task.message.record
  | .locking task _ => some task.message.record
  | .creating task _ => some task.message.record
  | .running task _ _ => some task.message.record
  | .storing task _ _ _ => some task.message.record
  | .publishing task _ _ _ => some task.message.record
  | .releasing task _ _ (some _) => some task.message.record
  | .recovering task _ _ => some task.message.record
  | .retrying task _ => some task.message.record
  | _ => none

/-- A result is being published or has been, and its delivery is not over. -/
def Phase.answers : Phase σ → Bool
  | .publishing .. => true
  | .acknowledging .. => true
  | .releasing _ _ _ none => true
  | _ => false

/-- No call fails from the publication of a result on. -/
def Lasting (phase : Phase σ) (tick : Tick) : Prop :=
  phase.answers = true → tick.fate.raised = false

instance (phase : Phase σ) (tick : Tick) : Decidable (Lasting phase tick) :=
  inferInstanceAs (Decidable (_ → _))

namespace Shared

def answered (shared : Shared σ) : List Nat :=
  shared.results.map PublishedResult.origin

def putBack (shared : Shared σ) : List Nat :=
  shared.retries.map ConsumedEvent.record

theorem answered_publish (shared : Shared σ) (task : Task)
    (payload : Document) (stamp : Stamp) :
    (shared.publish task payload stamp).answered =
      shared.answered ++ [task.message.record] :=
  List.map_append

theorem putBack_retry (shared : Shared σ) (message : ConsumedEvent)
    (stamp : Stamp) :
    (shared.retry message stamp).putBack =
      shared.putBack ++ [message.record] :=
  List.map_append

end Shared

/-- What a step does with the record of the worker. -/
def RecordMove (mine : Option Nat) (shared : Shared σ)
    (next : WorkerState σ × Shared σ) : Prop :=
  TokenMove mine (carriedRecord next.1.phase) shared.putBack next.2.putBack
    shared.answered next.2.answered

section

variable {shared : Shared σ} {next : WorkerState σ × Shared σ}
  {mine : Option Nat} {record : Nat}

theorem recordMove_keeps (carried : carriedRecord next.1.phase = mine)
    (putBack : next.2.putBack = shared.putBack)
    (answered : next.2.answered = shared.answered) :
    RecordMove mine shared next := by
  rw [RecordMove, carried, putBack, answered]
  exact .keeps _ _ _

theorem recordMove_drops (carried : carriedRecord next.1.phase = none)
    (putBack : next.2.putBack = shared.putBack)
    (answered : next.2.answered = shared.answered) :
    RecordMove mine shared next := by
  rw [RecordMove, carried, putBack, answered]
  exact .drops _ _ _

theorem recordMove_spends (carried : carriedRecord next.1.phase = none)
    (putBack : next.2.putBack = shared.putBack)
    (answered : next.2.answered = shared.answered ++ [record]) :
    RecordMove (some record) shared next := by
  rw [RecordMove, carried, putBack, answered]
  exact .spends _ _ _

theorem recordMove_returns (carried : carriedRecord next.1.phase = none)
    (putBack : next.2.putBack = shared.putBack ++ [record])
    (answered : next.2.answered = shared.answered) :
    RecordMove (some record) shared next := by
  rw [RecordMove, carried, putBack, answered]
  exact .returns _ _ _

end

section

variable {worker : OptimizationWorker σ} {tick : Tick}
  {state : WorkerState σ} {shared : Shared σ}
  {next : WorkerState σ × Shared σ}

theorem advance_recordMove (lasting : Lasting state.phase tick)
    (step : worker.advance tick state shared = some next) :
    RecordMove (carriedRecord state.phase) shared next := by
  obtain ⟨phase, stats⟩ := state
  have unbroken : phase.answers = true → ∀ failure landed,
      tick.fate ≠ .raises failure landed := by
    intro answers failure landed raises
    have returned := lasting answers
    rw [raises] at returned
    cases returned
  cases phase with
  | idle => cases step
  | stopped failure => cases step
  | validating message =>
      cases advance_decides rfl step with
      | validated task valid =>
          obtain ⟨rfl, -⟩ := validate_ok valid
          exact recordMove_keeps rfl rfl rfl
      | rejected reason => exact recordMove_drops rfl rfl rfl
      | unexpected failure => exact recordMove_drops rfl rfl rfl
  | rejecting message reason =>
      apply Fate.call_cases step
      · exact fun _ => recordMove_keeps rfl rfl rfl
      · exact fun _ _ => recordMove_keeps rfl rfl rfl
      · exact fun _ _ => recordMove_keeps rfl rfl rfl
  | lookingUp task =>
      cases advance_decides rfl step with
      | found payload present => exact recordMove_keeps rfl rfl rfl
      | missed key absent keyed => exact recordMove_keeps rfl rfl rfl
      | unlooked failure => exact recordMove_drops rfl rfl rfl
  | republishing task payload =>
      apply Fate.call_cases step
      · intro _
        exact recordMove_spends rfl rfl (shared.answered_publish _ _ _)
      · exact fun _ _ => recordMove_drops rfl rfl rfl
      · intro _ _
        exact recordMove_spends rfl rfl (shared.answered_publish _ _ _)
  | acknowledgingDuplicate task =>
      apply Fate.call_cases step
      · exact fun _ => recordMove_keeps rfl rfl rfl
      · exact fun _ _ => recordMove_keeps rfl rfl rfl
      · exact fun _ _ => recordMove_keeps rfl rfl rfl
  | locking task key =>
      cases advance_decides rfl step with
      | acquired free => exact recordMove_keeps rfl rfl rfl
      | unacquired failure => exact recordMove_keeps rfl rfl rfl
  | creating task key =>
      cases advance_decides rfl step with
      | created environment world made => exact recordMove_keeps rfl rfl rfl
      | uncreated failure world => exact recordMove_keeps rfl rfl rfl
  | running task key environment =>
      cases advance_decides rfl step with
      | ran repositoryRef execution session run =>
          exact recordMove_keeps rfl rfl rfl
      | unnamed failure unnamed => exact recordMove_keeps rfl rfl rfl
      | raised repositoryRef failure session named run =>
          exact recordMove_keeps rfl rfl rfl
  | storing task key environment payload =>
      apply Fate.call_cases step
      · exact fun _ => recordMove_keeps rfl rfl rfl
      · exact fun _ _ => recordMove_keeps rfl rfl rfl
      · exact fun _ _ => recordMove_keeps rfl rfl rfl
  | publishing task key environment payload =>
      apply Fate.call_cases step
      · intro _
        exact recordMove_spends rfl rfl (shared.answered_publish _ _ _)
      · exact fun _ raises => absurd raises (unbroken rfl _ _)
      · exact fun _ raises => absurd raises (unbroken rfl _ _)
  | acknowledging task key environment =>
      apply Fate.call_cases step
      · exact fun _ => recordMove_keeps rfl rfl rfl
      · exact fun _ raises => absurd raises (unbroken rfl _ _)
      · exact fun _ raises => absurd raises (unbroken rfl _ _)
  | releasing task key environment failure =>
      cases failure with
      | none =>
          apply Fate.call_cases step
          · exact fun _ => recordMove_keeps rfl rfl rfl
          · exact fun _ raises => absurd raises (unbroken rfl _ _)
          · exact fun _ raises => absurd raises (unbroken rfl _ _)
      | some failure =>
          apply Fate.call_cases step
          · exact fun _ => recordMove_keeps rfl rfl rfl
          · exact fun _ _ => recordMove_keeps rfl rfl rfl
          · exact fun _ _ => recordMove_keeps rfl rfl rfl
  | recovering task environment failure =>
      cases advance_decides rfl step with
      | retries world => exact recordMove_keeps rfl rfl rfl
      | givesUp world => exact recordMove_drops rfl rfl rfl
  | retrying task failure =>
      apply Fate.call_cases step
      · exact fun _ => recordMove_returns rfl (shared.putBack_retry _ _) rfl
      · exact fun _ _ => recordMove_drops rfl rfl rfl
      · exact fun _ _ => recordMove_returns rfl (shared.putBack_retry _ _) rfl
  | deadLettering task failure =>
      apply Fate.call_cases step
      · exact fun _ => recordMove_keeps rfl rfl rfl
      · exact fun _ _ => recordMove_keeps rfl rfl rfl
      · exact fun _ _ => recordMove_keeps rfl rfl rfl

theorem crash_recordMove
    (step : worker.act .crash state shared = some next) :
    RecordMove (carriedRecord state.phase) shared next := by
  cases step
  cases heldKey state.phase with
  | none => exact recordMove_drops rfl rfl rfl
  | some key => exact recordMove_drops rfl rfl rfl

theorem claim_carries {message : ConsumedEvent}
    (step : worker.act (.claim message) state shared = some next) :
    carriedRecord state.phase = none ∧
      carriedRecord next.1.phase = some message.record ∧
        next.2 = shared := by
  obtain ⟨phase, stats⟩ := state
  cases phase with
  | idle =>
      cases step
      exact ⟨rfl, rfl, rfl⟩
  | stopped failure =>
      cases step
      exact ⟨rfl, rfl, rfl⟩
  | _ => cases step

end

end Kuber.Event

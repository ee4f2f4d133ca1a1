import Kuber.Event.Acceptance

/-!
# What becomes of a message

One call of `process`, whatever the parts it calls return or raise; only the
event bus itself succeeds.  A message is disposed of if it is answered and
acknowledged, put back, or moved to the dead letters, and nothing else.
-/

namespace Kuber.Event

open Kuber.Library Kuber.Rules Kuber.Agent

variable {σ : Type}

/-- How the deduplication store and the lock manager behave during one call,
and the circumstances of the graph run. -/
structure Behaviour where
  lookup : Fate := .returns
  acquire : Fate := .returns
  put : Fate := .returns
  release : Fate := .returns
  stamp : Stamp := ⟨"0", "", zero_ne_empty⟩
  seconds : String := "0.0"
  checkpoint : WorkloadGraphState := emptyThread

def Fate.raised : Fate → Bool
  | .returns => false
  | .raises _ _ => true

def Behaviour.tick (behaviour : Behaviour) (phase : Phase σ) : Tick where
  fate :=
    match phase with
    | .lookingUp _ => behaviour.lookup
    | .locking _ _ => behaviour.acquire
    | .storing _ _ _ _ => behaviour.put
    | .releasing _ _ _ _ => behaviour.release
    | _ => .returns
  stamp := behaviour.stamp
  seconds := behaviour.seconds
  checkpoint := behaviour.checkpoint

namespace OptimizationWorker

variable (worker : OptimizationWorker σ) (behaviour : Behaviour)

def proceed (state : WorkerState σ × Shared σ) :
    Option (WorkerState σ × Shared σ) :=
  worker.advance (behaviour.tick state.1.phase) state.1 state.2

/-- `process`, which takes eleven steps at most. -/
def process (message : ConsumedEvent) (stats : WorkerStats)
    (shared : Shared σ) : WorkerState σ × Shared σ :=
  settle (worker.proceed behaviour) 11
    (⟨.validating message, { stats with claimed := stats.claimed + 1 }⟩, shared)

/-- The graph run or the storing of its result raises. -/
def runFails (task : Task) (environment : EnvironmentAdapter σ) (world : σ) :
    Bool :=
  match payloadText task.message.event.payload "repository_ref" with
  | .error _ => true
  | .ok repositoryRef =>
      match (runFrom worker.graph worker.recursionLimit
        (task.request repositoryRef) behaviour.checkpoint environment
        world).1 with
      | .error _ => true
      | .ok _ => behaviour.put.raised

/-- Some call of an attempt raises before its result is published. -/
def attemptFails (task : Task) (world : σ) : Bool :=
  behaviour.acquire.raised ||
    match worker.environmentFactory task.message.event task.context world with
    | (.error _, _) => true
    | (.ok environment, world) =>
        worker.runFails behaviour task environment world

end OptimizationWorker

/-- What has been published, put back and acknowledged. -/
structure Ledger where
  results : List PublishedResult
  retries : List ConsumedEvent
  deadLetters : List (ConsumedEvent × String)
  acknowledged : List Nat

def Shared.ledger (shared : Shared σ) : Ledger :=
  ⟨shared.results, shared.retries, shared.deadLetters, shared.acknowledged⟩

section

variable (message : ConsumedEvent) (before : Ledger)

/-- One result was published for the message, which was acknowledged. -/
inductive Answered : Ledger → Prop where
  | answered (result : PublishedResult)
      (own : result.origin = message.record) :
      Answered { before with
        results := before.results ++ [result]
        acknowledged := before.acknowledged ++ [message.record] }

/-- The message was put back, or moved to the dead letters. -/
inductive Rerouted : Ledger → Prop where
  | retried (stamp : Stamp) :
      Rerouted { before with
        retries := before.retries ++ [message.retried stamp] }
  | deadLettered (reason : String) :
      Rerouted { before with
        deadLetters := before.deadLetters ++ [(message, reason)]
        acknowledged := before.acknowledged ++ [message.record] }

/-- One of the three ends of a message, and nothing else. -/
def Disposed (after : Ledger) : Prop :=
  Answered message before after ∨ Rerouted message before after

end

section

variable {message : ConsumedEvent} {before middle after : Ledger}

/-- The copies of the message that were put back or moved. -/
def Ledger.reroutes (ledger : Ledger) : Nat :=
  ledger.retries.length + ledger.deadLetters.length

theorem Answered.counts (answered : Answered message before after) :
    after.results.length = before.results.length + 1 ∧
      after.reroutes = before.reroutes := by
  cases answered with
  | answered result own => exact ⟨List.length_append, rfl⟩

theorem Rerouted.counts (rerouted : Rerouted message before after) :
    after.results.length = before.results.length ∧
      after.reroutes = before.reroutes + 1 := by
  cases rerouted with
  | retried stamp =>
      refine ⟨rfl, ?_⟩
      simp only [Ledger.reroutes, List.length_append, List.length_singleton]
      omega
  | deadLettered reason =>
      refine ⟨rfl, ?_⟩
      simp only [Ledger.reroutes, List.length_append, List.length_singleton]
      omega

/-- A message that was answered and then put back or moved to the dead letters
was not disposed of once. -/
theorem not_disposed_of_both (answered : Answered message before middle)
    (rerouted : Rerouted message middle after) :
    ¬Disposed message before after := by
  have first := answered.counts
  have second := rerouted.counts
  intro disposed
  rcases disposed with once | once
  · have counts := once.counts
    omega
  · have counts := once.counts
    omega

end

namespace OptimizationWorker

/-- The worker comes to rest without having stopped, and leaves a ledger as
stated. -/
def Ends (worker : OptimizationWorker σ) (behaviour : Behaviour)
    (fuel : Nat) (property : Ledger → Prop)
    (state : WorkerState σ × Shared σ) : Prop :=
  (settle (worker.proceed behaviour) fuel state).1.phase = .idle ∧
    property (settle (worker.proceed behaviour) fuel state).2.ledger

section

variable {worker : OptimizationWorker σ} {behaviour : Behaviour} {task : Task}
  {key : String} {stats : WorkerStats} {shared : Shared σ} {fuel : Nat}
  {property : Ledger → Prop}

theorem ends_of_idle (ledger : property shared.ledger) :
    worker.Ends behaviour fuel property (⟨.idle, stats⟩, shared) := by
  rw [Ends, settle_of_none rfl]
  exact ⟨rfl, ledger⟩

theorem ends_iff_of_step {state next : WorkerState σ × Shared σ}
    (step : worker.proceed behaviour state = some next) :
    worker.Ends behaviour (fuel + 1) property state ↔
      worker.Ends behaviour fuel property next := by
  rw [Ends, settle_of_step step, Ends]

theorem ends_of_step {state next : WorkerState σ × Shared σ}
    (step : worker.proceed behaviour state = some next)
    (later : worker.Ends behaviour fuel property next) :
    worker.Ends behaviour (fuel + 1) property state :=
  (ends_iff_of_step step).mpr later

theorem not_ends_of_stop {state : WorkerState σ × Shared σ}
    {failure : PyException}
    (step : worker.proceed behaviour state =
      some (⟨.stopped failure, stats⟩, shared)) :
    ¬worker.Ends behaviour (fuel + 1) property state := by
  rw [ends_iff_of_step step, Ends, settle_of_none rfl]
  rintro ⟨idle, -⟩
  cases idle

theorem Ends.imp {state : WorkerState σ × Shared σ}
    {weaker : Ledger → Prop}
    (ends : worker.Ends behaviour fuel property state)
    (implies : ∀ ledger, property ledger → weaker ledger) :
    worker.Ends behaviour fuel weaker state :=
  ⟨ends.1, implies _ ends.2⟩

/-- The handler reroutes the message. -/
theorem recovering_ends (environment : Option (EnvironmentAdapter σ))
    (failure : PyException) :
    worker.Ends behaviour (fuel + 2) (Rerouted task.message shared.ledger)
      (⟨.recovering task environment failure, stats⟩, shared) := by
  by_cases again :
      (task.message.event.attempt : Int) + 1 < worker.maxDeliveryAttempts
  · refine ends_of_step (if_pos again) ?_
    refine ends_of_step rfl ?_
    exact ends_of_idle (.retried behaviour.stamp)
  · refine ends_of_step (if_neg again) ?_
    refine ends_of_step rfl ?_
    exact ends_of_idle (.deadLettered _)

theorem ends_of_call {fate : Fate} {effect : Shared σ → Shared σ}
    {state : WorkerState σ × Shared σ} {returned : WorkerState σ}
    {raised : PyException → WorkerState σ}
    (step : worker.proceed behaviour state =
      some (fate.call effect shared returned raised))
    (onReturn : fate = .returns →
      worker.Ends behaviour fuel property (returned, effect shared))
    (onRaise : ∀ failure landed, fate = .raises failure landed →
      worker.Ends behaviour fuel property
        (raised failure, if landed then effect shared else shared)) :
    worker.Ends behaviour (fuel + 1) property state := by
  apply ends_of_step step
  cases fate with
  | returns => exact onReturn rfl
  | raises failure landed => exact onRaise failure landed rfl

/-- A failed attempt reroutes the message, whatever the release does. -/
theorem releasing_failure_ends (environment : Option (EnvironmentAdapter σ))
    (failure : PyException) :
    worker.Ends behaviour (fuel + 3) (Rerouted task.message shared.ledger)
      (⟨.releasing task key environment (some failure), stats⟩, shared) := by
  refine ends_of_call rfl (fun _ => recovering_ends environment failure) ?_
  intro raised landed _
  cases landed with
  | false => exact recovering_ends environment raised
  | true => exact recovering_ends environment raised

/-- The ledger after an attempt that failed before its publication or not, and
whose release behaved like this. -/
def Concluded (fails : Bool) (release : Fate) (message : ConsumedEvent)
    (before after : Ledger) : Prop :=
  match fails, release with
  | true, _ => Rerouted message before after
  | false, .returns => Answered message before after
  | false, .raises _ _ =>
      ∃ middle, Answered message before middle ∧ Rerouted message middle after

theorem publishing_ends (environment : EnvironmentAdapter σ)
    (payload : Document) :
    worker.Ends behaviour (fuel + 5)
      (Concluded false behaviour.release task.message shared.ledger)
      (⟨.publishing task key environment payload, stats⟩, shared) := by
  refine ends_of_step rfl ?_
  refine ends_of_step rfl ?_
  refine ends_of_call rfl ?_ ?_
  · intro (released : behaviour.release = .returns)
    apply ends_of_idle
    rw [released, Concluded]
    exact .answered _ rfl
  · intro raised landed (released : behaviour.release = .raises raised landed)
    rw [released]
    have answered : Answered task.message shared.ledger
        (((shared.publish task payload behaviour.stamp).acknowledge
          task.message).ledger) := .answered _ rfl
    cases landed with
    | false =>
        exact (recovering_ends _ raised).imp
          fun _ rerouted => Exists.intro _ ⟨answered, rerouted⟩
    | true =>
        exact (recovering_ends _ raised).imp
          fun _ rerouted => Exists.intro _ ⟨answered, rerouted⟩

end

section

variable {worker : OptimizationWorker σ} {behaviour : Behaviour} {task : Task}
  {key : String} {stats : WorkerStats} {shared : Shared σ} {fuel : Nat}

theorem storing_ends (environment : EnvironmentAdapter σ)
    (payload : Document) :
    worker.Ends behaviour (fuel + 6)
      (Concluded behaviour.put.raised behaviour.release task.message
        shared.ledger)
      (⟨.storing task key environment payload, stats⟩, shared) := by
  refine ends_of_call rfl ?_ ?_
  · intro (returned : behaviour.put = .returns)
    rw [returned]
    exact publishing_ends environment payload
  · intro failure landed (raised : behaviour.put = .raises failure landed)
    rw [raised]
    cases landed with
    | false => exact releasing_failure_ends (some environment) failure
    | true => exact releasing_failure_ends (some environment) failure

theorem running_ends (environment : EnvironmentAdapter σ) :
    worker.Ends behaviour (fuel + 7)
      (Concluded (worker.runFails behaviour task environment shared.world)
        behaviour.release task.message shared.ledger)
      (⟨.running task key environment, stats⟩, shared) := by
  rw [runFails]
  cases named : payloadText task.message.event.payload "repository_ref" with
  | error failure =>
      exact ends_of_step (advance_running_unnamed named)
        (releasing_failure_ends (some environment) failure)
  | ok repositoryRef =>
      dsimp only
      cases run : runFrom worker.graph worker.recursionLimit
          (task.request repositoryRef) behaviour.checkpoint environment
          shared.world with
      | mk answer session =>
          cases answer with
          | error failure =>
              exact ends_of_step (advance_running_error named run)
                (releasing_failure_ends (some environment) failure)
          | ok execution =>
              exact ends_of_step (advance_running_ok named run)
                (storing_ends environment _)

/-- An attempt that fails before its publication reroutes the message; another
one publishes its result. -/
theorem locking_ends (free : behaviour.acquire = .returns →
    key ∉ shared.held) :
    worker.Ends behaviour (fuel + 9)
      (Concluded (worker.attemptFails behaviour task shared.world)
        behaviour.release task.message shared.ledger)
      (⟨.locking task key, stats⟩, shared) := by
  rw [attemptFails]
  cases acquired : behaviour.acquire with
  | raises failure landed =>
      exact ends_of_step (advance_locking_raises acquired)
        (recovering_ends none failure)
  | returns =>
      refine ends_of_step (advance_locking_free acquired (free acquired)) ?_
      cases made : worker.environmentFactory task.message.event task.context
          shared.world with
      | mk answer world =>
          cases answer with
          | error failure =>
              exact ends_of_step (advance_creating_error made)
                (releasing_failure_ends none failure)
          | ok environment =>
              exact ends_of_step (advance_creating_ok made)
                (running_ends environment)

/-- A concluded attempt disposed of its message, unless the release of its
lock raised after the answer. -/
theorem disposed_iff_of_concluded {fails : Bool} {release : Fate}
    {message : ConsumedEvent} {before after : Ledger}
    (concluded : Concluded fails release message before after) :
    Disposed message before after ↔ fails = true ∨ release = .returns := by
  cases fails with
  | true => exact ⟨fun _ => Or.inl rfl, fun _ => Or.inr concluded⟩
  | false =>
      cases release with
      | returns => exact ⟨fun _ => Or.inr rfl, fun _ => Or.inl concluded⟩
      | raises failure landed =>
          obtain ⟨middle, answered, rerouted⟩ := concluded
          constructor
          · intro disposed
            exact absurd disposed (not_disposed_of_both answered rerouted)
          · rintro (impossible | impossible) <;> cases impossible

end

/-- `_validate` raised one of the exceptions that `process` expects. -/
def Handled (failure : PyException) : Prop :=
  failure.kind = .keyError ∨ failure.kind.isValueError = true

section

variable (worker : OptimizationWorker σ) (behaviour : Behaviour)
  (message : ConsumedEvent) (stats : WorkerStats) (shared : Shared σ)

/-- `process` returns, and has disposed of the message once. -/
def DisposedOnce : Prop :=
  (worker.process behaviour message stats shared).1.phase = .idle ∧
    Disposed message shared.ledger
      (worker.process behaviour message stats shared).2.ledger

/-- The context store raises at most the expected exceptions; for a valid
message the lookup returns, and if nothing is stored, then there is a lock key
and a release that follows an answer returns. -/
def Disposable : Prop :=
  match worker.validate message with
  | .error failure => Handled failure
  | .ok task =>
      behaviour.lookup = .returns ∧
        (shared.store.get? task.taskId = none →
          (∃ key, KeyOf worker task key) ∧
            (worker.attemptFails behaviour task shared.world = true ∨
              behaviour.release = .returns))

end

section

variable {worker : OptimizationWorker σ} {behaviour : Behaviour}
  {message : ConsumedEvent} {task : Task} {stats : WorkerStats}
  {shared : Shared σ} {fuel : Nat}

theorem validating_ends_iff {failure : PyException}
    (invalid : worker.validate message = .error failure) :
    worker.Ends behaviour (fuel + 2) (Disposed message shared.ledger)
        (⟨.validating message, stats⟩, shared) ↔ Handled failure := by
  by_cases handled : Handled failure
  · have step : worker.proceed behaviour
        (⟨.validating message, stats⟩, shared) =
          some (⟨.rejecting message
            ("invalid task: " ++ exceptionText failure),
            { stats with failed := stats.failed + 1 }⟩, shared) := by
      simp only [proceed, advance, invalid]
      exact if_pos handled
    refine iff_of_true (ends_of_step step (ends_of_step rfl ?_)) handled
    exact ends_of_idle (Or.inr (.deadLettered _))
  · have step : worker.proceed behaviour
        (⟨.validating message, stats⟩, shared) =
          some (⟨.stopped failure, stats⟩, shared) := by
      simp only [proceed, advance, invalid]
      exact if_neg handled
    exact iff_of_false (not_ends_of_stop step) handled

theorem lookingUp_ends_iff
    (free : ∀ key, behaviour.acquire = .returns → KeyOf worker task key →
      key ∉ shared.held) :
    worker.Ends behaviour (fuel + 10) (Disposed task.message shared.ledger)
        (⟨.lookingUp task, stats⟩, shared) ↔
      behaviour.lookup = .returns ∧
        (shared.store.get? task.taskId = none →
          (∃ key, KeyOf worker task key) ∧
            (worker.attemptFails behaviour task shared.world = true ∨
              behaviour.release = .returns)) := by
  cases looked : behaviour.lookup with
  | raises failure landed =>
      have step : worker.proceed behaviour
          (⟨.lookingUp task, stats⟩, shared) =
            some (⟨.stopped failure, stats⟩, shared) := by
        simp only [proceed, advance, Behaviour.tick, looked]
      refine iff_of_false (not_ends_of_stop step) ?_
      rintro ⟨impossible, -⟩
      cases impossible
  | returns =>
      cases stored : shared.store.get? task.taskId with
      | some payload =>
          have step : worker.proceed behaviour
              (⟨.lookingUp task, stats⟩, shared) =
                some (⟨.republishing task payload,
                  { stats with duplicates := stats.duplicates + 1 }⟩,
                  shared) := by
            simp only [proceed, advance, Behaviour.tick, looked, stored]
          refine iff_of_true (ends_of_step step ?_) ⟨rfl, ?_⟩
          · refine ends_of_step rfl (ends_of_step rfl ?_)
            exact ends_of_idle (Or.inl (.answered _ rfl))
          · intro absent
            cases absent
      | none =>
          cases keyed : workloadLockKey worker.cluster task.namespace
              task.workloadId with
          | error failure =>
              have step : worker.proceed behaviour
                  (⟨.lookingUp task, stats⟩, shared) =
                    some (⟨.stopped failure, stats⟩, shared) := by
                simp only [proceed, advance, Behaviour.tick, looked, stored,
                  keyed]
              refine iff_of_false (not_ends_of_stop step) ?_
              rintro ⟨-, condition⟩
              obtain ⟨⟨key, isKey⟩, -⟩ := condition rfl
              rw [KeyOf, keyed] at isKey
              cases isKey
          | ok key =>
              have step : worker.proceed behaviour
                  (⟨.lookingUp task, stats⟩, shared) =
                    some (⟨.locking task key, stats⟩, shared) := by
                simp only [proceed, advance, Behaviour.tick, looked, stored,
                  keyed]
              rw [ends_iff_of_step step]
              obtain ⟨idle, concluded⟩ := @locking_ends _ worker behaviour
                task key stats shared fuel
                (fun returned => free key returned keyed)
              rw [Ends, disposed_iff_of_concluded concluded]
              constructor
              · rintro ⟨-, condition⟩
                exact ⟨rfl, fun _ => ⟨⟨key, keyed⟩, condition⟩⟩
              · rintro ⟨-, condition⟩
                exact ⟨idle, (condition rfl).2⟩

/-- Provided that an acquisition returns only when the lock is free, `process`
returns and disposes of its message once exactly under the stated condition. -/
theorem disposed_once_iff
    (free : ∀ task key, worker.validate message = .ok task →
      behaviour.acquire = .returns → KeyOf worker task key →
        key ∉ shared.held) :
    DisposedOnce worker behaviour message stats shared ↔
      Disposable worker behaviour message shared := by
  rw [Disposable]
  cases validated : worker.validate message with
  | error failure => exact validating_ends_iff validated
  | ok task =>
      have step : worker.proceed behaviour
          (⟨.validating message,
            { stats with claimed := stats.claimed + 1 }⟩, shared) =
            some (⟨.lookingUp task,
              { stats with claimed := stats.claimed + 1 }⟩, shared) := by
        simp only [proceed, advance, validated]
      obtain ⟨rfl, -⟩ := validate_ok validated
      exact (ends_iff_of_step step).trans
        (lookingUp_ends_iff fun key => free task key validated)

end

/-- The same request for a namespace whose name has a colon. -/
def colonRequest : ConsumedEvent :=
  { watcherRequest with event := { watcherRequest.event with
      payload :=
        [("task_id", .string "run:web"), ("workload_id", .string "web"),
          ("namespace", .string "shop:eu"), ("context_ref", .string "web@1"),
          ("repository_ref", .string "service://web")] } }

/-- The lock key is made outside of both try blocks: its exception stops the
worker, which leaves the message neither acknowledged nor rerouted. -/
theorem colon_in_namespace_stops_the_worker :
    ∃ failure stats,
      (watcherWorker.process {} colonRequest {} watcherStart.2).1 =
        ⟨.stopped failure, stats⟩ ∧
      failure.kind = .valueError ∧
      (watcherWorker.process {} colonRequest {} watcherStart.2).2.ledger =
        watcherStart.2.ledger ∧
      ¬DisposedOnce watcherWorker {} colonRequest {} watcherStart.2 := by
  refine ⟨_, _, rfl, rfl, rfl, ?_⟩
  rintro ⟨idle, -⟩
  cases idle

/-- A request that is processed without failures is answered. -/
theorem disposed_once_iff_watcher :
    DisposedOnce watcherWorker {} watcherRequest {} watcherStart.2 := by
  refine (disposed_once_iff ?_).mpr ?_
  · intro task key _ _ _ held
    cases held
  · exact ⟨rfl, fun _ => ⟨⟨_, rfl⟩, Or.inr rfl⟩⟩

end OptimizationWorker

end Kuber.Event

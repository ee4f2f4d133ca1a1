import Kuber.Event.Provenance
import Kuber.Library.Transition

/-!
# Acceptance and the live policy

One request and its retries.  The worker stores an accepted result before it
publishes and acknowledges it, and its handler restores the original policy
whichever later call raises.  As long as the calls after the storing return,
and nothing is looked up after the store has forgotten a published acceptance,
what is stored or published as accepted stays live.
-/

namespace Kuber.Event

open Kuber.Library Kuber.Rules Kuber.Agent

variable {σ : Type}

/-- An environment whose live policy is the one applied last, until something
other than a verification changes it. -/
structure Enforces (environment : EnvironmentAdapter σ) (live : σ → Policy) :
    Prop where
  apply : ∀ policy before after,
    environment.applyPolicy policy before = (.ok (), after) →
      live after = policy
  verify : ∀ before, live (environment.verifyWorkload before).2 = live before

theorem live_after_accepted_run {environment : EnvironmentAdapter σ}
    {live : σ → Policy} (enforces : Enforces environment live)
    {graph : WorkloadOptimizationGraph} {recursionLimit : Nat}
    {request : WorkloadRequest} {persisted : WorkloadGraphState} {start : σ}
    {execution : WorkloadExecution} {session : Session environment start}
    (run : runFrom graph recursionLimit request persisted environment start =
      (.ok execution, session)) (accepted : execution.accepted = true) :
    live session.environment = execution.finalPolicy := by
  obtain ⟨-, finishes⟩ := run_ends graph recursionLimit request persisted run
  have recorded := session.recorded
  cases finishes with
  | accepted _ _ _ made =>
      rw [made, EnvironmentAdapter.recorded_append] at recorded
      obtain ⟨before, -, applied, applyAnswer, verified, verifyAnswer, last⟩ :=
        recorded
      have kept := enforces.verify applied
      change environment.verifyWorkload applied = _ at verifyAnswer
      rw [verifyAnswer] at kept
      rw [← last, kept]
      exact enforces.apply _ _ _ applyAnswer
  | rejected rejected =>
      rw [accepted] at rejected
      cases rejected

/-- The deliveries of one request, what the worker does about them, and the
expiry of an entry of the store, which may come at any moment. -/
inductive TaskAction where
  | claimRequest
  | claimRetry (index : Nat)
  | tick (tick : Tick)
  | crash
  | expire (storedId : String)

/-- One worker that processes a request and its retries. -/
def taskStep (worker : OptimizationWorker σ) (request : ConsumedEvent)
    (state : WorkerState σ × Shared σ) :
    TaskAction → Option (WorkerState σ × Shared σ)
  | .claimRequest => worker.act (.claim request) state.1 state.2
  | .claimRetry index =>
      match state.2.retries[index]? with
      | some message => worker.act (.claim message) state.1 state.2
      | none => none
  | .tick tick => worker.act (.tick tick) state.1 state.2
  | .crash => worker.act .crash state.1 state.2
  | .expire storedId => some (state.1, state.2.forget storedId)

section

variable (taskId : String) (live : σ → Policy) (payload : Document)

/-- The task will be answered as accepted. -/
def StoredAccepted (shared : Shared σ) : Prop :=
  ∃ stored, shared.store.get? taskId = some stored ∧ accepted stored = true

/-- The task was answered as accepted. -/
def PublishedAccepted (shared : Shared σ) : Prop :=
  ∃ result ∈ shared.results,
    result.event.payload.field "task_id" = .string taskId ∧
      accepted result.event.payload = true

/-- The task is or will be reported as accepted. -/
def Reported (shared : Shared σ) : Prop :=
  StoredAccepted taskId shared ∨ PublishedAccepted taskId shared

/-- The environment holds the final policy of the last execution, which was
accepted. -/
def HoldsAccepted (shared : Shared σ) : Prop :=
  ∃ execution, shared.executions.getLast? = some execution ∧
    execution.accepted = true ∧ live shared.world = execution.finalPolicy

/-- No call raises whose raising makes the handler roll back a reported
acceptance, and a published one is found when a delivery is looked up. -/
def Permitted (state : WorkerState σ × Shared σ) : TaskAction → Prop
  | .tick tick =>
      match state.1.phase with
      | .lookingUp _ =>
          PublishedAccepted taskId state.2 → StoredAccepted taskId state.2
      | .storing _ _ _ result =>
          accepted result = true → ∀ failure, tick.fate ≠ .raises failure true
      | .publishing _ _ _ result =>
          (accepted result = true →
            ∀ failure, tick.fate ≠ .raises failure true) ∧
          (Reported taskId state.2 → tick.fate = .returns)
      | .acknowledging .. | .releasing .. =>
          Reported taskId state.2 → tick.fate = .returns
      | _ => True
  | _ => True

/-- A validated delivery of the request. -/
def OwnTask (task : Task) : Prop :=
  task.taskId = taskId ∧ task.message.event.payload = payload

/-- What is known in every phase. -/
def PhaseSound (shared : Shared σ) : Phase σ → Prop
  | .idle => True
  | .stopped _ => True
  | .validating message => message.event.payload = payload
  | .rejecting message _ => message.event.payload = payload
  | .lookingUp task => OwnTask taskId payload task
  | .republishing task result =>
      OwnTask taskId payload task ∧
        (accepted result = true → HoldsAccepted live shared)
  | .acknowledgingDuplicate task => OwnTask taskId payload task
  | .locking task _ => OwnTask taskId payload task ∧ ¬Reported taskId shared
  | .creating task _ => OwnTask taskId payload task ∧ ¬Reported taskId shared
  | .running task _ environment =>
      OwnTask taskId payload task ∧ ¬Reported taskId shared ∧
        Enforces environment live
  | .storing task _ _ result =>
      OwnTask taskId payload task ∧ ¬Reported taskId shared ∧
        (accepted result = true → HoldsAccepted live shared)
  | .publishing task _ _ result =>
      OwnTask taskId payload task ∧
        (accepted result = true → HoldsAccepted live shared)
  | .acknowledging task _ _ => OwnTask taskId payload task
  | .releasing task _ _ failure =>
      OwnTask taskId payload task ∧
        (failure ≠ none → ¬Reported taskId shared)
  | .recovering task _ _ =>
      OwnTask taskId payload task ∧ ¬Reported taskId shared
  | .retrying task _ => OwnTask taskId payload task
  | .deadLettering task _ => OwnTask taskId payload task

/-- The invariant of one request and its retries. -/
structure AcceptanceSound (state : WorkerState σ × Shared σ) : Prop where
  retries : ∀ message ∈ state.2.retries, message.event.payload = payload
  phase : PhaseSound taskId live payload state.2 state.1.phase
  reported : Reported taskId state.2 → HoldsAccepted live state.2

end

variable {worker : OptimizationWorker σ} {taskId : String}
  {live : σ → Policy} {payload : Document}

theorem accepted_resultPayload (task : Task) (execution : WorkloadExecution)
    (seconds : String) :
    accepted (resultPayload worker task execution seconds) =
      execution.accepted := rfl

private theorem storedAccepted_put {shared : Shared σ} {result : Document}
    (stored : StoredAccepted taskId (shared.put taskId result)) :
    accepted result = true := by
  obtain ⟨found, present, isAccepted⟩ := stored
  rw [Shared.put, OrderedDict.get?_set_self, Option.some.injEq] at present
  rw [present]
  exact isAccepted

private theorem reported_publish {shared : Shared σ} {task : Task}
    {result : Document} {stamp : Stamp}
    (reported : Reported taskId (shared.publish task result stamp)) :
    Reported taskId shared ∨ accepted result = true := by
  rcases reported with stored | ⟨record, member, named, isAccepted⟩
  · exact Or.inl (Or.inl stored)
  · rcases List.mem_append.mp member with before | new
    · exact Or.inl (Or.inr ⟨record, before, named, isAccepted⟩)
    · rw [List.mem_singleton.mp new] at isAccepted
      exact Or.inr isAccepted

private theorem reported_forget {shared : Shared σ} {storedId : String}
    (reported : Reported taskId (shared.forget storedId)) :
    Reported taskId shared := by
  rcases reported with ⟨result, present, isAccepted⟩ | published
  · rw [Shared.forget, OrderedDict.get?_erase] at present
    split at present
    · cases present
    · exact Or.inl ⟨result, present, isAccepted⟩
  · exact Or.inr published

/-- The environments a worker is given are faithful to `live`. -/
def Faithful (worker : OptimizationWorker σ) (live : σ → Policy) : Prop :=
  ∀ event context before environment after,
    worker.environmentFactory event context before =
      (.ok environment, after) → Enforces environment live

section

variable {stats : WorkerStats} {shared : Shared σ} {tick : Tick} {task : Task}
  {key : String} {environment : EnvironmentAdapter σ} {result : Document}
  {next : WorkerState σ × Shared σ}

theorem lookingUp_sound
    (sound : AcceptanceSound taskId live payload
      (⟨.lookingUp task, stats⟩, shared))
    (permitted : Permitted taskId (⟨.lookingUp task, stats⟩, shared)
      (.tick tick))
    (step : worker.advance tick ⟨.lookingUp task, stats⟩ shared = some next) :
    AcceptanceSound taskId live payload next := by
  obtain ⟨retries, own, reported⟩ := sound
  cases advance_decides rfl step with
  | found result present =>
      have stored : accepted result = true → StoredAccepted taskId shared :=
        fun isAccepted => ⟨result, own.1 ▸ present, isAccepted⟩
      exact ⟨retries,
        ⟨own, fun isAccepted => reported (Or.inl (stored isAccepted))⟩,
        reported⟩
  | missed key absent keyed =>
      have unstored : ¬StoredAccepted taskId shared := by
        intro ⟨found, present, _⟩
        rw [← own.1, absent] at present
        cases present
      refine ⟨retries, ⟨own, ?_⟩, reported⟩
      rintro (stored | published)
      · exact unstored stored
      · exact unstored (permitted published)
  | unlooked failure => exact ⟨retries, trivial, reported⟩

theorem creating_sound (faithful : Faithful worker live)
    (sound : AcceptanceSound taskId live payload
      (⟨.creating task key, stats⟩, shared))
    (step : worker.advance tick ⟨.creating task key, stats⟩ shared =
      some next) : AcceptanceSound taskId live payload next := by
  obtain ⟨retries, ⟨own, unreported⟩, -⟩ := sound
  cases advance_decides rfl step with
  | created environment world made =>
      exact ⟨retries, ⟨own, unreported, faithful _ _ _ _ _ made⟩,
        fun reported => absurd reported unreported⟩
  | uncreated failure world =>
      exact ⟨retries, ⟨own, fun _ => unreported⟩,
        fun reported => absurd reported unreported⟩

/-- The graph only runs while nothing is reported as accepted. -/
theorem running_sound
    (sound : AcceptanceSound taskId live payload
      (⟨.running task key environment, stats⟩, shared))
    (step : worker.advance tick ⟨.running task key environment, stats⟩
      shared = some next) : AcceptanceSound taskId live payload next := by
  obtain ⟨retries, ⟨own, unreported, enforces⟩, reported⟩ := sound
  cases advance_decides rfl step with
  | ran repositoryRef execution session run =>
      refine ⟨retries, ⟨own, unreported, ?_⟩,
        fun reported => absurd reported unreported⟩
      intro isAccepted
      rw [accepted_resultPayload] at isAccepted
      exact ⟨execution, List.getLast?_concat, isAccepted,
        live_after_accepted_run enforces run isAccepted⟩
  | unnamed failure unnamed =>
      exact ⟨retries, ⟨own, fun _ => unreported⟩, reported⟩
  | raised repositoryRef failure session named run =>
      exact ⟨retries, ⟨own, fun _ => unreported⟩,
        fun reported => absurd reported unreported⟩

/-- An accepted result is stored with its policy live, and never left stored
behind a raise. -/
theorem storing_sound
    (sound : AcceptanceSound taskId live payload
      (⟨.storing task key environment result, stats⟩, shared))
    (permitted : Permitted taskId
      (⟨.storing task key environment result, stats⟩, shared) (.tick tick))
    (step : worker.advance tick ⟨.storing task key environment result, stats⟩
      shared = some next) : AcceptanceSound taskId live payload next := by
  obtain ⟨retries, ⟨own, unreported, holds⟩, reported⟩ := sound
  have sameTask := own.1
  subst sameTask
  have reportedLater :
      Reported task.taskId (shared.put task.taskId result) →
        accepted result = true := by
    rintro (stored | published)
    · exact storedAccepted_put stored
    · exact absurd (Or.inr published) unreported
  apply Fate.call_cases step
  · intro _
    exact ⟨retries, ⟨own, holds⟩,
      fun reported => holds (reportedLater reported)⟩
  · intro failure _
    exact ⟨retries, ⟨own, fun _ => unreported⟩, reported⟩
  · intro failure raised
    have stillUnreported :
        ¬Reported task.taskId (shared.put task.taskId result) :=
      fun reported => permitted (reportedLater reported) failure raised
    exact ⟨retries, ⟨own, fun _ => stillUnreported⟩,
      fun reported => absurd reported stillUnreported⟩

private theorem unreported_of_raises
    (permitted : Reported taskId shared → tick.fate = .returns)
    {failure : PyException} {landed : Bool}
    (raised : tick.fate = .raises failure landed) :
    ¬Reported taskId shared := by
  intro reported
  have returns := permitted reported
  rw [raised] at returns
  cases returns

theorem publishing_sound
    (sound : AcceptanceSound taskId live payload
      (⟨.publishing task key environment result, stats⟩, shared))
    (permitted : Permitted taskId
      (⟨.publishing task key environment result, stats⟩, shared) (.tick tick))
    (step : worker.advance tick
      ⟨.publishing task key environment result, stats⟩ shared = some next) :
    AcceptanceSound taskId live payload next := by
  obtain ⟨retries, ⟨own, holds⟩, reported⟩ := sound
  obtain ⟨unlanded, returns⟩ := permitted
  apply Fate.call_cases step
  · exact fun _ => ⟨retries, own, fun later =>
      (reported_publish later).elim reported holds⟩
  · intro failure raised
    exact ⟨retries, ⟨own, fun _ => unreported_of_raises returns raised⟩,
      reported⟩
  · intro failure raised
    have unreported :
        ¬Reported taskId (shared.publish task result tick.stamp) :=
      fun later => (reported_publish later).elim
        (unreported_of_raises returns raised)
        (fun isAccepted => unlanded isAccepted failure raised)
    exact ⟨retries, ⟨own, fun _ => unreported⟩,
      fun reported => absurd reported unreported⟩

theorem acknowledging_sound
    (sound : AcceptanceSound taskId live payload
      (⟨.acknowledging task key environment, stats⟩, shared))
    (permitted : Permitted taskId
      (⟨.acknowledging task key environment, stats⟩, shared) (.tick tick))
    (step : worker.advance tick ⟨.acknowledging task key environment, stats⟩
      shared = some next) : AcceptanceSound taskId live payload next := by
  obtain ⟨retries, own, reported⟩ := sound
  apply Fate.call_cases step
  · intro _
    exact ⟨retries, ⟨own, fun failed => absurd rfl failed⟩, reported⟩
  · intro failure raised
    exact ⟨retries, ⟨own, fun _ => unreported_of_raises permitted raised⟩,
      reported⟩
  · intro failure raised
    exact ⟨retries, ⟨own, fun _ => unreported_of_raises permitted raised⟩,
      reported⟩

theorem releasing_sound {made : Option (EnvironmentAdapter σ)}
    {failure : Option PyException}
    (sound : AcceptanceSound taskId live payload
      (⟨.releasing task key made failure, stats⟩, shared))
    (permitted : Permitted taskId
      (⟨.releasing task key made failure, stats⟩, shared) (.tick tick))
    (step : worker.advance tick ⟨.releasing task key made failure, stats⟩
      shared = some next) : AcceptanceSound taskId live payload next := by
  obtain ⟨retries, ⟨own, unreported⟩, reported⟩ := sound
  apply Fate.call_cases step
  · intro _
    cases failure with
    | none => exact ⟨retries, trivial, reported⟩
    | some failure => exact ⟨retries, ⟨own, unreported (by simp)⟩, reported⟩
  · intro _ raised
    exact ⟨retries, ⟨own, unreported_of_raises permitted raised⟩, reported⟩
  · intro _ raised
    exact ⟨retries, ⟨own, unreported_of_raises permitted raised⟩, reported⟩

theorem retrying_sound {failure : PyException}
    (sound : AcceptanceSound taskId live payload
      (⟨.retrying task failure, stats⟩, shared))
    (step : worker.advance tick ⟨.retrying task failure, stats⟩ shared =
      some next) : AcceptanceSound taskId live payload next := by
  obtain ⟨retries, own, reported⟩ := sound
  have later : ∀ message ∈ (shared.retry task.message tick.stamp).retries,
      message.event.payload = payload := by
    intro message member
    rcases List.mem_append.mp member with before | new
    · exact retries message before
    · rw [List.mem_singleton.mp new]
      exact own.2
  apply Fate.call_cases step
  · exact fun _ => ⟨later, trivial, reported⟩
  · exact fun _ _ => ⟨retries, trivial, reported⟩
  · exact fun _ _ => ⟨later, trivial, reported⟩

end

/-- A permitted step of the worker keeps the invariant. -/
theorem advance_sound (faithful : Faithful worker live)
    (named : payloadText payload "task_id" = .ok taskId)
    {state : WorkerState σ} {shared : Shared σ} {tick : Tick}
    {next : WorkerState σ × Shared σ}
    (sound : AcceptanceSound taskId live payload (state, shared))
    (permitted : Permitted taskId (state, shared) (.tick tick))
    (step : worker.advance tick state shared = some next) :
    AcceptanceSound taskId live payload next := by
  obtain ⟨phase, stats⟩ := state
  obtain ⟨retries, phaseSound, reported⟩ := id sound
  cases phase with
  | idle => cases step
  | stopped failure => cases step
  | validating message =>
      cases advance_decides rfl step with
      | validated task valid =>
          obtain ⟨rfl, taskNamed⟩ := validate_ok valid
          have own : task.message.event.payload = payload := phaseSound
          rw [own, named] at taskNamed
          cases taskNamed
          exact ⟨retries, ⟨rfl, own⟩, reported⟩
      | rejected reason => exact ⟨retries, phaseSound, reported⟩
      | unexpected failure => exact ⟨retries, trivial, reported⟩
  | rejecting message reason =>
      apply Fate.call_cases step
      · exact fun _ => ⟨retries, trivial, reported⟩
      · exact fun _ _ => ⟨retries, trivial, reported⟩
      · exact fun _ _ => ⟨retries, trivial, reported⟩
  | lookingUp task => exact lookingUp_sound sound permitted step
  | republishing task result =>
      obtain ⟨own, holds⟩ := phaseSound
      apply Fate.call_cases step
      · exact fun _ => ⟨retries, own, fun later =>
          (reported_publish later).elim reported holds⟩
      · exact fun _ _ => ⟨retries, trivial, reported⟩
      · exact fun _ _ => ⟨retries, trivial, fun later =>
          (reported_publish later).elim reported holds⟩
  | acknowledgingDuplicate task =>
      apply Fate.call_cases step
      · exact fun _ => ⟨retries, trivial, reported⟩
      · exact fun _ _ => ⟨retries, trivial, reported⟩
      · exact fun _ _ => ⟨retries, trivial, reported⟩
  | locking task key =>
      cases advance_decides rfl step with
      | acquired free => exact ⟨retries, phaseSound, reported⟩
      | unacquired failure => exact ⟨retries, phaseSound, reported⟩
  | creating task key => exact creating_sound faithful sound step
  | running task key environment => exact running_sound sound step
  | storing task key environment result =>
      exact storing_sound sound permitted step
  | publishing task key environment result =>
      exact publishing_sound sound permitted step
  | acknowledging task key environment =>
      exact acknowledging_sound sound permitted step
  | releasing task key environment failure =>
      exact releasing_sound sound permitted step
  | recovering task environment failure =>
      obtain ⟨own, unreported⟩ := phaseSound
      cases advance_decides rfl step with
      | retries world =>
          exact ⟨retries, own, fun reported => absurd reported unreported⟩
      | givesUp world =>
          exact ⟨retries, own, fun reported => absurd reported unreported⟩
  | retrying task failure => exact retrying_sound sound step
  | deadLettering task failure =>
      apply Fate.call_cases step
      · exact fun _ => ⟨retries, trivial, reported⟩
      · exact fun _ _ => ⟨retries, trivial, reported⟩
      · exact fun _ _ => ⟨retries, trivial, reported⟩

theorem claim_sound (worker : OptimizationWorker σ) {state : WorkerState σ}
    {shared : Shared σ} {message : ConsumedEvent}
    {next : WorkerState σ × Shared σ}
    (sound : AcceptanceSound taskId live payload (state, shared))
    (same : message.event.payload = payload)
    (step : worker.act (.claim message) state shared = some next) :
    AcceptanceSound taskId live payload next := by
  obtain ⟨phase, stats⟩ := state
  simp only [OptimizationWorker.act] at step
  split at step
  · cases step
    exact ⟨sound.retries, same, sound.reported⟩
  · cases step
    exact ⟨sound.retries, same, sound.reported⟩
  · cases step

theorem crash_sound (worker : OptimizationWorker σ) {state : WorkerState σ}
    {shared : Shared σ} {next : WorkerState σ × Shared σ}
    (sound : AcceptanceSound taskId live payload (state, shared))
    (step : worker.act .crash state shared = some next) :
    AcceptanceSound taskId live payload next := by
  cases step
  cases OptimizationWorker.heldKey state.phase with
  | none => exact ⟨sound.retries, trivial, sound.reported⟩
  | some key => exact ⟨sound.retries, trivial, sound.reported⟩

/-- The store may forget an entry at any moment. -/
theorem forget_sound {state : WorkerState σ} {shared : Shared σ}
    {storedId : String}
    (sound : AcceptanceSound taskId live payload (state, shared)) :
    AcceptanceSound taskId live payload (state, shared.forget storedId) := by
  obtain ⟨phase, stats⟩ := state
  obtain ⟨retries, phaseSound, reported⟩ := sound
  have still : ¬Reported taskId shared →
      ¬Reported taskId (shared.forget storedId) :=
    fun unreported later => unreported (reported_forget later)
  refine ⟨retries, ?_, fun later => reported (reported_forget later)⟩
  cases phase with
  | locking task key => exact ⟨phaseSound.1, still phaseSound.2⟩
  | creating task key => exact ⟨phaseSound.1, still phaseSound.2⟩
  | running task key environment =>
      exact ⟨phaseSound.1, still phaseSound.2.1, phaseSound.2.2⟩
  | storing task key environment result =>
      exact ⟨phaseSound.1, still phaseSound.2.1, phaseSound.2.2⟩
  | releasing task key environment failure =>
      exact ⟨phaseSound.1, fun failed => still (phaseSound.2 failed)⟩
  | recovering task environment failure =>
      exact ⟨phaseSound.1, still phaseSound.2⟩
  | _ => exact phaseSound

theorem taskStep_sound (faithful : Faithful worker live)
    {request : ConsumedEvent}
    (named : payloadText request.event.payload "task_id" = .ok taskId)
    (state : WorkerState σ × Shared σ) (action : TaskAction)
    (next : WorkerState σ × Shared σ)
    (sound : AcceptanceSound taskId live request.event.payload state)
    (permitted : Permitted taskId state action)
    (step : taskStep worker request state action = some next) :
    AcceptanceSound taskId live request.event.payload next := by
  cases action with
  | claimRequest => exact claim_sound worker sound rfl step
  | claimRetry index =>
      simp only [taskStep] at step
      split at step
      · rename_i message retried
        exact claim_sound worker sound
          (sound.retries message (List.mem_of_getElem? retried)) step
      · cases step
  | tick tick => exact advance_sound faithful named sound permitted step
  | crash => exact crash_sound worker sound step
  | expire storedId =>
      cases step
      exact forget_sound sound

/-- Before the request is claimed for the first time. -/
structure Unreported (taskId : String) (shared : Shared σ) : Prop where
  retries : shared.retries = []
  store : shared.store.get? taskId = none
  results : ¬PublishedAccepted taskId shared

/-- Wherever the processing of a request and its retries gets, a task that is
or will be reported as accepted has its accepted policy live, and the worker
never rolls it back, provided that no call raises after an acceptance was
stored and no delivery is looked up after a published one was forgotten. -/
theorem accepted_policy_stays_live {request : ConsumedEvent}
    {stats : WorkerStats} {shared : Shared σ} {actions : List TaskAction}
    {final : WorkerState σ × Shared σ}
    (faithful : Faithful worker live)
    (named : payloadText request.event.payload "task_id" = .ok taskId)
    (unreported : Unreported taskId shared)
    (meets : Meets (taskStep worker request) (Permitted taskId)
      (⟨.idle, stats⟩, shared) actions)
    (played : play (taskStep worker request) (⟨.idle, stats⟩, shared) actions =
      some final) :
    (StoredAccepted taskId final.2 ∨ PublishedAccepted taskId final.2 →
      HoldsAccepted live final.2) ∧
    ∀ task environment failure,
      final.1.phase = .recovering task environment failure →
        ¬StoredAccepted taskId final.2 ∧ ¬PublishedAccepted taskId final.2 := by
  have start : AcceptanceSound taskId live request.event.payload
      (⟨.idle, stats⟩, shared) := by
    refine ⟨?_, trivial, ?_⟩
    · intro message member
      rw [unreported.retries] at member
      cases member
    · rintro (⟨stored, present, _⟩ | published)
      · rw [unreported.store] at present
        cases present
      · exact absurd published unreported.results
  have sound := invariant_play (taskStep_sound faithful named) start meets
    played
  refine ⟨sound.reported, fun task environment failure recovering => ?_⟩
  have phase := sound.phase
  rw [recovering] at phase
  exact ⟨fun stored => phase.2 (Or.inl stored),
    fun published => phase.2 (Or.inr published)⟩

private theorem publishedAccepted_of_map {shared : Shared σ}
    (reported : shared.results.map (fun result =>
      (result.event.payload.field "task_id",
        accepted result.event.payload)) = [(.string taskId, true)]) :
    PublishedAccepted taskId shared := by
  have listed : (Json.string taskId, true) ∈ shared.results.map (fun result =>
      (result.event.payload.field "task_id",
        accepted result.event.payload)) := by
    rw [reported]
    exact List.mem_singleton_self _
  obtain ⟨result, member, same⟩ := List.mem_map.mp listed
  exact ⟨result, member, congrArg Prod.fst same, congrArg Prod.snd same⟩

/-- A worker in front of the service that also has to watch pods. -/
def watcherWorker : OptimizationWorker Policy where
  workerId := "worker-1"
  contextStore := fun contextRef =>
    .ok (if contextRef = "web@1" then some ⟨"web@1", "web"⟩ else none)
  environmentFactory := fun _ _ => pure (Judge.simulatorEnvironment podWatcher)
  graph := plainGraph

def watcherRequest : ConsumedEvent where
  key := "kind-kuber:shop:web"
  record := 0
  event :=
    { eventType := .workloadOptimizationRequested
      runId := "run"
      correlationId := "run"
      payload :=
        [("task_id", .string "run:web"), ("workload_id", .string "web"),
          ("namespace", .string "shop"), ("context_ref", .string "web@1"),
          ("repository_ref", .string "service://web")]
      eventId := "1"
      timestamp := ""
      identified := one_ne_empty
      hasRun := run_ne_empty
      correlated := run_ne_empty }
  keyed := by decide

/-- The world before anything happened. -/
def watcherStart : WorkerState Policy × Shared Policy :=
  ({}, { world := podWatcher.initialPolicy })

def steps (count : Nat) : List TaskAction := List.replicate count (.tick {})

theorem watcherWorker_faithful : Faithful watcherWorker id := by
  intro event context before environment after made
  cases made
  exact ⟨fun _ _ _ applied => by cases applied; rfl, fun _ => rfl⟩

def connectionError : PyException := ⟨.other "ConnectionError", "broker"⟩

/-- The publication of an accepted result raises once; the retry is answered
from the store. -/
def lostPublication : List TaskAction :=
  [.claimRequest] ++ steps 6 ++
    [.tick { fate := .raises connectionError false }] ++ steps 3 ++
    [.claimRetry 0] ++ steps 4

/-- One failing publication: the task ends up acknowledged and reported as
accepted, while its original policy has been restored. -/
theorem reported_acceptance_is_rolled_back :
    ∃ final,
      play (taskStep watcherWorker watcherRequest) watcherStart
        lostPublication = some final ∧
      (∃ stats, final.1 = ⟨.idle, stats⟩) ∧
      final.2.acknowledged = [0] ∧
      PublishedAccepted "run:web" final.2 ∧
      final.2.world = podWatcher.initialPolicy ∧
      ¬HoldsAccepted id final.2 := by
  obtain ⟨final, played, idle, acknowledged, reported, restored, repaired⟩ :
      ∃ final,
        play (taskStep watcherWorker watcherRequest) watcherStart
          lostPublication = some final ∧
        (∃ stats, final.1 = ⟨.idle, stats⟩) ∧
        final.2.acknowledged = [0] ∧
        final.2.results.map (fun result =>
          (result.event.payload.field "task_id",
            accepted result.event.payload)) = [(.string "run:web", true)] ∧
        final.2.world = podWatcher.initialPolicy ∧
        final.2.executions.getLast?.map (fun execution =>
          execution.finalPolicy.permissions.length) = some 2 :=
    ⟨_, rfl, ⟨_, rfl⟩, rfl, rfl, rfl, rfl⟩
  refine ⟨final, played, idle, acknowledged, publishedAccepted_of_map reported,
    restored, ?_⟩
  intro ⟨execution, last, _, same⟩
  rw [last, Option.map_some, Option.some.injEq] at repaired
  rw [id_eq, restored] at same
  rw [← same] at repaired
  exact absurd repaired (by decide)

/-- The same request without failures is accepted and stays so, also when its
entry has expired. -/
theorem accepted_policy_stays_live_watcher :
    ∃ final,
      play (taskStep watcherWorker watcherRequest) watcherStart
        ([.claimRequest] ++ steps 9 ++ [.expire "run:web"]) = some final ∧
      PublishedAccepted "run:web" final.2 ∧
      ¬StoredAccepted "run:web" final.2 ∧ HoldsAccepted id final.2 := by
  have unreported : Unreported "run:web" watcherStart.2 :=
    ⟨rfl, rfl, fun ⟨_, member, _⟩ => by cases member⟩
  have never : ∀ failure,
      ({} : Tick).fate ≠ .raises failure true := fun _ raises => by cases raises
  have meets : Meets (taskStep watcherWorker watcherRequest)
      (Permitted "run:web") watcherStart
      ([.claimRequest] ++ steps 9 ++ [.expire "run:web"]) :=
    meets_cons trivial rfl <| meets_cons trivial rfl <|
      meets_cons (fun published => absurd published unreported.results) rfl <|
      meets_cons trivial rfl <| meets_cons trivial rfl <|
      meets_cons trivial rfl <| meets_cons (fun _ => never) rfl <|
      meets_cons ⟨fun _ => never, fun _ => rfl⟩ rfl <|
      meets_cons (fun _ => rfl) rfl <| meets_cons (fun _ => rfl) rfl <|
      meets_cons trivial rfl trivial
  obtain ⟨final, played, reported, forgotten⟩ : ∃ final,
      play (taskStep watcherWorker watcherRequest) watcherStart
        ([.claimRequest] ++ steps 9 ++ [.expire "run:web"]) = some final ∧
      final.2.results.map (fun result =>
        (result.event.payload.field "task_id",
          accepted result.event.payload)) = [(.string "run:web", true)] ∧
      final.2.store.get? "run:web" = none :=
    ⟨_, rfl, rfl, rfl⟩
  have published := publishedAccepted_of_map reported
  refine ⟨final, played, published, ?_, (accepted_policy_stays_live
    watcherWorker_faithful rfl unreported meets played).1 (Or.inr published)⟩
  rintro ⟨stored, present, -⟩
  rw [forgotten] at present
  cases present

end Kuber.Event

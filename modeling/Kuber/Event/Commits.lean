import Kuber.Event.Acceptance
import Kuber.Event.Delivery
import Kuber.Event.Kafka

/-!
# Committed offsets

A worker that consumes one partition of the request topic.  A commit covers
all records below its offset, so a record is given up for good by any later
commit.  On this bus a retry and a dead letter are a publication followed by a
commit, and a worker may die between any two calls.
-/

namespace Kuber.Event

open Kuber.Library Kuber.Rules Kuber.Agent OptimizationWorker

variable {σ : Type}

def optimizationConsumerGroup : String := "kuber-optimization-workers"

/-- An event that was published as a retry or as a dead letter. -/
structure KafkaEvent where
  topic : String
  key : String
  event : EventEnvelope

/-- Where a consumer of the partition is.  A message that has been republished
or dead-lettered is still to be committed. -/
inductive KafkaPhase (σ : Type) where
  | stopped
  | polling (worker : OptimizationWorker σ) (stats : WorkerStats)
  | processing (worker : OptimizationWorker σ)
      (delivered : InMemoryEventBus.ConsumedEvent) (state : WorkerState σ)
  | confirming (worker : OptimizationWorker σ)
      (delivered : InMemoryEventBus.ConsumedEvent) (stats : WorkerStats)

/-- The partition, the position of its consumer, and what workers share; the
acknowledgements are the commits of this partition. -/
structure KafkaState (σ : Type) where
  log : List KafkaRecord := []
  position : Nat := 0
  phase : KafkaPhase σ := .stopped
  shared : Shared σ
  published : List KafkaEvent := []

/-- The committed offset: one above the record committed last. -/
def Shared.committed (shared : Shared σ) : Nat :=
  match shared.acknowledged.getLast? with
  | some offset => offset + 1
  | none => 0

def Shared.commit (offset : Nat) (shared : Shared σ) : Shared σ :=
  { shared with acknowledged := shared.acknowledged ++ [offset] }

namespace KafkaState

/-- A call that publishes before the commit. -/
def publish (state : KafkaState σ) (event : KafkaEvent) (fate : Fate)
    (returned : KafkaPhase σ) : KafkaState σ :=
  match fate with
  | .returns =>
      { state with phase := returned, published := state.published ++ [event] }
  | .raises _ landed =>
      { state with
        phase := .stopped
        published := if landed then state.published ++ [event]
          else state.published }

def commit (state : KafkaState σ) (offset : Nat) (fate : Fate)
    (returned : KafkaPhase σ) : KafkaState σ :=
  match fate with
  | .returns =>
      { state with phase := returned, shared := state.shared.commit offset }
  | .raises _ landed =>
      { state with
        phase := .stopped
        shared := if landed then state.shared.commit offset
          else state.shared }

/-- The consumer fetches its next record.  One that cannot be decoded ends the
generator.  For one without a key every publication raises, and the exception
of the last one ends `run`; there is no commit on the way. -/
def poll (state : KafkaState σ) (loader : Loader)
    (worker : OptimizationWorker σ) (stats : WorkerStats) :
    Option (KafkaState σ) :=
  match state.log[state.position]? with
  | none => none
  | some record =>
      match KafkaEventBus.decodeRecord loader optimizationConsumerGroup
        worker.workerId record with
      | .error _ => some { state with phase := .stopped }
      | .ok delivered =>
          if keyed : delivered.key ≠ "" then
            let message := delivered.atRecord state.position keyed
            some { state with
              position := state.position + 1
              phase := .processing worker delivered ⟨.validating message,
                { stats with claimed := stats.claimed + 1 }⟩ }
          else some { state with phase := .stopped }

/-- Back to the loop of `run` when `process` has returned, and out of it when
it has raised. -/
def resumed (worker : OptimizationWorker σ)
    (delivered : InMemoryEventBus.ConsumedEvent) (state : WorkerState σ) :
    KafkaPhase σ :=
  match state.phase with
  | .idle => .polling worker state.stats
  | .stopped _ => .stopped
  | _ => .processing worker delivered state

/-- One step of `process`. -/
def proceed (state : KafkaState σ) (worker : OptimizationWorker σ)
    (delivered : InMemoryEventBus.ConsumedEvent) (current : WorkerState σ)
    (tick : Tick) : Option (KafkaState σ) :=
  let confirm : KafkaPhase σ := .confirming worker delivered current.stats
  let deadLetter (reason : String) : KafkaEvent :=
    ⟨dlq, delivered.key,
      InMemoryEventBus.deadLetterEvent delivered reason tick.stamp⟩
  match current.phase with
  | .rejecting _ reason =>
      some (state.publish (deadLetter reason) tick.fate confirm)
  | .retrying _ _ =>
      some (state.publish ⟨delivered.topic, delivered.key,
        delivered.event.nextAttempt tick.stamp⟩ tick.fate confirm)
  | .deadLettering _ failure =>
      some (state.publish (deadLetter
        (failure.kind.name ++ ": " ++ exceptionText failure)) tick.fate
          confirm)
  | _ =>
      (worker.advance tick current state.shared).map fun next =>
        { state with
          phase := resumed worker delivered next.1
          shared := next.2 }

end KafkaState

/-- What others do: workers of other partitions publish, store and lock, and
the world changes. -/
structure Elsewhere (σ : Type) where
  world : σ
  store : OrderedDict String Document
  held : List String
  results : List PublishedResult
  published : List KafkaEvent

inductive KafkaAction (σ : Type) where
  | append (topic : String) (key : Option (List UInt8)) (partition : Nat)
      (value : List UInt8)
  | start (worker : OptimizationWorker σ)
  | poll
  | tick (tick : Tick)
  | crash
  | elsewhere (change : Elsewhere σ)

/-- A record is appended, a consumer starts at the committed offset, goes on
or dies, or something happens elsewhere.  One consumer at a time owns the
partition. -/
def kafkaStep (loader : Loader) (state : KafkaState σ) :
    KafkaAction σ → Option (KafkaState σ)
  | .append topic key partition value =>
      some { state with
        log := state.log ++
          [⟨topic, key, partition, state.log.length, value⟩] }
  | .start worker =>
      match state.phase with
      | .stopped =>
          some { state with
            position := state.shared.committed
            phase := .polling worker {} }
      | _ => none
  | .poll =>
      match state.phase with
      | .polling worker stats => state.poll loader worker stats
      | _ => none
  | .tick tick =>
      match state.phase with
      | .processing worker delivered current =>
          state.proceed worker delivered current tick
      | .confirming worker delivered stats =>
          some (state.commit delivered.offset tick.fate
            (.polling worker stats))
      | _ => none
  | .crash => some { state with phase := .stopped }
  | .elsewhere change =>
      some { state with
        shared := { state.shared with
          world := change.world
          store := change.store
          held := change.held
          results := state.shared.results ++ change.results }
        published := state.published ++ change.published }

/-- The outcome of a request has been published. -/
inductive Outcome (state : KafkaState σ)
    (delivered : InMemoryEventBus.ConsumedEvent) : Prop where
  | result {result : PublishedResult} {payload : Document} {stamp : Stamp}
      (published : result ∈ state.shared.results)
      (keyed : result.key = delivered.key)
      (answers : result.event = delivered.event.answer
        .workloadOptimizationCompleted payload stamp)
  | retry {stamp : Stamp}
      (published : ⟨delivered.topic, delivered.key,
        delivered.event.nextAttempt stamp⟩ ∈ state.published)
  | deadLetter {reason : String} {stamp : Stamp}
      (published : ⟨dlq, delivered.key,
        InMemoryEventBus.deadLetterEvent delivered reason stamp⟩ ∈
          state.published)

/-- The record at this offset decodes, and its outcome has been published. -/
def Settled (loader : Loader) (state : KafkaState σ) (offset : Nat) : Prop :=
  ∃ record consumerId delivered, state.log[offset]? = some record ∧
    KafkaEventBus.decodeRecord loader optimizationConsumerGroup consumerId
      record = .ok delivered ∧
    Outcome state delivered

section

/-- A result that answers the message has been published. -/
def ResultFor (message : ConsumedEvent) (results : List PublishedResult) :
    Prop :=
  ∃ payload stamp, ⟨message.key,
    message.event.answer .workloadOptimizationCompleted payload stamp,
    message.record⟩ ∈ results

theorem ResultFor.mono {message : ConsumedEvent}
    {results later : List PublishedResult} (published : ResultFor message results)
    (grows : results <+: later) : ResultFor message later := by
  obtain ⟨payload, stamp, member⟩ := published
  exact ⟨payload, stamp, grows.subset member⟩

/-- The phase is one of processing this message, and the message is only
acknowledged, or done with, behind a result. -/
def PhaseFor (message : ConsumedEvent) (results : List PublishedResult) :
    Phase σ → Prop
  | .idle => ResultFor message results
  | .stopped _ => True
  | .validating other => other = message
  | .rejecting other _ => other = message
  | .lookingUp task => task.message = message
  | .republishing task _ => task.message = message
  | .acknowledgingDuplicate task =>
      task.message = message ∧ ResultFor message results
  | .locking task _ => task.message = message
  | .creating task _ => task.message = message
  | .running task _ _ => task.message = message
  | .storing task _ _ _ => task.message = message
  | .publishing task _ _ _ => task.message = message
  | .acknowledging task _ _ =>
      task.message = message ∧ ResultFor message results
  | .releasing task _ _ failure =>
      task.message = message ∧ (failure = none → ResultFor message results)
  | .recovering task _ _ => task.message = message
  | .retrying task _ => task.message = message
  | .deadLettering task _ => task.message = message

theorem PhaseFor.mono {message : ConsumedEvent}
    {results later : List PublishedResult} {phase : Phase σ}
    (inPhase : PhaseFor message results phase) (grows : results <+: later) :
    PhaseFor message later phase := by
  cases phase with
  | idle => exact ResultFor.mono inPhase grows
  | acknowledgingDuplicate task =>
      exact ⟨inPhase.1, inPhase.2.mono grows⟩
  | acknowledging task key environment =>
      exact ⟨inPhase.1, inPhase.2.mono grows⟩
  | releasing task key environment failure =>
      exact ⟨inPhase.1, fun none => (inPhase.2 none).mono grows⟩
  | _ => exact inPhase

/-- On this bus these phases publish first, and commit in a step of its own. -/
def Phase.republishes : Phase σ → Bool
  | .rejecting .. => true
  | .retrying .. => true
  | .deadLettering .. => true
  | _ => false

/-- What a step of `process` does to the topic of results and the commits. -/
structure Processed (message : ConsumedEvent) (shared next : Shared σ)
    (phase : Phase σ) : Prop where
  phase : PhaseFor message next.results phase
  results : shared.results <+: next.results
  commits : next.acknowledged = shared.acknowledged ∨
    next.acknowledged = shared.acknowledged ++ [message.record] ∧
      ResultFor message next.results

variable {message : ConsumedEvent} {worker : OptimizationWorker σ}
  {tick : Tick} {state : WorkerState σ} {shared : Shared σ}
  {next : WorkerState σ × Shared σ}

private theorem Processed.silent {later : Shared σ} {phase : Phase σ}
    (results : later.results = shared.results)
    (acknowledged : later.acknowledged = shared.acknowledged)
    (inPhase : PhaseFor message shared.results phase) :
    Processed message shared later phase :=
  ⟨results.symm ▸ inPhase, results.symm ▸ List.prefix_rfl,
    Or.inl acknowledged⟩

private theorem processed_of_call {effect : Shared σ → Shared σ}
    {returned : WorkerState σ} {raised : PyException → WorkerState σ}
    (step : some (tick.fate.call effect shared returned raised) = some next)
    (results : shared.results <+: (effect shared).results)
    (commits : (effect shared).acknowledged = shared.acknowledged ∨
      (effect shared).acknowledged = shared.acknowledged ++ [message.record] ∧
        ResultFor message (effect shared).results)
    (onReturn : PhaseFor message (effect shared).results returned.phase)
    (onRaise : ∀ failure results, PhaseFor message results
      (raised failure).phase) :
    Processed message shared next.2 next.1.phase := by
  apply Fate.call_cases step
  · exact fun _ => ⟨onReturn, results, commits⟩
  · exact fun failure _ =>
      ⟨onRaise failure _, List.prefix_rfl, Or.inl rfl⟩
  · exact fun failure _ => ⟨onRaise failure _, results, commits⟩

private theorem resultFor_publish {task : Task} (payload : Document)
    (stamp : Stamp) (shared : Shared σ) :
    ResultFor task.message (shared.publish task payload stamp).results :=
  ⟨payload, stamp, List.mem_append_right _ (List.mem_singleton_self _)⟩

/-- A step of `process` commits only behind a published result, as long as it
neither retries nor dead-letters. -/
theorem advance_processed
    (inPhase : PhaseFor message shared.results state.phase)
    (answering : state.phase.republishes = false)
    (step : worker.advance tick state shared = some next) :
    Processed message shared next.2 next.1.phase := by
  obtain ⟨phase, stats⟩ := state
  cases phase with
  | idle => cases step
  | stopped failure => cases step
  | rejecting other reason => cases answering
  | retrying task failure => cases answering
  | deadLettering task failure => cases answering
  | validating other =>
      cases inPhase
      cases advance_decides rfl step with
      | validated task valid => exact .silent rfl rfl (validate_ok valid).1
      | rejected reason => exact .silent rfl rfl rfl
      | unexpected failure => exact .silent rfl rfl trivial
  | lookingUp task =>
      cases advance_decides rfl step with
      | found payload present => exact .silent rfl rfl inPhase
      | missed key absent keyed => exact .silent rfl rfl inPhase
      | unlooked failure => exact .silent rfl rfl trivial
  | republishing task payload =>
      cases inPhase
      exact processed_of_call step (List.prefix_append _ _) (Or.inl rfl)
        ⟨rfl, resultFor_publish payload tick.stamp shared⟩
        fun _ _ => trivial
  | acknowledgingDuplicate task =>
      obtain ⟨rfl, answered⟩ := inPhase
      exact processed_of_call step List.prefix_rfl (Or.inr ⟨rfl, answered⟩)
        answered fun _ _ => trivial
  | locking task key =>
      cases advance_decides rfl step with
      | acquired free => exact .silent rfl rfl inPhase
      | unacquired failure => exact .silent rfl rfl inPhase
  | creating task key =>
      cases advance_decides rfl step with
      | created environment world made => exact .silent rfl rfl inPhase
      | uncreated failure world =>
          exact .silent rfl rfl ⟨inPhase, fun none => by cases none⟩
  | running task key environment =>
      cases advance_decides rfl step with
      | ran repositoryRef execution session run =>
          exact .silent rfl rfl inPhase
      | unnamed failure unnamed =>
          exact .silent rfl rfl ⟨inPhase, fun none => by cases none⟩
      | raised repositoryRef failure session named run =>
          exact .silent rfl rfl ⟨inPhase, fun none => by cases none⟩
  | storing task key environment payload =>
      exact processed_of_call step List.prefix_rfl (Or.inl rfl) inPhase
        fun _ _ => ⟨inPhase, fun none => by cases none⟩
  | publishing task key environment payload =>
      cases inPhase
      exact processed_of_call step (List.prefix_append _ _) (Or.inl rfl)
        ⟨rfl, resultFor_publish payload tick.stamp shared⟩
        fun _ _ => ⟨rfl, fun none => by cases none⟩
  | acknowledging task key environment =>
      obtain ⟨rfl, answered⟩ := inPhase
      exact processed_of_call step List.prefix_rfl (Or.inr ⟨rfl, answered⟩)
        ⟨rfl, fun _ => answered⟩ fun _ _ => ⟨rfl, fun none => by cases none⟩
  | releasing task key environment failure =>
      obtain ⟨same, answered⟩ := inPhase
      refine processed_of_call step List.prefix_rfl (Or.inl rfl) ?_
        fun _ _ => same
      cases failure with
      | none => exact answered rfl
      | some failure => exact same
  | recovering task environment failure =>
      cases advance_decides rfl step with
      | retries world => exact .silent rfl rfl inPhase
      | givesUp world => exact .silent rfl rfl inPhase

end

section

variable {loader : Loader} {state next : KafkaState σ}
  {delivered : InMemoryEventBus.ConsumedEvent}

/-- The partition and the published events only grow. -/
structure KafkaState.Grows (state next : KafkaState σ) : Prop where
  log : state.log <+: next.log
  results : state.shared.results <+: next.shared.results
  published : state.published <+: next.published

theorem KafkaState.Grows.of_same (log : next.log = state.log)
    (results : next.shared.results = state.shared.results)
    (published : next.published = state.published) : state.Grows next :=
  ⟨log ▸ List.prefix_rfl, results ▸ List.prefix_rfl,
    published ▸ List.prefix_rfl⟩

theorem Outcome.mono (outcome : Outcome state delivered)
    (grows : state.Grows next) : Outcome next delivered := by
  cases outcome with
  | result published keyed answers =>
      exact .result (grows.results.subset published) keyed answers
  | retry published => exact .retry (grows.published.subset published)
  | deadLetter published =>
      exact .deadLetter (grows.published.subset published)

theorem Settled.mono {offset : Nat} (settled : Settled loader state offset)
    (grows : state.Grows next) : Settled loader next offset := by
  obtain ⟨record, consumerId, delivered, present, decoded, outcome⟩ := settled
  exact ⟨record, consumerId, delivered, getElem?_of_grows grows.log present,
    decoded, outcome.mono grows⟩

/-- The message was made from the record that the consumer fetched last, and
all records below it are settled. -/
structure Fetched (loader : Loader) (state : KafkaState σ)
    (worker : OptimizationWorker σ)
    (delivered : InMemoryEventBus.ConsumedEvent) (offset : Nat) : Prop where
  record : ∃ record, state.log[offset]? = some record ∧
    KafkaEventBus.decodeRecord loader optimizationConsumerGroup
      worker.workerId record = .ok delivered
  position : state.position = offset + 1
  below : ∀ earlier < offset, Settled loader state earlier

/-- Whatever is below the position is settled, but for the message that the
consumer is at. -/
def PositionSound (loader : Loader) (state : KafkaState σ) : Prop :=
  match state.phase with
  | .stopped => True
  | .polling _ _ => ∀ offset < state.position, Settled loader state offset
  | .processing worker delivered current =>
      ∃ offset keyed, Fetched loader state worker delivered offset ∧
        PhaseFor (delivered.atRecord offset keyed) state.shared.results
          current.phase
  | .confirming worker delivered _ =>
      ∃ offset, Fetched loader state worker delivered offset ∧
        Outcome state delivered

theorem positionSound_polling {worker : OptimizationWorker σ}
    {stats : WorkerStats} (polling : state.phase = .polling worker stats) :
    PositionSound loader state ↔
      ∀ offset < state.position, Settled loader state offset := by
  simp only [PositionSound, polling]

theorem positionSound_processing {worker : OptimizationWorker σ}
    {current : WorkerState σ}
    (processing : state.phase = .processing worker delivered current) :
    PositionSound loader state ↔
      ∃ offset keyed, Fetched loader state worker delivered offset ∧
        PhaseFor (delivered.atRecord offset keyed) state.shared.results
          current.phase := by
  simp only [PositionSound, processing]

theorem positionSound_confirming {worker : OptimizationWorker σ}
    {stats : WorkerStats}
    (confirming : state.phase = .confirming worker delivered stats) :
    PositionSound loader state ↔
      ∃ offset, Fetched loader state worker delivered offset ∧
        Outcome state delivered := by
  simp only [PositionSound, confirming]

/-- The offset of a record is its place in the partition. -/
def Placed (log : List KafkaRecord) : Prop :=
  ∀ (offset : Nat) (record : KafkaRecord), log[offset]? = some record →
    record.offset = offset

structure CommitsSound (loader : Loader) (state : KafkaState σ) : Prop where
  placed : Placed state.log
  committed : ∀ offset < state.shared.committed, Settled loader state offset
  phase : PositionSound loader state

theorem Fetched.mono {worker : OptimizationWorker σ} {offset : Nat}
    (fetched : Fetched loader state worker delivered offset)
    (grows : state.Grows next) (same : next.position = state.position) :
    Fetched loader next worker delivered offset := by
  obtain ⟨⟨record, present, decoded⟩, position, below⟩ := fetched
  exact ⟨⟨record, getElem?_of_grows grows.log present, decoded⟩,
    same.trans position, fun earlier lower => (below earlier lower).mono grows⟩

theorem Fetched.settled {worker : OptimizationWorker σ} {offset : Nat}
    (fetched : Fetched loader state worker delivered offset)
    (outcome : Outcome state delivered) :
    ∀ earlier < offset + 1, Settled loader state earlier := by
  intro earlier lower
  rcases Nat.lt_succ_iff_lt_or_eq.mp lower with below | rfl
  · exact fetched.below earlier below
  · obtain ⟨record, present, decoded⟩ := fetched.record
    exact ⟨record, _, delivered, present, decoded, outcome⟩

theorem ResultFor.outcome {offset : Nat} {keyed : delivered.key ≠ ""}
    (published : ResultFor (delivered.atRecord offset keyed)
      state.shared.results) : Outcome state delivered := by
  obtain ⟨payload, stamp, member⟩ := published
  exact .result member rfl rfl

@[simp] theorem committed_concat (shared : Shared σ) (offsets : List Nat)
    (offset : Nat) :
    ({ shared with acknowledged := offsets ++ [offset] } :
      Shared σ).committed = offset + 1 := by
  simp [Shared.committed]

theorem decodeRecord_offset {group consumerId : String}
    {record : KafkaRecord}
    (decoded : KafkaEventBus.decodeRecord loader group consumerId record =
      .ok delivered) : delivered.offset = record.offset := by
  simp only [KafkaEventBus.decodeRecord, bind_eq_ok_iff, pure_eq_ok_iff]
    at decoded
  obtain ⟨key, -, event, -, rfl⟩ := decoded
  rfl

theorem CommitsSound.of_grows (sound : CommitsSound loader state)
    (grows : state.Grows next) (position : next.position = state.position)
    (acknowledged : next.shared.acknowledged = state.shared.acknowledged)
    (placed : Placed next.log)
    (phase : next.phase = .stopped ∨ next.phase = state.phase) :
    CommitsSound loader next := by
  refine ⟨placed, ?_, ?_⟩
  · intro offset lower
    rw [Shared.committed, acknowledged] at lower
    exact (sound.committed offset lower).mono grows
  · rcases phase with stopped | same
    · rw [PositionSound, stopped]
      trivial
    · cases now : state.phase with
      | stopped =>
          rw [PositionSound, same, now]
          trivial
      | polling worker stats =>
          have before := (positionSound_polling now).mp sound.phase
          rw [positionSound_polling (same.trans now), position]
          exact fun offset lower => (before offset lower).mono grows
      | processing worker delivered current =>
          obtain ⟨offset, keyed, fetched, inPhase⟩ :=
            (positionSound_processing now).mp sound.phase
          rw [positionSound_processing (same.trans now)]
          exact ⟨offset, keyed, fetched.mono grows position,
            inPhase.mono grows.results⟩
      | confirming worker delivered stats =>
          obtain ⟨offset, fetched, outcome⟩ :=
            (positionSound_confirming now).mp sound.phase
          rw [positionSound_confirming (same.trans now)]
          exact ⟨offset, fetched.mono grows position, outcome.mono grows⟩

theorem append_commitsSound (sound : CommitsSound loader state) (topic : String)
    (key : Option (List UInt8)) (partition : Nat) (value : List UInt8) :
    CommitsSound loader { state with
      log := state.log ++
        [⟨topic, key, partition, state.log.length, value⟩] } := by
  refine sound.of_grows ⟨List.prefix_append _ _, List.prefix_rfl,
    List.prefix_rfl⟩ rfl rfl ?_ (Or.inr rfl)
  intro offset record present
  rcases Nat.lt_or_ge offset state.log.length with before | after
  · rw [List.getElem?_append_left before] at present
    exact sound.placed offset record present
  · rw [List.getElem?_append_right after] at present
    obtain ⟨inside, rfl⟩ := List.getElem?_eq_some_iff.mp present
    have last : offset = state.log.length := by
      rw [List.length_singleton] at inside
      omega
    subst last
    simp

theorem poll_commitsSound (sound : CommitsSound loader state)
    {worker : OptimizationWorker σ} {stats : WorkerStats}
    (polling : state.phase = .polling worker stats)
    (step : state.poll loader worker stats = some next) :
    CommitsSound loader next := by
  have before := (positionSound_polling polling).mp sound.phase
  have stops : CommitsSound loader { state with phase := .stopped } :=
    sound.of_grows (.of_same rfl rfl rfl) rfl rfl sound.placed (Or.inl rfl)
  rw [KafkaState.poll] at step
  split at step
  · cases step
  · rename_i record present
    split at step
    · cases step
      exact stops
    · rename_i delivered decoded
      split at step
      · rename_i keyed
        cases step
        refine ⟨sound.placed, ?_, ?_⟩
        · exact fun offset lower =>
            (sound.committed offset lower).mono (.of_same rfl rfl rfl)
        · exact ⟨state.position, keyed, ⟨⟨record, present, decoded⟩, rfl,
            fun offset lower =>
              (before offset lower).mono (.of_same rfl rfl rfl)⟩, rfl⟩
      · cases step
        exact stops

theorem commit_commitsSound (sound : CommitsSound loader state)
    {worker : OptimizationWorker σ} {stats : WorkerStats}
    (confirming : state.phase = .confirming worker delivered stats)
    (fate : Fate) :
    CommitsSound loader (state.commit delivered.offset fate
      (.polling worker stats)) := by
  obtain ⟨offset, fetched, outcome⟩ :=
    (positionSound_confirming confirming).mp sound.phase
  have own : delivered.offset = offset := by
    obtain ⟨record, present, decoded⟩ := fetched.record
    rw [decodeRecord_offset decoded, sound.placed offset record present]
  rw [own]
  have settled := fetched.settled outcome
  cases fate with
  | returns =>
      refine ⟨sound.placed, ?_, ?_⟩
      · intro earlier lower
        rw [KafkaState.commit, Shared.commit, committed_concat] at lower
        exact (settled earlier lower).mono (.of_same rfl rfl rfl)
      · intro earlier lower
        rw [KafkaState.commit] at lower
        rw [fetched.position] at lower
        exact (settled earlier lower).mono (.of_same rfl rfl rfl)
  | raises failure landed =>
      cases landed with
      | false =>
          exact sound.of_grows (.of_same rfl rfl rfl) rfl rfl sound.placed
            (Or.inl rfl)
      | true =>
          refine ⟨sound.placed, ?_, trivial⟩
          intro earlier lower
          rw [KafkaState.commit, Shared.commit, if_pos rfl,
            committed_concat] at lower
          exact (settled earlier lower).mono (.of_same rfl rfl rfl)

theorem publish_commitsSound (sound : CommitsSound loader state)
    {worker : OptimizationWorker σ} {offset : Nat} {event : KafkaEvent}
    (fetched : Fetched loader state worker delivered offset)
    (outcome : ∀ next : KafkaState σ, event ∈ next.published →
      Outcome next delivered) (fate : Fate) (stats : WorkerStats) :
    CommitsSound loader (state.publish event fate
      (.confirming worker delivered stats)) := by
  cases fate with
  | returns =>
      have grows : state.Grows (state.publish event .returns
          (.confirming worker delivered stats)) :=
        ⟨List.prefix_rfl, List.prefix_rfl, List.prefix_append _ _⟩
      refine ⟨sound.placed, ?_, ?_⟩
      · exact fun earlier lower => (sound.committed earlier lower).mono grows
      · exact ⟨offset, fetched.mono grows rfl, outcome _
          (List.mem_append_right _ (List.mem_singleton_self _))⟩
  | raises failure landed =>
      cases landed with
      | false =>
          exact sound.of_grows (.of_same rfl rfl rfl) rfl rfl sound.placed
            (Or.inl rfl)
      | true =>
          exact sound.of_grows ⟨List.prefix_rfl, List.prefix_rfl,
            List.prefix_append _ _⟩ rfl rfl sound.placed (Or.inl rfl)

theorem resumed_cases (worker : OptimizationWorker σ)
    (delivered : InMemoryEventBus.ConsumedEvent) (state : WorkerState σ) :
    (state.phase = .idle ∧ KafkaState.resumed worker delivered state =
        .polling worker state.stats) ∨
      KafkaState.resumed worker delivered state = .stopped ∨
      KafkaState.resumed worker delivered state =
        .processing worker delivered state := by
  unfold KafkaState.resumed
  cases state.phase with
  | idle => exact Or.inl ⟨rfl, rfl⟩
  | stopped failure => exact Or.inr (Or.inl rfl)
  | _ => exact Or.inr (Or.inr rfl)

theorem advance_commitsSound (sound : CommitsSound loader state)
    {worker : OptimizationWorker σ} {current : WorkerState σ} {tick : Tick}
    {offset : Nat} {keyed : delivered.key ≠ ""}
    {moved : WorkerState σ × Shared σ}
    (fetched : Fetched loader state worker delivered offset)
    (inPhase : PhaseFor (delivered.atRecord offset keyed) state.shared.results
      current.phase)
    (answering : current.phase.republishes = false)
    (step : worker.advance tick current state.shared = some moved) :
    CommitsSound loader { state with
      phase := KafkaState.resumed worker delivered moved.1
      shared := moved.2 } := by
  have processed := advance_processed inPhase answering step
  have grows : state.Grows { state with
      phase := KafkaState.resumed worker delivered moved.1
      shared := moved.2 } :=
    ⟨List.prefix_rfl, processed.results, List.prefix_rfl⟩
  have fetchedLater := fetched.mono grows rfl
  refine ⟨sound.placed, ?_, ?_⟩
  · intro earlier lower
    rcases processed.commits with same | ⟨committed, answered⟩
    · rw [Shared.committed, same] at lower
      exact (sound.committed earlier lower).mono grows
    · have above : earlier < offset + 1 := by
        rw [Shared.committed, committed, List.getLast?_concat] at lower
        exact lower
      exact fetchedLater.settled answered.outcome earlier above
  · rcases resumed_cases worker delivered moved.1 with
      ⟨idle, resumes⟩ | stops | resumes
    · have answered := processed.phase
      rw [idle] at answered
      rw [positionSound_polling resumes]
      intro earlier lower
      have above : earlier < offset + 1 := fetched.position ▸ lower
      exact fetchedLater.settled (ResultFor.outcome answered) earlier above
    · rw [PositionSound, stops]
      trivial
    · rw [positionSound_processing resumes]
      exact ⟨offset, keyed, fetchedLater, processed.phase⟩

theorem proceed_commitsSound (sound : CommitsSound loader state)
    {worker : OptimizationWorker σ} {current : WorkerState σ} {tick : Tick}
    (processing : state.phase = .processing worker delivered current)
    (step : state.proceed worker delivered current tick = some next) :
    CommitsSound loader next := by
  obtain ⟨offset, keyed, fetched, inPhase⟩ :=
    (positionSound_processing processing).mp sound.phase
  cases answering : current.phase.republishes with
  | true =>
      cases now : current.phase with
      | rejecting message reason =>
          simp only [KafkaState.proceed, now] at step
          cases step
          exact publish_commitsSound sound fetched
            (fun _ published => .deadLetter published) _ _
      | retrying task failure =>
          simp only [KafkaState.proceed, now] at step
          cases step
          exact publish_commitsSound sound fetched
            (fun _ published => .retry published) _ _
      | deadLettering task failure =>
          simp only [KafkaState.proceed, now] at step
          cases step
          exact publish_commitsSound sound fetched
            (fun _ published => .deadLetter published) _ _
      | _ =>
          rw [now] at answering
          cases answering
  | false =>
      have advanced : ∃ moved,
          worker.advance tick current state.shared = some moved ∧
          next = { state with
            phase := KafkaState.resumed worker delivered moved.1
            shared := moved.2 } := by
        unfold KafkaState.proceed at step
        cases now : current.phase with
        | rejecting message reason =>
            rw [now] at answering
            cases answering
        | retrying task failure =>
            rw [now] at answering
            cases answering
        | deadLettering task failure =>
            rw [now] at answering
            cases answering
        | _ =>
            simp only [now] at step
            obtain ⟨moved, advanced, rfl⟩ := Option.map_eq_some_iff.mp step
            exact ⟨moved, advanced, rfl⟩
      obtain ⟨moved, advanced, rfl⟩ := advanced
      exact advance_commitsSound sound fetched inPhase answering advanced

theorem kafkaStep_commitsSound (state : KafkaState σ)
    (action : KafkaAction σ) (next : KafkaState σ)
    (sound : CommitsSound loader state)
    (step : kafkaStep loader state action = some next) :
    CommitsSound loader next := by
  cases action with
  | append topic key partition value =>
      cases step
      exact append_commitsSound sound topic key partition value
  | start worker =>
      simp only [kafkaStep] at step
      split at step
      · cases step
        refine ⟨sound.placed, ?_, ?_⟩
        · exact fun offset lower =>
            (sound.committed offset lower).mono (.of_same rfl rfl rfl)
        · exact fun offset lower =>
            (sound.committed offset lower).mono (.of_same rfl rfl rfl)
      · cases step
  | poll =>
      simp only [kafkaStep] at step
      split at step
      · rename_i worker stats polling
        exact poll_commitsSound sound polling step
      · cases step
  | tick tick =>
      simp only [kafkaStep] at step
      split at step
      · rename_i worker delivered current processing
        exact proceed_commitsSound sound processing step
      · rename_i worker delivered stats confirming
        cases step
        exact commit_commitsSound sound confirming tick.fate
      · cases step
  | crash =>
      cases step
      exact sound.of_grows (.of_same rfl rfl rfl) rfl rfl sound.placed
        (Or.inl rfl)
  | elsewhere change =>
      cases step
      exact sound.of_grows ⟨List.prefix_rfl, List.prefix_append _ _,
        List.prefix_append _ _⟩ rfl rfl sound.placed (Or.inr rfl)

end

/-- An empty partition that no consumer has committed anything of. -/
def KafkaState.opened (world : σ) : KafkaState σ :=
  { shared := { world := world } }

/-- Whatever the records are and wherever consumers die, every record below
the committed offset has its outcome published: a result, a further attempt,
or a dead letter that contains it. -/
theorem committed_records_have_outcomes {loader : Loader} {world : σ}
    {actions : List (KafkaAction σ)} {final : KafkaState σ}
    (played : play (kafkaStep loader) (KafkaState.opened world) actions =
      some final) :
    ∀ offset < final.shared.committed, Settled loader final offset := by
  have start : CommitsSound loader (KafkaState.opened world) := by
    refine ⟨?_, ?_, trivial⟩
    · intro offset record present
      cases present
    · intro offset lower
      cases lower
  have sound := @invariant_play _ _ (kafkaStep loader) (fun _ _ => True) _
    (fun state action next sound _ step =>
      kafkaStep_commitsSound state action next sound step) _ final actions
      start (meets_of_forall (fun _ _ _ => trivial) _) played
  exact sound.committed

/-- The JSON module, on the request of the watcher. -/
def watcherLoader : Loader where
  loads := fun _ => .ok watcherRequest.event.toDict
  intOfText := requestLoader.intOfText
  intOfFloat := requestLoader.intOfFloat

/-- The run of the watcher fails to publish its result, so that the request is
republished; the worker dies before the commit, and a second delivery is
answered from the store. -/
def interruptedRetry : List (KafkaAction Policy) :=
  [.append "kuber.workload.optimization.requests" (some [0x6b]) 0 [0x7b],
    .start watcherWorker, .poll] ++ List.replicate 6 (.tick {}) ++
    [.tick { fate := .raises connectionError false }] ++
    List.replicate 3 (.tick {}) ++ [.crash, .start watcherWorker, .poll] ++
    List.replicate 4 (.tick {})

theorem committed_records_have_outcomes_watcher :
    ∃ final,
      play (kafkaStep watcherLoader)
        (KafkaState.opened podWatcher.initialPolicy) interruptedRetry =
          some final ∧
      final.shared.committed = 1 ∧ final.published.length = 1 ∧
      Settled watcherLoader final 0 := by
  obtain ⟨final, played, committed, republished⟩ : ∃ final,
      play (kafkaStep watcherLoader)
        (KafkaState.opened podWatcher.initialPolicy) interruptedRetry =
          some final ∧
      final.shared.committed = 1 ∧ final.published.length = 1 :=
    ⟨_, rfl, rfl, rfl⟩
  refine ⟨final, played, committed, republished, ?_⟩
  apply committed_records_have_outcomes played
  rw [committed]
  exact Nat.one_pos

end Kuber.Event

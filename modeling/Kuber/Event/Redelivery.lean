import Kuber.Event.Delivery
import Kuber.Event.Disposal
import Kuber.Event.WireRoundTrip
import Kuber.Library.BoundedRetry
import Mathlib.Algebra.Order.BigOperators.Group.List

/-!
# Redelivery

A request is delivered again until an attempt succeeds or the attempts are
used up.  The count of attempts is carried by the event itself, so the chain
of deliveries is bounded whoever takes them, and on both buses.
-/

namespace Kuber.Event

open Kuber.Library Kuber.Rules Kuber.Agent OptimizationWorker

variable {σ : Type}

/-! ### One delivery -/

/-- How far `process` has got. -/
def Phase.rank : Phase σ → Nat
  | .validating _ => 0
  | .lookingUp _ => 1
  | .locking .. => 2
  | .creating .. => 3
  | .running .. => 4
  | .storing .. => 5
  | .publishing .. => 6
  | .acknowledging .. => 7
  | .releasing .. => 8
  | .recovering .. => 9
  | .rejecting .. | .republishing .. | .retrying .. | .deadLettering .. => 10
  | .acknowledgingDuplicate _ => 11
  | .idle | .stopped _ => 12

theorem advance_climbs {worker : OptimizationWorker σ} {tick : Tick}
    {state : WorkerState σ} {shared : Shared σ}
    {next : WorkerState σ × Shared σ}
    (step : worker.advance tick state shared = some next) :
    state.phase.rank < next.1.phase.rank := by
  obtain ⟨phase, stats⟩ := state
  have called : ∀ {fate : Fate} {effect : Shared σ → Shared σ}
      {returned : WorkerState σ} {raised : PyException → WorkerState σ},
      some (fate.call effect shared returned raised) = some next →
      phase.rank < returned.phase.rank →
      (∀ failure, phase.rank < (raised failure).phase.rank) →
      phase.rank < next.1.phase.rank := by
    intro fate effect returned raised called onReturn onRaise
    apply Fate.call_cases called
    · exact fun _ => onReturn
    · exact fun failure _ => onRaise failure
    · exact fun failure _ => onRaise failure
  cases decides : phase.calls with
  | false =>
      cases advance_decides decides step with
      | _ => simp [Phase.rank]
  | true =>
      cases phase with
      | releasing task key environment failure =>
          apply called step
          · cases failure with
            | none => simp [Phase.rank]
            | some failure => simp [Phase.rank]
          · intro raised
            simp [Phase.rank]
      | rejecting | republishing | acknowledgingDuplicate | storing
      | publishing | acknowledging | retrying | deadLettering =>
          exact called step (by simp [Phase.rank]) fun _ => by
            simp [Phase.rank]
      | _ => cases decides

/-- The next step calls `graph.run`. -/
def Phase.runsGraph : Phase σ → Bool
  | .running task _ _ =>
      match payloadText task.message.event.payload "repository_ref" with
      | .ok _ => true
      | .error _ => false
  | _ => false

/-- What a delivery of the message does to the ledger: its result is published
and it is acknowledged, it is put back below the bound, or it is moved to the
dead letters at the bound. -/
inductive Dispatched (bound : Int) (message : ConsumedEvent) (stamp : Stamp)
    (before : Ledger) : Ledger → Prop where
  | completed (result : PublishedResult) (payload : Document)
      (answers : result.event = message.event.answer
        .workloadOptimizationCompleted payload stamp) :
      Dispatched bound message stamp before
        { before with
          results := before.results ++ [result]
          acknowledged := before.acknowledged ++ [message.record] }
  | retried (below : (message.event.attempt : Int) + 1 < bound) :
      Dispatched bound message stamp before
        { before with retries := before.retries ++ [message.retried stamp] }
  | deadLettered (reason : String)
      (reached : ¬ (message.event.attempt : Int) + 1 < bound) :
      Dispatched bound message stamp before
        { before with
          deadLetters := before.deadLetters ++ [(message, reason)]
          acknowledged := before.acknowledged ++ [message.record] }

/-- The calls of the bus, the store and the lock manager return. -/
def calm (stamp : Stamp) (seconds : String) (checkpoint : WorkloadGraphState) :
    Behaviour :=
  { stamp := stamp, seconds := seconds, checkpoint := checkpoint }

section

variable {worker : OptimizationWorker σ} {stamp : Stamp} {seconds : String}
  {checkpoint : WorkloadGraphState} {task : Task} {key : String}
  {stats : WorkerStats} {shared : Shared σ} {fuel : Nat}

theorem recovering_dispatches (environment : Option (EnvironmentAdapter σ))
    (failure : PyException) :
    worker.Ends (calm stamp seconds checkpoint) (fuel + 2)
      (Dispatched worker.maxDeliveryAttempts task.message stamp shared.ledger)
      (⟨.recovering task environment failure, stats⟩, shared) := by
  by_cases again :
      (task.message.event.attempt : Int) + 1 < worker.maxDeliveryAttempts
  · refine ends_of_step (if_pos again) ?_
    refine ends_of_step rfl ?_
    exact ends_of_idle (.retried again)
  · refine ends_of_step (if_neg again) ?_
    refine ends_of_step rfl ?_
    exact ends_of_idle (.deadLettered _ again)

theorem releasing_dispatches (environment : Option (EnvironmentAdapter σ))
    (failure : PyException) :
    worker.Ends (calm stamp seconds checkpoint) (fuel + 3)
      (Dispatched worker.maxDeliveryAttempts task.message stamp shared.ledger)
      (⟨.releasing task key environment (some failure), stats⟩, shared) :=
  ends_of_step rfl (recovering_dispatches environment failure)

theorem storing_dispatches (environment : EnvironmentAdapter σ)
    (payload : Document) :
    worker.Ends (calm stamp seconds checkpoint) (fuel + 4)
      (Dispatched worker.maxDeliveryAttempts task.message stamp shared.ledger)
      (⟨.storing task key environment payload, stats⟩, shared) := by
  refine ends_of_step rfl ?_
  refine ends_of_step rfl ?_
  refine ends_of_step rfl ?_
  refine ends_of_step rfl ?_
  exact ends_of_idle (.completed _ payload rfl)

theorem running_dispatches (environment : EnvironmentAdapter σ) :
    worker.Ends (calm stamp seconds checkpoint) (fuel + 5)
      (Dispatched worker.maxDeliveryAttempts task.message stamp shared.ledger)
      (⟨.running task key environment, stats⟩, shared) := by
  cases named : payloadText task.message.event.payload "repository_ref" with
  | error failure =>
      exact ends_of_step (advance_running_unnamed named)
        (releasing_dispatches (some environment) failure)
  | ok repositoryRef =>
      cases run : runFrom worker.graph worker.recursionLimit
          (task.request repositoryRef) checkpoint environment
          shared.world with
      | mk answer session =>
          cases answer with
          | error failure =>
              exact ends_of_step (advance_running_error named run)
                (releasing_dispatches (some environment) failure)
          | ok execution =>
              exact ends_of_step (advance_running_ok named run)
                (storing_dispatches environment _)

theorem locking_dispatches (free : key ∉ shared.held) :
    worker.Ends (calm stamp seconds checkpoint) (fuel + 7)
      (Dispatched worker.maxDeliveryAttempts task.message stamp shared.ledger)
      (⟨.locking task key, stats⟩, shared) := by
  refine ends_of_step (advance_locking_free rfl free) ?_
  cases made : worker.environmentFactory task.message.event task.context
      shared.world with
  | mk answer world =>
      cases answer with
      | error failure =>
          exact ends_of_step (advance_creating_error made)
            (releasing_dispatches none failure)
      | ok environment =>
          exact ends_of_step (advance_creating_ok made)
            (running_dispatches environment)

theorem process_dispatches {message : ConsumedEvent}
    (valid : worker.validate message = .ok task)
    (absent : shared.store.get? task.taskId = none)
    (keyOf : KeyOf worker task key) (free : key ∉ shared.held) :
    (worker.process (calm stamp seconds checkpoint) message stats
        shared).1.phase = .idle ∧
      Dispatched worker.maxDeliveryAttempts message stamp shared.ledger
        (worker.process (calm stamp seconds checkpoint) message stats
          shared).2.ledger := by
  have validated : worker.proceed (calm stamp seconds checkpoint)
      (⟨.validating message,
        { stats with claimed := stats.claimed + 1 }⟩, shared) =
        some (⟨.lookingUp task,
          { stats with claimed := stats.claimed + 1 }⟩, shared) := by
    simp only [proceed, advance, valid]
  have looked : worker.proceed (calm stamp seconds checkpoint)
      (⟨.lookingUp task, { stats with claimed := stats.claimed + 1 }⟩,
        shared) =
        some (⟨.locking task key,
          { stats with claimed := stats.claimed + 1 }⟩, shared) := by
    rw [KeyOf] at keyOf
    simp only [proceed, advance, Behaviour.tick, calm, absent, keyOf]
  obtain ⟨same, _⟩ := validate_ok valid
  rw [← same]
  rw [← same] at validated
  exact ends_of_step validated (ends_of_step looked (locking_dispatches free))

end

/-! ### The buses -/

/-- A claimed message, as it was published under a key. -/
abbrev Claimed :=
  { delivered : InMemoryEventBus.ConsumedEvent // delivered.key ≠ "" }

/-- The delivery that a bus makes of a message that was put back: the next
attempt, under the same key. -/
structure Requeue where
  next : InMemoryEventBus.ConsumedEvent → Stamp →
    InMemoryEventBus.ConsumedEvent
  event : ∀ delivered stamp,
    (next delivered stamp).event = delivered.event.nextAttempt stamp
  key : ∀ delivered stamp, (next delivered stamp).key = delivered.key

/-- In memory the queue gets a copy of the message. -/
def InMemoryEventBus.requeue (consumerId : String) : Requeue where
  next delivered stamp :=
    { delivered.retried stamp with consumerId := consumerId }
  event _ _ := rfl
  key _ _ := rfl

/-- Otherwise the next attempt is published as another record. -/
def KafkaEventBus.requeue (partition offset : Nat) (consumerId : String) :
    Requeue where
  next delivered stamp :=
    { topic := delivered.topic
      key := delivered.key
      partition := partition
      offset := offset
      event := delivered.event.nextAttempt stamp
      consumerGroup := delivered.consumerGroup
      consumerId := consumerId }
  event _ _ := rfl
  key _ _ := rfl

/-! ### Chains of deliveries -/

/-- Who takes a delivery, what the world and the stores are by then, and how
the bus delivers the message again. -/
structure Circumstances (σ : Type) where
  workerId : String
  world : σ
  record : Nat
  requeue : Requeue
  store : OrderedDict String Document := .empty
  held : List String := []
  stats : WorkerStats := {}
  stamp : Stamp := ⟨"0", "", zero_ne_empty⟩
  seconds : String := "0.0"
  checkpoint : WorkloadGraphState := emptyThread

def Circumstances.shared (turn : Circumstances σ) : Shared σ :=
  { world := turn.world, store := turn.store, held := turn.held }

def Circumstances.message (turn : Circumstances σ) (claimed : Claimed) :
    ConsumedEvent :=
  claimed.val.atRecord turn.record claimed.property

def Circumstances.behaviour (turn : Circumstances σ) : Behaviour :=
  calm turn.stamp turn.seconds turn.checkpoint

namespace OptimizationWorker

section

variable (worker : OptimizationWorker σ) (turn : Circumstances σ)
  (claimed : Claimed)

/-- The worker that takes the delivery: one with the same configuration. -/
def taking : OptimizationWorker σ :=
  { worker with workerId := turn.workerId }

/-- `process`, while the bus, the store and the lock manager return. -/
def serve : WorkerState σ × Shared σ :=
  (worker.taking turn).process turn.behaviour (turn.message claimed) turn.stats
    turn.shared

/-- How often `graph.run` is called. -/
def graphRuns : Nat :=
  (visited ((worker.taking turn).proceed turn.behaviour) 11
    (⟨.validating (turn.message claimed),
      { turn.stats with claimed := turn.stats.claimed + 1 }⟩,
      turn.shared)).countP fun state => state.1.phase.runsGraph

/-- The next delivery, if the message was put back. -/
def putsBack : Option Claimed :=
  match (worker.serve turn claimed).2.retries with
  | [] => none
  | _ :: _ =>
      some ⟨turn.requeue.next claimed.val turn.stamp,
        turn.requeue.key claimed.val turn.stamp ▸ claimed.property⟩

/-- The events that are published on the dead letter topic. -/
def letters : List EventEnvelope :=
  (worker.serve turn claimed).2.deadLetters.map fun letter =>
    InMemoryEventBus.deadLetterEvent claimed.val letter.2 turn.stamp

end

/-- The deliveries of a request, as far as the fuel goes. -/
def deliveries (worker : OptimizationWorker σ)
    (turns : Nat → Circumstances σ) (fuel : Nat) (request : Claimed) :
    List (Nat × Claimed) :=
  retryChain (fun index => worker.putsBack (turns index)) fuel 0 request

/-- The chain has one terminal outcome: a result that is acknowledged, or a
dead letter whose source event is read back as stated. -/
def Terminates (loader : Loader) (worker : OptimizationWorker σ)
    (turns : Nat → Circumstances σ) (chain : List (Nat × Claimed))
    (readBack : EventEnvelope → EventEnvelope) : Prop :=
  ∃ earlier index last, chain = earlier ++ [(index, last)] ∧
    (chain.flatMap fun entry =>
      (worker.serve (turns entry.1) entry.2).2.acknowledged) =
        [(turns index).record] ∧
    ((∃ result payload,
      (chain.flatMap fun entry =>
        (worker.serve (turns entry.1) entry.2).2.results) = [result] ∧
      (chain.flatMap fun entry => worker.letters (turns entry.1) entry.2) =
        [] ∧
      result.event = last.val.event.answer .workloadOptimizationCompleted
        payload (turns index).stamp) ∨
    ∃ letter source,
      (chain.flatMap fun entry =>
        (worker.serve (turns entry.1) entry.2).2.results) = [] ∧
      (chain.flatMap fun entry => worker.letters (turns entry.1) entry.2) =
        [letter] ∧
      (letter.attempt : Int) = max 0 (worker.maxDeliveryAttempts - 1) ∧
      letter.payload.lookup "source_event" = some (.mapping source) ∧
      EventEnvelope.fromDict loader source = .ok (readBack last.val.event))

/-- The workers come to rest, the graph is run within the bound, the attempts
are numbered from zero, and the chain has one terminal outcome. -/
structure BoundedRedelivery (loader : Loader) (worker : OptimizationWorker σ)
    (turns : Nat → Circumstances σ) (fuel : Nat) (request : Claimed)
    (readBack : EventEnvelope → EventEnvelope) : Prop where
  rests : ∀ entry ∈ worker.deliveries turns fuel request,
    (worker.serve (turns entry.1) entry.2).1.phase = .idle
  runs : ((worker.deliveries turns fuel request).map fun entry =>
    worker.graphRuns (turns entry.1) entry.2).sum ≤
      max 1 worker.maxDeliveryAttempts.toNat
  attempts : (worker.deliveries turns fuel request).map
      (fun entry => entry.2.val.event.attempt) =
    List.range (worker.deliveries turns fuel request).length
  terminates : worker.Terminates loader turns
    (worker.deliveries turns fuel request) readBack

/-- What one delivery comes to. -/
inductive Served (worker : OptimizationWorker σ) (turn : Circumstances σ)
    (claimed : Claimed) : Prop where
  | completed (result : PublishedResult) (payload : Document)
      (ended : worker.putsBack turn claimed = none)
      (results : (worker.serve turn claimed).2.results = [result])
      (letters : worker.letters turn claimed = [])
      (acknowledged : (worker.serve turn claimed).2.acknowledged =
        [turn.record])
      (answers : result.event = claimed.val.event.answer
        .workloadOptimizationCompleted payload turn.stamp)
  | retried (next : Claimed) (put : worker.putsBack turn claimed = some next)
      (event : next.val.event = claimed.val.event.nextAttempt turn.stamp)
      (results : (worker.serve turn claimed).2.results = [])
      (letters : worker.letters turn claimed = [])
      (acknowledged : (worker.serve turn claimed).2.acknowledged = [])
      (below : (claimed.val.event.attempt : Int) + 1 <
        worker.maxDeliveryAttempts)
  | deadLettered (reason : String)
      (ended : worker.putsBack turn claimed = none)
      (results : (worker.serve turn claimed).2.results = [])
      (letters : worker.letters turn claimed =
        [InMemoryEventBus.deadLetterEvent claimed.val reason turn.stamp])
      (acknowledged : (worker.serve turn claimed).2.acknowledged =
        [turn.record])
      (reached : ¬ (claimed.val.event.attempt : Int) + 1 <
        worker.maxDeliveryAttempts)

section

variable {worker : OptimizationWorker σ} {turn : Circumstances σ}
  {claimed : Claimed} {task : Task} {key : String}

theorem validate_eq_ok {message other : ConsumedEvent}
    (eventType : other.event.eventType = message.event.eventType)
    (payload : other.event.payload = message.event.payload)
    (valid : worker.validate message = .ok task) :
    worker.validate other = .ok { task with message := other } := by
  simp only [validate, checkEventType, bind_eq_ok_iff, pure_eq_ok_iff,
    eventType, payload] at valid ⊢
  obtain ⟨_, typed, taskId, named, workloadId, workload, scope, located,
    contextRef, referred, _, present, found, stored, context, known, _, own,
    rfl⟩ := valid
  exact ⟨_, typed, taskId, named, workloadId, workload, scope, located,
    contextRef, referred, _, present, found, stored, context, known, _, own,
    rfl⟩

theorem served (valid : worker.validate (turn.message claimed) = .ok task)
    (absent : turn.store.get? task.taskId = none)
    (keyOf : KeyOf worker task key) (free : key ∉ turn.held) :
    (worker.serve turn claimed).1.phase = .idle ∧
      Served worker turn claimed := by
  obtain ⟨idle, dispatched⟩ := @process_dispatches _ (worker.taking turn)
    turn.stamp turn.seconds turn.checkpoint task key turn.stats turn.shared
    (turn.message claimed) valid absent keyOf free
  refine ⟨idle, ?_⟩
  change Dispatched worker.maxDeliveryAttempts (turn.message claimed)
    turn.stamp turn.shared.ledger (worker.serve turn claimed).2.ledger
    at dispatched
  generalize ledgerIs : (worker.serve turn claimed).2.ledger = ledger
    at dispatched
  have results : (worker.serve turn claimed).2.results = ledger.results :=
    congrArg Ledger.results ledgerIs
  have retries : (worker.serve turn claimed).2.retries = ledger.retries :=
    congrArg Ledger.retries ledgerIs
  have deadLetters : (worker.serve turn claimed).2.deadLetters =
      ledger.deadLetters := congrArg Ledger.deadLetters ledgerIs
  have acknowledged : (worker.serve turn claimed).2.acknowledged =
      ledger.acknowledged := congrArg Ledger.acknowledged ledgerIs
  cases dispatched with
  | completed result payload answers =>
      refine .completed result payload ?_ results ?_ acknowledged answers
      · rw [putsBack, retries]
        rfl
      · rw [letters, deadLetters]
        rfl
  | retried below =>
      refine .retried ⟨turn.requeue.next claimed.val turn.stamp,
        turn.requeue.key claimed.val turn.stamp ▸ claimed.property⟩ ?_
        (turn.requeue.event _ _) results ?_ acknowledged below
      · rw [putsBack, retries]
        rfl
      · rw [letters, deadLetters]
        rfl
  | deadLettered reason reached =>
      refine .deadLettered reason ?_ results ?_ acknowledged reached
      · rw [putsBack, retries]
        rfl
      · rw [letters, deadLetters]
        rfl

theorem graphRuns_le_one (worker : OptimizationWorker σ)
    (turn : Circumstances σ) (claimed : Claimed) :
    worker.graphRuns turn claimed ≤ 1 := by
  have climbs : ∀ state next : WorkerState σ × Shared σ,
      (worker.taking turn).proceed turn.behaviour state = some next →
        state.1.phase.rank < next.1.phase.rank :=
    fun _ _ step => advance_climbs step
  have only : ∀ state : WorkerState σ × Shared σ,
      state.1.phase.runsGraph = true → state.1.phase.rank = 4 := by
    intro ⟨⟨phase, stats⟩, shared⟩ runs
    cases phase with
    | running => rfl
    | _ => cases runs
  exact (countP_visited_le_one climbs only 11 _).1

end

section

variable {worker : OptimizationWorker σ} {turns : Nat → Circumstances σ}
  {request : Claimed} {task : Task} {key : String}

/-- The message asks for the task of the request, and was put back below the
bound if it was put back. -/
structure AttemptOf (worker : OptimizationWorker σ) (request claimed : Claimed) :
    Prop where
  eventType : claimed.val.event.eventType = request.val.event.eventType
  payload : claimed.val.event.payload = request.val.event.payload
  below : claimed.val.event.attempt = 0 ∨
    (claimed.val.event.attempt : Int) < worker.maxDeliveryAttempts

/-- What holds of the deliveries of a request. -/
structure Requested (worker : OptimizationWorker σ)
    (turns : Nat → Circumstances σ) (request : Claimed) (task : Task)
    (key : String) : Prop where
  first : request.val.event.attempt = 0
  valid : worker.validate ((turns 0).message request) = .ok task
  absent : ∀ index, (turns index).store.get? task.taskId = none
  keyOf : KeyOf worker task key
  free : ∀ index, key ∉ (turns index).held

theorem Requested.served (requested : Requested worker turns request task key)
    {claimed : Claimed} (attempt : AttemptOf worker request claimed)
    (index : Nat) :
    (worker.serve (turns index) claimed).1.phase = .idle ∧
      Served worker (turns index) claimed := by
  have valid : worker.validate ((turns index).message claimed) =
      .ok { task with message := (turns index).message claimed } := by
    apply validate_eq_ok _ _ requested.valid
    · exact attempt.eventType
    · exact attempt.payload
  exact OptimizationWorker.served valid (requested.absent index)
    requested.keyOf (requested.free index)

/-- What is put back is the next attempt, below the bound. -/
theorem Requested.counted
    (requested : Requested worker turns request task key) (index : Nat)
    (claimed next : Claimed) (attempt : AttemptOf worker request claimed)
    (put : worker.putsBack (turns index) claimed = some next) :
    AttemptOf worker request next ∧
      next.val.event.attempt = claimed.val.event.attempt + 1 ∧
      claimed.val.event.attempt + 1 < worker.maxDeliveryAttempts.toNat := by
  cases (requested.served attempt index).2 with
  | completed result payload ended =>
      rw [ended] at put
      cases put
  | deadLettered reason ended =>
      rw [ended] at put
      cases put
  | retried again putAgain event results letters acknowledged below =>
      cases putAgain.symm.trans put
      have counts : next.val.event.attempt = claimed.val.event.attempt + 1 := by
        rw [event]
        rfl
      refine ⟨⟨?_, ?_, Or.inr ?_⟩, counts, by omega⟩
      · rw [event]
        exact attempt.eventType
      · rw [event]
        exact attempt.payload
      · rw [counts]
        exact_mod_cast below

/-- A request whose lock key can be made is attempted as often as the bound
allows and ends once, in a result or in a dead letter that holds the event of
the last attempt; an empty cause reads as none. -/
theorem redelivery_is_bounded (loader : Loader)
    (worker : OptimizationWorker σ) (turns : Nat → Circumstances σ)
    (fuel : Nat) (request : Claimed) (task : Task) (key : String)
    (requested : Requested worker turns request task key)
    (enough : max 1 worker.maxDeliveryAttempts.toNat ≤ fuel) :
    BoundedRedelivery loader worker turns fuel request
      EventEnvelope.readBack := by
  have start : AttemptOf worker request request :=
    ⟨rfl, rfl, Or.inl requested.first⟩
  obtain ⟨⟨earlier, ⟨index, last⟩, ends⟩, numbers, short⟩ :=
    retryChain_ends requested.counted fuel 0 request start (by omega)
      (by omega)
  have attempts := ends.holds
  rw [requested.first, Nat.sub_zero] at short
  refine ⟨?_, ?_, ?_, ?_⟩
  · intro entry member
    exact (requested.served (attempts entry member) entry.1).1
  · refine Nat.le_trans (List.sum_le_card_nsmul _ 1 ?_) ?_
    · intro runs member
      obtain ⟨entry, _, rfl⟩ := List.mem_map.mp member
      exact graphRuns_le_one worker (turns entry.1) entry.2
    · rw [List.length_map, nsmul_one]
      exact short
  · rw [requested.first] at numbers
    exact numbers.trans List.range_eq_range'.symm
  · have quiet : ∀ entry ∈ earlier,
        (worker.serve (turns entry.1) entry.2).2.results = [] ∧
          worker.letters (turns entry.1) entry.2 = [] ∧
          (worker.serve (turns entry.1) entry.2).2.acknowledged = [] := by
      intro entry member
      have attempt := attempts entry
        (ends.split ▸ List.mem_append_left _ member)
      have put := ends.retried entry member
      cases (requested.served attempt entry.1).2 with
      | completed _ _ ended => exact absurd ended put
      | deadLettered _ ended => exact absurd ended put
      | retried _ _ _ results letters acknowledged =>
          exact ⟨results, letters, acknowledged⟩
    have attempt : AttemptOf worker request last := attempts (index, last)
      (ends.split ▸ List.mem_append_right _ (List.mem_singleton_self _))
    refine ⟨earlier, index, last, ends.split, ?_⟩
    rw [deliveries, ends.flatMap_eq fun entry member => (quiet entry member).1,
      ends.flatMap_eq fun entry member => (quiet entry member).2.1,
      ends.flatMap_eq fun entry member => (quiet entry member).2.2]
    cases (requested.served attempt index).2 with
    | completed result payload _ results letters acknowledged answers =>
        exact ⟨acknowledged,
          Or.inl ⟨result, payload, results, letters, answers⟩⟩
    | retried next put =>
        exact absurd (ends.ended.symm.trans put) (Option.some_ne_none next).symm
    | deadLettered reason _ results letters acknowledged reached =>
        refine ⟨acknowledged, Or.inr ⟨_, last.val.event.fields, results,
          letters, ?_, rfl, EventEnvelope.fromDict_fields loader _⟩⟩
        have below := attempt.below
        change (last.val.event.attempt : Int) = _
        omega

end

end OptimizationWorker

namespace RefusedCluster

/-- No environment can be made for the task. -/
def worker (cluster : String) (maxDeliveryAttempts : Int) :
    OptimizationWorker Policy :=
  { watcherWorker with
    environmentFactory := fun _ _ world => (.error connectionError, world)
    cluster := cluster
    maxDeliveryAttempts := maxDeliveryAttempts }

def request (causationId : Option String) : Claimed where
  val :=
    { topic := "kuber.workload.optimization.requests"
      key := watcherRequest.key
      partition := 0
      offset := 0
      event := { watcherRequest.event with causationId := causationId }
      consumerGroup := "kuber-optimization-workers"
      consumerId := "worker-1" }
  property := watcherRequest.keyed

/-- Two workers take the deliveries in turn. -/
def turns (index : Nat) : Circumstances Policy where
  workerId := if index % 2 = 0 then "worker-1" else "worker-2"
  world := podWatcher.initialPolicy
  record := 0
  requeue := InMemoryEventBus.requeue "worker-1"

def task (causationId : Option String) : Task where
  message := (turns 0).message (request causationId)
  taskId := "run:web"
  workloadId := "web"
  «namespace» := "shop"
  context := ⟨"web@1", "web"⟩

/-- No part of the lock key has a colon, and the locks are free. -/
structure Offered (worker : OptimizationWorker Policy)
    (turns : Nat → Circumstances Policy) (request : Claimed) (task : Task) :
    Prop where
  first : request.val.event.attempt = 0
  valid : worker.validate ((turns 0).message request) = .ok task
  noColon : ∀ part ∈ [worker.cluster, task.namespace, task.workloadId],
    ':' ∉ part.toList
  absent : ∀ index, (turns index).store.get? task.taskId = none
  free : ∀ index, (turns index).held = []

end RefusedCluster

open RefusedCluster OptimizationWorker in
/-- An empty cause does not survive the dead letter, and an empty name of the
cluster, in which there is no colon, stops the worker. -/
theorem empty_texts_break_redelivery :
    (Offered (worker "kind-kuber" 1) turns (request (some ""))
        (task (some "")) ∧
      ¬BoundedRedelivery requestLoader (worker "kind-kuber" 1) turns 1
        (request (some "")) id) ∧
    (Offered (worker "" 3) turns (request none) (task none) ∧
      ¬BoundedRedelivery requestLoader (worker "" 3) turns 3 (request none)
        id) := by
  constructor
  · refine ⟨⟨rfl, rfl, by decide, fun _ => rfl, fun _ => rfl⟩, ?_⟩
    intro bounded
    obtain ⟨earlier, index, last, chain, _, ends⟩ := bounded.terminates
    have once : (worker "kind-kuber" 1).deliveries turns 1
        (request (some "")) = [(0, request (some ""))] := by rfl
    rw [once] at chain ends
    have lastIs : last = request (some "") := by
      cases earlier with
      | nil => exact (congrArg Prod.snd (List.cons.inj chain).1).symm
      | cons first earlier => simp at chain
    subst lastIs
    cases ends with
    | inl completed =>
        obtain ⟨_, _, results, _⟩ := completed
        cases results
    | inr deadLettered =>
        obtain ⟨letter, source, _, letters, _, found, decoded⟩ := deadLettered
        rw [(List.cons.inj letters).1.symm] at found
        have sourceIs : source = (request (some "")).val.event.fields :=
          (Json.mapping.inj (Option.some.inj found)).symm
        rw [sourceIs, EventEnvelope.fromDict_fields] at decoded
        have cause := congrArg EventEnvelope.causationId
          (Except.ok.inj decoded)
        cases cause
  · refine ⟨⟨rfl, rfl, by decide, fun _ => rfl, fun _ => rfl⟩, ?_⟩
    intro bounded
    have idle := bounded.rests (0, request none) (List.mem_cons_self)
    cases idle

open RefusedCluster OptimizationWorker in
/-- Three attempts are made, and the third one is moved to the dead letters. -/
theorem redelivery_is_bounded_refused :
    ((worker "kind-kuber" 3).deliveries turns 5 (request none)).length = 3 ∧
      BoundedRedelivery requestLoader (worker "kind-kuber" 3) turns 5
        (request none) EventEnvelope.readBack := by
  refine ⟨by rfl, ?_⟩
  apply redelivery_is_bounded requestLoader (worker "kind-kuber" 3) turns 5
    (request none) (task none) "kind-kuber:shop:web" _ (by decide)
  refine ⟨rfl, rfl, fun _ => rfl, rfl, ?_⟩
  intro index held
  cases held

end Kuber.Event

import Kuber.Event.Contracts
import Kuber.Library.OrderedDict
import Kuber.Library.PartitionedLog
import Kuber.Library.Transition
import Mathlib.Data.Finset.Insert

/-!
# The in-memory event bus

Every topic is a log, and every consumer group of a topic owns a queue.  An
event is put into the queues of the groups that have subscribed; a group that
subscribes later is given a replay of the log.
-/

namespace Kuber.Event

open Kuber.Library Kuber.Rules

structure PublishedEvent where
  topic : String
  key : String
  partition : Nat
  offset : Nat
  event : EventEnvelope

/-- `_partition_for`: the sum of the bytes of the key. -/
def partitionFor (partitions : Nat) (key : String) : Nat :=
  ((key.toList.flatMap String.utf8EncodeChar).map UInt8.toNat).sum % partitions

/-- `Topic.DLQ`. -/
def dlq : String := "kuber.dlq"

/-- `to_dict`. -/
def EventEnvelope.toDict (event : EventEnvelope) : Json :=
  .mapping
    [("event_type", .string event.eventType.value),
      ("run_id", .string event.runId),
      ("correlation_id", .string event.correlationId),
      ("payload", .mapping event.payload),
      ("event_id", .string event.eventId),
      ("timestamp", .string event.timestamp),
      ("causation_id", event.causationId.elim .null .string),
      ("attempt", .int event.attempt),
      ("schema_version", .string "1")]

namespace InMemoryEventBus

/-- A message as the bus delivers it. -/
structure ConsumedEvent extends PublishedEvent where
  consumerGroup : String
  consumerId : String
  deliveryCount : Nat := 1

/-- `_consumed`. -/
def consumed (published : PublishedEvent) (consumerGroup consumerId : String) :
    ConsumedEvent :=
  { published with consumerGroup := consumerGroup, consumerId := consumerId }

/-- A queue.  The messages that were taken from it are bookkeeping. -/
structure Queue where
  taken : List ConsumedEvent := []
  waiting : List ConsumedEvent := []

def Queue.put (queue : Queue) (message : ConsumedEvent) : Queue :=
  { queue with waiting := queue.waiting ++ [message] }

/-- Everything that was ever put into the queue, in order. -/
def Queue.enqueued (queue : Queue) : List ConsumedEvent :=
  queue.taken ++ queue.waiting

/-- `_ack_key`. -/
def ackKey (message : ConsumedEvent) (group : String) :
    String × String × Nat × Nat :=
  (message.topic, group, message.partition, message.offset)

end InMemoryEventBus

open InMemoryEventBus in
structure InMemoryEventBus where
  partitions : Nat
  positive : 1 ≤ partitions
  logs : OrderedDict String (List PublishedEvent) := .empty
  queues : OrderedDict (String × String) Queue := .empty
  acknowledged : Finset (String × String × Nat × Nat) := ∅
  closed : Bool := false

namespace InMemoryEventBus

def runtimeError (message : String) : PyException :=
  ⟨.other "RuntimeError", message⟩

/-- `topic_events`. -/
def topicEvents (bus : InMemoryEventBus) (topic : String) :
    List PublishedEvent :=
  (bus.logs.get? topic).getD []

/-- The event that is recorded next under this key. -/
def nextEvent (bus : InMemoryEventBus) (topic key : String)
    (event : EventEnvelope) : PublishedEvent where
  topic := topic
  key := key
  partition := partitionFor bus.partitions key
  offset := nextOffset PublishedEvent.partition (bus.topicEvents topic)
    (partitionFor bus.partitions key)
  event := event

/-- Put a new event into the queues of its topic. -/
def fanOut (published : PublishedEvent) (groupKey : String × String)
    (queue : Queue) : Queue :=
  if groupKey.1 = published.topic then queue.put (consumed published "" "")
  else queue

def record (bus : InMemoryEventBus) (published : PublishedEvent) :
    InMemoryEventBus :=
  let log := bus.topicEvents published.topic ++ [published]
  { bus with
    logs := bus.logs.set published.topic log
    queues := bus.queues.mapValues (fanOut published) }

def setQueue (bus : InMemoryEventBus) (topic group : String) (queue : Queue) :
    InMemoryEventBus :=
  { bus with queues := bus.queues.set (topic, group) queue }

def publish (bus : InMemoryEventBus) (topic : String) (event : EventEnvelope)
    (key : String) : Except PyException (PublishedEvent × InMemoryEventBus) :=
  if key = "" then .error (.valueError "event key must not be empty")
  else if bus.closed = true then
    .error (runtimeError "event bus is closed")
  else
    .ok (bus.nextEvent topic key event,
      bus.record (bus.nextEvent topic key event))

/-- `_subscribe`: a new group is given the events published so far. -/
def subscribe (bus : InMemoryEventBus) (topic group : String) :
    Except PyException InMemoryEventBus :=
  if bus.closed = true then .error (runtimeError "event bus is closed")
  else
    match bus.queues.get? (topic, group) with
    | some _ => .ok bus
    | none =>
        let replay := (bus.topicEvents topic).map
          fun item => consumed item group ""
        .ok (bus.setQueue topic group { waiting := replay })

/-- `consume`, as far as the subscription. -/
def consume (bus : InMemoryEventBus) (topic group consumer : String) :
    Except PyException InMemoryEventBus :=
  if group = "" ∨ consumer = "" then
    .error (.valueError "consumer_group and consumer_id must not be empty")
  else bus.subscribe topic group

/-- One turn of the loop in `_consume`: a message that was acknowledged is
dropped, another one is claimed.  Without a message the consumer waits.  A
consumer that has waited when the bus was closed may still be given one. -/
def take (bus : InMemoryEventBus) (topic group consumer : String) :
    Option (Option ConsumedEvent × InMemoryEventBus) :=
  match bus.queues.get? (topic, group) with
  | none => none
  | some queue =>
      match queue.waiting with
      | [] => none
      | message :: rest =>
          let after := bus.setQueue topic group ⟨queue.taken ++ [message], rest⟩
          if ackKey message group ∈ bus.acknowledged then some (none, after)
          else
            some (some { message with
              consumerGroup := group
              consumerId := consumer }, after)

def acknowledge (bus : InMemoryEventBus) (message : ConsumedEvent) :
    InMemoryEventBus :=
  let key := ackKey message message.consumerGroup
  { bus with acknowledged := insert key bus.acknowledged }

/-- The copy that a retry puts back. -/
def ConsumedEvent.retried (message : ConsumedEvent) (stamp : Stamp) :
    ConsumedEvent :=
  { message with
    event := message.event.nextAttempt stamp
    deliveryCount := message.deliveryCount + 1 }

def retry (bus : InMemoryEventBus) (message : ConsumedEvent) (reason : String)
    (stamp : Stamp) : Except PyException InMemoryEventBus :=
  if reason = "" then .error (.valueError "retry reason must not be empty")
  else
    match bus.queues.get? (message.topic, message.consumerGroup) with
    | none => .error (.keyError message.topic)
    | some queue =>
        .ok (bus.setQueue message.topic message.consumerGroup
          (queue.put (message.retried stamp)))

/-- The event that `dead_letter` publishes. -/
def deadLetterEvent (message : ConsumedEvent) (reason : String)
    (stamp : Stamp) : EventEnvelope :=
  { message.event.answer .deadLettered
      [("source_topic", .string message.topic),
        ("source_event", message.event.toDict),
        ("reason", .string reason)] stamp with
    attempt := message.event.attempt }

def deadLetter (bus : InMemoryEventBus) (message : ConsumedEvent)
    (reason : String) (stamp : Stamp) :
    Except PyException (PublishedEvent × InMemoryEventBus) := do
  let (published, after) ←
    bus.publish dlq (deadLetterEvent message reason stamp) message.key
  return (published, after.acknowledge message)

def close (bus : InMemoryEventBus) : InMemoryEventBus :=
  { bus with closed := true }

end InMemoryEventBus

/-- A bus and the messages that its consumers have claimed, in order. -/
structure BusState where
  bus : InMemoryEventBus
  claims : List InMemoryEventBus.ConsumedEvent := []

/-- A call of some client; a claimed message is named by its position. -/
inductive BusAction where
  | publish (topic key : String) (event : EventEnvelope)
  | consume (topic group consumer : String)
  | take (topic group consumer : String)
  | acknowledge (claim : Nat)
  | retry (claim : Nat) (reason : String) (stamp : Stamp)
  | deadLetter (claim : Nat) (reason : String) (stamp : Stamp)
  | close

/-- A call that raises changes nothing. -/
def BusState.after (state : BusState)
    (result : Except PyException InMemoryEventBus) : BusState :=
  match result with
  | .ok bus => { state with bus := bus }
  | .error _ => state

/-- The clients' calls, in any order.  `dead_letter` also stands for its two
parts, which other calls may separate: it publishes, and then acknowledges. -/
def busStep (state : BusState) : BusAction → Option BusState
  | .publish topic key event =>
      some (state.after ((state.bus.publish topic event key).map Prod.snd))
  | .consume topic group consumer =>
      some (state.after (state.bus.consume topic group consumer))
  | .take topic group consumer =>
      (state.bus.take topic group consumer).map fun (claimed, bus) =>
        ⟨bus, state.claims ++ claimed.toList⟩
  | .acknowledge claim =>
      state.claims[claim]?.map fun message =>
        { state with bus := state.bus.acknowledge message }
  | .retry claim reason stamp =>
      state.claims[claim]?.map fun message =>
        state.after (state.bus.retry message reason stamp)
  | .deadLetter claim reason stamp =>
      state.claims[claim]?.map fun message =>
        state.after ((state.bus.deadLetter message reason stamp).map Prod.snd)
  | .close => some { state with bus := state.bus.close }

end Kuber.Event

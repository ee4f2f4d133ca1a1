import Kuber.Event.Bus
import Kuber.Event.Wire

/-!
# Consuming a Kafka topic

The generator of the Kafka bus decodes every record before it yields it.  A
record that cannot be decoded raises inside the generator, which ends it, so a
consumer is given the records in front of the first such record and none
behind it.
-/

namespace Kuber.Event

open Kuber.Library Kuber.Rules

/-- A record as the Kafka client delivers it. -/
structure KafkaRecord where
  topic : String
  key : Option (List UInt8)
  partition : Nat
  offset : Nat
  value : List UInt8

def unicodeDecodeError : PyException :=
  ⟨.other "UnicodeDecodeError", "'utf-8' codec can't decode bytes"⟩

namespace KafkaEventBus

/-- `record.key.decode() if record.key else ""`. -/
def decodeKey : Option (List UInt8) → Except PyException String
  | none | some [] => .ok ""
  | some bytes =>
      match String.fromUTF8? ⟨bytes.toArray⟩ with
      | some text => .ok text
      | none => .error unicodeDecodeError

variable (loader : Loader) (consumerGroup consumerId : String)

/-- The message that is made from a record. -/
def decodeRecord (record : KafkaRecord) :
    Except PyException InMemoryEventBus.ConsumedEvent := do
  let key ← decodeKey record.key
  let event ← EventEnvelope.fromJson loader record.value
  return {
    topic := record.topic
    key := key
    partition := record.partition
    offset := record.offset
    event := event
    consumerGroup := consumerGroup
    consumerId := consumerId }

/-- What `_consume` yields for the records of its topic, and the exception it
ends with. -/
def consume : List KafkaRecord →
    List InMemoryEventBus.ConsumedEvent × Option PyException
  | [] => ([], none)
  | record :: records =>
      match decodeRecord loader consumerGroup consumerId record with
      | .error failure => ([], some failure)
      | .ok message =>
          (message :: (consume records).1, (consume records).2)

/-- The record decodes to a message. -/
def Decodes (record : KafkaRecord) : Prop :=
  ∃ message, decodeRecord loader consumerGroup consumerId record = .ok message

/-- One message for every record that decodes. -/
def validMessages (records : List KafkaRecord) :
    List InMemoryEventBus.ConsumedEvent :=
  records.filterMap fun record =>
    (decodeRecord loader consumerGroup consumerId record).toOption

/-- No record that decodes stands behind one that does not. -/
def NothingBehind (records : List KafkaRecord) : Prop :=
  records.Pairwise fun earlier later =>
    ¬Decodes loader consumerGroup consumerId earlier →
      ¬Decodes loader consumerGroup consumerId later

variable {loader : Loader} {consumerGroup consumerId : String}

theorem validMessages_eq_nil_iff {records : List KafkaRecord} :
    validMessages loader consumerGroup consumerId records = [] ↔
      ∀ record ∈ records, ¬Decodes loader consumerGroup consumerId record := by
  rw [validMessages, List.filterMap_eq_nil_iff]
  apply forall₂_congr
  intro record _
  cases decoded : decodeRecord loader consumerGroup consumerId record with
  | error failure => simp [Decodes, decoded, Except.toOption]
  | ok message => simp [Decodes, decoded, Except.toOption]

/-- A consumer is given every valid record of a topic exactly when no valid
record stands behind an invalid one. -/
theorem consume_yields_valid_iff (loader : Loader)
    (consumerGroup consumerId : String) (records : List KafkaRecord) :
    (consume loader consumerGroup consumerId records).1 =
        validMessages loader consumerGroup consumerId records ↔
      NothingBehind loader consumerGroup consumerId records := by
  induction records with
  | nil => simp [consume, validMessages, NothingBehind]
  | cons record records induction =>
      rw [NothingBehind, List.pairwise_cons]
      cases decoded : decodeRecord loader consumerGroup consumerId record with
      | error failure =>
          have undecodable :
              ¬Decodes loader consumerGroup consumerId record := by
            simp [Decodes, decoded]
          have behind : validMessages loader consumerGroup consumerId
              (record :: records) =
              validMessages loader consumerGroup consumerId records := by
            simp [validMessages, decoded, Except.toOption]
          rw [behind, consume, decoded, eq_comm, validMessages_eq_nil_iff]
          constructor
          · intro nothing
            refine ⟨fun later member _ => nothing later member, ?_⟩
            exact List.pairwise_of_forall_mem_list
              fun _ _ later member _ => nothing later member
          · intro ⟨nothing, _⟩ later member
            exact nothing later member undecodable
      | ok message =>
          have decodes : Decodes loader consumerGroup consumerId record :=
            ⟨message, decoded⟩
          have ahead : validMessages loader consumerGroup consumerId
              (record :: records) = message ::
                validMessages loader consumerGroup consumerId records := by
            simp [validMessages, decoded, Except.toOption]
          rw [ahead, consume, decoded, List.cons.injEq]
          constructor
          · intro ⟨_, yields⟩
            exact ⟨fun _ _ undecodable => absurd decodes undecodable,
              induction.mp yields⟩
          · intro ⟨_, rest⟩
            exact ⟨rfl, induction.mpr rest⟩

end KafkaEventBus

/-- The fields of a request as they are written to its topic, without the
opening brace. -/
def requestText : String :=
  "\"attempt\":0,\"causation_id\":null,\"correlation_id\":\"1\"," ++
    "\"event_id\":\"1\",\"event_type\":\"WorkloadOptimizationRequested\"," ++
    "\"payload\":\x7b\x7d,\"run_id\":\"1\",\"schema_version\":\"1\"," ++
    "\"timestamp\":\"\"\x7d"

def requestBytes : List UInt8 :=
  0x7b :: requestText.toList.flatMap String.utf8EncodeChar

/-- The JSON module, as it is on the request and on an empty text. -/
def requestLoader : Loader where
  loads
    | [] => .error ⟨.other "JSONDecodeError",
        "Expecting value: line 1 column 1 (char 0)"⟩
    | _ => .ok (.mapping
        [("attempt", .int 0), ("causation_id", .null),
          ("correlation_id", .string "1"), ("event_id", .string "1"),
          ("event_type", .string "WorkloadOptimizationRequested"),
          ("payload", .mapping []), ("run_id", .string "1"),
          ("schema_version", .string "1"), ("timestamp", .string "")])
  intOfText := fun text => .error (.valueError
    ("invalid literal for int() with base 10: " ++ Json.quoteText text))
  intOfFloat := fun _ => .error (.valueError "cannot convert float")

/-- An empty record in front of a request. -/
def blockedTopic : List KafkaRecord :=
  [⟨"requests", some [0x6b], 0, 0, []⟩,
    ⟨"requests", some [0x6b], 0, 1, requestBytes⟩]

/-- The request behind the empty record is not delivered. -/
theorem empty_record_blocks_topic :
    (KafkaEventBus.consume requestLoader "workers" "worker-1"
        blockedTopic).1 ≠
      KafkaEventBus.validMessages requestLoader "workers" "worker-1"
        blockedTopic := by
  have delivered : (KafkaEventBus.consume requestLoader "workers" "worker-1"
      blockedTopic).1 = [] := rfl
  have valid : ∃ message,
      KafkaEventBus.validMessages requestLoader "workers" "worker-1"
        blockedTopic = [message] := ⟨_, rfl⟩
  obtain ⟨message, valid⟩ := valid
  rw [delivered, valid]
  exact (List.cons_ne_nil _ _).symm

end Kuber.Event

import Kuber.Event.Kafka
import Kuber.Rules.SortedKeys

/-!
# Envelopes cross the wire

An envelope is written as a JSON object with sorted names, and read back field
by field.  Payloads are dictionaries, so they are compared up to the order of
their names.
-/

namespace Kuber.Event

open Kuber.Library Kuber.Rules

theorem EventType.ofValue_value (eventType : EventType) :
    EventType.ofValue eventType.value = .ok eventType := by
  cases eventType with
  | _ => rfl

namespace EventEnvelope

/-- The dictionary that `to_dict` returns. -/
def fields (event : EventEnvelope) : Document :=
  match event.toDict with
  | .mapping fields => fields
  | _ => []

/-- `to_json`, from what `json.dumps` writes. -/
def toJson (dumps : Json → List UInt8) (event : EventEnvelope) :
    List UInt8 :=
  dumps event.toDict

/-- Equality of envelopes: their payloads are equal dictionaries. -/
def Same (left right : EventEnvelope) : Prop :=
  left = { right with payload := left.payload } ∧
    left.payload.Same right.payload

namespace Same

theorem refl (event : EventEnvelope) : event.Same event := ⟨rfl, rfl⟩

variable {left middle right : EventEnvelope}

theorem trans (first : left.Same middle) (second : middle.Same right) :
    left.Same right := by
  refine ⟨?_, Document.Same.trans first.2 second.2⟩
  rw [first.1, second.1]

theorem causationId (same : left.Same right) :
    left.causationId = right.causationId := by
  rw [same.1]

end Same

theorem create_self (event : EventEnvelope) (payload : Document) :
    create event.eventType event.runId event.correlationId payload
        event.eventId event.timestamp event.causationId event.attempt "1" =
      .ok { event with payload := payload } := by
  have counted : ¬ (event.attempt : Int) < 0 := by omega
  simp [create, event.identified, event.hasRun, event.correlated, counted]

theorem create_eq_ok {eventType : EventType} {runId correlationId : String}
    {payload : Document} {eventId timestamp : String}
    {causationId : Option String} {attempt : Int} {schemaVersion : String}
    {event : EventEnvelope}
    (made : create eventType runId correlationId payload eventId timestamp
      causationId attempt schemaVersion = .ok event) :
    event.causationId = causationId := by
  unfold create at made
  split_ifs at made
  cases made
  rfl

/-- What is decoded from the dictionary of an envelope: an empty cause reads
as none. -/
def readBack (event : EventEnvelope) : EventEnvelope :=
  { event with
    causationId := if event.causationId = some "" then none
      else event.causationId }

theorem readBack_of_caused {event : EventEnvelope}
    (caused : event.causationId ≠ some "") : event.readBack = event := by
  rw [readBack, if_neg caused]

theorem fromDict_of_same (loader : Loader) {event : EventEnvelope}
    {value : Document} (same : value.Same event.fields) :
    ∃ payload : Document,
      value.lookup "payload" = some (.mapping payload) ∧
        payload.Same event.payload ∧
        fromDict loader value =
          .ok { event.readBack with payload := payload } := by
  obtain ⟨payload, hasPayload, samePayload⟩ :=
    same.lookup_mapping "payload" rfl
  refine ⟨payload, hasPayload, samePayload, ?_⟩
  have eventType := same.lookup_scalar "event_type" rfl trivial
  have runId := same.lookup_scalar "run_id" rfl trivial
  have correlationId := same.lookup_scalar "correlation_id" rfl trivial
  have eventId := same.lookup_scalar "event_id" rfl trivial
  have timestamp := same.lookup_scalar "timestamp" rfl trivial
  have attempt := same.lookup_scalar "attempt" rfl trivial
  have schemaVersion := same.lookup_scalar "schema_version" rfl trivial
  have causationId := same.lookup_scalar "causation_id" rfl (by
    cases event.causationId with
    | _ => trivial)
  have complete : requireFields value = .ok () := by
    simp [requireFields, requiredFields, hasPayload, eventType, runId,
      correlationId, eventId, timestamp]
  have cause : (if (value.field "causation_id").truthy then
      some (value.field "causation_id").str else none) =
        event.readBack.causationId := by
    rw [Document.field, causationId, readBack]
    cases event.causationId with
    | none => rfl
    | some text =>
        by_cases empty : text = ""
        · simp [Json.truthy, empty]
        · simp [Json.truthy, Json.str, empty]
  rw [fromDict, complete, cause]
  simp only [Document.field, Document.fieldD, hasPayload, eventType, runId,
    correlationId, eventId, timestamp, attempt, schemaVersion,
    Option.getD_some, Json.str, requirePayload, EventType.ofValue_value,
    Loader.int, bind, Except.bind]
  exact create_self event.readBack payload

theorem caused_of_fromDict {loader : Loader} {value : Document}
    {event : EventEnvelope} (decoded : fromDict loader value = .ok event)
    (printed : value.field "causation_id" ≠ .float "") :
    event.causationId ≠ some "" := by
  simp only [fromDict, bind_eq_ok_iff] at decoded
  obtain ⟨_, _, _, _, _, _, _, _, made⟩ := decoded
  rw [create_eq_ok made]
  split_ifs with stated
  · intro empty
    exact Json.str_ne_empty_of_truthy stated printed (Option.some.inj empty)
  · exact (Option.some_ne_none _).symm

theorem fromDict_fields (loader : Loader) (event : EventEnvelope) :
    fromDict loader event.fields = .ok event.readBack := by
  obtain ⟨payload, found, _, decoded⟩ :=
    fromDict_of_same loader (Document.Same.refl event.fields)
  have samePayload : event.payload = payload :=
    Json.mapping.inj (Option.some.inj found)
  rw [decoded, ← samePayload]
  rfl

end EventEnvelope

/-- `json.loads` gives back the value that `json.dumps` has written. -/
def Inverts (loader : Loader) (dumps : Json → List UInt8) (value : Json) :
    Prop :=
  ∃ decoded, loader.loads (dumps value) = .ok decoded ∧ decoded.Same value

open EventEnvelope in
theorem EventEnvelope.fromJson_toJson {loader : Loader}
    {dumps : Json → List UInt8} {event : EventEnvelope}
    (inverts : Inverts loader dumps event.toDict)
    (caused : event.causationId ≠ some "") :
    ∃ decoded, fromJson loader (event.toJson dumps) = .ok decoded ∧
      decoded.Same event := by
  obtain ⟨value, loads, same⟩ := inverts
  have sameMapping : value.Same (.mapping event.fields) := same
  obtain ⟨entries, rfl, sameFields⟩ := Document.mapping_of_same sameMapping
  obtain ⟨payload, _, samePayload, decoded⟩ :=
    fromDict_of_same loader sameFields
  rw [readBack_of_caused caused] at decoded
  refine ⟨{ event with payload := payload }, ?_, rfl, samePayload⟩
  rw [fromJson, toJson, loads]
  exact decoded

/-- A bus hands over the event in the message: the one in memory as it is, the
other as it is read from its record. -/
def HandsOver (loader : Loader) (dumps : Json → List UInt8)
    (event : EventEnvelope) (message : InMemoryEventBus.ConsumedEvent) :
    Prop :=
  message.event = event ∨
    EventEnvelope.fromJson loader (event.toJson dumps) = .ok message.event

open EventEnvelope in
/-- An envelope survives the wire; whatever is decoded is decoded again from
its own dictionary; and the source event of a dead letter, once that letter has
crossed the wire, is the event that was consumed.  Both buses build the same
dead letter. -/
theorem envelopes_survive_the_wire (loader : Loader)
    (dumps : Json → List UInt8) :
    (∀ event : EventEnvelope, event.causationId ≠ some "" →
      Inverts loader dumps event.toDict →
        ∃ decoded, fromJson loader (event.toJson dumps) = .ok decoded ∧
          decoded.Same event) ∧
    (∀ (value : Document) (event : EventEnvelope),
      value.field "causation_id" ≠ .float "" →
      fromDict loader value = .ok event →
        fromDict loader event.fields = .ok event) ∧
    (∀ (event : EventEnvelope) (message : InMemoryEventBus.ConsumedEvent)
        (reason : String) (stamp : Stamp), event.causationId ≠ some "" →
      Inverts loader dumps event.toDict →
      HandsOver loader dumps event message →
      Inverts loader dumps
          (InMemoryEventBus.deadLetterEvent message reason stamp).toDict →
        ∃ letter source decoded,
          fromJson loader ((InMemoryEventBus.deadLetterEvent message reason
              stamp).toJson dumps) = .ok letter ∧
            letter.payload.lookup "source_event" = some (.mapping source) ∧
            fromDict loader source = .ok decoded ∧ decoded.Same event) := by
  refine ⟨fun event caused inverts => fromJson_toJson inverts caused, ?_, ?_⟩
  · intro value event printed decoded
    rw [fromDict_fields,
      readBack_of_caused (caused_of_fromDict decoded printed)]
  intro event message reason stamp caused inverts handsOver inverted
  have sameEvent : message.event.Same event := by
    cases handsOver with
    | inl itself => rw [itself]; exact Same.refl event
    | inr read =>
        obtain ⟨decoded, decodes, same⟩ := fromJson_toJson inverts caused
        rw [Except.ok.inj (read.symm.trans decodes)]
        exact same
  obtain ⟨letter, decodes, sameLetter⟩ := fromJson_toJson inverted (by
    intro empty
    exact message.event.identified (Option.some.inj empty))
  obtain ⟨source, found, sameSource⟩ :=
    sameLetter.2.lookup_mapping "source_event" rfl
  obtain ⟨payload, _, samePayload, decoded⟩ :=
    fromDict_of_same loader sameSource
  rw [readBack_of_caused (sameEvent.causationId ▸ caused)] at decoded
  refine ⟨letter, source, _, decodes, found, decoded, ?_⟩
  exact Same.trans ⟨rfl, samePayload⟩ sameEvent

namespace RefusedRequest

def event : EventEnvelope where
  eventType := .workloadOptimizationRequested
  runId := "1"
  correlationId := "1"
  payload := []
  eventId := "1"
  timestamp := ""
  identified := one_ne_empty
  hasRun := one_ne_empty
  correlated := one_ne_empty

def message : InMemoryEventBus.ConsumedEvent where
  topic := "requests"
  key := "k"
  partition := 0
  offset := 0
  event := event
  consumerGroup := "workers"
  consumerId := "worker-1"

def stamp : Stamp := ⟨"2", "", two_ne_empty⟩

def letter : EventEnvelope :=
  InMemoryEventBus.deadLetterEvent message "invalid task" stamp

def bytes (text : String) : List UInt8 :=
  text.toList.flatMap String.utf8EncodeChar

def eventBytes : List UInt8 :=
  bytes "\x7b\"attempt\":0,\"causation_id\":null," ++
    bytes "\"correlation_id\":\"1\",\"event_id\":\"1\"," ++
    bytes "\"event_type\":\"WorkloadOptimizationRequested\"," ++
    bytes "\"payload\":\x7b\x7d,\"run_id\":\"1\"," ++
    bytes "\"schema_version\":\"1\",\"timestamp\":\"\"\x7d"

def letterBytes : List UInt8 :=
  bytes "\x7b\"attempt\":0,\"causation_id\":\"1\"," ++
    bytes "\"correlation_id\":\"1\",\"event_id\":\"2\"," ++
    bytes "\"event_type\":\"DeadLettered\",\"payload\":\x7b" ++
    bytes "\"reason\":\"invalid task\",\"source_event\":" ++ eventBytes ++
    bytes ",\"source_topic\":\"requests\"\x7d,\"run_id\":\"1\"," ++
    bytes "\"schema_version\":\"1\",\"timestamp\":\"\"\x7d"

/-- The JSON module, on the request and on its dead letter. -/
def dumps : Json → List UInt8
  | .mapping fields =>
      if (Document.field fields "event_type").isText "DeadLettered" then
        letterBytes
      else eventBytes
  | _ => []

def loader : Loader :=
  { requestLoader with
    loads := fun bytes =>
      if bytes = letterBytes then .ok letter.toDict.sortKeys
      else .ok event.toDict.sortKeys }

theorem dumps_event : dumps event.toDict = eventBytes := by
  rw [EventEnvelope.toDict, dumps, if_neg]
  decide

theorem dumps_letter : dumps letter.toDict = letterBytes := by
  rw [EventEnvelope.toDict, dumps, if_pos]
  decide

theorem loads_event :
    loader.loads eventBytes = .ok event.toDict.sortKeys := by
  have apart : eventBytes ≠ letterBytes := by decide +kernel
  simp only [loader, if_neg apart]

theorem loads_letter :
    loader.loads letterBytes = .ok letter.toDict.sortKeys := by
  simp only [loader, if_true]

theorem inverts_event : Inverts loader dumps event.toDict := by
  refine ⟨event.toDict.sortKeys, ?_, by rfl⟩
  rw [dumps_event, loads_event]

theorem inverts_letter : Inverts loader dumps letter.toDict := by
  refine ⟨letter.toDict.sortKeys, ?_, by rfl⟩
  rw [dumps_letter, loads_letter]

end RefusedRequest

open RefusedRequest in
/-- The dead letter of a request holds the request. -/
theorem envelopes_survive_the_wire_refused :
    ∃ received source decoded,
      EventEnvelope.fromJson loader (letter.toJson dumps) = .ok received ∧
        received.payload.lookup "source_event" = some (.mapping source) ∧
        EventEnvelope.fromDict loader source = .ok decoded ∧
        decoded.Same event := by
  apply (envelopes_survive_the_wire loader dumps).2.2 event message
    "invalid task" stamp (Option.some_ne_none _).symm inverts_event
    (Or.inl rfl) inverts_letter

end Kuber.Event

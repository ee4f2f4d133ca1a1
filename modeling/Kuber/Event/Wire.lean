import Kuber.Event.Contracts
import Kuber.Library.ExceptResult

/-!
# Envelopes on the wire

How an envelope is read from the bytes of a record.  The JSON module, and what
`int` makes of texts and of floating-point numbers, are parameters: nothing
here depends on them.
-/

namespace Kuber.Event

open Kuber.Rules

/-- `json.loads`, and `int` of a text and of a printed float. -/
structure Loader where
  loads : List UInt8 → Except PyException Json
  intOfText : String → Except PyException Int
  intOfFloat : String → Except PyException Int

def typeError (message : String) : PyException := ⟨.typeError, message⟩

/-- `int(value)`. -/
def Loader.int (loader : Loader) : Json → Except PyException Int
  | .int value => .ok value
  | .bool value => .ok (if value then 1 else 0)
  | .float text => loader.intOfFloat text
  | .string text => loader.intOfText text
  | .null => .error (typeError (intArgument ++ "'NoneType'"))
  | .list _ => .error (typeError (intArgument ++ "'list'"))
  | .mapping _ => .error (typeError (intArgument ++ "'dict'"))
where
  intArgument := "int() argument must be a string, a bytes-like object or a " ++
    "real number, not "

namespace EventType

def all : List EventType :=
  [analysisRequested, workloadOptimizationRequested,
    workloadOptimizationStarted, candidatePolicyGenerated, verificationFailed,
    workloadOptimizationCompleted, workloadOptimizationFailed,
    systemVerificationRequested, systemVerificationCompleted,
    dependencyContextRequested, deadLettered]

/-- `EventType(text)`. -/
def ofValue (text : String) : Except PyException EventType :=
  match all.find? (fun eventType => decide (eventType.value = text)) with
  | some eventType => .ok eventType
  | none => .error (.valueError
      (Json.quoteText text ++ " is not a valid EventType"))

end EventType

namespace EventEnvelope

/-- The constructor, with the checks of `__post_init__`. -/
def create (eventType : EventType) (runId correlationId : String)
    (payload : Document) (eventId timestamp : String)
    (causationId : Option String) (attempt : Int) (schemaVersion : String) :
    Except PyException EventEnvelope :=
  if identified : eventId = "" then
    .error (.valueError "event_id must not be empty")
  else if hasRun : runId = "" then
    .error (.valueError "run_id must not be empty")
  else if correlated : correlationId = "" then
    .error (.valueError "correlation_id must not be empty")
  else if schemaVersion = "" then
    .error (.valueError "schema_version must not be empty")
  else if attempt < 0 then
    .error (.valueError "attempt must be non-negative")
  else if schemaVersion ≠ "1" then
    .error (.valueError
      ("unsupported event schema version: " ++ schemaVersion))
  else
    .ok ⟨eventType, runId, correlationId, payload, eventId, timestamp,
      causationId, attempt.toNat, identified, hasRun, correlated⟩

/-- The required fields, in sorted order. -/
def requiredFields : List String :=
  ["correlation_id", "event_id", "event_type", "payload", "run_id",
    "timestamp"]

def requireFields (value : Document) : Except PyException Unit :=
  match requiredFields.filter fun name => (value.lookup name).isNone with
  | [] => .ok ()
  | missing => .error (.valueError
      ("event is missing required fields: " ++ ", ".intercalate missing))

def requirePayload : Json → Except PyException Document
  | .mapping payload => .ok payload
  | _ => .error (.valueError "event payload must be an object")

/-- `from_dict`. -/
def fromDict (loader : Loader) (value : Document) :
    Except PyException EventEnvelope := do
  requireFields value
  let payload ← requirePayload (value.field "payload")
  let eventType ← EventType.ofValue (value.field "event_type").str
  let attempt ← loader.int (value.fieldD "attempt" (.int 0))
  create eventType (value.field "run_id").str
    (value.field "correlation_id").str payload (value.field "event_id").str
    (value.field "timestamp").str
    (if (value.field "causation_id").truthy then
      some (value.field "causation_id").str else none)
    attempt (value.fieldD "schema_version" (.string "1")).str

/-- `from_json`. -/
def fromJson (loader : Loader) (value : List UInt8) :
    Except PyException EventEnvelope := do
  let decoded ← loader.loads value
  match decoded with
  | .mapping fields => fromDict loader fields
  | _ => .error (.valueError "event must be a JSON object")

end EventEnvelope

end Kuber.Event

import Kuber.Exceptions
import Kuber.Rules.Document

/-!
# Event envelopes and delivered messages

The envelope of every event, and a message as a consumer claims it.  The
checks of the constructors are fields, so that no invalid envelope or message
can be built; the schema version is always the supported one.
-/

namespace Kuber.Event

open Kuber.Rules

inductive EventType where
  | analysisRequested
  | workloadOptimizationRequested
  | workloadOptimizationStarted
  | candidatePolicyGenerated
  | verificationFailed
  | workloadOptimizationCompleted
  | workloadOptimizationFailed
  | systemVerificationRequested
  | systemVerificationCompleted
  | dependencyContextRequested
  | deadLettered
deriving DecidableEq, Repr

def EventType.value : EventType → String
  | analysisRequested => "AnalysisRequested"
  | workloadOptimizationRequested => "WorkloadOptimizationRequested"
  | workloadOptimizationStarted => "WorkloadOptimizationStarted"
  | candidatePolicyGenerated => "CandidatePolicyGenerated"
  | verificationFailed => "VerificationFailed"
  | workloadOptimizationCompleted => "WorkloadOptimizationCompleted"
  | workloadOptimizationFailed => "WorkloadOptimizationFailed"
  | systemVerificationRequested => "SystemVerificationRequested"
  | systemVerificationCompleted => "SystemVerificationCompleted"
  | dependencyContextRequested => "DependencyContextRequested"
  | deadLettered => "DeadLettered"

structure EventEnvelope where
  eventType : EventType
  runId : String
  correlationId : String
  payload : Document
  eventId : String
  timestamp : String
  causationId : Option String := none
  attempt : Nat := 0
  identified : eventId ≠ ""
  hasRun : runId ≠ ""
  correlated : correlationId ≠ ""

/-- The identifier and the time that a new envelope is given. -/
structure Stamp where
  eventId : String
  timestamp : String
  identified : eventId ≠ ""

theorem zero_ne_empty : "0" ≠ "" := by decide

theorem one_ne_empty : "1" ≠ "" := by decide

theorem two_ne_empty : "2" ≠ "" := by decide

theorem run_ne_empty : "run" ≠ "" := by decide

/-- An event of the same run, caused by this one. -/
def EventEnvelope.answer (event : EventEnvelope) (eventType : EventType)
    (payload : Document) (stamp : Stamp) : EventEnvelope where
  eventType := eventType
  runId := event.runId
  correlationId := event.correlationId
  payload := payload
  eventId := stamp.eventId
  timestamp := stamp.timestamp
  causationId := some event.eventId
  identified := stamp.identified
  hasRun := event.hasRun
  correlated := event.correlated

/-- `next_attempt`. -/
def EventEnvelope.nextAttempt (event : EventEnvelope) (stamp : Stamp) :
    EventEnvelope :=
  { event.answer event.eventType event.payload stamp with
    attempt := event.attempt + 1 }

/-- A claimed message.  `record` is the position of the published event, which
stands for its partition and offset. -/
structure ConsumedEvent where
  key : String
  record : Nat
  event : EventEnvelope
  deliveryCount : Nat := 1
  keyed : key ≠ ""

/-- The copy of a message that a retry puts back. -/
def ConsumedEvent.retried (message : ConsumedEvent) (stamp : Stamp) :
    ConsumedEvent :=
  { message with
    event := message.event.nextAttempt stamp
    deliveryCount := message.deliveryCount + 1 }

end Kuber.Event

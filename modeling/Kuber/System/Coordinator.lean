import Kuber.Event.Worker
import Kuber.Library.Canonical

/-!
# The system graph

The coordinator of a namespace: it discovers services, publishes one request
for each, counts results, and verifies and reports the system.  Its nodes are
phases; dispatching and waiting are loops with a phase for every turn.
-/

namespace Kuber.System

open Kuber.Library Kuber.Rules Kuber.Event

/-- What the graph reads of a service. -/
structure ServiceContext where
  serviceId : String
  «namespace» : String
  deploymentName : String
  serviceAccount : String
  verificationProfile : String

/-- The graph, with the parts that it calls.  The verdict of a system verifier
is not its own and belongs to the circumstances of a step. -/
structure SystemOptimizationGraph where
  discovery : String → Except PyException (List ServiceContext)
  registry : ServiceContext → Except PyException Unit
  indexer : ServiceContext → Except PyException IndexedServiceContext
  cluster : String := "kind-kuber"
  reportDirectory : Option String := none
  systemVerifier : Bool := false

structure SystemGraphState where
  runId : String
  «namespace» : String
  services : List ServiceContext := []
  contexts : List IndexedServiceContext := []
  resultEvents : List EventEnvelope := []
  expectedResults : Nat := 0
  systemPassed : Bool := false
  reportPath : Option String := none
  hasRun : runId ≠ ""

structure SystemRunResult where
  runId : String
  «namespace» : String
  services : List ServiceContext
  results : List EventEnvelope
  systemPassed : Bool
  reportPath : Option String

/-- A request on the topic that workers consume. -/
structure PublishedRequest where
  key : String
  event : EventEnvelope
  keyed : key ≠ ""

/-- What the coordinator has published or written, and the requests of other
coordinators. -/
structure Published where
  requests : List PublishedRequest := []
  systemEvents : List (String × EventEnvelope) := []
  reports : List (String × String) := []

def taskIdOf (runId : String) (service : ServiceContext) : String :=
  runId ++ ":" ++ service.serviceId

/-- The event that requests the optimization of a service. -/
def requestEvent (state : SystemGraphState) (service : ServiceContext)
    (context : IndexedServiceContext) (stamp : Stamp) : EventEnvelope where
  eventType := .workloadOptimizationRequested
  runId := state.runId
  correlationId := state.runId
  payload :=
    [("task_id", .string (taskIdOf state.runId service)),
      ("workload_id", .string service.serviceId),
      ("namespace", .string service.namespace),
      ("deployment", .string service.deploymentName),
      ("service_account", .string service.serviceAccount),
      ("repository_ref", .string ("service://" ++ service.serviceId)),
      ("context_ref", .string context.contextRef),
      ("verification_profile", .string service.verificationProfile)]
  eventId := stamp.eventId
  timestamp := stamp.timestamp
  identified := stamp.identified
  hasRun := state.hasRun
  correlated := state.hasRun

theorem joined_ne_empty (first second : String) :
    first ++ ":" ++ second ≠ "" := by
  intro empty
  have letters := congrArg String.toList empty
  simp at letters

def SystemOptimizationGraph.request (graph : SystemOptimizationGraph)
    (state : SystemGraphState) (service : ServiceContext)
    (context : IndexedServiceContext) (stamp : Stamp) : PublishedRequest where
  key := graph.cluster ++ ":" ++ service.namespace ++ ":" ++ service.serviceId
  event := requestEvent state service context stamp
  keyed := joined_ne_empty _ _

/-- `by_service[service_id]`: of two contexts of a service the last one. -/
def contextOf (contexts : List IndexedServiceContext) (serviceId : String) :
    Option IndexedServiceContext :=
  (OrderedDict.ofList (contexts.map fun context =>
    (context.serviceId, context))).get? serviceId

/-- Every workload has been counted, and was accepted. -/
def workloadPassed (state : SystemGraphState) : Bool :=
  decide (state.resultEvents.length = state.expectedResults) &&
    state.resultEvents.all fun event => accepted event.payload

def verificationRequested (state : SystemGraphState) (stamp : Stamp) :
    EventEnvelope where
  eventType := .systemVerificationRequested
  runId := state.runId
  correlationId := state.runId
  payload := [("namespace", .string state.namespace)]
  eventId := stamp.eventId
  timestamp := stamp.timestamp
  identified := stamp.identified
  hasRun := state.hasRun
  correlated := state.hasRun

def verificationCompleted (state : SystemGraphState)
    (requested : EventEnvelope) (endToEndPassed : Bool) (stamp : Stamp) :
    EventEnvelope where
  eventType := .systemVerificationCompleted
  runId := state.runId
  correlationId := state.runId
  payload :=
    [("namespace", .string state.namespace),
      ("passed", .bool (workloadPassed state && endToEndPassed)),
      ("workload_verification_passed", .bool (workloadPassed state)),
      ("end_to_end_passed", .bool endToEndPassed)]
  eventId := stamp.eventId
  timestamp := stamp.timestamp
  causationId := some requested.eventId
  identified := stamp.identified
  hasRun := state.hasRun
  correlated := state.hasRun

/-- The system verifier is asked only when all workloads have passed. -/
def endToEnd (graph : SystemOptimizationGraph) (state : SystemGraphState)
    (verdict : Except PyException Bool) : Except PyException Bool :=
  if workloadPassed state = true ∧ graph.systemVerifier = true then verdict
  else .ok (workloadPassed state)

def statusText (passed : Bool) : String := if passed then "PASS" else "FAIL"

/-- One row of the report. -/
def reportRow (value : Document) : Except PyException String := do
  let workloadId ← payloadText value "workload_id"
  let workerId ← payloadText value "worker_id"
  let originalPermissions ← payloadText value "original_permissions"
  let finalPermissions ← payloadText value "final_permissions"
  let originalRisk ← payloadText value "original_risk"
  let finalRisk ← payloadText value "final_risk"
  let testsPassed ← payloadText value "tests_passed"
  let testsTotal ← payloadText value "tests_total"
  let repairs ← payloadText value "repairs"
  return "| " ++ workloadId ++ " | " ++ workerId ++ " | " ++
    originalPermissions ++ " → " ++ finalPermissions ++ " | " ++
    originalRisk ++ " → " ++ finalRisk ++ " | " ++
    testsPassed ++ "/" ++ testsTotal ++ " | " ++ repairs ++ " | " ++
    statusText (accepted value) ++ " |"

/-- The text of the report, with the results in the order of their
workloads. -/
def reportText (state : SystemGraphState) : Except PyException String := do
  let keyed ← state.resultEvents.mapM fun event => do
    let workloadId ← payloadText event.payload "workload_id"
    return (workloadId, event)
  let rows ← (sortBy Prod.fst keyed).mapM fun entry =>
    reportRow entry.2.payload
  return "# Kuber namespace report: " ++ state.namespace ++ "\n\n" ++
    "- Run ID: `" ++ state.runId ++ "`\n" ++
    "- Services discovered: " ++ toString state.services.length ++ "\n" ++
    "- Workload results received: " ++ toString state.resultEvents.length ++
    "\n" ++
    "- System verification: **" ++ statusText state.systemPassed ++
    "**\n\n" ++
    "| Service | Worker | Permissions | Risk | Tests | Repairs | Result |\n" ++
    "|---|---|---:|---:|---:|---:|---|\n" ++ "\n".intercalate rows ++ "\n"

/-- `_write_report`: the path and the text of the file, if one is written. -/
def SystemOptimizationGraph.writeReport (graph : SystemOptimizationGraph)
    (state : SystemGraphState) :
    Except PyException (Option (String × String)) :=
  match graph.reportDirectory with
  | none => .ok none
  | some directory => do
      let text ← reportText state
      return some (directory ++ "/" ++ state.runId ++ "-namespace-report.md",
        text)

/-- The node that comes next, or the turn of its loop. -/
inductive SystemPhase where
  | discoverSystem
  | buildServiceRegistry
  | indexServiceContexts
  | dispatchWorkloadEvents (remaining : List ServiceContext)
  | waitForCompletionEvents (results : List PublishedResult)
  | aggregateResults
  | systemVerify
  | systemVerifying (requested : EventEnvelope)
  | systemReport
  | systemDiagnosis
  | ended
  | failed (failure : PyException)

structure Coordinator where
  phase : SystemPhase
  state : SystemGraphState

/-- What `run` returns. -/
def Coordinator.result (coordinator : Coordinator) : Option SystemRunResult :=
  match coordinator.phase with
  | .ended =>
      some
        { runId := coordinator.state.runId
          «namespace» := coordinator.state.namespace
          services := coordinator.state.services
          results := coordinator.state.resultEvents
          systemPassed := coordinator.state.systemPassed
          reportPath := coordinator.state.reportPath }
  | _ => none

/-- The circumstances of one step of the coordinator. -/
structure SystemTick where
  fate : Fate := .returns
  stamp : Stamp := ⟨"0", "", zero_ne_empty⟩
  verdict : Except PyException Bool := .ok true

/-- A publication: it may fail before or after the record is appended. -/
def Fate.publish (fate : Fate) (effect : Published → Published)
    (published : Published) (returned : Coordinator)
    (raised : PyException → Coordinator) : Coordinator × Published :=
  match fate with
  | .returns => (returned, effect published)
  | .raises failure landed =>
      (raised failure, if landed then effect published else published)

namespace Published

def request (request : PublishedRequest) (published : Published) :
    Published :=
  { published with requests := published.requests ++ [request] }

def systemEvent (key : String) (event : EventEnvelope)
    (published : Published) : Published :=
  { published with
    systemEvents := published.systemEvents ++ [(key, event)] }

def report (report : Option (String × String)) (published : Published) :
    Published :=
  { published with reports := published.reports ++ report.toList }

end Published

namespace SystemOptimizationGraph

/-- The next step of the coordinator; waiting goes on until enough results are
counted. -/
def proceed (graph : SystemOptimizationGraph) (tick : SystemTick)
    (coordinator : Coordinator) (published : Published) :
    Option (Coordinator × Published) :=
  let state := coordinator.state
  let enter (phase : SystemPhase) : Coordinator := ⟨phase, state⟩
  let fail (failure : PyException) := enter (.failed failure)
  let systemKey := graph.cluster ++ ":" ++ state.namespace
  match coordinator.phase with
  | .discoverSystem =>
      match graph.discovery state.namespace with
      | .error failure => some (fail failure, published)
      | .ok services =>
          some (⟨.buildServiceRegistry, { state with services := services }⟩,
            published)
  | .buildServiceRegistry =>
      match state.services.forM graph.registry with
      | .error failure => some (fail failure, published)
      | .ok _ => some (enter .indexServiceContexts, published)
  | .indexServiceContexts =>
      match state.services.mapM graph.indexer with
      | .error failure => some (fail failure, published)
      | .ok contexts =>
          some (⟨.dispatchWorkloadEvents state.services,
            { state with contexts := contexts }⟩, published)
  | .dispatchWorkloadEvents [] =>
      some (⟨.waitForCompletionEvents [],
        { state with expectedResults := state.services.length }⟩, published)
  | .dispatchWorkloadEvents (service :: remaining) =>
      match contextOf state.contexts service.serviceId with
      | none => some (fail (.keyError service.serviceId), published)
      | some context =>
          some (Fate.publish tick.fate
            (.request (graph.request state service context tick.stamp))
            published (enter (.dispatchWorkloadEvents remaining)) fail)
  | .waitForCompletionEvents results =>
      if results.length < state.expectedResults then none
      else
        some (⟨.aggregateResults,
          { state with resultEvents := results.map PublishedResult.event }⟩,
          published)
  | .aggregateResults => some (enter .systemVerify, published)
  | .systemVerify =>
      let requested := verificationRequested state tick.stamp
      some (Fate.publish tick.fate (.systemEvent systemKey requested)
        published (enter (.systemVerifying requested)) fail)
  | .systemVerifying requested =>
      match endToEnd graph state tick.verdict with
      | .error failure => some (fail failure, published)
      | .ok endToEndPassed =>
          let passed := workloadPassed state && endToEndPassed
          let completed :=
            verificationCompleted state requested endToEndPassed tick.stamp
          some (Fate.publish tick.fate (.systemEvent systemKey completed)
            published
            ⟨if passed then .systemReport else .systemDiagnosis,
              { state with systemPassed := passed }⟩ fail)
  | .systemReport =>
      match graph.writeReport state with
      | .error failure => some (fail failure, published)
      | .ok report =>
          some (⟨.ended, { state with reportPath := report.map Prod.fst }⟩,
            published.report report)
  | .systemDiagnosis => some (enter .ended, published)
  | .ended => none
  | .failed _ => none

/-- One turn of the waiting loop: a result of this run is counted, whichever
task it is about, and every result is acknowledged. -/
def collect (fate : Fate) (result : PublishedResult)
    (coordinator : Coordinator) : Option Coordinator :=
  let state := coordinator.state
  match coordinator.phase with
  | .waitForCompletionEvents results =>
      if results.length < state.expectedResults then
        match fate with
        | .raises failure _ => some ⟨.failed failure, state⟩
        | .returns =>
            if result.event.runId = state.runId then
              some ⟨.waitForCompletionEvents (results ++ [result]), state⟩
            else some coordinator
      else none
  | _ => none

/-- The results do not arrive in time. -/
def timeOut (coordinator : Coordinator) : Option Coordinator :=
  match coordinator.phase with
  | .waitForCompletionEvents results =>
      if results.length < coordinator.state.expectedResults then
        some ⟨.failed ⟨.other "TimeoutError", ""⟩, coordinator.state⟩
      else none
  | _ => none

end SystemOptimizationGraph

end Kuber.System

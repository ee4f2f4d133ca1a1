import Kuber.Event.Kafka
import Kuber.Judge.Simulators
import Mathlib.Algebra.BigOperators.Group.List.Basic
import Mathlib.Data.List.Forall2
import Mathlib.Data.Rat.Defs

/-!
# Evaluations in process and over events

A benchmark is evaluated case by case in one process, or by workers whose
result events are summed up.  Both count the same things in different places,
and agree in everything but the time they take.  Percentages are exact.
-/

namespace Kuber.Judge

open Kuber.Agent Kuber.Event Kuber.Library Kuber.Rules

structure SystemCaseMetrics where
  functionalSuccess : Bool
  initialRisk : Int
  finalRisk : Int
  riskReductionPercent : Rat
  validatedRiskReduction : Rat
  rawPermissionReductionPercent : Rat
  initialPermissions : Int
  finalPermissions : Int
  highRiskPermissionsRemaining : Int
  clusterWideGrantsRemaining : Int
  incorrectRemovals : Int
  repairIterations : Int
  runtimeSeconds : String
deriving DecidableEq

/-- `100 * (initial - final) / initial if initial else 0.0`. -/
def reductionPercent (initial final : Int) : Rat :=
  if initial ≠ 0 then 100 * ((initial - final : Int) : Rat) / (initial : Rat)
  else 0

/-- `_high_risk_count`. -/
def highRiskCount (policy : Policy) : Nat :=
  policy.permissions.countP fun permission =>
    decide (permission.verb = "*" ∨ permission.resource = "*" ∨
      permission.resource = "secrets" ∨
      permission.verb ∈ ["create", "delete"])

/-- `_metrics`. -/
def metrics (initial final : Policy) (success : Bool) (runtime : String)
    (incorrect repairs : Int := 0) : SystemCaseMetrics :=
  let initialRisk : Int := (scorePolicy initial).score
  let finalRisk : Int := (scorePolicy final).score
  let riskReduction := reductionPercent initialRisk finalRisk
  let initialCount : Int := effectivePermissionCount initial
  let finalCount : Int := effectivePermissionCount final
  let rawReduction := reductionPercent initialCount finalCount
  let clusterWide := (expandPolicy final).permissions.countP
    fun permission => decide (permission.namespace = none)
  ⟨success, initialRisk, finalRisk, riskReduction,
    if success then riskReduction else 0, rawReduction, initialCount,
    finalCount, highRiskCount final, clusterWide, incorrect, repairs, runtime⟩

/-- `evaluate_kuber`, on a new simulator. -/
def evaluateKuber (graph : WorkloadOptimizationGraph) (recursionLimit : Nat)
    (checkpoint : WorkloadGraphState) (benchmark : BenchmarkCase)
    (elapsed : String) : Except PyException (Policy × SystemCaseMetrics) := do
  let result ← (runFrom graph recursionLimit
    { runId := "evaluation-" ++ benchmark.identifier } checkpoint
    (simulatorEnvironment benchmark) benchmark.initialPolicy).1
  return (result.finalPolicy, metrics benchmark.initialPolicy
    result.finalPolicy (result.verification.passed && result.accepted) elapsed
    result.incorrectRemovals result.repairIterations)

/-- `_aggregate`. -/
def aggregate (values : List SystemCaseMetrics) (runtime : String) :
    SystemCaseMetrics :=
  let initialRisk := (values.map SystemCaseMetrics.initialRisk).sum
  let finalRisk := (values.map SystemCaseMetrics.finalRisk).sum
  let initialPermissions :=
    (values.map SystemCaseMetrics.initialPermissions).sum
  let finalPermissions := (values.map SystemCaseMetrics.finalPermissions).sum
  let riskReduction := reductionPercent initialRisk finalRisk
  let rawReduction := reductionPercent initialPermissions finalPermissions
  let success := values.all SystemCaseMetrics.functionalSuccess
  { functionalSuccess := success
    initialRisk := initialRisk
    finalRisk := finalRisk
    riskReductionPercent := riskReduction
    validatedRiskReduction := if success then riskReduction else 0
    rawPermissionReductionPercent := rawReduction
    initialPermissions := initialPermissions
    finalPermissions := finalPermissions
    highRiskPermissionsRemaining :=
      (values.map SystemCaseMetrics.highRiskPermissionsRemaining).sum
    clusterWideGrantsRemaining :=
      (values.map SystemCaseMetrics.clusterWideGrantsRemaining).sum
    incorrectRemovals := (values.map SystemCaseMetrics.incorrectRemovals).sum
    repairIterations := (values.map SystemCaseMetrics.repairIterations).sum
    runtimeSeconds := runtime }

/-- `value[name]`. -/
def payloadValue (payload : Document) (name : String) :
    Except PyException Json :=
  match payload.lookup name with
  | some value => .ok value
  | none => .error (.keyError name)

/-- `sum(int(value[name]) for value in payloads)`. -/
def sumOf (loader : Loader) (name : String) (payloads : List Document) :
    Except PyException Int := do
  let values ← payloads.mapM fun payload => do
    loader.int (← payloadValue payload name)
  return values.sum

/-- `all(bool(value["accepted"]) for value in payloads)`: the first one that
is not accepted ends the search. -/
def allAccepted : List Document → Except PyException Bool
  | [] => .ok true
  | payload :: payloads => do
      let value ← payloadValue payload "accepted"
      if value.truthy then allAccepted payloads else return false

/-- `_metrics_from_events`. -/
def metricsFromEvents (loader : Loader) (events : List EventEnvelope)
    (runtime : String) : Except PyException SystemCaseMetrics := do
  let payloads := events.map EventEnvelope.payload
  let initialRisk ← sumOf loader "original_risk" payloads
  let finalRisk ← sumOf loader "final_risk" payloads
  let initialPermissions ← sumOf loader "original_permissions" payloads
  let finalPermissions ← sumOf loader "final_permissions" payloads
  let success ← allAccepted payloads
  let riskReduction := reductionPercent initialRisk finalRisk
  let rawReduction := reductionPercent initialPermissions finalPermissions
  let highRisk ← sumOf loader "high_risk_permissions_remaining" payloads
  let clusterWide ← sumOf loader "cluster_wide_grants_remaining" payloads
  let incorrect ← sumOf loader "incorrect_removals" payloads
  let repairs ← sumOf loader "repairs" payloads
  return ⟨success, initialRisk, finalRisk, riskReduction,
    if success then riskReduction else 0, rawReduction, initialPermissions,
    finalPermissions, highRisk, clusterWide, incorrect, repairs, runtime⟩

/-- A payload says what the metrics of a case say. -/
structure Reports (payload : Document) (value : SystemCaseMetrics) : Prop where
  accepted : payload.lookup "accepted" = some (.bool value.functionalSuccess)
  initialRisk : payload.lookup "original_risk" = some (.int value.initialRisk)
  finalRisk : payload.lookup "final_risk" = some (.int value.finalRisk)
  initialPermissions : payload.lookup "original_permissions" =
    some (.int value.initialPermissions)
  finalPermissions : payload.lookup "final_permissions" =
    some (.int value.finalPermissions)
  highRisk : payload.lookup "high_risk_permissions_remaining" =
    some (.int value.highRiskPermissionsRemaining)
  clusterWide : payload.lookup "cluster_wide_grants_remaining" =
    some (.int value.clusterWideGrantsRemaining)
  incorrect : payload.lookup "incorrect_removals" =
    some (.int value.incorrectRemovals)
  repairs : payload.lookup "repairs" = some (.int value.repairIterations)

section

variable {loader : Loader} {payloads : List Document}
  {values : List SystemCaseMetrics}

theorem sumOf_eq {name : String} {field : SystemCaseMetrics → Int}
    (reported : List.Forall₂ (fun payload value =>
      payload.lookup name = some (.int (field value))) payloads values) :
    sumOf loader name payloads = .ok (values.map field).sum := by
  have read : payloads.mapM (fun payload => do
      loader.int (← payloadValue payload name)) =
        .ok (values.map field) := by
    rw [mapM_eq_ok_iff, List.forall₂_map_right_iff]
    apply reported.imp
    intro payload value found
    rw [payloadValue, found]
    rfl
  rw [sumOf, read]
  rfl

theorem allAccepted_eq
    (reported : List.Forall₂ (fun payload value =>
      payload.lookup "accepted" = some (.bool value.functionalSuccess))
      payloads values) :
    allAccepted payloads =
      .ok (values.all SystemCaseMetrics.functionalSuccess) := by
  induction reported with
  | nil => rfl
  | @cons payload value _ _ found _ induction =>
      rw [allAccepted, payloadValue, found, List.all_cons]
      cases accepted : value.functionalSuccess with
      | false => rfl
      | true => exact induction

theorem metricsFromEvents_eq {events : List EventEnvelope} (runtime : String)
    (reported : List.Forall₂ (fun event value =>
      Reports event.payload value) events values) :
    metricsFromEvents loader events runtime =
      .ok (aggregate values runtime) := by
  have reports : List.Forall₂ Reports (events.map EventEnvelope.payload)
      values := List.forall₂_map_left_iff.mpr reported
  have sums : ∀ {name : String} {field : SystemCaseMetrics → Int},
      (∀ payload value, Reports payload value →
        payload.lookup name = some (.int (field value))) →
      sumOf loader name (events.map EventEnvelope.payload) =
        .ok (values.map field).sum :=
    fun found => sumOf_eq (reports.imp fun payload value => found payload value)
  rw [metricsFromEvents,
    sums fun _ _ report => report.initialRisk,
    sums fun _ _ report => report.finalRisk,
    sums fun _ _ report => report.initialPermissions,
    sums fun _ _ report => report.finalPermissions,
    allAccepted_eq (reports.imp fun _ _ report => report.accepted),
    sums fun _ _ report => report.highRisk,
    sums fun _ _ report => report.clusterWide,
    sums fun _ _ report => report.incorrect,
    sums fun _ _ report => report.repairs]
  rfl

end

theorem aggregate_perm {values others : List SystemCaseMetrics}
    (same : values.Perm others) (runtime : String) :
    aggregate values runtime = aggregate others runtime := by
  have sums : ∀ field : SystemCaseMetrics → Int,
      (values.map field).sum = (others.map field).sum :=
    fun field => (same.map field).sum_eq
  simp only [aggregate, sums, same.all_eq]

theorem simulator_original {benchmark : BenchmarkCase}
    {initial original : Policy}
    (session : Session (simulatorEnvironment benchmark) initial)
    (head : session.calls.head? = some (.getCurrentPolicy (.ok original))) :
    original = initial := by
  have recorded := session.recorded
  cases made : session.calls with
  | nil =>
      rw [made] at head
      cases head
  | cons call calls =>
      rw [made] at head recorded
      cases head
      obtain ⟨middle, answers, -⟩ := recorded
      cases answers
      rfl

theorem verified_and_accepted {graph : WorkloadOptimizationGraph}
    {execution : WorkloadExecution} {calls : List EnvironmentCall}
    (finishes : Finishes graph execution calls) :
    (execution.verification.passed && execution.accepted) =
      execution.accepted := by
  cases finishes with
  | accepted accepted _ passed _ => rw [accepted, passed, Bool.and_self]
  | rejected rejected => rw [rejected, Bool.and_false]

section

variable {graph : WorkloadOptimizationGraph} {recursionLimit : Nat}

/-- `{case.identifier: case for case in cases}`. -/
def casesByIdentifier (cases : List BenchmarkCase) :
    OrderedDict String BenchmarkCase :=
  .ofList (cases.map fun benchmark => (benchmark.identifier, benchmark))

theorem casesByIdentifier_found {cases : List BenchmarkCase}
    (distinct : (cases.map BenchmarkCase.identifier).Nodup)
    {benchmark found : BenchmarkCase} (member : benchmark ∈ cases)
    (present : (casesByIdentifier cases).get? benchmark.identifier =
      some found) : found = benchmark := by
  obtain ⟨other, among, same⟩ :=
    List.mem_map.mp (OrderedDict.mem_of_get?_ofList present)
  obtain ⟨sameIdentifier, rfl⟩ := Prod.mk.inj same
  exact List.inj_on_of_nodup_map distinct among member sameIdentifier

/-- `payload["workload_id"]`. -/
def workloadOf (event : EventEnvelope) : Json :=
  event.payload.field "workload_id"

/-- A result event reports what the evaluation of its case counts. -/
theorem evaluateKuber_reported {cases : List BenchmarkCase}
    (distinct : (cases.map BenchmarkCase.identifier).Nodup)
    {benchmark : BenchmarkCase} (member : benchmark ∈ cases)
    {event : EventEnvelope}
    (computed : Computed (casesByIdentifier cases) graph recursionLimit
      event.payload)
    (about : workloadOf event = .string benchmark.identifier)
    (checkpoint : WorkloadGraphState) (elapsed : String) :
    ∃ evaluated, evaluateKuber graph recursionLimit checkpoint benchmark
        elapsed = .ok evaluated ∧ Reports event.payload evaluated.2 := by
  obtain ⟨worker, task, other, seconds, found, runs⟩ := computed
  obtain ⟨execution, returned, payload⟩ := runs
    { runId := "evaluation-" ++ benchmark.identifier } checkpoint
  have identifier : task.workloadId = benchmark.identifier := by
    rw [workloadOf, payload] at about
    exact Json.string.inj about
  rw [identifier] at found
  cases casesByIdentifier_found distinct member found
  cases run : runFrom graph recursionLimit
      { runId := "evaluation-" ++ benchmark.identifier } checkpoint
      (simulatorEnvironment benchmark) benchmark.initialPolicy with
  | mk result session =>
  rw [run] at returned
  cases returned
  obtain ⟨-, finishes⟩ := run_ends graph recursionLimit _ checkpoint run
  have original := simulator_original session finishes.head
  have scored := run_scored run
  refine ⟨_, by rw [evaluateKuber, run]; rfl, ?_⟩
  rw [payload]
  constructor
  · exact congrArg (fun success => some (Json.bool success))
      (verified_and_accepted finishes).symm
  · rw [← original]
    exact congrArg (fun risk : RiskAssessment => some (Json.int risk.score))
      scored.original
  · exact congrArg (fun risk : RiskAssessment => some (Json.int risk.score))
      scored.final
  · rw [← original]
    rfl
  all_goals rfl

/-- Where there is one event for each case, the cases can be put in the order
of the events. -/
theorem cases_as_events {cases : List BenchmarkCase}
    {events : List EventEnvelope}
    (once : (events.map workloadOf).Perm
      (cases.map fun benchmark => .string benchmark.identifier)) :
    ∃ ordered,
      List.Forall₂ (fun event benchmark =>
        workloadOf event = .string benchmark.identifier) events ordered ∧
      ordered.Perm cases := by
  have own : List.Forall₂ (fun (text : Json) benchmark =>
      text = .string (BenchmarkCase.identifier benchmark))
      (cases.map fun benchmark => .string benchmark.identifier) cases :=
    List.forall₂_map_left_iff.mpr (List.forall₂_same.mpr fun _ _ => rfl)
  obtain ⟨ordered, about, reordered⟩ := List.perm_comp_forall₂ once own
  exact ⟨ordered, List.forall₂_map_left_iff.mp about, reordered⟩

/-- Whatever the workers do and whichever of them does it: where there is one
result event for each case, the events sum up to what the cases give in one
process. -/
theorem evaluations_agree {ι : Type} [DecidableEq ι] (loader : Loader)
    (graph : WorkloadOptimizationGraph) (recursionLimit : Nat)
    (cases : List BenchmarkCase)
    (distinct : (cases.map BenchmarkCase.identifier).Nodup)
    (workers : ι → OptimizationWorker Simulators)
    (configured : ∀ worker, Configured (casesByIdentifier cases) graph
      recursionLimit (workers worker))
    (simulators : Simulators)
    (actions : List (ι × OptimizationWorker.Action))
    (final : PoolState ι Simulators)
    (played : play (benchmarkStep workers) (newPool simulators) actions =
      some final)
    (events : List EventEnvelope)
    (published : ∀ event ∈ events, ∃ result ∈ final.shared.results,
      result.event = event)
    (once : (events.map workloadOf).Perm
      (cases.map fun benchmark => .string benchmark.identifier))
    (checkpoint : BenchmarkCase → WorkloadGraphState)
    (elapsed : BenchmarkCase → String) (runtime otherRuntime : String) :
    ∃ evaluated,
      cases.mapM (fun benchmark => evaluateKuber graph recursionLimit
        (checkpoint benchmark) benchmark (elapsed benchmark)) =
          .ok evaluated ∧
      metricsFromEvents loader events runtime =
        .ok { aggregate (evaluated.map Prod.snd) otherRuntime with
          runtimeSeconds := runtime } := by
  have computed : ∀ event ∈ events, Computed (casesByIdentifier cases) graph
      recursionLimit event.payload := by
    intro event member
    obtain ⟨result, among, rfl⟩ := published event member
    exact (benchmark_computes configured played).results result among
  obtain ⟨ordered, about, reordered⟩ := cases_as_events once
  have known := (List.forall₂_and_left events ordered).mpr ⟨computed, about⟩
  obtain ⟨evaluated, returned⟩ : ∃ evaluated,
      cases.mapM (fun benchmark => evaluateKuber graph recursionLimit
        (checkpoint benchmark) benchmark (elapsed benchmark)) =
          .ok evaluated := by
    apply mapM_returns
    intro benchmark member
    obtain ⟨event, -, computed, about⟩ :=
      forall₂_mem_right known (reordered.mem_iff.mpr member)
    obtain ⟨value, returned, -⟩ := evaluateKuber_reported distinct member
      computed about (checkpoint benchmark) (elapsed benchmark)
    exact ⟨value, returned⟩
  obtain ⟨orderedValues, values, sameValues⟩ :=
    List.perm_comp_forall₂ reordered (mapM_eq_ok_iff.mp returned)
  have members := (List.forall₂_and_left ordered orderedValues).mpr
    ⟨fun _ among => reordered.mem_iff.mp among, values⟩
  have reported : List.Forall₂ (fun event value =>
      Reports event.payload value) events (orderedValues.map Prod.snd) := by
    apply List.forall₂_map_right_iff.mpr
    apply forall₂_comp _ known members
    intro event benchmark value ⟨computed, about⟩ ⟨member, value⟩
    obtain ⟨other, returned, reports⟩ := evaluateKuber_reported distinct member
      computed about (checkpoint benchmark) (elapsed benchmark)
    cases returned.symm.trans value
    exact reports
  refine ⟨evaluated, returned, ?_⟩
  rw [metricsFromEvents_eq runtime reported,
    aggregate_perm (sameValues.map Prod.snd) runtime]
  rfl

end

namespace TwoCases

def cases : List BenchmarkCase :=
  [{ podWatcher with identifier := "web" },
    { podWatcher with identifier := "api" }]

/-- Either worker takes every context for that of the service it names. -/
def workers (index : Fin 2) : OptimizationWorker Simulators where
  workerId := if index = 0 then "judge-worker-1" else "judge-worker-2"
  contextStore := fun contextRef => .ok (some ⟨contextRef, contextRef⟩)
  environmentFactory := simulatorFactory (casesByIdentifier cases)
  graph := plainGraph
  recursionLimit := 25
  cluster := "judge"

def request (identifier : String) : ConsumedEvent where
  key := "judge:shop:" ++ identifier
  record := 0
  event :=
    { eventType := .workloadOptimizationRequested
      runId := "evaluation-shop"
      correlationId := "evaluation-shop"
      payload :=
        [("task_id", .string ("evaluation-shop:" ++ identifier)),
          ("workload_id", .string identifier),
          ("namespace", .string "shop"),
          ("context_ref", .string identifier),
          ("repository_ref", .string ("service://" ++ identifier))]
      eventId := "1"
      timestamp := ""
      identified := one_ne_empty
      hasRun := by decide
      correlated := by decide }
  keyed := by
    intro empty
    have start := congrArg String.length empty
    simp at start

/-- The workers take the two cases at the same time, the second one first. -/
def actions : List (Fin 2 × OptimizationWorker.Action) :=
  [(0, .claim (request "api")), (1, .claim (request "web"))] ++
    (List.replicate 9 [(0, .tick {}), (1, .tick {})]).flatten

def simulators : Simulators := ⟨0, fun _ => podWatcher.initialPolicy⟩

end TwoCases

open TwoCases in
/-- Two workers evaluate two cases at the same time. -/
theorem evaluations_agree_twoCases :
    ∃ final,
      play (benchmarkStep workers) (newPool simulators) actions =
        some final ∧
      ∃ evaluated,
        cases.mapM (fun benchmark => evaluateKuber plainGraph 25 emptyThread
          benchmark "0.1") = .ok evaluated ∧
        metricsFromEvents requestLoader
            (final.shared.results.map PublishedResult.event) "0.3" =
          .ok { aggregate (evaluated.map Prod.snd) "0.2" with
            runtimeSeconds := "0.3" } := by
  obtain ⟨final, played, named⟩ : ∃ final,
      play (benchmarkStep workers) (newPool simulators) actions =
        some final ∧
      (final.shared.results.map PublishedResult.event).map workloadOf =
        [.string "api", .string "web"] := ⟨_, rfl, rfl⟩
  refine ⟨final, played, ?_⟩
  apply evaluations_agree requestLoader plainGraph 25 cases (by decide)
    workers (fun _ => ⟨rfl, rfl, rfl⟩) simulators actions final played _
    _ _ (fun _ => emptyThread) (fun _ => "0.1") "0.3" "0.2"
  · intro event member
    obtain ⟨result, among, same⟩ := List.mem_map.mp member
    exact ⟨result, among, same⟩
  · rw [named]
    exact .swap _ _ _

end Kuber.Judge

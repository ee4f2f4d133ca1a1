import Kuber.Judge.SystemBenchmarks
import Mathlib.Algebra.Field.Basic
import Mathlib.Algebra.Field.Rat

/-!
# The report of an evaluation

A row of the report is a benchmark of one service or of a system of services,
which a coordinator and its workers optimize over events.  Every row is
evaluated by the baseline and by Kuber, and both columns are summed up.
Percentages and averages are exact.
-/

namespace Kuber.Judge

open Kuber.Agent Kuber.Event Kuber.Library Kuber.Rules Kuber.System

/-- The averages of an evaluation, without that of the runtimes. -/
structure EvaluationSummary where
  cases : Nat
  functionalSuccesses : Nat
  functionalSuccessRate : Rat
  averageValidatedRiskReduction : Rat
  averageRawPermissionReduction : Rat
  averageRiskReduction : Rat
  highRiskPermissionsRemaining : Int
  clusterWideGrantsRemaining : Int
  incorrectRemovals : Int
  repairIterations : Int
deriving DecidableEq

/-- `summarize`. -/
def summarize (values : List SystemCaseMetrics) : EvaluationSummary :=
  let count := values.length
  if count = 0 then ⟨0, 0, 0, 0, 0, 0, 0, 0, 0, 0⟩
  else
    let successes := values.countP SystemCaseMetrics.functionalSuccess
    let average (field : SystemCaseMetrics → Rat) : Rat :=
      (values.map field).sum / count
    let total (field : SystemCaseMetrics → Int) : Int := (values.map field).sum
    { cases := count
      functionalSuccesses := successes
      functionalSuccessRate := 100 * successes / count
      averageValidatedRiskReduction :=
        average SystemCaseMetrics.validatedRiskReduction
      averageRawPermissionReduction :=
        average SystemCaseMetrics.rawPermissionReductionPercent
      averageRiskReduction := average SystemCaseMetrics.riskReductionPercent
      highRiskPermissionsRemaining :=
        total SystemCaseMetrics.highRiskPermissionsRemaining
      clusterWideGrantsRemaining :=
        total SystemCaseMetrics.clusterWideGrantsRemaining
      incorrectRemovals := total SystemCaseMetrics.incorrectRemovals
      repairIterations := total SystemCaseMetrics.repairIterations }

/-- A benchmark path: that of a case, or that of a `SystemBenchmark`. -/
inductive Benchmark
  | service (benchmark : BenchmarkCase)
  | system (benchmark : SystemBenchmark)

/-- What an evaluation is given: the graph, the states that are left on its
threads, the clock readings, and for a system its parts and the order in which
the coordinator and the workers get on. -/
structure Evaluator where
  graph : WorkloadOptimizationGraph
  recursionLimit : Nat := WorkloadOptimizationGraph.defaultRecursionLimit
  checkpoint : BenchmarkCase → WorkloadGraphState
  elapsed : BenchmarkCase → String
  parts : SystemBenchmark → SystemParts
  loader : Loader
  simulators : Simulators
  order : (benchmark : SystemBenchmark) →
    List (SystemAction (Fin benchmark.workers))
  runtime : SystemBenchmark → String

/-- `evaluate_baseline` or `evaluate_system_baseline`. -/
def Evaluator.baseline (evaluator : Evaluator) :
    Benchmark → Except PyException SystemCaseMetrics
  | .service benchmark => do
      let (_, value) ← evaluateBaseline benchmark (evaluator.elapsed benchmark)
      return value
  | .system benchmark => evaluateSystemBaseline benchmark evaluator.elapsed
      (evaluator.runtime benchmark)

/-- `evaluate_kuber` or `evaluate_system_kuber`. -/
def Evaluator.kuber (evaluator : Evaluator) :
    Benchmark → Except PyException SystemCaseMetrics
  | .service benchmark => do
      let (_, value) ← evaluateKuber evaluator.graph evaluator.recursionLimit
        (evaluator.checkpoint benchmark) benchmark (evaluator.elapsed benchmark)
      return value
  | .system benchmark => evaluateSystemKuber benchmark
      (evaluator.parts benchmark) evaluator.loader evaluator.simulators
      (evaluator.order benchmark) (evaluator.runtime benchmark)

/-- The metrics of a `CaseResultRow`. -/
structure CaseResultRow where
  baseline : SystemCaseMetrics
  kuber : SystemCaseMetrics

/-- Both evaluations of a benchmark. -/
def Evaluator.row (evaluator : Evaluator) (benchmark : Benchmark) :
    Except PyException CaseResultRow := do
  let baseline ← evaluator.baseline benchmark
  let kuber ← evaluator.kuber benchmark
  return ⟨baseline, kuber⟩

/-- The `output` of an evaluation, without its texts. -/
structure EvaluationReport where
  baseline : EvaluationSummary
  kuber : EvaluationSummary
  cases : List CaseResultRow

/-- `run_evaluation`, on the benchmarks that it finds; the report is returned,
not written. -/
def runEvaluation (evaluator : Evaluator) (benchmarks : List Benchmark) :
    Except PyException EvaluationReport := do
  if benchmarks.length < 12 then
    throw ⟨.other "RuntimeError", "expected at least 12 benchmark cases, found "
      ++ toString benchmarks.length⟩
  let rows ← benchmarks.mapM evaluator.row
  return ⟨summarize (rows.map CaseResultRow.baseline),
    summarize (rows.map CaseResultRow.kuber), rows⟩

/-- Kuber passes where the baseline passes, with the same figures, and what
fails has no validated reduction. -/
structure CaseResultRow.Improves (row : CaseResultRow) : Prop where
  same : row.baseline.functionalSuccess = true → row.kuber =
    { row.baseline with runtimeSeconds := row.kuber.runtimeSeconds }
  baselineFails : row.baseline.functionalSuccess = false →
    row.baseline.validatedRiskReduction = 0
  kuberFails : row.kuber.functionalSuccess = false →
    row.kuber.validatedRiskReduction = 0

theorem validates_nothing {initial final : Policy} {success : Bool}
    {runtime : String} {incorrect repairs : Int}
    (fails : (metrics initial final success runtime incorrect
      repairs).functionalSuccess = false) :
    (metrics initial final success runtime incorrect
      repairs).validatedRiskReduction = 0 := by
  have failed : success = false := fails
  rw [failed]
  rfl

section Rows

variable {evaluator : Evaluator} {benchmarks : List Benchmark}
  {rows : List CaseResultRow}

theorem runEvaluation_eq_ok_iff {report : EvaluationReport} :
    runEvaluation evaluator benchmarks = .ok report ↔
      12 ≤ benchmarks.length ∧
        ∃ rows, benchmarks.mapM evaluator.row = .ok rows ∧
          report = ⟨summarize (rows.map CaseResultRow.baseline),
            summarize (rows.map CaseResultRow.kuber), rows⟩ := by
  rw [runEvaluation]
  split_ifs with few
  · constructor
    · intro returned
      cases returned
    · rintro ⟨many, -⟩
      exact absurd few (Nat.not_lt.mpr many)
  · constructor
    · intro returned
      obtain ⟨rows, evaluated, made⟩ := bind_eq_ok_iff.mp returned
      exact ⟨Nat.le_of_not_lt few, rows, evaluated,
        (Except.ok.inj made).symm⟩
    · rintro ⟨-, rows, evaluated, rfl⟩
      exact bind_eq_ok_iff.mpr ⟨rows, evaluated, rfl⟩

theorem service_improves {benchmark : BenchmarkCase}
    {baseline : Policy × SystemCaseMetrics}
    (enough : evaluator.graph.WithinLimit evaluator.recursionLimit)
    (evaluated : evaluateBaseline benchmark (evaluator.elapsed benchmark) =
      .ok baseline) :
    ∃ kuber, evaluateKuber evaluator.graph evaluator.recursionLimit
        (evaluator.checkpoint benchmark) benchmark
        (evaluator.elapsed benchmark) = .ok kuber ∧
      CaseResultRow.Improves ⟨baseline.2, kuber.2⟩ := by
  obtain ⟨kuber, returned, decides⟩ := evaluateKuber_of_baseline
    (evaluator.checkpoint benchmark) (evaluator.elapsed benchmark) enough
    evaluated
  refine ⟨kuber, returned, fun passes => ?_, fun fails => ?_, fun fails => ?_⟩
  · rw [decides.eq_of_success evaluated passes]
  · obtain ⟨-, values⟩ := evaluateBaseline_ok evaluated
    dsimp only at fails ⊢
    rw [values] at fails ⊢
    exact validates_nothing fails
  · cases decides with
    | verified => cases fails
    | repaired => cases fails
    | restored => rfl

/-- The cases of a system have different names. -/
def Benchmark.Distinct : Benchmark → Prop
  | .service _ => True
  | .system benchmark =>
      (benchmark.cases.map BenchmarkCase.identifier).Nodup

theorem system_improves {benchmark : SystemBenchmark}
    (distinct : (benchmark.cases.map BenchmarkCase.identifier).Nodup)
    {kuber : SystemCaseMetrics}
    (evaluated : evaluator.kuber (.system benchmark) = .ok kuber) :
    ∃ baseline, evaluator.baseline (.system benchmark) = .ok baseline ∧
      CaseResultRow.Improves ⟨baseline, kuber⟩ := by
  obtain ⟨validates, baseline, returned, figures⟩ := system_figures distinct
    evaluated evaluator.elapsed (evaluator.runtime benchmark)
  refine ⟨baseline, returned, fun passes => ?_, fun fails => ?_, validates⟩
  · rw [figures passes]
  · rw [evaluateSystemBaseline] at returned
    obtain ⟨values, -, made⟩ := bind_eq_ok_iff.mp returned
    cases pure_eq_ok_iff.mp made
    exact if_neg (Bool.eq_false_iff.mp fails)

/-- What has to return for a row: the baseline of a service, and Kuber on a
system. -/
def Evaluator.Evaluates (evaluator : Evaluator) : Benchmark → Prop
  | .service benchmark =>
      ∃ baseline, evaluator.baseline (.service benchmark) = .ok baseline
  | .system benchmark =>
      ∃ kuber, evaluator.kuber (.system benchmark) = .ok kuber

theorem row_ok {benchmark : Benchmark} {row : CaseResultRow} :
    evaluator.row benchmark = .ok row ↔
      evaluator.baseline benchmark = .ok row.baseline ∧
        evaluator.kuber benchmark = .ok row.kuber := by
  constructor
  · intro evaluated
    obtain ⟨baseline, returned, rest⟩ := bind_eq_ok_iff.mp evaluated
    obtain ⟨kuber, also, made⟩ := bind_eq_ok_iff.mp rest
    cases pure_eq_ok_iff.mp made
    exact ⟨returned, also⟩
  · rintro ⟨returned, also⟩
    rw [Evaluator.row, returned, also]
    rfl

theorem row_improves {benchmark : Benchmark}
    (enough : evaluator.graph.WithinLimit evaluator.recursionLimit)
    (distinct : benchmark.Distinct)
    (evaluates : evaluator.Evaluates benchmark) :
    ∃ row, evaluator.row benchmark = .ok row ∧ row.Improves := by
  cases benchmark with
  | service benchmark =>
      obtain ⟨baseline, evaluated⟩ := evaluates
      obtain ⟨first, returned, made⟩ := bind_eq_ok_iff.mp evaluated
      cases pure_eq_ok_iff.mp made
      obtain ⟨kuber, also, improves⟩ := service_improves enough returned
      refine ⟨⟨first.2, kuber.2⟩, row_ok.mpr ⟨evaluated, ?_⟩, improves⟩
      rw [Evaluator.kuber, also]
      rfl
  | system benchmark =>
      obtain ⟨kuber, evaluated⟩ := evaluates
      obtain ⟨baseline, returned, improves⟩ :=
        system_improves distinct evaluated
      exact ⟨⟨baseline, kuber⟩, row_ok.mpr ⟨returned, evaluated⟩, improves⟩

theorem evaluates_of_row {benchmark : Benchmark} {row : CaseResultRow}
    (evaluated : evaluator.row benchmark = .ok row) :
    evaluator.Evaluates benchmark := by
  obtain ⟨baseline, kuber⟩ := row_ok.mp evaluated
  cases benchmark with
  | service benchmark => exact ⟨_, baseline⟩
  | system benchmark => exact ⟨_, kuber⟩

theorem exists_rows_iff
    (enough : evaluator.graph.WithinLimit evaluator.recursionLimit)
    (distinct : ∀ benchmark ∈ benchmarks, benchmark.Distinct) :
    (∃ rows, benchmarks.mapM evaluator.row = .ok rows) ↔
      ∀ benchmark ∈ benchmarks, evaluator.Evaluates benchmark := by
  constructor
  · rintro ⟨rows, evaluated⟩ benchmark member
    obtain ⟨row, -, made⟩ :=
      forall₂_mem_left (mapM_eq_ok_iff.mp evaluated) member
    exact evaluates_of_row made
  · intro each
    apply mapM_returns
    intro benchmark member
    obtain ⟨row, made, -⟩ :=
      row_improves enough (distinct benchmark member) (each benchmark member)
    exact ⟨row, made⟩

theorem rows_improve
    (enough : evaluator.graph.WithinLimit evaluator.recursionLimit)
    (distinct : ∀ benchmark ∈ benchmarks, benchmark.Distinct)
    (evaluated : benchmarks.mapM evaluator.row = .ok rows) :
    ∀ row ∈ rows, row.Improves := by
  intro row member
  obtain ⟨benchmark, among, returned⟩ :=
    forall₂_mem_right (mapM_eq_ok_iff.mp evaluated) member
  obtain ⟨other, again, improves⟩ :=
    row_improves enough (distinct benchmark among) (evaluates_of_row returned)
  cases returned.symm.trans again
  exact improves

/-- The rows that the baseline fails. -/
def failedRows (rows : List CaseResultRow) : List CaseResultRow :=
  rows.filter fun row => !row.baseline.functionalSuccess

theorem validated_sum (each : ∀ row ∈ rows, row.Improves) :
    ((rows.map CaseResultRow.kuber).map
        SystemCaseMetrics.validatedRiskReduction).sum =
      ((rows.map CaseResultRow.baseline).map
        SystemCaseMetrics.validatedRiskReduction).sum +
      ((failedRows rows).map fun row =>
        row.kuber.validatedRiskReduction).sum := by
  induction rows with
  | nil => exact (add_zero _).symm
  | cons row rows induction =>
      obtain ⟨improves, others⟩ := List.forall_mem_cons.mp each
      have later := induction others
      simp only [List.map_cons, List.sum_cons]
      rw [later]
      cases passes : row.baseline.functionalSuccess with
      | true =>
          have same := congrArg SystemCaseMetrics.validatedRiskReduction
            (improves.same passes)
          have skipped : failedRows (row :: rows) = failedRows rows :=
            List.filter_cons_of_neg (by simp [passes])
          rw [skipped, same, add_assoc]
      | false =>
          have kept : failedRows (row :: rows) = row :: failedRows rows :=
            List.filter_cons_of_pos (by simp [passes])
          rw [kept, improves.baselineFails passes, List.map_cons,
            List.sum_cons, zero_add, add_left_comm]

/-- No fewer cases pass under Kuber; where no more do, no others do. -/
theorem successes_le (each : ∀ row ∈ rows, row.Improves) :
    rows.countP (fun row => row.baseline.functionalSuccess) ≤
      rows.countP (fun row => row.kuber.functionalSuccess) := by
  apply List.countP_mono_left
  intro row member passes
  rw [(each row member).same passes]
  exact passes

theorem failedRows_fail (each : ∀ row ∈ rows, row.Improves)
    (equal : rows.countP (fun row => row.baseline.functionalSuccess) =
      rows.countP (fun row => row.kuber.functionalSuccess)) :
    ∀ row ∈ failedRows rows, row.kuber.functionalSuccess = false := by
  induction rows with
  | nil => exact List.forall_mem_nil _
  | cons row rows induction =>
      obtain ⟨improves, others⟩ := List.forall_mem_cons.mp each
      have fewer := successes_le others
      rw [List.countP_cons, List.countP_cons] at equal
      cases passes : row.baseline.functionalSuccess with
      | true =>
          have passesToo : row.kuber.functionalSuccess = true := by
            rw [improves.same passes]
            exact passes
          have skipped : failedRows (row :: rows) = failedRows rows :=
            List.filter_cons_of_neg (by simp [passes])
          rw [passes, passesToo] at equal
          rw [skipped]
          exact induction others (Nat.add_right_cancel equal)
      | false =>
          have kept : failedRows (row :: rows) = row :: failedRows rows :=
            List.filter_cons_of_pos (by simp [passes])
          rw [passes, if_neg Bool.false_ne_true, Nat.add_zero] at equal
          cases fails : row.kuber.functionalSuccess with
          | true =>
              rw [fails, if_pos rfl] at equal
              omega
          | false =>
              rw [fails, if_neg Bool.false_ne_true, Nat.add_zero] at equal
              rw [kept]
              exact List.forall_mem_cons.mpr ⟨fails, induction others equal⟩

theorem summarize_column (column : CaseResultRow → SystemCaseMetrics)
    (nonempty : rows ≠ []) :
    (summarize (rows.map column)).cases = rows.length ∧
    (summarize (rows.map column)).functionalSuccesses =
      rows.countP (fun row => (column row).functionalSuccess) ∧
    (summarize (rows.map column)).averageValidatedRiskReduction =
      ((rows.map column).map SystemCaseMetrics.validatedRiskReduction).sum /
        rows.length := by
  have counted : ¬rows.length = 0 :=
    fun empty => nonempty (List.length_eq_zero_iff.mp empty)
  simp only [summarize, List.length_map, if_neg counted, List.countP_map,
    true_and, and_true]
  rfl

theorem summaries_compare (each : ∀ row ∈ rows, row.Improves)
    (nonempty : rows ≠ []) :
    (summarize (rows.map CaseResultRow.baseline)).functionalSuccesses ≤
      (summarize (rows.map CaseResultRow.kuber)).functionalSuccesses ∧
    (summarize (rows.map
        CaseResultRow.kuber)).averageValidatedRiskReduction =
      (summarize (rows.map
        CaseResultRow.baseline)).averageValidatedRiskReduction +
        ((failedRows rows).map fun row =>
          row.kuber.validatedRiskReduction).sum / rows.length ∧
    ((summarize (rows.map CaseResultRow.baseline)).functionalSuccesses =
        (summarize (rows.map CaseResultRow.kuber)).functionalSuccesses →
      (summarize (rows.map
          CaseResultRow.kuber)).averageValidatedRiskReduction =
        (summarize (rows.map
          CaseResultRow.baseline)).averageValidatedRiskReduction) := by
  obtain ⟨-, passedBefore, averageBefore⟩ :=
    summarize_column CaseResultRow.baseline nonempty
  obtain ⟨-, passedAfter, averageAfter⟩ :=
    summarize_column CaseResultRow.kuber nonempty
  rw [passedBefore, passedAfter, averageBefore, averageAfter,
    validated_sum each, add_div]
  refine ⟨successes_le each, rfl, fun equal => ?_⟩
  have nothing : ∀ reduction ∈ (failedRows rows).map (fun row =>
      row.kuber.validatedRiskReduction), reduction = 0 := by
    rintro _ member
    obtain ⟨row, failed, rfl⟩ := List.mem_map.mp member
    have kept : row ∈ rows := List.mem_of_mem_filter failed
    exact (each row kept).kuberFails (failedRows_fail each equal row failed)
  rw [List.sum_eq_zero nothing, zero_div, add_zero]

end Rows

/-- The report exists exactly when there are twelve benchmarks, the baseline
can evaluate those of one service, and the evaluations of the systems over
events return.  In it no fewer benchmarks pass under Kuber; those that the
baseline passes have the same figures.  What Kuber validates in the others is
by how much its average differs, and where no more benchmarks pass, the
averages are equal. -/
theorem report_compares_baseline_and_kuber (evaluator : Evaluator)
    (benchmarks : List Benchmark)
    (enough : evaluator.graph.WithinLimit evaluator.recursionLimit)
    (distinct : ∀ benchmark ∈ benchmarks, benchmark.Distinct) :
    ((∃ report, runEvaluation evaluator benchmarks = .ok report) ↔
      12 ≤ benchmarks.length ∧
        ∀ benchmark ∈ benchmarks, evaluator.Evaluates benchmark) ∧
    ∀ report, runEvaluation evaluator benchmarks = .ok report →
      report.baseline.cases = benchmarks.length ∧
      report.kuber.cases = benchmarks.length ∧
      (∀ row ∈ report.cases, row.baseline.functionalSuccess = true →
        row.kuber =
          { row.baseline with runtimeSeconds := row.kuber.runtimeSeconds }) ∧
      report.baseline.functionalSuccesses ≤
        report.kuber.functionalSuccesses ∧
      report.kuber.averageValidatedRiskReduction =
        report.baseline.averageValidatedRiskReduction +
          ((report.cases.filter fun row =>
            !row.baseline.functionalSuccess).map fun row =>
              row.kuber.validatedRiskReduction).sum / benchmarks.length ∧
      (report.baseline.functionalSuccesses =
          report.kuber.functionalSuccesses →
        report.kuber.averageValidatedRiskReduction =
          report.baseline.averageValidatedRiskReduction) := by
  constructor
  · constructor
    · rintro ⟨report, returned⟩
      obtain ⟨many, rows, evaluated, -⟩ := runEvaluation_eq_ok_iff.mp returned
      exact ⟨many, (exists_rows_iff enough distinct).mp ⟨rows, evaluated⟩⟩
    · rintro ⟨many, each⟩
      obtain ⟨rows, evaluated⟩ := (exists_rows_iff enough distinct).mpr each
      exact ⟨_, runEvaluation_eq_ok_iff.mpr ⟨many, rows, evaluated, rfl⟩⟩
  · intro report returned
    obtain ⟨many, rows, evaluated, rfl⟩ := runEvaluation_eq_ok_iff.mp returned
    have each := rows_improve enough distinct evaluated
    have length : rows.length = benchmarks.length :=
      (mapM_eq_ok_iff.mp evaluated).length_eq.symm
    have nonempty : rows ≠ [] := by
      rintro rfl
      rw [← length] at many
      cases many
    obtain ⟨fewer, average, unchanged⟩ := summaries_compare each nonempty
    rw [← length]
    exact ⟨(summarize_column _ nonempty).1, (summarize_column _ nonempty).1,
      fun row member => (each row member).same, fewer, average, unchanged⟩

namespace TwoCases

/-- The steps of the workers in an evaluation of the two cases; a system with
other than two workers is interrupted. -/
def order (benchmark : SystemBenchmark) :
    List (SystemAction (Fin benchmark.workers)) :=
  if two : benchmark.workers = 2 then two ▸ run else []

def evaluator : Evaluator where
  graph := plainGraph
  checkpoint := fun _ => emptyThread
  elapsed := fun _ => "0.1"
  parts := fun _ => parts
  loader := requestLoader
  simulators := simulators
  order := order
  runtime := fun _ => "0.2"

/-- Eleven times the pod watcher, and the system of two cases. -/
def benchmarks : List Benchmark :=
  .system benchmark :: List.replicate 11 (.service podWatcher)

end TwoCases

open TwoCases in
/-- Kuber passes as often as the baseline or more often. -/
theorem report_compares_baseline_and_kuber_twoCases :
    ∃ report, runEvaluation evaluator benchmarks = .ok report ∧
      report.baseline.functionalSuccesses ≤
        report.kuber.functionalSuccesses := by
  have watchers : ∀ benchmark ∈ List.replicate 11 (Benchmark.service
      podWatcher), benchmark = .service podWatcher :=
    fun _ member => List.eq_of_mem_replicate member
  have system : evaluator.Evaluates (.system benchmark) := ⟨_, rfl⟩
  obtain ⟨exists_iff, compares⟩ := report_compares_baseline_and_kuber
    evaluator benchmarks (by decide) (by
      intro benchmark member
      rcases List.mem_cons.mp member with rfl | watcher
      · exact (by decide : (cases.map BenchmarkCase.identifier).Nodup)
      · rw [watchers benchmark watcher]
        trivial)
  obtain ⟨report, returned⟩ := exists_iff.mpr ⟨by decide, by
    intro benchmark member
    rcases List.mem_cons.mp member with rfl | watcher
    · exact system
    · rw [watchers benchmark watcher]
      exact ⟨_, rfl⟩⟩
  exact ⟨report, returned, (compares report returned).2.2.2.1⟩

end Kuber.Judge

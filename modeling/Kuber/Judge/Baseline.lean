import Kuber.Agent.Accounting
import Kuber.Agent.Convergence
import Kuber.Judge.Evaluation
import Kuber.Rules.RepairUnion

/-!
# The baseline against Kuber

The observed-only baseline applies the first candidate and verifies it once.
A run of Kuber on the same case starts with the same candidate, and since a
simulator reports everything that is denied, its first repair restores all
that the tests need.  So Kuber passes whenever the baseline does, with the
same policy, and otherwise after one repair or not at all.
-/

namespace Kuber.Judge

open Kuber.Agent Kuber.Library Kuber.Rules

/-- `run_observed_only`. -/
def runObservedOnly (current : Policy) (observed : List KubeEvent) :
    Except PyException Policy :=
  observedOnlyPolicy current observed

/-- `evaluate_baseline`, on a new simulator. -/
def evaluateBaseline (benchmark : BenchmarkCase) (elapsed : String) :
    Except PyException (Policy × SystemCaseMetrics) :=
  let environment := simulatorEnvironment benchmark
  let evaluation : Raising PyException Policy (Policy × SystemCaseMetrics) := do
    let candidate ← Raising.ofExcept
      (runObservedOnly benchmark.initialPolicy benchmark.observedEvents)
    environment.applyPolicy candidate
    let result ← environment.verifyWorkload
    return (candidate, metrics benchmark.initialPolicy candidate result.passed
      elapsed)
  (evaluation benchmark.initialPolicy).1

theorem evaluateBaseline_eq (benchmark : BenchmarkCase) (elapsed : String) :
    evaluateBaseline benchmark elapsed =
      (observedOnlyPolicy benchmark.initialPolicy
        benchmark.observedEvents).map fun candidate =>
          (candidate, metrics benchmark.initialPolicy candidate
            (simulate benchmark candidate).passed elapsed) := by
  rw [evaluateBaseline, runObservedOnly]
  cases observedOnlyPolicy benchmark.initialPolicy
    benchmark.observedEvents <;> rfl

section Rounds

variable {benchmark : BenchmarkCase} {candidate : Policy}
  {earlier rest : List EnvironmentCall} {result : VerificationResult}
  {failure : FailureDescription} {start after : Policy}

theorem simulated_verification
    (recorded : (simulatorEnvironment benchmark).Recorded
      (earlier ++ (verifiedRound candidate result ++ rest)) start after) :
    result = simulate benchmark candidate := by
  obtain ⟨before, -, applied, application, verified, verification, -⟩ :=
    EnvironmentAdapter.recorded_append.mp recorded
  cases application
  cases verification
  rfl

theorem simulated_failure
    (recorded : (simulatorEnvironment benchmark).Recorded
      (earlier ++ failedRound candidate result failure ++ rest) start after) :
    result = simulate benchmark candidate ∧
      failure = simulatedFailure result := by
  rw [failedRound, List.append_assoc, List.append_assoc] at recorded
  refine ⟨simulated_verification recorded, ?_⟩
  obtain ⟨before, -, applied, -, verified, -, described, description, -⟩ :=
    EnvironmentAdapter.recorded_append.mp recorded
  cases description
  rfl

end Rounds

section Runs

variable {benchmark : BenchmarkCase} {graph : WorkloadOptimizationGraph}
  {candidate first original : Policy} {observed : List KubeEvent}
  {count : Nat} {calls rest : List EnvironmentCall} {after : Policy}

/-- The required calls that a candidate denies. -/
def deniedBy (benchmark : BenchmarkCase) (candidate : Policy) :
    List KubeEvent :=
  (simulate benchmark candidate).deniedEvents

theorem simulate_failed_iff :
    (simulate benchmark candidate).passed = false ↔
      deniedBy benchmark candidate ≠ [] := by
  rw [← Bool.not_eq_true, simulate_passed_iff, deniedBy, Ne,
    List.eq_nil_iff_forall_not_mem]
  simp only [mem_simulate_deniedEvents_iff, not_and, Bool.not_eq_false]

theorem missingEvents_simulatedFailure {result : VerificationResult}
    (denied : result.deniedEvents ≠ []) :
    (simulatedFailure result).authorizationDenial = true ∧
      (simulatedFailure result).missingEvents = result.deniedEvents := by
  rw [simulatedFailure, if_pos denied]
  exact ⟨rfl, rfl⟩

/-- A repair by all that was denied lets every test pass. -/
theorem deniedBy_repaired {repaired : Policy}
    (returned : Rules.repairPolicy candidate (deniedBy benchmark candidate)
      original = .ok repaired) : deniedBy benchmark repaired = [] := by
  obtain ⟨-, supported, sameKeys, -⟩ := repairPolicy_ok returned
  rw [← not_not (a := deniedBy benchmark repaired = []), ← Ne,
    ← simulate_failed_iff, Bool.not_eq_false, simulate_passed_iff]
  intro event required
  rw [isAuthorized_iff, sameKeys]
  by_cases before : isAuthorized candidate event = true
  · refine allowed_mono ?_ (isAuthorized_iff.mp before)
    exact Set.subset_union_left
  · have denied : event ∈ deniedBy benchmark candidate :=
      mem_simulate_deniedEvents_iff.mpr
        ⟨required, Bool.eq_false_of_not_eq_true before⟩
    refine allowed_mono ?_ (covered_by_eventKeys supported denied)
    exact Set.subset_union_right

theorem simulated_reads
    (attempt : Attempt graph original observed count candidate calls)
    (recorded : (simulatorEnvironment benchmark).Recorded (calls ++ rest)
      benchmark.initialPolicy after) :
    original = benchmark.initialPolicy ∧
      observed = benchmark.observedEvents :=
  (simulator_honest benchmark).attempt_reads attempt recorded

theorem simulated_attempt
    (proposed : observedOnlyPolicy original observed = .ok first)
    (attempt : Attempt graph original observed count candidate calls)
    (recorded : (simulatorEnvironment benchmark).Recorded (calls ++ rest)
      benchmark.initialPolicy after) :
    (count = 0 ∧ candidate = first ∧ calls = prologue original observed) ∨
      count = 1 ∧ deniedBy benchmark first ≠ [] ∧
        0 < graph.maxRepairIterations ∧
        Rules.repairPolicy first (deniedBy benchmark first) original =
          .ok candidate ∧
        appliedPolicies calls = [first] := by
  induction attempt generalizing rest with
  | propose returned =>
      cases returned.symm.trans proposed
      exact Or.inl ⟨rfl, rfl, rfl⟩
  | repair _ affordable failing returned _ induction =>
      obtain ⟨rfl, rfl⟩ := simulated_failure recorded
      rw [List.append_assoc] at recorded
      have denied := simulate_failed_iff.mp failing
      rcases induction recorded with ⟨rfl, rfl, rfl⟩ |
        ⟨-, -, -, repaired, -⟩
      · obtain ⟨-, missing⟩ := missingEvents_simulatedFailure denied
        have repair := (verifierRepair_ok returned).2.2
        rw [missing] at repair
        exact Or.inr ⟨rfl, denied, affordable, repair, rfl⟩
      · exact absurd (deniedBy_repaired repaired) denied

theorem Attempt.proposed
    (attempt : Attempt graph original observed count candidate calls) :
    ∃ first, observedOnlyPolicy original observed = .ok first := by
  induction attempt with
  | propose returned => exact ⟨_, returned⟩
  | repair _ _ _ _ _ induction => exact induction

theorem length_lt_of_repairPolicy {repaired : Policy}
    {missing : List KubeEvent} {event : KubeEvent}
    (returned : Rules.repairPolicy candidate missing original = .ok repaired)
    (member : event ∈ missing)
    (denied : isAuthorized candidate event = false) :
    candidate.permissions.length < repaired.permissions.length := by
  obtain ⟨-, supported, sameKeys, -⟩ := repairPolicy_ok returned
  obtain ⟨permission, made⟩ := supported event member
  have keyed := eventKey?_eq_some_iff.mpr ⟨permission, made, rfl⟩
  have isMissing : permission.key ∈ missingKeys missing candidate :=
    mem_missingKeys_iff.mpr ⟨event, member, denied, keyed⟩
  have grown : candidate.keys ⊆ repaired.keys := by
    rw [sameKeys]
    exact Set.subset_union_left
  have restored : permission.key ∈ repaired.keys := by
    rw [sameKeys]
    exact Or.inr ⟨event, member, keyed⟩
  exact Policy.length_lt_of_keys_subset grown restored
    (missingKey_not_mem isMissing)

theorem attemptRepair_simulated {repaired : Policy}
    (denied : deniedBy benchmark candidate ≠ [])
    (returned : Rules.repairPolicy candidate (deniedBy benchmark candidate)
      original = .ok repaired) :
    WorkloadOptimizationGraph.attemptRepair candidate
        (simulatedFailure (simulate benchmark candidate)) original =
      .ok (some repaired) := by
  obtain ⟨isDenial, missing⟩ := missingEvents_simulatedFailure denied
  obtain ⟨event, member⟩ := List.exists_mem_of_ne_nil _ denied
  have larger := length_lt_of_repairPolicy returned member
    (mem_simulate_deniedEvents_iff.mp member).2
  have repair : verifierRepair candidate
      (simulatedFailure (simulate benchmark candidate)) original =
        .ok repaired := by
    rw [verifierRepair, missing, if_neg]
    · exact returned
    · rintro (unrelated | empty)
      · rw [isDenial] at unrelated
        cases unrelated
      · exact denied empty
  rw [WorkloadOptimizationGraph.attemptRepair, repair]
  exact if_neg (not_le.mpr larger)

end Runs

/-- The counters of a run that returns. -/
theorem run_balanced {σ : Type} {adapter : EnvironmentAdapter σ} {start : σ}
    {graph : WorkloadOptimizationGraph} {recursionLimit : Nat}
    {request : WorkloadRequest} {persisted : WorkloadGraphState}
    {execution : WorkloadExecution} {session : Session adapter start}
    (run : runFrom graph recursionLimit request persisted adapter start =
      (.ok execution, session)) :
    Balanced graph.maxRepairIterations (appliedPolicies session.calls)
      execution := by
  let initial :=
    WorkloadOptimizationGraph.initialState adapter.name request persisted
  have before : ((assertions graph adapter start).conjoin
      (accounting graph adapter start)).holds .loadServiceContext initial
      (Session.opened adapter start) := ⟨⟨rfl, rfl, rfl⟩, rfl, rfl, rfl⟩
  obtain ⟨atEnd, -⟩ := (accounting_inductive graph adapter start).invoke_atEnd
    recursionLimit _ _ _ before
  unfold runFrom WorkloadOptimizationGraph.run at run
  cases invoked : (graph.compiled adapter start).invoke recursionLimit
      .loadServiceContext initial (Session.opened adapter start) with
  | mk result reached =>
      rw [invoked] at run atEnd
      cases result with
      | finished final =>
          obtain ⟨returned, rfl⟩ := Prod.mk.inj run
          exact Ledger.balanced atEnd.2 returned
      | raised error => cases (Prod.mk.inj run).1
      | exhausted => cases (Prod.mk.inj run).1

/-- What Kuber makes of a case whose first candidate is `candidate`. -/
inductive Decides (graph : WorkloadOptimizationGraph)
    (benchmark : BenchmarkCase) (candidate : Policy) (elapsed : String) :
    Policy × SystemCaseMetrics → Prop
  | verified : deniedBy benchmark candidate = [] →
      Decides graph benchmark candidate elapsed (candidate,
        metrics benchmark.initialPolicy candidate true elapsed)
  | repaired {repaired : Policy} : deniedBy benchmark candidate ≠ [] →
      0 < graph.maxRepairIterations →
      Rules.repairPolicy candidate (deniedBy benchmark candidate)
        benchmark.initialPolicy = .ok repaired →
      Decides graph benchmark candidate elapsed (repaired,
        metrics benchmark.initialPolicy repaired true elapsed
          (repaired.permissions.length - candidate.permissions.length : Nat) 1)
  | restored : deniedBy benchmark candidate ≠ [] →
      (graph.maxRepairIterations = 0 ∨
        ¬ Repairable benchmark.initialPolicy (deniedBy benchmark candidate)) →
      Decides graph benchmark candidate elapsed (benchmark.initialPolicy,
        metrics benchmark.initialPolicy benchmark.initialPolicy false elapsed)

section Decisions

variable {graph : WorkloadOptimizationGraph} {benchmark : BenchmarkCase}
  {candidate : Policy} {execution : WorkloadExecution}
  {session : Session (simulatorEnvironment benchmark) benchmark.initialPolicy}

/-- The metrics of an execution on a simulator. -/
def measured (benchmark : BenchmarkCase) (execution : WorkloadExecution)
    (elapsed : String) : Policy × SystemCaseMetrics :=
  (execution.finalPolicy, metrics benchmark.initialPolicy
    execution.finalPolicy (execution.verification.passed &&
      execution.accepted) elapsed execution.incorrectRemovals
    execution.repairIterations)

theorem Balanced.removals {limit : Nat} {applied : List Policy}
    {first last : Policy} (balanced : Balanced limit applied execution)
    (head : applied.head? = some first)
    (latest : applied.getLast? = some last) :
    execution.incorrectRemovals =
      last.permissions.length - first.permissions.length := by
  obtain ⟨_, _, sameHead, sameLast, tally⟩ := balanced.tally
  cases head.symm.trans sameHead
  cases latest.symm.trans sameLast
  rw [Policy.ncard_keys, Policy.ncard_keys] at tally
  omega

theorem measured_decides
    (proposed : observedOnlyPolicy benchmark.initialPolicy
      benchmark.observedEvents = .ok candidate)
    (finishes : Finishes graph execution session.calls)
    (balanced : Balanced graph.maxRepairIterations
      (appliedPolicies session.calls) execution) (elapsed : String) :
    Decides graph benchmark candidate elapsed
      (measured benchmark execution elapsed) := by
  have recorded := session.recorded
  rw [measured, verified_and_accepted finishes]
  cases finishes with
  | @accepted observed earlier accepted attempt passed made =>
      rw [made] at recorded balanced
      obtain ⟨original, rfl⟩ := simulated_reads attempt recorded
      rw [original] at attempt
      have verification : execution.verification =
          simulate benchmark execution.finalPolicy := by
        rw [← List.append_nil (verifiedRound _ _)] at recorded
        exact simulated_verification recorded
      rw [accepted]
      rcases simulated_attempt proposed attempt recorded with
        ⟨repairs, rfl, rfl⟩ | ⟨repairs, denied, positive, repair, applied⟩
      · have removals : execution.incorrectRemovals =
            execution.finalPolicy.permissions.length -
              execution.finalPolicy.permissions.length :=
          Balanced.removals balanced rfl rfl
        rw [Nat.sub_self] at removals
        rw [repairs, removals]
        apply Decides.verified
        rw [verification] at passed
        by_contra denied
        rw [simulate_failed_iff.mpr denied] at passed
        cases passed
      · rw [appliedPolicies_append, applied] at balanced
        have removals := Balanced.removals balanced rfl rfl
        rw [repairs, removals]
        exact .repaired denied positive repair
  | @rejected observed last earlier failure rejected attempt failing givesUp
      final made =>
      rw [made, List.append_assoc] at recorded
      obtain ⟨original, rfl⟩ := simulated_reads attempt recorded
      rw [original] at attempt givesUp final
      rw [← List.append_assoc] at recorded
      obtain ⟨verification, rfl⟩ := simulated_failure recorded
      rw [verification] at failing givesUp
      have denied := simulate_failed_iff.mp failing
      rw [List.append_assoc] at recorded
      rw [rejected, final]
      rcases simulated_attempt proposed attempt recorded with
        ⟨repairs, rfl, rfl⟩ | ⟨-, -, -, repair, -⟩
      · rw [made] at balanced
        have removals : execution.incorrectRemovals =
            last.permissions.length - last.permissions.length :=
          Balanced.removals balanced rfl rfl
        rw [Nat.sub_self] at removals
        rw [repairs, removals]
        refine .restored denied ?_
        rcases givesUp with unrelated | exhausted | hopeless
        · rw [(missingEvents_simulatedFailure denied).1] at unrelated
          cases unrelated
        · rw [repairs] at exhausted
          exact Or.inl (Nat.le_zero.mp exhausted)
        · refine Or.inr fun repairable => ?_
          obtain ⟨repaired, returned⟩ :=
            (repairPolicy_succeeds_iff last).mpr repairable
          rw [attemptRepair_simulated denied returned] at hopeless
          cases hopeless
      · exact absurd (deniedBy_repaired repair) denied

variable {recursionLimit : Nat}

/-- An evaluation that returns has decided on a candidate, whatever the limit
of the engine. -/
theorem evaluateKuber_decides {checkpoint : WorkloadGraphState}
    {elapsed : String} {evaluated : Policy × SystemCaseMetrics}
    (returned : evaluateKuber graph recursionLimit checkpoint benchmark
      elapsed = .ok evaluated) :
    ∃ candidate, observedOnlyPolicy benchmark.initialPolicy
        benchmark.observedEvents = .ok candidate ∧
      Decides graph benchmark candidate elapsed evaluated := by
  rw [evaluateKuber] at returned
  cases run : runFrom graph recursionLimit
      { runId := "evaluation-" ++ benchmark.identifier } checkpoint
      (simulatorEnvironment benchmark) benchmark.initialPolicy with
  | mk outcome session =>
  rw [run] at returned
  cases outcome with
  | error error => cases returned
  | ok execution =>
      obtain ⟨-, ends⟩ := run_ends graph recursionLimit _ checkpoint run
      have recorded := session.recorded
      cases returned
      obtain ⟨first, proposed⟩ : ∃ first, observedOnlyPolicy
          benchmark.initialPolicy benchmark.observedEvents = .ok first := by
        cases ends with
        | accepted _ attempt _ made =>
            rw [made] at recorded
            obtain ⟨original, rfl⟩ := simulated_reads attempt recorded
            rw [original] at attempt
            exact Attempt.proposed attempt
        | rejected _ attempt _ _ _ made =>
            rw [made, List.append_assoc] at recorded
            obtain ⟨original, rfl⟩ := simulated_reads attempt recorded
            rw [original] at attempt
            exact Attempt.proposed attempt
      exact ⟨first, proposed,
        measured_decides proposed ends (run_balanced run) elapsed⟩

/-- The evaluation of a case: it raises what the reducer raises, or decides. -/
theorem evaluateKuber_cases (checkpoint : WorkloadGraphState)
    (elapsed : String) (enough : graph.WithinLimit recursionLimit) :
    match observedOnlyPolicy benchmark.initialPolicy
        benchmark.observedEvents with
    | .error error => evaluateKuber graph recursionLimit checkpoint benchmark
        elapsed = .error error
    | .ok candidate => ∃ evaluated, evaluateKuber graph recursionLimit
        checkpoint benchmark elapsed = .ok evaluated ∧
          Decides graph benchmark candidate elapsed evaluated := by
  have honest := simulator_honest benchmark
  cases run : runFrom graph recursionLimit
      { runId := "evaluation-" ++ benchmark.identifier } checkpoint
      (simulatorEnvironment benchmark) benchmark.initialPolicy with
  | mk outcome session =>
  obtain ⟨-, ends⟩ := run_ends graph recursionLimit _ checkpoint run
  have recorded := session.recorded
  cases outcome with
  | ok execution =>
      have evaluated : evaluateKuber graph recursionLimit checkpoint benchmark
          elapsed = .ok (measured benchmark execution elapsed) := by
        rw [evaluateKuber, run]
        rfl
      obtain ⟨candidate, proposed, decides⟩ := evaluateKuber_decides evaluated
      rw [proposed]
      exact ⟨_, evaluated, decides⟩
  | error error =>
      have evaluated : evaluateKuber graph recursionLimit checkpoint benchmark
          elapsed = .error error := by
        rw [evaluateKuber, run]
        rfl
      rcases ends with ⟨-, ⟨call, member, raised⟩ |
        ⟨original, seen, made, refused⟩⟩ | tooSmall
      · rw [honest.not_raised recorded call member] at raised
        cases raised
      · rw [made, ← List.append_nil (prologue original seen)] at recorded
        obtain ⟨same, rfl⟩ := honest.prologue_eq recorded
        rw [same, id] at refused
        rw [refused]
        exact evaluated
      · exact absurd enough tooSmall

theorem evaluateBaseline_ok {elapsed : String}
    {baseline : Policy × SystemCaseMetrics}
    (evaluated : evaluateBaseline benchmark elapsed = .ok baseline) :
    observedOnlyPolicy benchmark.initialPolicy benchmark.observedEvents =
        .ok baseline.1 ∧
      baseline.2 = metrics benchmark.initialPolicy baseline.1
        (simulate benchmark baseline.1).passed elapsed := by
  rw [evaluateBaseline_eq] at evaluated
  cases proposed : observedOnlyPolicy benchmark.initialPolicy
      benchmark.observedEvents with
  | error error =>
      rw [proposed] at evaluated
      cases evaluated
  | ok candidate =>
      rw [proposed] at evaluated
      cases evaluated
      exact ⟨rfl, rfl⟩

theorem Decides.success_iff {elapsed : String}
    {evaluated : Policy × SystemCaseMetrics}
    (decides : Decides graph benchmark candidate elapsed evaluated) :
    evaluated.2.functionalSuccess = true ↔
      (simulate benchmark candidate).passed = true ∨
        0 < graph.maxRepairIterations ∧
          Repairable benchmark.initialPolicy
            (deniedBy benchmark candidate) := by
  have passed_iff : (simulate benchmark candidate).passed = true ↔
      deniedBy benchmark candidate = [] := by
    rw [← Bool.not_eq_false, simulate_failed_iff, not_not]
  rw [passed_iff]
  cases decides with
  | verified nothing => exact iff_of_true rfl (Or.inl nothing)
  | repaired _ positive returned =>
      exact iff_of_true rfl (Or.inr ⟨positive,
        (repairPolicy_succeeds_iff candidate).mp ⟨_, returned⟩⟩)
  | restored denied hopeless =>
      refine iff_of_false (by simp [metrics]) ?_
      rintro (nothing | ⟨positive, repairable⟩)
      · exact denied nothing
      · rcases hopeless with zero | unrepairable
        · omega
        · exact unrepairable repairable

theorem repairable_deniedBy_iff :
    Repairable benchmark.initialPolicy (deniedBy benchmark candidate) ↔
      ∀ event ∈ benchmark.requiredEvents, isAuthorized candidate event = false →
        isAuthorized benchmark.initialPolicy event = true ∧
          ∃ permission, eventPermission event = .ok permission := by
  simp only [Repairable, AllSupported, deniedBy, mem_simulate_deniedEvents_iff]
  constructor
  · rintro ⟨authorized, supported⟩ event required denied
    exact ⟨authorized event ⟨required, denied⟩,
      supported event ⟨required, denied⟩⟩
  · intro repairable
    constructor
    · rintro event ⟨required, denied⟩
      exact (repairable event required denied).1
    · rintro event ⟨required, denied⟩
      exact (repairable event required denied).2

theorem evaluateKuber_of_baseline {elapsed : String}
    {baseline : Policy × SystemCaseMetrics} (checkpoint : WorkloadGraphState)
    (otherElapsed : String) (enough : graph.WithinLimit recursionLimit)
    (evaluated : evaluateBaseline benchmark elapsed = .ok baseline) :
    ∃ kuber, evaluateKuber graph recursionLimit checkpoint benchmark
        otherElapsed = .ok kuber ∧
      Decides graph benchmark baseline.1 otherElapsed kuber := by
  have outcome := @evaluateKuber_cases graph benchmark recursionLimit
    checkpoint otherElapsed enough
  rw [(evaluateBaseline_ok evaluated).1] at outcome
  exact outcome

theorem Decides.eq_of_success {elapsed otherElapsed : String}
    {baseline kuber : Policy × SystemCaseMetrics}
    (evaluated : evaluateBaseline benchmark elapsed = .ok baseline)
    (decides : Decides graph benchmark baseline.1 otherElapsed kuber)
    (passes : baseline.2.functionalSuccess = true) :
    kuber =
      (baseline.1, { baseline.2 with runtimeSeconds := otherElapsed }) := by
  obtain ⟨-, values⟩ := evaluateBaseline_ok evaluated
  have passed : (simulate benchmark baseline.1).passed = true := by
    rw [values] at passes
    exact passes
  have allowed : deniedBy benchmark baseline.1 = [] := by
    rw [← not_not (a := deniedBy benchmark baseline.1 = []), ← Ne,
      ← simulate_failed_iff, passed, Bool.not_eq_false]
  cases decides with
  | verified =>
      rw [values, passed]
      rfl
  | repaired denied => exact absurd allowed denied
  | restored denied => exact absurd allowed denied

/-- Kuber raises what the baseline raises, and passes whenever the baseline
passes, with the same policy and the same metrics.  Otherwise it passes after
one repair, exactly when repairs are allowed and every required call that the
first candidate denies is one that the initial policy allows and a permission
can be made for; or it ends with the initial policy. -/
theorem kuber_against_baseline (graph : WorkloadOptimizationGraph)
    (recursionLimit : Nat) (checkpoint : WorkloadGraphState)
    (benchmark : BenchmarkCase) (elapsed otherElapsed : String)
    (enough : graph.WithinLimit recursionLimit) :
    (∀ error, evaluateBaseline benchmark elapsed = .error error →
      evaluateKuber graph recursionLimit checkpoint benchmark otherElapsed =
        .error error) ∧
    ∀ baseline, evaluateBaseline benchmark elapsed = .ok baseline →
      ∃ kuber, evaluateKuber graph recursionLimit checkpoint benchmark
          otherElapsed = .ok kuber ∧
        (baseline.2.functionalSuccess = true → kuber =
          (baseline.1, { baseline.2 with runtimeSeconds := otherElapsed })) ∧
        (kuber.2.functionalSuccess = true ↔
          baseline.2.functionalSuccess = true ∨
            0 < graph.maxRepairIterations ∧
              ∀ event ∈ benchmark.requiredEvents,
                isAuthorized baseline.1 event = false →
                  isAuthorized benchmark.initialPolicy event = true ∧
                    ∃ permission, eventPermission event = .ok permission) ∧
        kuber.2.repairIterations ≤ 1 ∧
        (baseline.2.functionalSuccess = false →
          kuber.2.functionalSuccess = true →
            kuber.2.repairIterations = 1) ∧
        (kuber.2.functionalSuccess = false →
          kuber.1 = benchmark.initialPolicy) := by
  constructor
  · intro error raised
    have outcome := @evaluateKuber_cases graph benchmark recursionLimit
      checkpoint otherElapsed enough
    rw [evaluateBaseline_eq] at raised
    cases proposed : observedOnlyPolicy benchmark.initialPolicy
        benchmark.observedEvents with
    | error other =>
        rw [proposed] at raised outcome
        cases raised
        exact outcome
    | ok candidate =>
        rw [proposed] at raised
        cases raised
  · intro baseline evaluated
    obtain ⟨kuber, returned, decides⟩ := evaluateKuber_of_baseline
      checkpoint otherElapsed enough evaluated
    have success : baseline.2.functionalSuccess =
        (simulate benchmark baseline.1).passed := by
      rw [(evaluateBaseline_ok evaluated).2]
      rfl
    refine ⟨kuber, returned, decides.eq_of_success evaluated, ?_, ?_, ?_, ?_⟩
    · rw [success, decides.success_iff, repairable_deniedBy_iff]
    · cases decides with
      | verified => exact Int.zero_le_ofNat 1
      | repaired => exact le_refl (1 : Int)
      | restored => exact Int.zero_le_ofNat 1
    · intro failed passes
      cases decides with
      | verified nothing =>
          rw [success, simulate_failed_iff] at failed
          exact absurd nothing failed
      | repaired => rfl
      | restored => simp [metrics] at passes
    · intro failed
      cases decides with
      | verified => simp [metrics] at failed
      | repaired => simp [metrics] at failed
      | restored => rfl

end Decisions

/-- The baseline fails on the pod watcher, and Kuber passes. -/
theorem kuber_against_baseline_podWatcher :
    ∃ baseline kuber,
      evaluateBaseline podWatcher "0.1" = .ok baseline ∧
      baseline.2.functionalSuccess = false ∧
      evaluateKuber plainGraph 40 emptyThread podWatcher "0.2" =
        .ok kuber ∧
      kuber.2.functionalSuccess = true := by
  obtain ⟨baseline, evaluated, fails⟩ : ∃ baseline,
      evaluateBaseline podWatcher "0.1" = .ok baseline ∧
      baseline.2.functionalSuccess = false := ⟨_, rfl, by decide⟩
  obtain ⟨kuber, returned, -, passes_iff, -⟩ := (kuber_against_baseline
    plainGraph 40 emptyThread podWatcher "0.1" "0.2" (by decide)).2
    baseline evaluated
  refine ⟨baseline, kuber, evaluated, fails, returned,
    passes_iff.mpr (Or.inr ⟨by decide, ?_⟩)⟩
  have conditions : ∀ event ∈ podWatcher.requiredEvents,
      isAuthorized podWatcher.initialPolicy event = true ∧
        (eventPermission event).isOk = true := by decide
  intro event member _
  obtain ⟨authorized, supported⟩ := conditions event member
  refine ⟨authorized, ?_⟩
  cases made : eventPermission event with
  | ok permission => exact ⟨permission, rfl⟩
  | error error =>
      rw [made] at supported
      cases supported

end Kuber.Judge

import Kuber.Agent.Outcome

/-!
# Convergence of the repair loop

Against an environment that honestly reports required events, every repair
lowers the number of missing keys, and the candidate stays a least policy for
events that are observed or required.  A bound on the missing keys of the first
candidate is therefore a bound on the repairs.
-/

namespace Kuber.Agent

open Kuber.Library Kuber.Rules

variable {σ : Type}

/-- An environment that observes `observed` and honestly verifies `required`
under the policy in force.  A failed verification reports some of the required
events that are denied, and is described as the denial of those. -/
structure Honest (adapter : EnvironmentAdapter σ) (inForce : σ → Policy)
    (observed required : List KubeEvent) : Prop where
  getCurrentPolicy : ∀ state, ∃ reached,
    adapter.getCurrentPolicy state = (.ok (inForce state), reached) ∧
      inForce reached = inForce state
  getObservedUsage : ∀ state, ∃ reached,
    adapter.getObservedUsage state = (.ok observed, reached) ∧
      inForce reached = inForce state
  applyPolicy : ∀ policy state, ∃ reached,
    adapter.applyPolicy policy state = (.ok (), reached) ∧
      inForce reached = policy
  verifyWorkload : ∀ state, ∃ result reached,
    adapter.verifyWorkload state = (.ok result, reached) ∧
      inForce reached = inForce state ∧
      (result.passed = true ↔
        ∀ event ∈ required, isAuthorized (inForce state) event = true) ∧
      (result.passed = false → result.deniedEvents ≠ [] ∧
        ∀ event ∈ result.deniedEvents, event ∈ required ∧
          isAuthorized (inForce state) event = false)
  describeFailure : ∀ result state, ∃ failure reached,
    adapter.describeFailure result state = (.ok failure, reached) ∧
      inForce reached = inForce state ∧
      (result.deniedEvents ≠ [] → failure.authorizationDenial = true ∧
        failure.missingEvents = result.deniedEvents)
  restorePolicy : ∀ state, ∃ reached,
    adapter.restorePolicy state = (.ok (), reached)

variable {adapter : EnvironmentAdapter σ} {inForce : σ → Policy}
  {observed required : List KubeEvent} {start : σ}
  {graph : WorkloadOptimizationGraph} {original candidate : Policy}
  {count : Nat} {calls : List EnvironmentCall}

theorem Honest.not_raised
    (honest : Honest adapter inForce observed required)
    {before after : σ} (recorded : adapter.Recorded calls before after) :
    ∀ call ∈ calls, call.raised? = none := by
  induction calls generalizing before with
  | nil => simp
  | cons call calls induction =>
      obtain ⟨middle, answer, later⟩ := recorded
      intro other member
      rcases List.mem_cons.mp member with rfl | inLater
      · cases other with
        | getCurrentPolicy result =>
            obtain ⟨_, answered, -⟩ := honest.getCurrentPolicy before
            cases answer.symm.trans answered
            rfl
        | getObservedUsage result =>
            obtain ⟨_, answered, -⟩ := honest.getObservedUsage before
            cases answer.symm.trans answered
            rfl
        | applyPolicy policy result =>
            obtain ⟨_, answered, -⟩ := honest.applyPolicy policy before
            cases answer.symm.trans answered
            rfl
        | verifyWorkload result =>
            obtain ⟨_, _, answered, -⟩ := honest.verifyWorkload before
            cases answer.symm.trans answered
            rfl
        | restorePolicy result =>
            obtain ⟨_, answered⟩ := honest.restorePolicy before
            cases answer.symm.trans answered
            rfl
        | describeFailure verification result =>
            obtain ⟨_, _, answered, -⟩ :=
              honest.describeFailure verification before
            cases answer.symm.trans answered
            rfl
      · exact induction later other inLater

theorem Honest.prologue_eq
    (honest : Honest adapter inForce observed required)
    {seen : List KubeEvent} {rest : List EnvironmentCall} {after : σ}
    (recorded : adapter.Recorded (prologue original seen ++ rest) start
      after) : original = inForce start ∧ seen = observed := by
  obtain ⟨first, inspection, second, gathering, -⟩ := recorded
  obtain ⟨_, inspected, -⟩ := honest.getCurrentPolicy start
  obtain ⟨_, gathered, -⟩ := honest.getObservedUsage first
  cases inspection.symm.trans inspected
  cases gathering.symm.trans gathered
  exact ⟨rfl, rfl⟩

theorem Honest.verified
    (honest : Honest adapter inForce observed required)
    {earlier rest : List EnvironmentCall} {result : VerificationResult}
    {after : σ}
    (recorded : adapter.Recorded
      (earlier ++ (verifiedRound candidate result ++ rest)) start after) :
    (result.passed = true ↔
        ∀ event ∈ required, isAuthorized candidate event = true) ∧
      (result.passed = false → result.deniedEvents ≠ [] ∧
        ∀ event ∈ result.deniedEvents, event ∈ required ∧
          isAuthorized candidate event = false) ∧
      ∃ verified, adapter.Recorded rest verified after := by
  obtain ⟨before, -, applied, application, verified, verification, later⟩ :=
    EnvironmentAdapter.recorded_append.mp recorded
  obtain ⟨_, applies, inForceNow⟩ := honest.applyPolicy candidate before
  cases application.symm.trans applies
  obtain ⟨_, _, verifies, -, passes, fails⟩ := honest.verifyWorkload applied
  cases verification.symm.trans verifies
  rw [inForceNow] at passes fails
  exact ⟨passes, fails, verified, later⟩

theorem Honest.failed
    (honest : Honest adapter inForce observed required)
    {earlier rest : List EnvironmentCall} {result : VerificationResult}
    {failure : FailureDescription} {after : σ}
    (failing : result.passed = false)
    (recorded : adapter.Recorded
      (earlier ++ failedRound candidate result failure ++ rest) start after) :
    failure.authorizationDenial = true ∧ failure.missingEvents ≠ [] ∧
      ∀ event ∈ failure.missingEvents, event ∈ required ∧
        isAuthorized candidate event = false := by
  rw [failedRound, List.append_assoc, List.append_assoc] at recorded
  obtain ⟨-, fails, verified, described, description, -⟩ :=
    honest.verified recorded
  obtain ⟨_, _, describes, -, denial⟩ :=
    honest.describeFailure result verified
  cases description.symm.trans describes
  obtain ⟨nonempty, denied⟩ := fails failing
  obtain ⟨isDenial, sameEvents⟩ := denial nonempty
  rw [sameEvents]
  exact ⟨isDenial, nonempty, denied⟩

/-- The distinct permission keys of the required events a policy denies. -/
def missingKeys (required : List KubeEvent) (policy : Policy) :
    Finset PermissionKey :=
  ((required.filter fun event => !isAuthorized policy event).filterMap
    eventKey?).toFinset

theorem mem_missingKeys_iff {policy : Policy} {key : PermissionKey} :
    key ∈ missingKeys required policy ↔
      ∃ event ∈ required, isAuthorized policy event = false ∧
        eventKey? event = some key := by
  simp [missingKeys, and_assoc]

theorem missingKey_not_mem {policy : Policy} {key : PermissionKey}
    (missing : key ∈ missingKeys required policy) : key ∉ policy.keys := by
  obtain ⟨event, -, denied, keyed⟩ := mem_missingKeys_iff.mp missing
  obtain ⟨permission, made, rfl⟩ := eventKey?_eq_some_iff.mp keyed
  intro member
  apply not_isAuthorized_iff.mp denied
  exact ⟨permission.key, member,
    (eventPermission_isLeastGrant made).covers_request⟩

theorem missingKeys_repaired_lt {repaired : Policy}
    {missing : List KubeEvent}
    (returned : Rules.repairPolicy candidate missing original = .ok repaired)
    {event : KubeEvent} (reported : event ∈ missing)
    (inRequired : event ∈ required)
    (denied : isAuthorized candidate event = false) :
    (missingKeys required repaired).card <
      (missingKeys required candidate).card := by
  obtain ⟨-, supported, moreKeys, -⟩ := repairPolicy_ok returned
  obtain ⟨permission, made⟩ := supported event reported
  have keyed := eventKey?_eq_some_iff.mpr ⟨permission, made, rfl⟩
  have wasMissing : permission.key ∈ missingKeys required candidate :=
    mem_missingKeys_iff.mpr ⟨event, inRequired, denied, keyed⟩
  have nowPresent : permission.key ∈ repaired.keys := by
    rw [moreKeys]
    exact Or.inr ⟨event, reported, keyed⟩
  have subset : missingKeys required repaired ⊆
      missingKeys required candidate := by
    intro key member
    obtain ⟨other, otherRequired, otherDenied, otherKeyed⟩ :=
      mem_missingKeys_iff.mp member
    refine mem_missingKeys_iff.mpr ⟨other, otherRequired, ?_, otherKeyed⟩
    rw [not_isAuthorized_iff] at otherDenied ⊢
    intro allowedBefore
    apply otherDenied
    refine allowed_mono ?_ allowedBefore
    rw [moreKeys]
    exact Set.subset_union_left
  apply Finset.card_lt_card
  refine Finset.ssubset_iff_subset_ne.mpr ⟨subset, ?_⟩
  intro equality
  rw [← equality] at wasMissing
  exact missingKey_not_mem wasMissing nowPresent

/-- Every repair is paid for by a missing key of the first candidate. -/
theorem Attempt.missingKeys_bound
    (honest : Honest adapter inForce observed required) {first : Policy}
    (proposed : observedOnlyPolicy original observed = .ok first)
    (attempt : Attempt graph original observed count candidate calls)
    {rest : List EnvironmentCall} {after : σ}
    (recorded : adapter.Recorded (calls ++ rest) start after) :
    (missingKeys required candidate).card + count ≤
      (missingKeys required first).card := by
  induction attempt generalizing rest with
  | propose returned =>
      cases returned.symm.trans proposed
      exact le_rfl
  | repair _ _ failing returned _ induction =>
      obtain ⟨-, nonempty, denied⟩ := honest.failed failing recorded
      obtain ⟨event, reported⟩ := List.exists_mem_of_ne_nil _ nonempty
      obtain ⟨inRequired, isDenied⟩ := denied event reported
      have fewer := missingKeys_repaired_lt (verifierRepair_ok returned).2.2
        reported inRequired isDenied
      rw [List.append_assoc] at recorded
      have bound := induction recorded
      omega

theorem Attempt.described_required
    (honest : Honest adapter inForce observed required)
    (attempt : Attempt graph original observed count candidate calls)
    {rest : List EnvironmentCall} {after : σ}
    (recorded : adapter.Recorded (calls ++ rest) start after)
    {verification : VerificationResult} {failure : FailureDescription}
    (described : .describeFailure verification (.ok failure) ∈ calls) :
    ∀ event ∈ failure.missingEvents, event ∈ required := by
  induction attempt generalizing rest with
  | propose => simp [prologue] at described
  | repair _ _ failing _ _ induction =>
      rcases List.mem_append.mp described with earlier | now
      · rw [List.append_assoc] at recorded
        exact induction recorded earlier
      · simp only [failedRound, verifiedRound, List.cons_append,
          List.nil_append, List.mem_cons, reduceCtorEq, false_or,
          EnvironmentCall.describeFailure.injEq, Except.ok.injEq,
          List.not_mem_nil, or_false] at now
        obtain ⟨rfl, rfl⟩ := now
        intro event member
        exact ((honest.failed failing recorded).2.2 event member).1

theorem Attempt.leastGrantsFor
    (honest : Honest adapter inForce observed required)
    (attempt : Attempt graph original observed count candidate calls)
    {rest : List EnvironmentCall} {after : σ}
    (recorded : adapter.Recorded (calls ++ rest) start after) :
    LeastGrantsFor KeyCovers {event | event ∈ observed ∨ event ∈ required}
      candidate.keys := by
  obtain ⟨events, sameKeys, -, -, -, origin⟩ := attempt.built
  rw [sameKeys]
  refine (eventKeys_leastGrantsFor events).mono ?_
  intro event member
  rcases origin event member with seen | ⟨_, _, described, missing⟩
  · exact Or.inl seen
  · exact Or.inr
      (attempt.described_required honest recorded described event missing)

theorem Attempt.authorizes_observed
    (attempt : Attempt graph original observed count candidate calls) :
    ∀ event ∈ observed, isAuthorized candidate event = true := by
  obtain ⟨events, sameKeys, supported, -, includes, -⟩ := attempt.built
  intro event member
  rw [isAuthorized_iff, sameKeys]
  exact covered_by_eventKeys supported (includes event member)

/-- While missing keys remain affordable, a failure is repaired. -/
theorem Honest.not_givesUp
    (honest : Honest adapter inForce observed required)
    (sufficient : ∀ event ∈ required, isAuthorized original event = true)
    (supported : AllSupported required)
    (affordable : (missingKeys required candidate).card + count ≤
      graph.maxRepairIterations)
    {result : VerificationResult} {failure : FailureDescription}
    (failing : result.passed = false) {rest : List EnvironmentCall} {after : σ}
    (recorded : adapter.Recorded
      (calls ++ failedRound candidate result failure ++ rest) start after) :
    ¬GivesUp graph original candidate count failure := by
  obtain ⟨isDenial, nonempty, denied⟩ := honest.failed failing recorded
  obtain ⟨event, reported⟩ := List.exists_mem_of_ne_nil _ nonempty
  obtain ⟨inRequired, isDenied⟩ := denied event reported
  obtain ⟨permission, made⟩ := supported event inRequired
  have keyed := eventKey?_eq_some_iff.mpr ⟨permission, made, rfl⟩
  have missing : permission.key ∈ missingKeys required candidate :=
    mem_missingKeys_iff.mpr ⟨event, inRequired, isDenied, keyed⟩
  rintro (unrelated | exhausted | hopeless)
  · rw [isDenial] at unrelated
    cases unrelated
  · have positive := Finset.card_pos.mpr ⟨_, missing⟩
    omega
  · obtain ⟨repaired, returned⟩ := @repairPolicy_succeeds candidate _ _
      (fun other member => sufficient other (denied other member).1)
      (fun other member => supported other (denied other member).1)
    have repairOk : verifierRepair candidate failure original =
        .ok repaired := by
      rw [verifierRepair, if_neg]
      · exact returned
      · rintro (unrelated | empty)
        · rw [isDenial] at unrelated
          cases unrelated
        · exact nonempty empty
    have sameKeys := (repairPolicy_ok returned).2.2.1
    have larger : candidate.permissions.length <
        repaired.permissions.length := by
      have grown : candidate.keys ⊆ repaired.keys := by
        rw [sameKeys]
        exact Set.subset_union_left
      have restored : permission.key ∈ repaired.keys := by
        rw [sameKeys]
        exact Or.inr ⟨event, reported, keyed⟩
      exact Policy.length_lt_of_keys_subset grown restored
        (missingKey_not_mem missing)
    rw [WorkloadOptimizationGraph.attemptRepair, repairOk] at hopeless
    simp only [if_neg (not_le.mpr larger)] at hopeless
    cases hopeless

/-- Against an honest environment a run always finishes. -/
theorem Honest.run_finishes
    (honest : Honest adapter inForce observed required) {first : Policy}
    (proposed : observedOnlyPolicy (inForce start) observed = .ok first)
    (graph : WorkloadOptimizationGraph) (recursionLimit : Nat)
    (enough : graph.WithinLimit recursionLimit)
    (request : WorkloadRequest) (persisted : WorkloadGraphState) :
    ∃ execution session,
      runFrom graph recursionLimit request persisted adapter start =
        (.ok execution, session) ∧
      Finishes graph execution session.calls := by
  cases run : runFrom graph recursionLimit request persisted adapter start with
  | mk outcome session =>
      obtain ⟨-, ends⟩ := run_ends graph recursionLimit request persisted run
      cases outcome with
      | ok execution => exact ⟨execution, session, rfl, ends⟩
      | error error =>
          exfalso
          rcases ends with ⟨-, ⟨call, member, raised⟩ |
            ⟨original, seen, made, refused⟩⟩ | tooSmall
          · rw [honest.not_raised session.recorded call member] at raised
            cases raised
          · have recorded := session.recorded
            rw [made, ← List.append_nil (prologue original seen)] at recorded
            obtain ⟨rfl, rfl⟩ := honest.prologue_eq recorded
            rw [proposed] at refused
            cases refused
          · exact tooSmall enough

theorem Attempt.prologue_prefix
    (attempt : Attempt graph original observed count candidate calls) :
    ∃ rest, calls = prologue original observed ++ rest := by
  induction attempt with
  | propose => exact ⟨[], (List.append_nil _).symm⟩
  | repair _ _ _ _ _ induction =>
      obtain ⟨rest, rfl⟩ := induction
      exact ⟨_, List.append_assoc _ _ _⟩

/-- The environment's reads identify the original policy and the observed
events of a finished run. -/
theorem Honest.attempt_reads
    (honest : Honest adapter inForce observed required)
    {seen : List KubeEvent}
    (attempt : Attempt graph original seen count candidate calls)
    {rest : List EnvironmentCall} {after : σ}
    (recorded : adapter.Recorded (calls ++ rest) start after) :
    original = inForce start ∧ seen = observed := by
  obtain ⟨later, rfl⟩ := attempt.prologue_prefix
  rw [List.append_assoc] at recorded
  exact honest.prologue_eq recorded

/-- Convergence and minimality.  If the original policy authorizes all
required events, which are supported, and the repair bound covers the missing
keys of the first candidate, the run is accepted with the least policy for the
observed and required events.  If the original policy denies a required event,
the run is rejected and ends with the original policy restored.  The limit of
the engine is assumed to be above the nodes of a run. -/
theorem repair_loop_converges
    (honest : Honest adapter inForce observed required) {first : Policy}
    (proposed : observedOnlyPolicy (inForce start) observed = .ok first)
    (graph : WorkloadOptimizationGraph) (recursionLimit : Nat)
    (enough : graph.WithinLimit recursionLimit)
    (request : WorkloadRequest) (persisted : WorkloadGraphState) :
    ∃ execution session,
      runFrom graph recursionLimit request persisted adapter start =
        (.ok execution, session) ∧
      ((∀ event ∈ required, isAuthorized (inForce start) event = true ∧
            ∃ permission, eventPermission event = .ok permission) →
        (missingKeys required first).card ≤ graph.maxRepairIterations →
        execution.accepted = true ∧
        (∀ event, event ∈ observed ∨ event ∈ required →
          isAuthorized execution.finalPolicy event = true) ∧
        ∀ other : Policy,
          (∀ event, event ∈ observed ∨ event ∈ required →
            isAuthorized other event = true) →
          ∀ event, isAuthorized execution.finalPolicy event = true →
            isAuthorized other event = true) ∧
      ((∃ event ∈ required, isAuthorized (inForce start) event = false) →
        execution.accepted = false ∧
        execution.finalPolicy = inForce start ∧
        ∃ earlier, session.calls = earlier ++ [.restorePolicy (.ok ())]) := by
  obtain ⟨execution, session, run, finishes⟩ := honest.run_finishes proposed
    graph recursionLimit enough request persisted
  refine ⟨execution, session, run, ?_⟩
  have recorded := session.recorded
  cases finishes with
  | @accepted seen earlier accepted attempt passed made =>
      rw [made] at recorded
      obtain ⟨same, rfl⟩ := honest.attempt_reads attempt recorded
      have recordedRound := recorded
      rw [← List.append_nil (verifiedRound _ _)] at recordedRound
      have authorizesRequired := (honest.verified recordedRound).1.mp passed
      refine ⟨fun _ _ => ⟨accepted, ?_, ?_⟩, ?_⟩
      · rintro event (seen | isRequired)
        · exact attempt.authorizes_observed event seen
        · exact authorizesRequired event isRequired
      · intro other sufficient
        exact within_of_leastGrants (attempt.leastGrantsFor honest recorded)
          sufficient
      · rintro ⟨event, isRequired, denied⟩
        have authorized :=
          attempt.within event (authorizesRequired event isRequired)
        rw [same, denied] at authorized
        cases authorized
  | @rejected seen candidate earlier failure rejected attempt failing givesUp
      restored made =>
      rw [made] at recorded
      have recordedAttempt := recorded
      rw [List.append_assoc] at recordedAttempt
      obtain ⟨same, rfl⟩ := honest.attempt_reads attempt recordedAttempt
      rw [← same] at proposed ⊢
      refine ⟨fun conditions bound => ?_, fun _ => ⟨rejected, restored, _, made⟩⟩
      exfalso
      have affordable := (attempt.missingKeys_bound honest proposed
        recordedAttempt).trans bound
      exact honest.not_givesUp (fun event member => (conditions event member).1)
        (fun event member => (conditions event member).2) affordable failing
        recorded givesUp

theorem simulator_honest (benchmark : Judge.BenchmarkCase) :
    Honest (Judge.simulatorEnvironment benchmark) id benchmark.observedEvents
      benchmark.requiredEvents where
  getCurrentPolicy := fun state => ⟨state, rfl, rfl⟩
  getObservedUsage := fun state => ⟨state, rfl, rfl⟩
  applyPolicy := fun policy _ => ⟨policy, rfl, rfl⟩
  verifyWorkload := by
    intro state
    refine ⟨Judge.simulate benchmark state, state, rfl, rfl,
      Judge.simulate_passed_iff, ?_⟩
    intro failed
    refine ⟨?_, fun event member =>
      Judge.mem_simulate_deniedEvents_iff.mp member⟩
    intro noneDenied
    have passed : (Judge.simulate benchmark state).passed = true := by
      rw [Judge.simulate_passed_iff]
      intro event required
      by_contra denied
      have reported := Judge.mem_simulate_deniedEvents_iff.mpr
        ⟨required, Bool.eq_false_of_not_eq_true denied⟩
      rw [noneDenied] at reported
      cases reported
    rw [passed] at failed
    cases failed
  describeFailure := by
    intro result state
    refine ⟨Judge.simulatedFailure result, state, rfl, rfl, ?_⟩
    intro nonempty
    simp [Judge.simulatedFailure, nonempty]
  restorePolicy := fun _ => ⟨benchmark.initialPolicy, rfl⟩

/-- The pod watcher is accepted with a policy for both calls. -/
theorem repair_loop_converges_podWatcher :
    ∃ execution session,
      runFrom plainGraph 40 { runId := "run" } emptyThread
          (Judge.simulatorEnvironment podWatcher) podWatcher.initialPolicy =
        (.ok execution, session) ∧
      execution.accepted = true := by
  have proposed : ∃ first, observedOnlyPolicy podWatcher.initialPolicy
      podWatcher.observedEvents = .ok first ∧
      (missingKeys podWatcher.requiredEvents first).card ≤ 5 :=
    ⟨_, rfl, by decide⟩
  obtain ⟨first, proposed, affordable⟩ := proposed
  obtain ⟨execution, session, run, converges, -⟩ := repair_loop_converges
    (simulator_honest podWatcher) proposed plainGraph 40 (by decide)
    { runId := "run" } emptyThread
  refine ⟨execution, session, run, (converges ?_ affordable).1⟩
  have conditions : ∀ event ∈ podWatcher.requiredEvents,
      isAuthorized podWatcher.initialPolicy event = true ∧
        (eventPermission event).toOption.isSome = true := by decide
  intro event member
  obtain ⟨authorized, supported⟩ := conditions event member
  refine ⟨authorized, ?_⟩
  cases made : eventPermission event with
  | ok permission => exact ⟨permission, rfl⟩
  | error error =>
      rw [made] at supported
      cases supported

end Kuber.Agent

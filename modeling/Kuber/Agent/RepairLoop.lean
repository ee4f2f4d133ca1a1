import Kuber.Agent.Workload
import Kuber.Rules.LeastPrivilege

/-!
# The repair loop, node by node

What holds before every node of the workload graph, in terms of the calls made
to the environment.  `Attempt` describes the calls before a candidate is
applied for the next time; every node leads from its assertion to that of a
following node, and all results about whole runs are read from the assertions
of the end.
-/

namespace Kuber.Agent

open Kuber.Library Kuber.Rules

/-- The calls before the first candidate. -/
def prologue (original : Policy) (observed : List KubeEvent) :
    List EnvironmentCall :=
  [.getCurrentPolicy (.ok original), .getObservedUsage (.ok observed)]

/-- A candidate is applied and verified. -/
def verifiedRound (candidate : Policy) (result : VerificationResult) :
    List EnvironmentCall :=
  [.applyPolicy candidate (.ok ()), .verifyWorkload (.ok result)]

/-- A candidate is applied, and the failure of its verification described. -/
def failedRound (candidate : Policy) (result : VerificationResult)
    (failure : FailureDescription) : List EnvironmentCall :=
  verifiedRound candidate result ++ [.describeFailure result (.ok failure)]

variable (graph : WorkloadOptimizationGraph)

/-- The calls after which `candidate` is the candidate of attempt `count`. -/
inductive Attempt (original : Policy) (observed : List KubeEvent) :
    Nat → Policy → List EnvironmentCall → Prop where
  | propose {candidate : Policy} :
      observedOnlyPolicy original observed = .ok candidate →
      Attempt original observed 0 candidate (prologue original observed)
  | repair {count : Nat} {candidate repaired : Policy}
      {calls : List EnvironmentCall} {result : VerificationResult}
      {failure : FailureDescription} :
      Attempt original observed count candidate calls →
      count < graph.maxRepairIterations →
      result.passed = false →
      verifierRepair candidate failure original = .ok repaired →
      candidate.permissions.length < repaired.permissions.length →
      Attempt original observed (count + 1) repaired
        (calls ++ failedRound candidate result failure)

/-- Why a failed verification is not followed by a repair. -/
def GivesUp (original candidate : Policy) (count : Nat)
    (failure : FailureDescription) : Prop :=
  failure.authorizationDenial = false ∨ graph.maxRepairIterations ≤ count ∨
    WorkloadOptimizationGraph.attemptRepair candidate failure original =
      .ok none

/-- The state after the inspection, until a decision is taken. -/
structure Inspected (original : Policy) (state : WorkloadGraphState) :
    Prop where
  originalPolicy : state.originalPolicy = some original
  lastKnownGood : state.lastKnownGoodPolicy = some original
  risk : state.originalRisk = some (scorePolicy original)
  accepted : state.accepted = false

/-- The state in which `candidate` is to be applied. -/
structure Attempting (original : Policy) (observed : List KubeEvent)
    (candidate : Policy) (state : WorkloadGraphState)
    (calls : List EnvironmentCall) : Prop extends
    Inspected original state where
  candidatePolicy : state.candidatePolicy = some candidate
  attempt : Attempt graph original observed state.retryCount candidate calls

/-- The part of the state that a decision depends on. -/
def decisive (state : WorkloadGraphState) :=
  (state.originalPolicy, state.lastKnownGoodPolicy, state.originalRisk,
    state.accepted, state.candidatePolicy, state.retryCount)

variable {graph} in
theorem Attempting.of_same {original candidate : Policy}
    {observed : List KubeEvent} {state updated : WorkloadGraphState}
    {calls : List EnvironmentCall}
    (attempting : Attempting graph original observed candidate state calls)
    (same : decisive updated = decisive state) :
    Attempting graph original observed candidate updated calls := by
  simp only [decisive, Prod.mk.injEq] at same
  obtain ⟨originalPolicy, lastKnownGood, risk, accepted, candidatePolicy,
    retryCount⟩ := same
  obtain ⟨⟨original, good, riskOf, undecided⟩, proposed, attempt⟩ := attempting
  refine ⟨⟨originalPolicy.trans original, lastKnownGood.trans good,
    risk.trans riskOf, accepted.trans undecided⟩,
    candidatePolicy.trans proposed, ?_⟩
  rw [retryCount]
  exact attempt

/-- A run that retains `candidate`. -/
structure Accepts (original : Policy) (candidate : Policy)
    (state : WorkloadGraphState) (calls : List EnvironmentCall) : Prop where
  originalPolicy : state.originalPolicy = some original
  risk : state.originalRisk = some (scorePolicy original)
  accepted : state.accepted = true
  currentPolicy : state.currentPolicy = some candidate
  verification : ∃ observed earlier result,
    Attempt graph original observed state.retryCount candidate earlier ∧
      calls = earlier ++ verifiedRound candidate result ∧
      result.passed = true ∧ state.verificationResult = some result

/-- A run that gives up and has restored the original policy. -/
structure Rejects (original : Policy) (candidate : Policy)
    (state : WorkloadGraphState) (calls : List EnvironmentCall) : Prop where
  originalPolicy : state.originalPolicy = some original
  risk : state.originalRisk = some (scorePolicy original)
  accepted : state.accepted = false
  currentPolicy : state.currentPolicy = some original
  verification : ∃ observed earlier result failure,
    Attempt graph original observed state.retryCount candidate earlier ∧
      calls = earlier ++ failedRound candidate result failure ++
        [.restorePolicy (.ok ())] ∧
      result.passed = false ∧
      GivesUp graph original candidate state.retryCount failure ∧
      state.verificationResult = some result

def Decided (state : WorkloadGraphState) (calls : List EnvironmentCall) :
    Prop :=
  ∃ original candidate, Accepts graph original candidate state calls ∨
    Rejects graph original candidate state calls

/-- What holds before each node. -/
def Before : WorkloadNode → WorkloadGraphState → List EnvironmentCall → Prop
  | .loadServiceContext, state, calls
  | .inspectRbac, state, calls =>
      state.retryCount = 0 ∧ state.accepted = false ∧ calls = []
  | .gatherEvidence, state, calls =>
      ∃ original, Inspected original state ∧ state.retryCount = 0 ∧
        calls = [.getCurrentPolicy (.ok original)]
  | .generateCandidate, state, calls =>
      ∃ original observed, Inspected original state ∧
        state.observedEvents = some observed ∧ state.retryCount = 0 ∧
        calls = prologue original observed
  | .validateCandidate, state, calls
  | .applyCandidate, state, calls =>
      ∃ original observed candidate,
        Attempting graph original observed candidate state calls
  | .verify, state, calls =>
      ∃ original observed candidate earlier,
        Attempting graph original observed candidate state earlier ∧
          state.currentPolicy = some candidate ∧
          calls = earlier ++ [.applyPolicy candidate (.ok ())]
  | .checkMoreReductions, state, calls
  | .finalVerify, state, calls =>
      ∃ original observed candidate earlier result,
        Attempting graph original observed candidate state earlier ∧
          state.currentPolicy = some candidate ∧
          calls = earlier ++ verifiedRound candidate result ∧
          result.passed = true ∧ state.verificationResult = some result
  | .diagnoseFailure, state, calls
  | .repairPolicy, state, calls =>
      ∃ original observed candidate earlier result failure,
        Attempting graph original observed candidate state earlier ∧
          calls = earlier ++ failedRound candidate result failure ∧
          result.passed = false ∧ state.verificationResult = some result ∧
          state.failureDetails = some (some failure) ∧
          state.failureType = some .rbac ∧
          state.retryCount < graph.maxRepairIterations
  | .restoreLastKnownGood, state, calls =>
      ∃ original observed candidate earlier result failure,
        Attempting graph original observed candidate state earlier ∧
          calls = earlier ++ failedRound candidate result failure ∧
          result.passed = false ∧ state.verificationResult = some result ∧
          GivesUp graph original candidate state.retryCount failure
  | .humanReview, state, calls =>
      ∃ original candidate, Rejects graph original candidate state calls
  | .finalizeWorkload, state, calls
  | .publishResultEvent, state, calls => Decided graph state calls

/-- An upper bound of the nodes executed after a node. -/
def budget (graph : WorkloadOptimizationGraph) :
    WorkloadNode → WorkloadGraphState → Nat
  | .loadServiceContext, _ => 10 + 5 * graph.maxRepairIterations
  | .inspectRbac, _ => 9 + 5 * graph.maxRepairIterations
  | .gatherEvidence, _ => 8 + 5 * graph.maxRepairIterations
  | .generateCandidate, _ => 7 + 5 * graph.maxRepairIterations
  | .validateCandidate, state =>
      6 + 5 * (graph.maxRepairIterations - state.retryCount)
  | .applyCandidate, state =>
      5 + 5 * (graph.maxRepairIterations - state.retryCount)
  | .verify, state =>
      4 + 5 * (graph.maxRepairIterations - state.retryCount)
  | .checkMoreReductions, _ => 3
  | .finalVerify, _ => 2
  | .diagnoseFailure, state =>
      3 + 5 * (graph.maxRepairIterations - state.retryCount)
  | .repairPolicy, state =>
      2 + 5 * (graph.maxRepairIterations - state.retryCount)
  | .restoreLastKnownGood, _ => 3
  | .humanReview, _ => 2
  | .finalizeWorkload, _ => 1
  | .publishResultEvent, _ => 0

/-- Every applied policy stays within the policy read at the inspection. -/
def Contained (calls : List EnvironmentCall) : Prop :=
  ∀ policy result, .applyPolicy policy result ∈ calls →
    ∃ original, calls.head? = some (.getCurrentPolicy (.ok original)) ∧
      Within policy original

/-- The only ways a run raises: a call of the environment did, or the reducer
refused the observed events. -/
def Raises (error : PyException) (calls : List EnvironmentCall) : Prop :=
  Contained calls ∧
    ((∃ call ∈ calls, call.raised? = some error) ∨
      ∃ original observed, calls = prologue original observed ∧
        observedOnlyPolicy original observed = .error error)

/-- The assertions of the graph. -/
def assertions {σ : Type} (adapter : EnvironmentAdapter σ) (start : σ) :
    StateGraph.Assertions PyException (Session adapter start) WorkloadNode
      WorkloadGraphState where
  holds := fun node state session => Before graph node state session.calls
  final := fun state session => Decided graph state session.calls
  raises := fun error session => Raises error session.calls
  budget := budget graph

variable {graph} {original candidate : Policy} {observed : List KubeEvent}
  {count : Nat} {calls : List EnvironmentCall}

theorem verifierRepair_ok {failure : FailureDescription} {repaired : Policy}
    (returned : verifierRepair candidate failure original = .ok repaired) :
    failure.authorizationDenial = true ∧ failure.missingEvents ≠ [] ∧
      Rules.repairPolicy candidate failure.missingEvents original =
        .ok repaired := by
  unfold verifierRepair at returned
  split at returned
  · cases returned
  · rename_i repairable
    push Not at repairable
    exact ⟨Bool.eq_true_of_not_eq_false repairable.1, repairable.2, returned⟩

/-- The verifier refuses a repair only with a `ValueError`. -/
theorem verifierRepair_error {failure : FailureDescription}
    {error : PyException}
    (returned : verifierRepair candidate failure original = .error error) :
    error.kind.isValueError = true := by
  unfold verifierRepair at returned
  split at returned
  · cases returned
    rfl
  · exact repairPolicy_error returned

/-- The events a candidate was built from: the observed ones and events that
were described as missing. -/
theorem Attempt.built
    (attempt : Attempt graph original observed count candidate calls) :
    ∃ events, candidate.keys = eventKeys events ∧ AllSupported events ∧
      (∀ event ∈ events, isAuthorized original event = true) ∧
      (∀ event ∈ observed, event ∈ events) ∧
      ∀ event ∈ events, event ∈ observed ∨
        ∃ verification failure,
          .describeFailure verification (.ok failure) ∈ calls ∧
            event ∈ failure.missingEvents := by
  induction attempt with
  | propose returned =>
      obtain ⟨authorized, supported, sameKeys, -⟩ :=
        observedOnlyPolicy_ok returned
      exact ⟨observed, sameKeys, supported, authorized,
        fun _ member => member, fun _ member => Or.inl member⟩
  | @repair _ _ repaired earlier result failure _ _ _ returned _ induction =>
      obtain ⟨events, sameKeys, supported, authorized, includes, origin⟩ :=
        induction
      obtain ⟨-, -, repairOk⟩ := verifierRepair_ok returned
      obtain ⟨moreAuthorized, moreSupported, moreKeys, -⟩ :=
        repairPolicy_ok repairOk
      refine ⟨events ++ failure.missingEvents, ?_, ?_, ?_, ?_, ?_⟩
      · rw [moreKeys, sameKeys, eventKeys_append]
      · intro event member
        exact (List.mem_append.mp member).elim (supported event)
          (moreSupported event)
      · intro event member
        exact (List.mem_append.mp member).elim (authorized event)
          (moreAuthorized event)
      · intro event member
        exact List.mem_append_left _ (includes event member)
      · intro event member
        rcases List.mem_append.mp member with earlierEvent | missing
        · rcases origin event earlierEvent with inObserved |
            ⟨verification, description, called, described⟩
          · exact Or.inl inObserved
          · exact Or.inr ⟨verification, description,
              List.mem_append_left _ called, described⟩
        · refine Or.inr ⟨result, failure, ?_, missing⟩
          simp [failedRound]

theorem within_of_eventKeys {events : List KubeEvent}
    (sameKeys : candidate.keys = eventKeys events)
    (authorized : ∀ event ∈ events, isAuthorized original event = true) :
    Within candidate original := by
  have least := eventKeys_leastGrantsFor events
  rw [← sameKeys] at least
  exact within_of_leastGrants least authorized

theorem Attempt.within
    (attempt : Attempt graph original observed count candidate calls) :
    Within candidate original := by
  obtain ⟨events, sameKeys, -, authorized, -⟩ := attempt.built
  exact within_of_eventKeys sameKeys authorized

/-- The key made for an event covers the request that the validation node
derives from it. -/
theorem eventKey_covers_permissionEvent {event : KubeEvent}
    {permission : Permission} (keyed : eventKey? event = some permission.key) :
    KeyCovers permission.key (permissionEvent permission) := by
  obtain ⟨made, madeOk, sameKey⟩ := eventKey?_eq_some_iff.mp keyed
  have shape := (eventPermission_ok madeOk).2.2
  rw [sameKey] at shape
  obtain ⟨apiGroup, resource, verb, scope, resourceName, source⟩ := permission
  simp only [Permission.key, Prod.mk.injEq] at shape
  obtain ⟨-, -, sameVerb, -, sameName⟩ := shape
  refine ⟨Or.inr rfl, Or.inr rfl, Or.inr rfl, Or.inr rfl, ?_⟩
  by_cases nameable : event.verb ∈ resourceNameSafeVerbs
  · refine Or.inr ⟨?_, rfl⟩
    change verb ∈ resourceNameVerbs
    rw [sameVerb]
    exact nameable
  · rw [if_neg nameable] at sameName
    exact Or.inl sameName

theorem checkCandidate_ok_of_eventKeys {events : List KubeEvent}
    (sameKeys : candidate.keys = eventKeys events)
    (authorized : ∀ event ∈ events, isAuthorized original event = true) :
    checkCandidate candidate original = .ok () := by
  have passes : candidate.permissions.all (fun permission =>
      isAuthorized original (permissionEvent permission)) = true := by
    rw [List.all_eq_true]
    intro permission member
    have keyMember := Policy.mem_keys_of_mem member
    rw [sameKeys] at keyMember
    obtain ⟨event, -, keyed⟩ := keyMember
    apply within_of_eventKeys sameKeys authorized
    exact isAuthorized_iff.mpr ⟨permission.key, Policy.mem_keys_of_mem member,
      eventKey_covers_permissionEvent keyed⟩
  exact if_pos passes

/-- The validation node never refuses a candidate of the loop. -/
theorem Attempt.checkCandidate_ok
    (attempt : Attempt graph original observed count candidate calls) :
    checkCandidate candidate original = .ok () := by
  obtain ⟨events, sameKeys, -, authorized, -⟩ := attempt.built
  exact checkCandidate_ok_of_eventKeys sameKeys authorized

theorem Attempt.head
    (attempt : Attempt graph original observed count candidate calls) :
    calls.head? = some (.getCurrentPolicy (.ok original)) := by
  induction attempt with
  | propose => rfl
  | repair _ _ _ _ _ induction => simp [List.head?_append, induction]

theorem Contained.append {more : List EnvironmentCall}
    (contained : Contained calls)
    (passive : ∀ policy result, .applyPolicy policy result ∉ more) :
    Contained (calls ++ more) := by
  intro policy result member
  rcases List.mem_append.mp member with earlier | later
  · obtain ⟨original, head, within⟩ := contained policy result earlier
    exact ⟨original, by simp [List.head?_append, head], within⟩
  · exact absurd later (passive policy result)

theorem Contained.append_apply {result : Except PyException Unit}
    (contained : Contained calls)
    (attempt : Attempt graph original observed count candidate calls) :
    Contained (calls ++ [.applyPolicy candidate result]) := by
  intro policy other member
  rcases List.mem_append.mp member with earlier | later
  · obtain ⟨first, head, within⟩ := contained policy other earlier
    exact ⟨first, by simp [List.head?_append, head], within⟩
  · simp only [List.mem_singleton, EnvironmentCall.applyPolicy.injEq] at later
    obtain ⟨rfl, -⟩ := later
    exact ⟨original, by simp [List.head?_append, attempt.head],
      attempt.within⟩

theorem Contained.append_verified {result : VerificationResult}
    (contained : Contained calls)
    (attempt : Attempt graph original observed count candidate calls) :
    Contained (calls ++ verifiedRound candidate result) := by
  have applied : Contained (calls ++ [.applyPolicy candidate (.ok ())]) :=
    contained.append_apply attempt
  have verified := @Contained.append _ [.verifyWorkload (.ok result)] applied
    (by simp)
  simpa [verifiedRound] using verified

theorem Contained.append_failed {result : VerificationResult}
    {failure : FailureDescription} (contained : Contained calls)
    (attempt : Attempt graph original observed count candidate calls) :
    Contained (calls ++ failedRound candidate result failure) := by
  have verified : Contained (calls ++ verifiedRound candidate result) :=
    contained.append_verified attempt
  have described := @Contained.append _
    [.describeFailure result (.ok failure)] verified (by simp)
  simpa [failedRound] using described

theorem Attempt.contained
    (attempt : Attempt graph original observed count candidate calls) :
    Contained calls := by
  induction attempt with
  | propose =>
      intro policy result member
      simp [prologue] at member
  | repair attempt _ _ _ _ induction => exact induction.append_failed attempt

theorem Raises.of_call {error : PyException} {call : EnvironmentCall}
    {earlier : List EnvironmentCall} (made : calls = earlier ++ [call])
    (contained : Contained (earlier ++ [call]))
    (raised : call.raised? = some error) : Raises error calls := by
  subst made
  exact ⟨contained, Or.inl ⟨call, by simp, raised⟩⟩

section Nodes

open WorkloadOptimizationGraph Raising StateGraph.Assertions

variable {σ : Type} {adapter : EnvironmentAdapter σ} {start : σ}
  {state : WorkloadGraphState} {session : Session adapter start}

/-- The obligation of one node of the graph. -/
abbrev NodeEnds (graph : WorkloadOptimizationGraph) (node : WorkloadNode)
    (state : WorkloadGraphState) (session : Session adapter start) : Prop :=
  Ends
    ((assertions graph adapter start).Routed (graph.compiled adapter start)
      node state)
    (assertions graph adapter start).raises
    (graph.execute node state session)

private theorem ends_stateKey {α : Type} {key : String} {value : Option α}
    {found : α} {returned : α → Session adapter start → Prop}
    {raised : PyException → Session adapter start → Prop}
    (known : value = some found) (holds : returned found session) :
    Ends returned raised (ofExcept (stateKey key value) session) := by
  rw [known]
  exact holds

private theorem loadServiceContext_ends
    (before : Before graph .loadServiceContext state session.calls) :
    NodeEnds graph .loadServiceContext state session := by
  obtain ⟨fresh, undecided, made⟩ := before
  refine ends_bind (Session.record_ends fun reached same => ends_pure ?_)
  refine routed_next .inspectRbac rfl ?_ ?_
  · exact ⟨fresh, undecided, same.trans made⟩
  · simp [assertions, budget]

private theorem inspectRbac_ends
    (before : Before graph .inspectRbac state session.calls) :
    NodeEnds graph .inspectRbac state session := by
  obtain ⟨fresh, undecided, made⟩ := before
  refine ends_bind (Session.make_ends (fun policy called calls => ?_)
    fun error called calls => ?_)
  · refine ends_bind (Session.record_ends fun reached same => ends_pure ?_)
    refine routed_next .gatherEvidence rfl ?_ ?_
    · exact ⟨policy, ⟨rfl, rfl, rfl, undecided⟩, fresh,
        by simp [same, calls, made]⟩
    · simp [assertions, budget]
  · refine Raises.of_call calls ?_ rfl
    simp [Contained, made]

private theorem gatherEvidence_ends
    (before : Before graph .gatherEvidence state session.calls) :
    NodeEnds graph .gatherEvidence state session := by
  obtain ⟨original, inspected, fresh, made⟩ := before
  refine ends_bind (Session.make_ends (fun observed called calls => ?_)
    fun error called calls => ?_)
  · refine ends_bind (Session.record_ends fun reached same => ends_pure ?_)
    refine routed_next .generateCandidate rfl ?_ ?_
    · exact ⟨original, observed, ⟨inspected.1, inspected.2, inspected.3,
        inspected.4⟩, rfl, fresh, by simp [same, calls, made, prologue]⟩
    · simp [assertions, budget]
  · refine Raises.of_call calls ?_ rfl
    simp [Contained, made]

private theorem generateCandidate_ends
    (before : Before graph .generateCandidate state session.calls) :
    NodeEnds graph .generateCandidate state session := by
  obtain ⟨original, observed, inspected, gathered, fresh, made⟩ := before
  refine ends_bind (ends_stateKey inspected.originalPolicy ?_)
  refine ends_bind (ends_stateKey gathered ?_)
  refine ends_bind (ends_ofExcept (fun candidate proposed => ?_)
    fun error refused => ?_)
  · refine ends_bind (Session.record_ends fun reached same => ends_pure ?_)
    refine routed_next .validateCandidate rfl ?_ ?_
    · refine ⟨original, observed, candidate, ⟨inspected.1, inspected.2,
        inspected.3, inspected.4⟩, rfl, ?_⟩
      rw [same, made]
      change Attempt graph original observed state.retryCount candidate _
      rw [fresh]
      exact .propose proposed
    · simp [assertions, budget, fresh]
  · refine ⟨?_, Or.inr ⟨original, observed, made, refused⟩⟩
    simp [Contained, made, prologue]

private theorem validateCandidate_ends
    (before : Before graph .validateCandidate state session.calls) :
    NodeEnds graph .validateCandidate state session := by
  obtain ⟨original, observed, candidate, attempting⟩ := before
  refine ends_bind (ends_stateKey attempting.candidatePolicy ?_)
  refine ends_bind (ends_stateKey attempting.originalPolicy ?_)
  refine ends_bind (ends_ofExcept_ok attempting.attempt.checkCandidate_ok ?_)
  refine ends_bind (Session.record_ends fun reached same => ends_pure ?_)
  refine routed_next .applyCandidate rfl ?_ ?_
  · refine ⟨original, observed, candidate, ?_⟩
    rw [same]
    exact attempting.of_same rfl
  · simp [assertions, budget]

private theorem applyCandidate_ends
    (before : Before graph .applyCandidate state session.calls) :
    NodeEnds graph .applyCandidate state session := by
  obtain ⟨original, observed, candidate, attempting⟩ := before
  have contained := attempting.attempt.contained
  refine ends_bind (ends_stateKey attempting.candidatePolicy ?_)
  refine ends_bind (Session.make_ends (fun _ called calls => ?_)
    fun error called calls => ?_)
  · refine ends_bind (Session.record_ends fun reached same => ends_pure ?_)
    refine routed_next .verify rfl ?_ ?_
    · exact ⟨original, observed, candidate, session.calls,
        attempting.of_same rfl, rfl, same.trans calls⟩
    · simp [assertions, budget]
  · exact Raises.of_call calls (contained.append_apply attempting.attempt) rfl

/-- The conditional edge after the verification, once its result is known. -/
private theorem route_verify {result : VerificationResult}
    (verified : state.verificationResult = some result) :
    graph.route .verify state = .ok (some
      (if result.passed then .checkMoreReductions
      else if state.failureType = some .rbac ∧
        state.retryCount < graph.maxRepairIterations then .diagnoseFailure
      else .restoreLastKnownGood)) := by
  have read : stateKey "verification_result" state.verificationResult =
      .ok result := by
    rw [verified]
    rfl
  simp only [route, routeVerification, read]
  change Except.map some (if result.passed then _ else _) = _
  split
  · rfl
  · split <;> rfl

private theorem ofFailure_eq_rbac_iff {failure : FailureDescription} :
    FailureType.ofFailure failure = .rbac ↔
      failure.authorizationDenial = true := by
  cases denial : failure.authorizationDenial <;>
    simp [FailureType.ofFailure, denial]

private theorem verify_ends
    (before : Before graph .verify state session.calls) :
    NodeEnds graph .verify state session := by
  obtain ⟨original, observed, candidate, earlier, attempting, current, made⟩ :=
    before
  have contained := attempting.attempt.contained
  have applied : Contained (earlier ++ [.applyPolicy candidate (.ok ())]) :=
    contained.append_apply attempting.attempt
  refine ends_bind (Session.make_ends (fun result called calls => ?_)
    fun error called calls => ?_)
  · have round : called.calls = earlier ++ verifiedRound candidate result := by
      simp [calls, made, verifiedRound]
    refine ends_bind ?_
    cases passed : result.passed with
    | true =>
        rw [describe, if_pos passed]
        refine ends_pure (ends_bind (Session.record_ends
          fun reached same => ends_pure ?_))
        refine routed_next .checkMoreReductions ?_ ?_ ?_
        · refine (route_verify rfl).trans ?_
          rw [if_pos passed]
        · exact ⟨original, observed, candidate, earlier, result,
            attempting.of_same rfl, current, same.trans round, passed, rfl⟩
        · simp only [assertions, budget]
          omega
    | false =>
        have failed : ¬result.passed = true := by simp [passed]
        rw [describe, if_neg failed]
        refine ends_bind (Session.make_ends
          (fun failure described calls => ?_) fun error described calls => ?_)
        · have failing : described.calls =
              earlier ++ failedRound candidate result failure := by
            simp [calls, round, failedRound]
          refine ends_pure (ends_bind (Session.record_ends
            fun reached same => ends_pure ?_))
          by_cases repairable : failure.authorizationDenial = true ∧
              state.retryCount < graph.maxRepairIterations
          · have denied := ofFailure_eq_rbac_iff.mpr repairable.1
            refine routed_next .diagnoseFailure ?_ ?_ ?_
            · refine (route_verify rfl).trans ?_
              rw [if_neg failed, if_pos ⟨congrArg some denied, repairable.2⟩]
            · exact ⟨original, observed, candidate, earlier, result, failure,
                attempting.of_same rfl, same.trans failing, passed, rfl, rfl,
                congrArg some denied, repairable.2⟩
            · simp only [assertions, budget]
              omega
          · refine routed_next .restoreLastKnownGood ?_ ?_ ?_
            · refine (route_verify rfl).trans ?_
              rw [if_neg failed, if_neg]
              rintro ⟨denied, below⟩
              exact repairable ⟨ofFailure_eq_rbac_iff.mp
                (Option.some.inj denied), below⟩
            · refine ⟨original, observed, candidate, earlier, result, failure,
                attempting.of_same rfl, same.trans failing, passed, rfl, ?_⟩
              by_cases denied : failure.authorizationDenial = true
              · exact Or.inr (Or.inl (by
                  by_contra below
                  exact repairable ⟨denied, not_le.mp below⟩))
              · exact Or.inl (Bool.eq_false_of_not_eq_true denied)
            · simp only [assertions, budget]
              omega
        · refine Raises.of_call calls ?_ rfl
          rw [round]
          exact (contained.append_verified attempting.attempt).append
            (by simp)
  · refine Raises.of_call calls ?_ rfl
    rw [made]
    exact applied.append (by simp)

private theorem checkMoreReductions_ends
    (before : Before graph .checkMoreReductions state session.calls) :
    NodeEnds graph .checkMoreReductions state session := by
  obtain ⟨original, observed, candidate, earlier, result, attempting, current,
    made, passed, verified⟩ := before
  refine ends_bind (Session.record_ends fun reached same => ends_pure ?_)
  refine routed_next .finalVerify rfl ?_ ?_
  · exact ⟨original, observed, candidate, earlier, result,
      attempting.of_same rfl, current, same.trans made, passed, verified⟩
  · simp [assertions, budget]

private theorem finalVerify_ends
    (before : Before graph .finalVerify state session.calls) :
    NodeEnds graph .finalVerify state session := by
  obtain ⟨original, observed, candidate, earlier, result, attempting, current,
    made, passed, verified⟩ := before
  refine ends_bind (Session.record_ends fun reached same => ends_pure ?_)
  refine routed_next .finalizeWorkload rfl ?_ ?_
  · exact ⟨original, candidate, Or.inl ⟨attempting.originalPolicy,
      attempting.risk, rfl, current, observed, earlier, result,
      attempting.attempt, same.trans made, passed, verified⟩⟩
  · simp [assertions, budget]

private theorem failureOf_ok {failure : FailureDescription}
    (details : state.failureDetails = some (some failure)) :
    failureOf state = .ok failure := by
  rw [failureOf, details]
  rfl

private theorem diagnoseFailure_ends
    (before : Before graph .diagnoseFailure state session.calls) :
    NodeEnds graph .diagnoseFailure state session := by
  obtain ⟨original, observed, candidate, earlier, result, failure, attempting,
    made, failed, verified, details, denied, below⟩ := before
  refine ends_bind (ends_ofExcept_ok (failureOf_ok details) ?_)
  refine ends_bind (Session.record_ends fun reached same => ends_pure ?_)
  refine routed_next .repairPolicy rfl ?_ ?_
  · exact ⟨original, observed, candidate, earlier, result, failure,
      attempting.of_same rfl, same.trans made, failed, verified, details,
      denied, below⟩
  · simp [assertions, budget]

private theorem attemptRepair_cases (candidate : Policy)
    (failure : FailureDescription) (original : Policy) :
    attemptRepair candidate failure original = .ok none ∨
      ∃ repaired, attemptRepair candidate failure original =
          .ok (some repaired) ∧
        verifierRepair candidate failure original = .ok repaired ∧
        candidate.permissions.length < repaired.permissions.length := by
  unfold attemptRepair
  cases returned : verifierRepair candidate failure original with
  | ok repaired =>
      by_cases larger : candidate.permissions.length <
          repaired.permissions.length
      · exact Or.inr ⟨repaired, if_neg (not_le.mpr larger), rfl, larger⟩
      · exact Or.inl (if_pos (not_lt.mp larger))
  | error error =>
      exact Or.inl (if_pos (verifierRepair_error returned))

private theorem repairPolicy_ends
    (before : Before graph .repairPolicy state session.calls) :
    NodeEnds graph .repairPolicy state session := by
  obtain ⟨original, observed, candidate, earlier, result, failure, attempting,
    made, failed, verified, details, denied, below⟩ := before
  refine ends_bind (ends_ofExcept_ok (failureOf_ok details) ?_)
  refine ends_bind (ends_stateKey attempting.candidatePolicy ?_)
  refine ends_bind (ends_stateKey attempting.originalPolicy ?_)
  rcases attemptRepair_cases candidate failure original with
    hopeless | ⟨repaired, attempted, repairOk, larger⟩
  · refine ends_bind (ends_ofExcept_ok hopeless (ends_pure ?_))
    refine routed_next .restoreLastKnownGood rfl ?_ ?_
    · exact ⟨original, observed, candidate, earlier, result, failure,
        attempting.of_same rfl, made, failed, verified,
        Or.inr (Or.inr hopeless)⟩
    · simp only [assertions, budget]
      omega
  · refine ends_bind (ends_ofExcept_ok attempted ?_)
    refine ends_bind (Session.record_ends fun reached same => ends_pure ?_)
    refine routed_next .validateCandidate ?_ ?_ ?_
    · simp [compiled, route, routeRepair, denied]
    · refine ⟨original, observed, repaired, ⟨attempting.originalPolicy,
        attempting.lastKnownGood, attempting.risk, attempting.accepted⟩, rfl,
        ?_⟩
      rw [same, made]
      exact .repair attempting.attempt below failed repairOk larger
    · simp only [assertions, budget]
      omega

private theorem restoreLastKnownGood_ends
    (before : Before graph .restoreLastKnownGood state session.calls) :
    NodeEnds graph .restoreLastKnownGood state session := by
  obtain ⟨original, observed, candidate, earlier, result, failure, attempting,
    made, failed, verified, givesUp⟩ := before
  have contained : Contained
      (earlier ++ failedRound candidate result failure) :=
    attempting.attempt.contained.append_failed attempting.attempt
  refine ends_bind (Session.make_ends (fun _ called calls => ?_)
    fun error called calls => ?_)
  · refine ends_bind (Session.record_ends fun reached same => ?_)
    refine ends_bind (ends_stateKey attempting.lastKnownGood ?_)
    refine ends_pure (routed_next .humanReview rfl ?_ ?_)
    · exact ⟨original, candidate, attempting.originalPolicy, attempting.risk,
        rfl, rfl, observed, earlier, result, failure, attempting.attempt,
        by simp [same, calls, made], failed, givesUp, verified⟩
    · simp [assertions, budget]
  · refine Raises.of_call calls ?_ rfl
    rw [made]
    exact contained.append (by simp)

private theorem humanReview_ends
    (before : Before graph .humanReview state session.calls) :
    NodeEnds graph .humanReview state session := by
  obtain ⟨original, candidate, rejects⟩ := before
  refine ends_bind (Session.record_ends fun reached same => ends_pure ?_)
  refine routed_next .finalizeWorkload rfl ?_ ?_
  · refine ⟨original, candidate, Or.inr ?_⟩
    rw [same]
    exact ⟨rejects.1, rejects.2, rejects.3, rejects.4, rejects.5⟩
  · simp [assertions, budget]

/-- A decision does not depend on the bookkeeping of the last nodes. -/
private theorem Decided.of_same {updated : WorkloadGraphState}
    (decided : Decided graph state calls)
    (same : decisive updated = decisive state)
    (current : updated.currentPolicy = state.currentPolicy)
    (verification : updated.verificationResult = state.verificationResult) :
    Decided graph updated calls := by
  simp only [decisive, Prod.mk.injEq] at same
  obtain ⟨originalPolicy, -, risk, accepted, -, retryCount⟩ := same
  obtain ⟨original, candidate, accepts | rejects⟩ := decided
  · refine ⟨original, candidate, Or.inl ⟨?_, ?_, ?_, ?_, ?_⟩⟩
    · rw [originalPolicy, accepts.originalPolicy]
    · rw [risk, accepts.risk]
    · rw [accepted, accepts.accepted]
    · rw [current, accepts.currentPolicy]
    · rw [retryCount, verification]
      exact accepts.verification
  · refine ⟨original, candidate, Or.inr ⟨?_, ?_, ?_, ?_, ?_⟩⟩
    · rw [originalPolicy, rejects.originalPolicy]
    · rw [risk, rejects.risk]
    · rw [accepted, rejects.accepted]
    · rw [current, rejects.currentPolicy]
    · rw [retryCount, verification]
      exact rejects.verification

private theorem Decided.currentPolicy (decided : Decided graph state calls) :
    ∃ policy, state.currentPolicy = some policy := by
  obtain ⟨original, candidate, accepts | rejects⟩ := decided
  · exact ⟨_, accepts.currentPolicy⟩
  · exact ⟨_, rejects.currentPolicy⟩

private theorem finalizeWorkload_ends
    (before : Before graph .finalizeWorkload state session.calls) :
    NodeEnds graph .finalizeWorkload state session := by
  obtain ⟨policy, current⟩ := Decided.currentPolicy before
  refine ends_bind (ends_stateKey current ?_)
  refine ends_bind (Session.record_ends fun reached same => ends_pure ?_)
  refine routed_next .publishResultEvent rfl ?_ ?_
  · change Decided graph _ reached.calls
    rw [same]
    exact Decided.of_same before rfl rfl rfl
  · simp [assertions, budget]

private theorem publishResultEvent_ends
    (before : Before graph .publishResultEvent state session.calls) :
    NodeEnds graph .publishResultEvent state session := by
  refine ends_bind (Session.record_ends fun reached same => ends_pure ?_)
  refine routed_end rfl ?_
  change Decided graph _ reached.calls
  rw [same]
  exact Decided.of_same before rfl rfl rfl

/-- The assertions of the workload graph are inductive. -/
theorem assertions_inductive (graph : WorkloadOptimizationGraph)
    (adapter : EnvironmentAdapter σ) (start : σ) :
    (assertions graph adapter start).Inductive
      (graph.compiled adapter start) := by
  intro node state session before
  cases node with
  | loadServiceContext => exact loadServiceContext_ends before
  | inspectRbac => exact inspectRbac_ends before
  | gatherEvidence => exact gatherEvidence_ends before
  | generateCandidate => exact generateCandidate_ends before
  | validateCandidate => exact validateCandidate_ends before
  | applyCandidate => exact applyCandidate_ends before
  | verify => exact verify_ends before
  | checkMoreReductions => exact checkMoreReductions_ends before
  | finalVerify => exact finalVerify_ends before
  | diagnoseFailure => exact diagnoseFailure_ends before
  | repairPolicy => exact repairPolicy_ends before
  | restoreLastKnownGood => exact restoreLastKnownGood_ends before
  | humanReview => exact humanReview_ends before
  | finalizeWorkload => exact finalizeWorkload_ends before
  | publishResultEvent => exact publishResultEvent_ends before

end Nodes

end Kuber.Agent

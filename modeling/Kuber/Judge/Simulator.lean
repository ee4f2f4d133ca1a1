import Kuber.Agent.Interfaces
import Kuber.Rules.Authorization

/-!
# The simulator environment

A narrow simulation of RBAC behaviour: the only state is the policy in force,
and the verification tests are lists of required calls.
-/

namespace Kuber.Judge

open Kuber.Agent Kuber.Library Kuber.Rules

structure VerificationTest where
  name : String
  events : List KubeEvent

/-- A benchmark case, without its descriptive texts and expected policy. -/
structure BenchmarkCase where
  identifier : String
  initialPolicy : Policy
  observedEvents : List KubeEvent
  verificationTests : List VerificationTest

/-- The calls of one test that the policy denies. -/
def testDenials (policy : Policy) (test : VerificationTest) :
    List KubeEvent :=
  test.events.filter fun event => !isAuthorized policy event

/-- The result of running all tests under a policy, except its duration. -/
def simulate (benchmark : BenchmarkCase) (policy : Policy) :
    VerificationResult :=
  let denied := benchmark.verificationTests.flatMap (testDenials policy)
  let unique := uniqueBy id denied
  { passed := denied.isEmpty
    testsPassed := benchmark.verificationTests.countP
      fun test => (testDenials policy test).isEmpty
    testsTotal := benchmark.verificationTests.length
    deniedEvents := unique
    stderr := "\n".intercalate
      (unique.map fun event => "403 Forbidden: " ++ event.display) }

def simulatedFailure (result : VerificationResult) : FailureDescription :=
  if result.deniedEvents ≠ [] then
    { summary := toString result.deniedEvents.length ++
        " required API capability/capabilities denied"
      missingEvents := result.deniedEvents
      authorizationDenial := true }
  else
    { summary := orElse result.stderr
        "verification failed without an RBAC denial" }

/-- The adapter; its state is the current policy. -/
def simulatorEnvironment (benchmark : BenchmarkCase) :
    EnvironmentAdapter Policy where
  name := "simulator:" ++ benchmark.identifier
  getCurrentPolicy := Raising.get
  getObservedUsage := pure benchmark.observedEvents
  applyPolicy := fun policy => Raising.modify fun _ => policy
  verifyWorkload := fun current => (.ok (simulate benchmark current), current)
  restorePolicy := Raising.modify fun _ => benchmark.initialPolicy
  describeFailure := fun result => pure (simulatedFailure result)

/-- The calls required by the tests of a case. -/
def BenchmarkCase.requiredEvents (benchmark : BenchmarkCase) :
    List KubeEvent :=
  benchmark.verificationTests.flatMap VerificationTest.events

theorem mem_denied_iff {benchmark : BenchmarkCase} {policy : Policy}
    {event : KubeEvent} :
    event ∈ benchmark.verificationTests.flatMap (testDenials policy) ↔
      event ∈ benchmark.requiredEvents ∧ isAuthorized policy event = false := by
  simp only [BenchmarkCase.requiredEvents, testDenials, List.mem_flatMap,
    List.mem_filter, Bool.not_eq_true']
  constructor
  · rintro ⟨test, member, required, denied⟩
    exact ⟨⟨test, member, required⟩, denied⟩
  · rintro ⟨⟨test, member, required⟩, denied⟩
    exact ⟨test, member, required, denied⟩

theorem simulate_passed_iff {benchmark : BenchmarkCase} {policy : Policy} :
    (simulate benchmark policy).passed = true ↔
      ∀ event ∈ benchmark.requiredEvents, isAuthorized policy event = true := by
  simp only [simulate, List.isEmpty_iff, List.eq_nil_iff_forall_not_mem,
    mem_denied_iff, not_and, Bool.not_eq_false]

theorem mem_simulate_deniedEvents_iff {benchmark : BenchmarkCase}
    {policy : Policy} {event : KubeEvent} :
    event ∈ (simulate benchmark policy).deniedEvents ↔
      event ∈ benchmark.requiredEvents ∧ isAuthorized policy event = false := by
  rw [← mem_denied_iff]
  have sameMembers := @mem_map_uniqueBy_iff _ _ _ id
    (benchmark.verificationTests.flatMap (testDenials policy)) event
  simpa [simulate] using sameMembers

end Kuber.Judge

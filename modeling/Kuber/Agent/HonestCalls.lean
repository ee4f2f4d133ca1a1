import Kuber.Agent.Convergence

/-!
# Honestly answered calls

Whether calls are answered honestly can be told from their answers alone.  Such
calls could have been made to an honest environment, which plays them back, so
what is known of honest environments holds of every environment that answers a
run honestly.
-/

namespace Kuber.Agent

open Kuber.Library Kuber.Rules

/-- A verification that tells whether the policy in force authorizes all that
is required. -/
structure HonestResult (policy : Policy) (required : List KubeEvent)
    (result : VerificationResult) : Prop where
  passed : result.passed = true ↔
    ∀ event ∈ required, isAuthorized policy event = true
  failed : result.passed = false → result.deniedEvents ≠ [] ∧
    ∀ event ∈ result.deniedEvents, event ∈ required ∧
      isAuthorized policy event = false

/-- A description that takes over the denials. -/
def HonestDescription (result : VerificationResult)
    (failure : FailureDescription) : Prop :=
  result.deniedEvents ≠ [] → failure.authorizationDenial = true ∧
    failure.missingEvents = result.deniedEvents

/-- The calls are answered honestly, from one policy in force on. -/
def AnsweredHonestly (observed required : List KubeEvent) :
    Policy → List EnvironmentCall → Prop
  | _, [] => True
  | policy, .getCurrentPolicy result :: calls =>
      result = .ok policy ∧ AnsweredHonestly observed required policy calls
  | policy, .getObservedUsage result :: calls =>
      result = .ok observed ∧ AnsweredHonestly observed required policy calls
  | _, .applyPolicy policy result :: calls =>
      result = .ok () ∧ AnsweredHonestly observed required policy calls
  | policy, .verifyWorkload result :: calls =>
      (∃ honest, result = .ok honest ∧ HonestResult policy required honest) ∧
        AnsweredHonestly observed required policy calls
  | policy, .describeFailure verification result :: calls =>
      (∃ honest, result = .ok honest ∧
        HonestDescription verification honest) ∧
        AnsweredHonestly observed required policy calls
  | _, .restorePolicy result :: calls =>
      result = .ok () ∧
        ∃ restored, AnsweredHonestly observed required restored calls

section Playback

variable (observed required : List KubeEvent)

/-- The policy in force, and the calls to be played back. -/
def Playback : Type :=
  {state : Policy × List EnvironmentCall //
    AnsweredHonestly observed required state.1 state.2}

variable {observed required}

namespace Playback

def inForce (playback : Playback observed required) : Policy :=
  playback.val.1

/-- Nothing is left to be played back. -/
def done (policy : Policy) : Playback observed required :=
  ⟨(policy, []), trivial⟩

/-- What a verification has to tell, when nothing is played back. -/
def tell (required : List KubeEvent) (policy : Policy) : VerificationResult :=
  let denied := required.filter fun event => !isAuthorized policy event
  ⟨decide (denied = []), 0, 0, denied, "", ""⟩

theorem honestResult_tell (policy : Policy) :
    HonestResult policy required (tell required policy) := by
  constructor
  · simp [tell, List.filter_eq_nil_iff]
  · intro failed
    refine ⟨of_decide_eq_false failed, fun event member => ?_⟩
    simpa [tell] using member

/-- Each call plays back the answer of its kind, if that is what comes
next. -/
def getCurrentPolicy : Raising PyException (Playback observed required) Policy
  | ⟨(policy, .getCurrentPolicy result :: calls), honest⟩ =>
      (result, ⟨(policy, calls), honest.2⟩)
  | ⟨(policy, _), _⟩ => (.ok policy, done policy)

def getObservedUsage :
    Raising PyException (Playback observed required) (List KubeEvent)
  | ⟨(policy, .getObservedUsage result :: calls), honest⟩ =>
      (result, ⟨(policy, calls), honest.2⟩)
  | ⟨(policy, _), _⟩ => (.ok observed, done policy)

def applyPolicy (candidate : Policy) :
    Raising PyException (Playback observed required) Unit
  | ⟨(_, .applyPolicy policy result :: calls), honest⟩ =>
      if policy = candidate then (result, ⟨(policy, calls), honest.2⟩)
      else (.ok (), done candidate)
  | _ => (.ok (), done candidate)

def verifyWorkload :
    Raising PyException (Playback observed required) VerificationResult
  | ⟨(policy, .verifyWorkload result :: calls), honest⟩ =>
      (result, ⟨(policy, calls), honest.2⟩)
  | ⟨(policy, _), _⟩ => (.ok (tell required policy), done policy)

/-- A description of the denials of a result. -/
def describe (result : VerificationResult) : FailureDescription :=
  ⟨"", result.deniedEvents, true⟩

def describeFailure (result : VerificationResult) :
    Raising PyException (Playback observed required) FailureDescription
  | ⟨(policy, .describeFailure verification failure :: calls), honest⟩ =>
      if verification = result then (failure, ⟨(policy, calls), honest.2⟩)
      else (.ok (describe result), done policy)
  | ⟨(policy, _), _⟩ => (.ok (describe result), done policy)

/-- Nothing is known of the policy that is restored. -/
noncomputable def restorePolicy :
    Raising PyException (Playback observed required) Unit
  | ⟨(_, .restorePolicy result :: calls), honest⟩ =>
      (result, ⟨(honest.2.choose, calls), honest.2.choose_spec⟩)
  | ⟨(policy, _), _⟩ => (.ok (), done policy)

end Playback

open Playback in
noncomputable def playback (observed required : List KubeEvent) :
    EnvironmentAdapter (Playback observed required) where
  name := "playback"
  getCurrentPolicy := getCurrentPolicy
  getObservedUsage := getObservedUsage
  applyPolicy := applyPolicy
  verifyWorkload := verifyWorkload
  restorePolicy := restorePolicy
  describeFailure := describeFailure

end Playback

variable {observed required : List KubeEvent}

theorem playback_honest :
    Honest (playback observed required) Playback.inForce observed
      required where
  getCurrentPolicy := by
    rintro ⟨⟨policy, calls⟩, honest⟩
    cases calls with
    | nil => exact ⟨_, rfl, rfl⟩
    | cons call calls =>
        cases call with
        | getCurrentPolicy result =>
            obtain ⟨same, later⟩ := honest
            obtain rfl : result = .ok policy := same
            exact ⟨⟨(policy, calls), later⟩, rfl, rfl⟩
        | _ => exact ⟨_, rfl, rfl⟩
  getObservedUsage := by
    rintro ⟨⟨policy, calls⟩, honest⟩
    cases calls with
    | nil => exact ⟨_, rfl, rfl⟩
    | cons call calls =>
        cases call with
        | getObservedUsage result =>
            obtain ⟨rfl, later⟩ := honest
            exact ⟨⟨(policy, calls), later⟩, rfl, rfl⟩
        | _ => exact ⟨_, rfl, rfl⟩
  applyPolicy := by
    rintro candidate ⟨⟨policy, calls⟩, honest⟩
    cases calls with
    | nil => exact ⟨_, rfl, rfl⟩
    | cons call calls =>
        cases call with
        | applyPolicy applied result =>
            obtain ⟨rfl, later⟩ := honest
            by_cases same : applied = candidate
            · refine ⟨⟨(applied, calls), later⟩, ?_, same⟩
              exact if_pos same
            · refine ⟨Playback.done candidate, ?_, rfl⟩
              exact if_neg same
        | _ => exact ⟨_, rfl, rfl⟩
  verifyWorkload := by
    rintro ⟨⟨policy, calls⟩, honest⟩
    have told := @Playback.honestResult_tell required policy
    cases calls with
    | nil => exact ⟨_, _, rfl, rfl, told.passed, told.failed⟩
    | cons call calls =>
        cases call with
        | verifyWorkload result =>
            obtain ⟨⟨found, rfl, exact⟩, later⟩ := honest
            exact ⟨found, ⟨(policy, calls), later⟩, rfl, rfl, exact.passed,
              exact.failed⟩
        | _ => exact ⟨_, _, rfl, rfl, told.passed, told.failed⟩
  describeFailure := by
    rintro result ⟨⟨policy, calls⟩, honest⟩
    have described : HonestDescription result (Playback.describe result) :=
      fun _ => ⟨rfl, rfl⟩
    cases calls with
    | nil => exact ⟨_, _, rfl, rfl, described⟩
    | cons call calls =>
        cases call with
        | describeFailure verification failure =>
            obtain ⟨⟨found, rfl, exact⟩, later⟩ := honest
            by_cases same : verification = result
            · refine ⟨found, ⟨(policy, calls), later⟩, if_pos same, rfl, ?_⟩
              exact same ▸ exact
            · exact ⟨_, _, if_neg same, rfl, described⟩
        | _ => exact ⟨_, _, rfl, rfl, described⟩
  restorePolicy := by
    rintro ⟨⟨policy, calls⟩, honest⟩
    cases calls with
    | nil => exact ⟨_, rfl⟩
    | cons call calls =>
        cases call with
        | restorePolicy result =>
            obtain ⟨rfl, later⟩ := honest
            exact ⟨_, rfl⟩
        | _ => exact ⟨_, rfl⟩

theorem AnsweredHonestly.played {policy : Policy}
    {calls : List EnvironmentCall}
    (honest : AnsweredHonestly observed required policy calls) :
    ∃ after, (playback observed required).Recorded calls
      ⟨(policy, calls), honest⟩ after := by
  induction calls generalizing policy with
  | nil => exact ⟨_, rfl⟩
  | cons call calls induction =>
      cases call with
      | getCurrentPolicy result =>
          obtain ⟨after, later⟩ := induction honest.2
          exact ⟨after, _, rfl, later⟩
      | getObservedUsage result =>
          obtain ⟨after, later⟩ := induction honest.2
          exact ⟨after, _, rfl, later⟩
      | applyPolicy candidate result =>
          obtain ⟨after, later⟩ := induction honest.2
          exact ⟨after, _, if_pos rfl, later⟩
      | verifyWorkload result =>
          obtain ⟨after, later⟩ := induction honest.2
          exact ⟨after, _, rfl, later⟩
      | describeFailure verification result =>
          obtain ⟨after, later⟩ := induction honest.2
          exact ⟨after, _, if_pos rfl, later⟩
      | restorePolicy result =>
          obtain ⟨after, later⟩ := induction honest.2.choose_spec
          exact ⟨after, _, rfl, later⟩

/-- Honestly answered calls are answered in the same way by an honest
environment. -/
theorem AnsweredHonestly.recorded {policy : Policy}
    {calls : List EnvironmentCall}
    (honest : AnsweredHonestly observed required policy calls) :
    ∃ start after, (playback observed required).Recorded calls start after :=
  ⟨_, honest.played⟩

section

variable {graph : WorkloadOptimizationGraph} {original candidate : Policy}
  {count : Nat} {calls : List EnvironmentCall}

theorem AnsweredHonestly.accepted {seen : List KubeEvent}
    {result : VerificationResult}
    (honest : AnsweredHonestly observed required original
      (calls ++ verifiedRound candidate result))
    (attempt : Attempt graph original seen count candidate calls)
    (passed : result.passed = true) :
    (∀ event, event ∈ observed ∨ event ∈ required →
        isAuthorized candidate event = true) ∧
      ∀ other : Policy,
        (∀ event, event ∈ observed ∨ event ∈ required →
          isAuthorized other event = true) →
        ∀ event, isAuthorized candidate event = true →
          isAuthorized other event = true := by
  obtain ⟨start, after, recorded⟩ := honest.recorded
  obtain ⟨-, rfl⟩ := playback_honest.attempt_reads attempt recorded
  have round := recorded
  rw [← List.append_nil (verifiedRound _ _)] at round
  have authorized := (playback_honest.verified round).1.mp passed
  constructor
  · rintro event (isObserved | isRequired)
    · exact attempt.authorizes_observed event isObserved
    · exact authorized event isRequired
  · intro other sufficient
    exact within_of_leastGrants (attempt.leastGrantsFor playback_honest
      recorded) sufficient

theorem AnsweredHonestly.not_givesUp {seen : List KubeEvent} {first : Policy}
    {result : VerificationResult} {failure : FailureDescription}
    {rest : List EnvironmentCall}
    (honest : AnsweredHonestly observed required original
      (calls ++ failedRound candidate result failure ++ rest))
    (attempt : Attempt graph original seen count candidate calls)
    (failing : result.passed = false)
    (sufficient : ∀ event ∈ required, isAuthorized original event = true)
    (supported : AllSupported required)
    (proposed : observedOnlyPolicy original observed = .ok first)
    (affordable :
      (missingKeys required first).card ≤ graph.maxRepairIterations) :
    ¬GivesUp graph original candidate count failure := by
  obtain ⟨start, after, recorded⟩ := honest.recorded
  have recordedAttempt := recorded
  rw [List.append_assoc] at recordedAttempt
  obtain ⟨-, rfl⟩ := playback_honest.attempt_reads attempt recordedAttempt
  have bound := (attempt.missingKeys_bound playback_honest proposed
    recordedAttempt).trans affordable
  exact playback_honest.not_givesUp sufficient supported bound failing
    recorded

end

end Kuber.Agent

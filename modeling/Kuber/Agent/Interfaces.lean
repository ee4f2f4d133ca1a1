import Kuber.Library.Raising
import Kuber.Rules.Models

/-!
# The environment adapter

The only environment-facing interface of the agents, and a session with one
adapter.  A session keeps the calls made so far with their results; that these
are answers the adapter really gave, from the first state on, is a field.
-/

namespace Kuber.Agent

open Kuber.Library Kuber.Rules

structure VerificationResult where
  passed : Bool
  testsPassed : Nat
  testsTotal : Nat
  deniedEvents : List KubeEvent := []
  stdout : String := ""
  stderr : String := ""
deriving DecidableEq, Repr

structure FailureDescription where
  summary : String
  missingEvents : List KubeEvent := []
  authorizationDenial : Bool := false
deriving DecidableEq, Repr

/-- An environment whose own state has type `σ`; every call may raise. -/
structure EnvironmentAdapter (σ : Type) where
  name : String
  getCurrentPolicy : Raising PyException σ Policy
  getObservedUsage : Raising PyException σ (List KubeEvent)
  applyPolicy : Policy → Raising PyException σ Unit
  verifyWorkload : Raising PyException σ VerificationResult
  restorePolicy : Raising PyException σ Unit
  describeFailure :
    VerificationResult → Raising PyException σ FailureDescription

/-- One call with the result or the exception it ended in. -/
inductive EnvironmentCall where
  | getCurrentPolicy (result : Except PyException Policy)
  | getObservedUsage (result : Except PyException (List KubeEvent))
  | applyPolicy (policy : Policy) (result : Except PyException Unit)
  | verifyWorkload (result : Except PyException VerificationResult)
  | restorePolicy (result : Except PyException Unit)
  | describeFailure (verification : VerificationResult)
      (result : Except PyException FailureDescription)

namespace EnvironmentCall

/-- The exception a call raised. -/
def raised? : EnvironmentCall → Option PyException
  | getCurrentPolicy (.error error) => some error
  | getObservedUsage (.error error) => some error
  | applyPolicy _ (.error error) => some error
  | verifyWorkload (.error error) => some error
  | restorePolicy (.error error) => some error
  | describeFailure _ (.error error) => some error
  | _ => none

def applied? : EnvironmentCall → Option Policy
  | applyPolicy policy _ => some policy
  | _ => none

def verified? : EnvironmentCall → Option VerificationResult
  | verifyWorkload (.ok result) => some result
  | _ => none

def isRestore : EnvironmentCall → Bool
  | restorePolicy _ => true
  | _ => false

end EnvironmentCall

variable {σ : Type}

namespace EnvironmentAdapter

/-- The adapter gives the recorded answer, moving from one state to another. -/
def Answers (environment : EnvironmentAdapter σ) :
    EnvironmentCall → σ → σ → Prop
  | .getCurrentPolicy result, before, after =>
      environment.getCurrentPolicy before = (result, after)
  | .getObservedUsage result, before, after =>
      environment.getObservedUsage before = (result, after)
  | .applyPolicy policy result, before, after =>
      environment.applyPolicy policy before = (result, after)
  | .verifyWorkload result, before, after =>
      environment.verifyWorkload before = (result, after)
  | .restorePolicy result, before, after =>
      environment.restorePolicy before = (result, after)
  | .describeFailure verification result, before, after =>
      environment.describeFailure verification before = (result, after)

/-- A list of calls is answered one after another. -/
def Recorded (environment : EnvironmentAdapter σ) :
    List EnvironmentCall → σ → σ → Prop
  | [], before, after => before = after
  | call :: calls, before, after =>
      ∃ middle, environment.Answers call before middle ∧
        environment.Recorded calls middle after

theorem recorded_append {environment : EnvironmentAdapter σ}
    {first second : List EnvironmentCall} {before after : σ} :
    environment.Recorded (first ++ second) before after ↔
      ∃ middle, environment.Recorded first before middle ∧
        environment.Recorded second middle after := by
  induction first generalizing before with
  | nil => simp [Recorded]
  | cons call calls induction =>
      simp only [List.cons_append, Recorded, induction]
      constructor
      · rintro ⟨answered, answer, middle, earlier, later⟩
        exact ⟨middle, ⟨answered, answer, earlier⟩, later⟩
      · rintro ⟨middle, ⟨answered, answer, earlier⟩, later⟩
        exact ⟨answered, answer, middle, earlier, later⟩

end EnvironmentAdapter

/-- One record of the trajectory, without its details. -/
structure TrajectoryEvent where
  runId : String
  environment : String
  agent : String
  action : String
  reason : String
  decision : Option String := none
  retryCount : Nat := 0
deriving DecidableEq, Repr

/-- An adapter in use since state `start`. -/
structure Session (adapter : EnvironmentAdapter σ) (start : σ) where
  environment : σ
  calls : List EnvironmentCall
  trajectory : List TrajectoryEvent
  recorded : adapter.Recorded calls start environment

namespace Session

variable {adapter : EnvironmentAdapter σ} {start : σ}

def opened (adapter : EnvironmentAdapter σ) (start : σ) :
    Session adapter start :=
  ⟨start, [], [], rfl⟩

/-- Make one call and record its answer. -/
def make {α : Type} (action : Raising PyException σ α)
    (call : Except PyException α → EnvironmentCall)
    (answers : ∀ before, adapter.Answers (call (action before).1) before
      (action before).2) :
    Raising PyException (Session adapter start) α :=
  fun session =>
    ((action session.environment).1,
      { environment := (action session.environment).2
        calls := session.calls ++ [call (action session.environment).1]
        trajectory := session.trajectory
        recorded := EnvironmentAdapter.recorded_append.mpr
          ⟨session.environment, session.recorded,
            _, answers session.environment, rfl⟩ })

def getCurrentPolicy : Raising PyException (Session adapter start) Policy :=
  make adapter.getCurrentPolicy .getCurrentPolicy fun _ => rfl

def getObservedUsage :
    Raising PyException (Session adapter start) (List KubeEvent) :=
  make adapter.getObservedUsage .getObservedUsage fun _ => rfl

def applyPolicy (policy : Policy) :
    Raising PyException (Session adapter start) Unit :=
  make (adapter.applyPolicy policy) (.applyPolicy policy) fun _ => rfl

def verifyWorkload :
    Raising PyException (Session adapter start) VerificationResult :=
  make adapter.verifyWorkload .verifyWorkload fun _ => rfl

def restorePolicy : Raising PyException (Session adapter start) Unit :=
  make adapter.restorePolicy .restorePolicy fun _ => rfl

def describeFailure (verification : VerificationResult) :
    Raising PyException (Session adapter start) FailureDescription :=
  make (adapter.describeFailure verification) (.describeFailure verification)
    fun _ => rfl

/-- Append one trajectory record. -/
def record (event : TrajectoryEvent) :
    Raising PyException (Session adapter start) Unit :=
  Raising.modify fun session =>
    { session with trajectory := session.trajectory ++ [event] }

/-- The rule of calls: a call is recorded with the value it returned or with
the exception it raised. -/
theorem make_ends {α : Type} {action : Raising PyException σ α}
    {call : Except PyException α → EnvironmentCall}
    {answers : ∀ before, adapter.Answers (call (action before).1) before
      (action before).2} {session : Session adapter start}
    {returned : α → Session adapter start → Prop}
    {raised : PyException → Session adapter start → Prop}
    (onValue : ∀ value reached,
      reached.calls = session.calls ++ [call (.ok value)] →
        returned value reached)
    (onError : ∀ error reached,
      reached.calls = session.calls ++ [call (.error error)] →
        raised error reached) :
    Raising.Ends returned raised (make action call answers session) := by
  have recorded : (make action call answers session).2.calls =
      session.calls ++ [call (make action call answers session).1] := rfl
  cases run : make action call answers session with
  | mk result reached =>
      rw [run] at recorded
      cases result with
      | ok value => exact onValue value reached recorded
      | error error => exact onError error reached recorded

theorem record_ends {event : TrajectoryEvent}
    {session : Session adapter start}
    {returned : Unit → Session adapter start → Prop}
    {raised : PyException → Session adapter start → Prop}
    (after : ∀ reached, reached.calls = session.calls → returned () reached) :
    Raising.Ends returned raised (record event session) :=
  after _ rfl

end Session

end Kuber.Agent

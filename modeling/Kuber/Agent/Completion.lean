import Kuber.Agent.Outcome

/-!
# Environments that complete a run

An environment only has to answer the calls that a run can make.  If each of
them returns after the calls that were made before it, then no call of the run
raises, and the run finishes unless the first candidate is refused.
-/

namespace Kuber.Agent

open Kuber.Library Kuber.Rules

variable {σ : Type}

/-- From this state on, every call that a run of the graph can make next
returns. -/
structure Completes (graph : WorkloadOptimizationGraph)
    (adapter : EnvironmentAdapter σ) (start : σ) : Prop where
  getCurrentPolicy : ∃ original reached,
    adapter.getCurrentPolicy start = (.ok original, reached)
  getObservedUsage : ∀ original state,
    adapter.Recorded [.getCurrentPolicy (.ok original)] start state →
    ∃ observed reached, adapter.getObservedUsage state = (.ok observed, reached)
  applyPolicy : ∀ original observed count candidate calls state,
    Attempt graph original observed count candidate calls →
    adapter.Recorded calls start state →
    ∃ value reached, adapter.applyPolicy candidate state = (.ok value, reached)
  verifyWorkload : ∀ original observed count candidate calls state,
    Attempt graph original observed count candidate calls →
    adapter.Recorded (calls ++ [.applyPolicy candidate (.ok ())]) start state →
    ∃ result reached, adapter.verifyWorkload state = (.ok result, reached)
  describeFailure : ∀ original observed count candidate calls result state,
    Attempt graph original observed count candidate calls →
    adapter.Recorded (calls ++ verifiedRound candidate result) start state →
    ∃ failure reached,
      adapter.describeFailure result state = (.ok failure, reached)
  restorePolicy : ∀ original observed count candidate calls result failure
      state,
    Attempt graph original observed count candidate calls →
    adapter.Recorded (calls ++ failedRound candidate result failure) start
      state →
    ∃ value reached, adapter.restorePolicy state = (.ok value, reached)

/-- No call has raised. -/
def Unraised (calls : List EnvironmentCall) : Prop :=
  ∀ call ∈ calls, call.raised? = none

theorem Unraised.append {calls more : List EnvironmentCall}
    (earlier : Unraised calls) (later : Unraised more) :
    Unraised (calls ++ more) := by
  intro call member
  exact (List.mem_append.mp member).elim (earlier call) (later call)

section Nodes

open Raising WorkloadOptimizationGraph

variable {adapter : EnvironmentAdapter σ} {start : σ}
  {graph : WorkloadOptimizationGraph} {state : WorkloadGraphState}
  {session : Session adapter start}

/-- The rule of a call that returns. -/
theorem make_returns {α : Type} {action : Raising PyException σ α}
    {call : Except PyException α → EnvironmentCall}
    {answers : ∀ before, adapter.Answers (call (action before).1) before
      (action before).2}
    {returned : α → Session adapter start → Prop}
    {raised : PyException → Session adapter start → Prop}
    (returns : ∃ value reached,
      action session.environment = (.ok value, reached))
    (after : ∀ value reached,
      reached.calls = session.calls ++ [call (.ok value)] →
        returned value reached) :
    Ends returned raised (Session.make action call answers session) := by
  obtain ⟨value, environment, run⟩ := returns
  have result : (Session.make action call answers session).1 = .ok value :=
    congrArg Prod.fst run
  have recorded : (Session.make action call answers session).2.calls =
      session.calls ++ [call (.ok value)] := by
    rw [← result]
    rfl
  cases made : Session.make action call answers session with
  | mk outcome reached =>
      rw [made] at result recorded
      obtain rfl : outcome = .ok value := result
      exact after value reached recorded

/-- However a node ends, none of the calls so far has raised. -/
abbrev StaysUnraised (graph : WorkloadOptimizationGraph) (node : WorkloadNode)
    (state : WorkloadGraphState) (session : Session adapter start) : Prop :=
  Ends (fun _ reached => Unraised reached.calls)
    (fun _ reached => Unraised reached.calls)
    (graph.execute node state session)

variable (completes : Completes graph adapter start)
  (unraised : Unraised session.calls)

include unraised

private theorem record_unraised {event : TrajectoryEvent} {α : Type}
    {updated : α} :
    Ends (fun _ reached => Unraised reached.calls)
      (fun _ reached => Unraised reached.calls)
      ((do
        Session.record event
        return updated : Raising PyException (Session adapter start) α)
          session) :=
  ends_bind (Session.record_ends fun _ same => ends_pure
    (same ▸ unraised))

private theorem called_unraised {call : EnvironmentCall}
    {reached : Session adapter start} (silent : call.raised? = none)
    (made : reached.calls = session.calls ++ [call]) :
    Unraised reached.calls := by
  rw [made]
  apply unraised.append
  intro other member
  rw [List.mem_singleton.mp member]
  exact silent

include completes

private theorem inspectRbac_unraised
    (before : Before graph .inspectRbac state session.calls) :
    StaysUnraised graph .inspectRbac state session := by
  obtain ⟨-, -, made⟩ := before
  have recorded := session.recorded
  rw [made] at recorded
  have unmoved : start = session.environment := recorded
  have returns := completes.getCurrentPolicy
  rw [unmoved] at returns
  refine ends_bind (make_returns returns fun policy called calls => ?_)
  exact record_unraised (called_unraised unraised rfl calls)

private theorem gatherEvidence_unraised
    (before : Before graph .gatherEvidence state session.calls) :
    StaysUnraised graph .gatherEvidence state session := by
  obtain ⟨original, -, -, made⟩ := before
  have recorded := session.recorded
  rw [made] at recorded
  refine ends_bind (make_returns
    (completes.getObservedUsage original _ recorded)
    fun observed called calls => ?_)
  exact record_unraised (called_unraised unraised rfl calls)

private theorem applyCandidate_unraised
    (before : Before graph .applyCandidate state session.calls) :
    StaysUnraised graph .applyCandidate state session := by
  obtain ⟨original, observed, candidate, attempting⟩ := before
  have proposed : stateKey "candidate_policy" state.candidatePolicy =
      .ok candidate := by
    rw [attempting.candidatePolicy]
    rfl
  refine ends_bind (ends_ofExcept_ok proposed ?_)
  refine ends_bind (make_returns (completes.applyPolicy _ _ _ _ _ _
    attempting.attempt session.recorded) fun _ called calls => ?_)
  exact record_unraised (called_unraised unraised rfl calls)

private theorem verify_unraised
    (before : Before graph .verify state session.calls) :
    StaysUnraised graph .verify state session := by
  obtain ⟨original, observed, candidate, earlier, attempting, -, made⟩ :=
    before
  have recorded := session.recorded
  rw [made] at recorded
  refine ends_bind (make_returns (completes.verifyWorkload _ _ _ _ _ _
    attempting.attempt recorded) fun result called calls => ?_)
  have verified := called_unraised unraised rfl calls
  refine ends_bind ?_
  cases passed : result.passed with
  | true =>
      rw [describe, if_pos passed]
      exact ends_pure (record_unraised verified)
  | false =>
      have failed : ¬result.passed = true := by simp [passed]
      rw [describe, if_neg failed]
      have round :
          called.calls = earlier ++ verifiedRound candidate result := by
        simp [calls, made, verifiedRound]
      have recordedRound := called.recorded
      rw [round] at recordedRound
      refine ends_bind (make_returns (completes.describeFailure _ _ _ _ _ _ _
        attempting.attempt recordedRound) fun failure described calls => ?_)
      exact ends_pure (record_unraised (called_unraised verified rfl calls))

private theorem restoreLastKnownGood_unraised
    (before : Before graph .restoreLastKnownGood state session.calls) :
    StaysUnraised graph .restoreLastKnownGood state session := by
  obtain ⟨original, observed, candidate, earlier, result, failure, attempting,
    made, -⟩ := before
  have recorded := session.recorded
  rw [made] at recorded
  refine ends_bind (make_returns (completes.restorePolicy _ _ _ _ _ _ _ _
    attempting.attempt recorded) fun _ called calls => ?_)
  have restored := called_unraised unraised rfl calls
  refine ends_bind (Session.record_ends fun reached same => ?_)
  have kept : Unraised reached.calls := same ▸ restored
  refine ends_bind (ends_ofExcept (fun good _ => ?_) fun error _ => kept)
  exact ends_pure kept

theorem execute_unraised (node : WorkloadNode)
    (before : Before graph node state session.calls) :
    StaysUnraised graph node state session := by
  cases node with
  | inspectRbac => exact inspectRbac_unraised completes unraised before
  | gatherEvidence => exact gatherEvidence_unraised completes unraised before
  | applyCandidate => exact applyCandidate_unraised completes unraised before
  | verify => exact verify_unraised completes unraised before
  | restoreLastKnownGood =>
      exact restoreLastKnownGood_unraised completes unraised before
  | generateCandidate =>
      refine ends_bind (ends_ofExcept (fun _ _ => ?_) fun _ _ => unraised)
      refine ends_bind (ends_ofExcept (fun _ _ => ?_) fun _ _ => unraised)
      refine ends_bind (ends_ofExcept (fun _ _ => ?_) fun _ _ => unraised)
      exact record_unraised unraised
  | validateCandidate =>
      refine ends_bind (ends_ofExcept (fun _ _ => ?_) fun _ _ => unraised)
      refine ends_bind (ends_ofExcept (fun _ _ => ?_) fun _ _ => unraised)
      refine ends_bind (ends_ofExcept (fun _ _ => ?_) fun _ _ => unraised)
      exact record_unraised unraised
  | diagnoseFailure =>
      refine ends_bind (ends_ofExcept (fun _ _ => ?_) fun _ _ => unraised)
      exact record_unraised unraised
  | repairPolicy =>
      refine ends_bind (ends_ofExcept (fun _ _ => ?_) fun _ _ => unraised)
      refine ends_bind (ends_ofExcept (fun _ _ => ?_) fun _ _ => unraised)
      refine ends_bind (ends_ofExcept (fun _ _ => ?_) fun _ _ => unraised)
      refine ends_bind (ends_ofExcept (fun attempt _ => ?_)
        fun _ _ => unraised)
      cases attempt with
      | none => exact ends_pure unraised
      | some repaired => exact record_unraised unraised
  | finalizeWorkload =>
      refine ends_bind (ends_ofExcept (fun _ _ => ?_) fun _ _ => unraised)
      exact record_unraised unraised
  | loadServiceContext => exact record_unraised unraised
  | checkMoreReductions => exact record_unraised unraised
  | finalVerify => exact record_unraised unraised
  | humanReview => exact record_unraised unraised
  | publishResultEvent => exact record_unraised unraised

end Nodes

/-- That no call has raised, wherever a run is. -/
def unraisedAssertions (adapter : EnvironmentAdapter σ) (start : σ) :
    StateGraph.Assertions PyException (Session adapter start) WorkloadNode
      WorkloadGraphState where
  holds := fun _ _ session => Unraised session.calls
  final := fun _ session => Unraised session.calls
  raises := fun _ session => Unraised session.calls
  budget := fun _ _ => 0

variable {graph : WorkloadOptimizationGraph} {adapter : EnvironmentAdapter σ}
  {start : σ}

theorem Completes.conjoined (completes : Completes graph adapter start) :
    ((assertions graph adapter start).conjoin
      (unraisedAssertions adapter start)).Inductive
        (graph.compiled adapter start) := by
  apply (assertions_inductive graph adapter start).conjoin
  intro node state session before unraised
  apply (execute_unraised completes unraised node before).imp
  · intro updated reached kept
    unfold StateGraph.Assertions.Carried
    split
    · exact kept
    · exact kept
    · exact kept
  · exact fun _ _ kept => kept

theorem Completes.run_unraised (completes : Completes graph adapter start)
    (recursionLimit : Nat) (request : WorkloadRequest)
    (persisted : WorkloadGraphState) :
    Unraised (runFrom graph recursionLimit request persisted adapter
      start).2.calls := by
  have before : ((assertions graph adapter start).conjoin
      (unraisedAssertions adapter start)).holds .loadServiceContext
      (WorkloadOptimizationGraph.initialState adapter.name request persisted)
      (Session.opened adapter start) :=
    ⟨⟨rfl, rfl, rfl⟩, fun call member => by cases member⟩
  obtain ⟨atEnd, -⟩ :=
    completes.conjoined.invoke_atEnd recursionLimit _ _ _ before
  unfold runFrom WorkloadOptimizationGraph.run
  cases invoked : (graph.compiled adapter start).invoke recursionLimit
      .loadServiceContext
      (WorkloadOptimizationGraph.initialState adapter.name request persisted)
      (Session.opened adapter start) with
  | mk result reached =>
      rw [invoked] at atEnd
      cases result with
      | finished final => exact atEnd.2
      | raised error => exact atEnd.2
      | exhausted =>
          rcases atEnd with ⟨node, state, holds⟩ | ⟨state, final⟩
          · exact holds.2
          · exact final.2

/-- A run against an environment that completes it finishes, unless the first
candidate is refused. -/
theorem Completes.run_finishes (completes : Completes graph adapter start)
    (recursionLimit : Nat)
    (enough : graph.WithinLimit recursionLimit)
    (request : WorkloadRequest) (persisted : WorkloadGraphState)
    (proposable : ∀ original observed state,
      adapter.Recorded (prologue original observed) start state →
      ∃ candidate, observedOnlyPolicy original observed = .ok candidate) :
    ∃ execution session,
      runFrom graph recursionLimit request persisted adapter start =
        (.ok execution, session) ∧
      Finishes graph execution session.calls := by
  have unraised := completes.run_unraised recursionLimit request persisted
  cases run : runFrom graph recursionLimit request persisted adapter start with
  | mk outcome session =>
      rw [run] at unraised
      obtain ⟨-, ends⟩ := run_ends graph recursionLimit request persisted run
      cases outcome with
      | ok execution => exact ⟨execution, session, rfl, ends⟩
      | error error =>
          exfalso
          rcases ends with ⟨-, ⟨call, member, raised⟩ |
            ⟨original, observed, made, refused⟩⟩ | tooSmall
          · rw [unraised call member] at raised
            cases raised
          · have recorded := session.recorded
            rw [made] at recorded
            obtain ⟨candidate, proposed⟩ :=
              proposable original observed _ recorded
            rw [proposed] at refused
            cases refused
          · exact tooSmall enough

end Kuber.Agent

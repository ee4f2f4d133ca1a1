import Kuber.Agent.Accounting

/-!
# What the trajectory of a run tells

Every node leaves one record, and only a repair that fails leaves none.  The
records of a run account for the calls that were made to the environment, in
order, for the repairs and for the acceptance; only the calls of a node that
raised may be missing.
-/

namespace Kuber.Agent

open Kuber.Library Kuber.Rules WorkloadOptimizationGraph

inductive CallKind where
  | getCurrentPolicy
  | getObservedUsage
  | applyPolicy
  | verifyWorkload
  | restorePolicy
  | describeFailure
deriving DecidableEq, Repr

def EnvironmentCall.kind : EnvironmentCall → CallKind
  | .getCurrentPolicy _ => .getCurrentPolicy
  | .getObservedUsage _ => .getObservedUsage
  | .applyPolicy _ _ => .applyPolicy
  | .verifyWorkload _ => .verifyWorkload
  | .restorePolicy _ => .restorePolicy
  | .describeFailure _ _ => .describeFailure

/-- The calls that a record tells of. -/
def TrajectoryEvent.recordedCalls (event : TrajectoryEvent) : List CallKind :=
  if event.action = "inspect" then [.getCurrentPolicy]
  else if event.action = "gather_evidence" then [.getObservedUsage]
  else if event.action = "apply_policy" then [.applyPolicy]
  else if event.action = "verify" then
    if event.decision = some "diagnose" then
      [.verifyWorkload, .describeFailure]
    else [.verifyWorkload]
  else if event.action = "restore_policy" then [.restorePolicy]
  else []

/-- The calls that all records tell of. -/
def recordedCalls (trajectory : List TrajectoryEvent) : List CallKind :=
  trajectory.flatMap TrajectoryEvent.recordedCalls

/-- The action of the record that a node leaves. -/
def WorkloadNode.action : WorkloadNode → String
  | .loadServiceContext => "load_service_context"
  | .inspectRbac => "inspect"
  | .gatherEvidence => "gather_evidence"
  | .generateCandidate => "propose_policy"
  | .validateCandidate => "validate_candidate"
  | .applyCandidate => "apply_policy"
  | .verify => "verify"
  | .checkMoreReductions => "check_more_reductions"
  | .finalVerify => "final_verify"
  | .diagnoseFailure => "diagnose_failure"
  | .repairPolicy => "repair_policy"
  | .restoreLastKnownGood => "restore_policy"
  | .humanReview => "human_review"
  | .finalizeWorkload => "finalize"
  | .publishResultEvent => "publish_result_event"

variable {σ : Type} {adapter : EnvironmentAdapter σ} {start : σ}

/-- The calls and records that a part of a run has added. -/
structure Adds (session reached : Session adapter start)
    (calls : List EnvironmentCall) (events : List TrajectoryEvent) :
    Prop where
  calls : reached.calls = session.calls ++ calls
  trajectory : reached.trajectory = session.trajectory ++ events

section Rules

open Raising

variable {session middle reached : Session adapter start}
  {calls more : List EnvironmentCall} {events later : List TrajectoryEvent}

theorem Adds.nothing (session : Session adapter start) :
    Adds session session [] [] :=
  ⟨(List.append_nil _).symm, (List.append_nil _).symm⟩

theorem Adds.trans (first : Adds session middle calls events)
    (second : Adds middle reached more later) :
    Adds session reached (calls ++ more) (events ++ later) := by
  constructor
  · rw [second.calls, first.calls, List.append_assoc]
  · rw [second.trajectory, first.trajectory, List.append_assoc]

/-- The rule of calls, with the records. -/
theorem make_adds {α : Type} {action : Raising PyException σ α}
    {call : Except PyException α → EnvironmentCall}
    {answers : ∀ before, adapter.Answers (call (action before).1) before
      (action before).2}
    {returned : α → Session adapter start → Prop}
    {raised : PyException → Session adapter start → Prop}
    (onValue : ∀ value reached,
      Adds session reached [call (.ok value)] [] → returned value reached)
    (onError : ∀ error reached,
      Adds session reached [call (.error error)] [] → raised error reached) :
    Ends returned raised (Session.make action call answers session) := by
  have adds : Adds session (Session.make action call answers session).2
      [call (Session.make action call answers session).1] [] :=
    ⟨rfl, (List.append_nil _).symm⟩
  cases run : Session.make action call answers session with
  | mk result reached =>
      rw [run] at adds
      cases result with
      | ok value => exact onValue value reached adds
      | error error => exact onError error reached adds

theorem record_adds {event : TrajectoryEvent}
    {returned : Unit → Session adapter start → Prop}
    {raised : PyException → Session adapter start → Prop}
    (after : ∀ reached, Adds session reached [] [event] →
      returned () reached) :
    Ends returned raised (Session.record event session) :=
  after _ ⟨(List.append_nil _).symm, rfl⟩

end Rules

/-- Whether a run is accepted after a node, from whether it was before. -/
def WorkloadNode.accepts : WorkloadNode → Bool → Bool
  | .finalVerify, _ => true
  | .restoreLastKnownGood, _ => false
  | _, accepted => accepted

/-- What a node that returns has done. -/
structure NodeTold (node : WorkloadNode) (state updated : WorkloadGraphState)
    (session reached : Session adapter start) : Prop where
  told : ∃ calls events, Adds session reached calls events ∧
    calls.map EnvironmentCall.kind = recordedCalls events ∧
    (events = [] ∧ node = .repairPolicy ∧
        updated.retryCount = state.retryCount ∨
      ∃ event, events = [event] ∧ event.action = node.action ∧
        updated.retryCount =
          state.retryCount + if node = .repairPolicy then 1 else 0)
  accepted : updated.accepted = node.accepts state.accepted

/-- The calls of a node that no record tells of, if the last one raised. -/
def openCalls : List (List CallKind) :=
  [[.getCurrentPolicy], [.getObservedUsage], [.applyPolicy],
    [.verifyWorkload], [.verifyWorkload, .describeFailure], [.restorePolicy]]

/-- What a node that raises has done. -/
def NodeRaised (error : PyException)
    (session reached : Session adapter start) : Prop :=
  ∃ calls events missing, Adds session reached calls events ∧
    calls.map EnvironmentCall.kind = recordedCalls events ++ missing ∧
    (missing = [] ∨ missing ∈ openCalls ∧
      ∃ call, calls.getLast? = some call ∧ call.raised? = some error)

section Nodes

open Raising

variable {session called reached : Session adapter start}
  {graph : WorkloadOptimizationGraph} {state updated : WorkloadGraphState}
  {node : WorkloadNode}

theorem raised_first (error : PyException) :
    NodeRaised error session session :=
  ⟨[], [], [], .nothing session, rfl, Or.inl rfl⟩

theorem raised_call {call : EnvironmentCall} {error : PyException}
    (kind : CallKind) (isOpen : [kind] ∈ openCalls)
    (adds : Adds session reached [call] [])
    (raised : call.raised? = some error) (same : call.kind = kind) :
    NodeRaised error session reached :=
  ⟨[call], [], [kind], adds, congrArg List.singleton same,
    Or.inr ⟨isOpen, call, rfl, raised⟩⟩

theorem told_once {calls : List EnvironmentCall} {event : TrajectoryEvent}
    (adds : Adds session reached calls [event])
    (told : calls.map EnvironmentCall.kind = event.recordedCalls)
    (action : event.action = node.action)
    (counted : updated.retryCount =
      state.retryCount + if node = .repairPolicy then 1 else 0)
    (accepted : updated.accepted = node.accepts state.accepted) :
    NodeTold node state updated session reached where
  told := ⟨calls, [event], adds,
    by rw [told, recordedCalls, List.flatMap_singleton],
    Or.inr ⟨event, rfl, action, counted⟩⟩
  accepted := accepted

/-- The nodes that leave a record and call nothing. -/
abbrev Tells (graph : WorkloadOptimizationGraph) (node : WorkloadNode)
    (state : WorkloadGraphState) (session : Session adapter start) : Prop :=
  Ends (fun updated reached => NodeTold node state updated session reached)
    (fun error reached => NodeRaised error session reached)
    (graph.execute node state session)

private theorem verify_tells : Tells graph .verify state session := by
  refine ends_bind (make_adds (fun result called verified => ?_)
    fun error called verified =>
      raised_call .verifyWorkload (by decide) verified rfl rfl)
  refine ends_bind ?_
  cases passed : result.passed with
  | true =>
      rw [describe, if_pos passed]
      refine ends_pure (ends_bind (record_adds fun reached recorded => ?_))
      exact ends_pure
        (told_once (verified.trans recorded) rfl rfl rfl rfl)
  | false =>
      have failed : ¬result.passed = true := by simp [passed]
      rw [describe, if_neg failed]
      refine ends_bind (make_adds (fun failure described adds => ?_)
        fun error reached adds => ?_)
      · refine ends_pure (ends_bind (record_adds fun reached recorded => ?_))
        exact ends_pure
          (told_once ((verified.trans adds).trans recorded) rfl rfl rfl rfl)
      · exact ⟨_, [], [.verifyWorkload, .describeFailure],
          verified.trans adds, rfl, Or.inr ⟨by decide, _, rfl, rfl⟩⟩

private theorem repair_tells : Tells graph .repairPolicy state session := by
  refine ends_bind (ends_ofExcept (fun failure _ => ?_)
    fun error _ => raised_first error)
  refine ends_bind (ends_ofExcept (fun candidate _ => ?_)
    fun error _ => raised_first error)
  refine ends_bind (ends_ofExcept (fun original _ => ?_)
    fun error _ => raised_first error)
  refine ends_bind (ends_ofExcept (fun attempt _ => ?_)
    fun error _ => raised_first error)
  cases attempt with
  | none =>
      exact ends_pure ⟨⟨[], [], .nothing session, rfl,
        Or.inl ⟨rfl, rfl, rfl⟩⟩, rfl⟩
  | some repaired =>
      exact ends_bind (record_adds fun reached recorded =>
        ends_pure (told_once recorded rfl rfl rfl rfl))

/-- Every node tells what it has done. -/
theorem execute_tells (node : WorkloadNode) :
    Tells graph node state session := by
  have silent : ∀ {event : TrajectoryEvent} {updated : WorkloadGraphState},
      event.recordedCalls = [] → event.action = node.action →
      updated.retryCount =
        state.retryCount + (if node = .repairPolicy then 1 else 0) →
      updated.accepted = node.accepts state.accepted →
      Ends (fun updated reached => NodeTold node state updated session reached)
        (fun error reached => NodeRaised error session reached)
        ((do
          Session.record event
          return updated : Raising PyException (Session adapter start)
            WorkloadGraphState) session) := by
    intro event updated nothing action counted accepted
    exact ends_bind (record_adds fun reached recorded => ends_pure
      (told_once recorded nothing.symm action counted accepted))
  cases node with
  | loadServiceContext => exact silent rfl rfl rfl rfl
  | inspectRbac =>
      refine ends_bind (make_adds (fun policy called read => ?_)
        fun error called read =>
          raised_call .getCurrentPolicy (by decide) read rfl rfl)
      exact ends_bind (record_adds fun reached recorded =>
        ends_pure (told_once (read.trans recorded) rfl rfl rfl rfl))
  | gatherEvidence =>
      refine ends_bind (make_adds (fun observed called read => ?_)
        fun error called read =>
          raised_call .getObservedUsage (by decide) read rfl rfl)
      exact ends_bind (record_adds fun reached recorded =>
        ends_pure (told_once (read.trans recorded) rfl rfl rfl rfl))
  | generateCandidate =>
      refine ends_bind (ends_ofExcept (fun original _ => ?_)
        fun error _ => raised_first error)
      refine ends_bind (ends_ofExcept (fun observed _ => ?_)
        fun error _ => raised_first error)
      refine ends_bind (ends_ofExcept (fun candidate _ => ?_)
        fun error _ => raised_first error)
      exact silent rfl rfl rfl rfl
  | validateCandidate =>
      refine ends_bind (ends_ofExcept (fun candidate _ => ?_)
        fun error _ => raised_first error)
      refine ends_bind (ends_ofExcept (fun original _ => ?_)
        fun error _ => raised_first error)
      refine ends_bind (ends_ofExcept (fun _ _ => ?_)
        fun error _ => raised_first error)
      exact silent rfl rfl rfl rfl
  | applyCandidate =>
      refine ends_bind (ends_ofExcept (fun candidate _ => ?_)
        fun error _ => raised_first error)
      refine ends_bind (make_adds (fun _ called applied => ?_)
        fun error called applied =>
          raised_call .applyPolicy (by decide) applied rfl rfl)
      exact ends_bind (record_adds fun reached recorded =>
        ends_pure (told_once (applied.trans recorded) rfl rfl rfl rfl))
  | verify => exact verify_tells
  | checkMoreReductions => exact silent rfl rfl rfl rfl
  | finalVerify => exact silent rfl rfl rfl rfl
  | diagnoseFailure =>
      refine ends_bind (ends_ofExcept (fun failure _ => ?_)
        fun error _ => raised_first error)
      exact silent rfl rfl rfl rfl
  | repairPolicy => exact repair_tells
  | restoreLastKnownGood =>
      refine ends_bind (make_adds (fun _ called restored => ?_)
        fun error called restored =>
          raised_call .restorePolicy (by decide) restored rfl rfl)
      refine ends_bind (record_adds fun reached recorded => ?_)
      have adds := restored.trans recorded
      refine ends_bind (ends_ofExcept (fun good _ => ?_) fun error _ => ?_)
      · exact ends_pure (told_once adds rfl rfl rfl rfl)
      · exact ⟨_, _, [], adds, rfl, Or.inl rfl⟩
  | humanReview => exact silent rfl rfl rfl rfl
  | finalizeWorkload =>
      refine ends_bind (ends_ofExcept (fun policy _ => ?_)
        fun error _ => raised_first error)
      exact silent rfl rfl rfl rfl
  | publishResultEvent => exact silent rfl rfl rfl rfl

end Nodes

/-- The repairs that a trajectory tells of. -/
def repairsTold (trajectory : List TrajectoryEvent) : Nat :=
  trajectory.countP fun event => decide (event.action = "repair_policy")

/-- Whether a trajectory tells of an acceptance. -/
def acceptanceTold (trajectory : List TrajectoryEvent) : Bool :=
  trajectory.any fun event => decide (event.action = "final_verify")

/-- The trajectory tells all that was done. -/
structure Told (state : WorkloadGraphState)
    (session : Session adapter start) : Prop where
  calls : session.calls.map EnvironmentCall.kind =
    recordedCalls session.trajectory
  repairs : repairsTold session.trajectory = state.retryCount
  acceptance : acceptanceTold session.trajectory = state.accepted

/-- The trajectory tells all but the calls of a node that has raised. -/
def ToldBefore (error : PyException) (session : Session adapter start) :
    Prop :=
  ∃ missing,
    session.calls.map EnvironmentCall.kind =
      recordedCalls session.trajectory ++ missing ∧
    (missing = [] ∨ missing ∈ openCalls ∧
      ∃ call, session.calls.getLast? = some call ∧
        call.raised? = some error)

/-- The nodes behind an acceptance. -/
def WorkloadNode.closing (node : WorkloadNode) : Bool :=
  node == .finalizeWorkload || node == .publishResultEvent

section Runs

variable {graph : WorkloadOptimizationGraph} {node : WorkloadNode}
  {state updated : WorkloadGraphState} {session reached : Session adapter start}

theorem Told.before (told : Told state session) (error : PyException) :
    ToldBefore error session :=
  ⟨[], by rw [told.calls, List.append_nil], Or.inl rfl⟩

theorem recordedCalls_append (trajectory more : List TrajectoryEvent) :
    recordedCalls (trajectory ++ more) =
      recordedCalls trajectory ++ recordedCalls more :=
  List.flatMap_append

/-- The step of the audit. -/
theorem Told.step (told : Told state session)
    (undecided : node.closing = false → state.accepted = false)
    (does : NodeTold node state updated session reached) :
    Told updated reached := by
  obtain ⟨⟨calls, events, adds, same, recorded⟩, accepted⟩ := does
  constructor
  · rw [adds.calls, adds.trajectory, List.map_append, told.calls, same,
      recordedCalls_append]
  · rw [adds.trajectory, repairsTold, List.countP_append, ← repairsTold,
      told.repairs]
    rcases recorded with ⟨rfl, -, kept⟩ | ⟨event, rfl, action, counted⟩
    · rw [kept]
      rfl
    · rw [counted, List.countP_singleton, action]
      cases node with
      | _ => rfl
  · rw [adds.trajectory, acceptanceTold, List.any_append, ← acceptanceTold,
      told.acceptance, accepted]
    rcases recorded with ⟨rfl, rfl, -⟩ | ⟨event, rfl, action, -⟩
    · exact Bool.or_false _
    · rw [List.any_cons, List.any_nil, Bool.or_false, action]
      cases node with
      | finalVerify => exact Bool.or_true _
      | restoreLastKnownGood =>
          rw [undecided rfl]
          rfl
      | _ => exact Bool.or_false _

/-- What raises leaves the trajectory as it was before the node. -/
theorem Told.raised {error : PyException} (told : Told state session)
    (raised : NodeRaised error session reached) :
    ToldBefore error reached := by
  obtain ⟨calls, events, missing, adds, same, isOpen⟩ := raised
  refine ⟨missing, ?_, isOpen.imp_right ?_⟩
  · rw [adds.calls, adds.trajectory, List.map_append, told.calls, same,
      recordedCalls_append, List.append_assoc]
  · rintro ⟨member, call, last, cause⟩
    refine ⟨member, call, ?_, cause⟩
    have nonempty : calls ≠ [] := by
      rintro rfl
      cases last
    rw [adds.calls, List.getLast?_append_of_ne_nil _ nonempty, last]

/-- The assertions of the audit. -/
def audit (graph : WorkloadOptimizationGraph) (adapter : EnvironmentAdapter σ)
    (start : σ) : StateGraph.Assertions PyException (Session adapter start)
      WorkloadNode WorkloadGraphState where
  holds := fun node state session =>
    Told state session ∧ (node.closing = false → state.accepted = false)
  final := Told
  raises := ToldBefore
  budget := budget graph

theorem undecided_next {next : WorkloadNode}
    (undecided : node.closing = false → state.accepted = false)
    (accepted : updated.accepted = node.accepts state.accepted)
    (edge : graph.route node updated = .ok (some next)) :
    next.closing = false → updated.accepted = false := by
  have target := route_target edge
  intro open_
  rw [accepted]
  cases node with
  | finalVerify =>
      cases List.mem_singleton.mp target
      cases open_
  | finalizeWorkload =>
      cases List.mem_singleton.mp target
      cases open_
  | publishResultEvent => cases target
  | restoreLastKnownGood => rfl
  | _ => exact undecided rfl

theorem audit_carries :
    (audit graph adapter start).Carries (graph.compiled adapter start) := by
  rintro node state session ⟨told, undecided⟩
  refine (execute_tells node).imp ?_ fun error reached raised =>
    told.raised raised
  intro updated reached does
  have after := told.step undecided does
  unfold StateGraph.Assertions.Carried
  cases edge : (graph.compiled adapter start).route node updated with
  | error error => exact after.before error
  | ok target =>
      cases target with
      | none => exact after
      | some next =>
          exact ⟨after, undecided_next undecided does.accepted edge⟩

theorem executionOf_accepted {runId : String} {execution : WorkloadExecution}
    (returned : executionOf runId state = .ok execution) :
    execution.accepted = state.accepted := by
  unfold executionOf at returned
  obtain ⟨original, -, returned⟩ := bind_eq_ok_iff.mp returned
  split at returned
  · simp only [bind_eq_ok_iff, pure_eq_ok_iff] at returned
    obtain ⟨policy, -, risk, -, verification, -, rfl⟩ := returned
    rfl
  · simp only [bind_eq_ok_iff, pure_eq_ok_iff] at returned
    obtain ⟨policy, -, risk, -, verification, -, rfl⟩ := returned
    rfl

end Runs

/-- The trajectory of a run tells which calls were made to the environment, in
order, how often the policy was repaired and whether it was accepted.  Of a
run that raises only the last calls may be missing, if the last one of them
raised. -/
theorem trajectory_accounts_for_run (graph : WorkloadOptimizationGraph)
    (recursionLimit : Nat) (request : WorkloadRequest)
    (persisted : WorkloadGraphState) (adapter : EnvironmentAdapter σ)
    (start : σ) :
    let run := runFrom graph recursionLimit request persisted adapter start
    (∀ execution, run.1 = .ok execution →
      run.2.calls.map EnvironmentCall.kind = recordedCalls run.2.trajectory ∧
        repairsTold run.2.trajectory = execution.repairIterations ∧
        acceptanceTold run.2.trajectory = execution.accepted) ∧
    ∀ error, run.1 = .error error → ToldBefore error run.2 := by
  intro run
  let initial := initialState adapter.name request persisted
  have before : (audit graph adapter start).holds .loadServiceContext initial
      (Session.opened adapter start) := ⟨⟨rfl, rfl, rfl⟩, fun _ => rfl⟩
  have atEnd := audit_carries.invoke_atEnd recursionLimit _ _ _ before
  have ran : run = graph.run recursionLimit request persisted
    (Session.opened adapter start) := rfl
  unfold WorkloadOptimizationGraph.run at ran
  cases invoked : (graph.compiled adapter start).invoke recursionLimit
      .loadServiceContext initial (Session.opened adapter start) with
  | mk outcome reached =>
      rw [invoked] at ran atEnd
      rw [ran]
      constructor
      · intro execution returned
        cases outcome with
        | finished final =>
            rw [executionOf_accepted returned, (executionOf_ok returned).1]
            exact ⟨atEnd.calls, atEnd.repairs, atEnd.acceptance⟩
        | raised error => cases returned
        | exhausted => cases returned
      · intro error raised
        cases outcome with
        | finished final => exact Told.before atEnd error
        | raised other =>
            cases raised
            exact atEnd
        | exhausted =>
            rcases atEnd with ⟨node, state, told, -⟩ | ⟨state, told⟩
            · exact told.before error
            · exact Told.before told error

end Kuber.Agent

import Kuber.Agent.LeftoverState

/-!
# Environments with a part of the world of their own

An environment may act on one part of a larger world.  Its runs are those that
it has by itself, whatever a run is called and whatever earlier ones have left
in the checkpoint, and they leave the rest of the world alone.
-/

namespace Kuber.Agent

open Kuber.Library Kuber.Rules WorkloadOptimizationGraph

variable {σ τ : Type} {part : Part σ τ} {adapter : EnvironmentAdapter τ}

/-- The same environment, on a part of a larger world. -/
def EnvironmentAdapter.onPart (part : Part σ τ)
    (adapter : EnvironmentAdapter τ) : EnvironmentAdapter σ where
  name := adapter.name
  getCurrentPolicy := adapter.getCurrentPolicy.onPart part
  getObservedUsage := adapter.getObservedUsage.onPart part
  applyPolicy := fun policy => (adapter.applyPolicy policy).onPart part
  verifyWorkload := adapter.verifyWorkload.onPart part
  restorePolicy := adapter.restorePolicy.onPart part
  describeFailure := fun verification =>
    (adapter.describeFailure verification).onPart part

section Frame

variable {κ : Type} {kept : σ → κ}

theorem answers_onPart_keeps
    (frame : ∀ inner state, kept (part.set inner state) = kept state)
    {call : EnvironmentCall} {before after : σ}
    (answers : (adapter.onPart part).Answers call before after) :
    kept after = kept before := by
  cases call with
  | _ =>
      cases answers
      exact frame _ _

theorem recorded_onPart_keeps (kept : σ → κ)
    (frame : ∀ inner state, kept (part.set inner state) = kept state)
    {calls : List EnvironmentCall} {before after : σ}
    (recorded : (adapter.onPart part).Recorded calls before after) :
    kept after = kept before := by
  induction calls generalizing before with
  | nil =>
      cases recorded
      rfl
  | cons call calls induction =>
      obtain ⟨middle, answers, later⟩ := recorded
      rw [induction later, answers_onPart_keeps frame answers]

end Frame

section Runs

variable {start : σ} {begun : τ}

/-- The part is where the environment by itself is, after the same calls. -/
def AlikeOn (left : Session (adapter.onPart part) start)
    (right : Session adapter begun) : Prop :=
  part.get left.environment = right.environment ∧ left.calls = right.calls

theorem make_onPart {α : Type} {action : Raising PyException τ α}
    {call : Except PyException α → EnvironmentCall}
    {outer : ∀ before, (adapter.onPart part).Answers
      (call (action.onPart part before).1) before
      (action.onPart part before).2}
    {inner : ∀ before, adapter.Answers (call (action before).1) before
      (action before).2}
    {left : Session (adapter.onPart part) start}
    {right : Session adapter begun} (alike : AlikeOn left right) :
    Raising.EndAlike AlikeOn Eq
      (Session.make (action.onPart part) call outer left)
      (Session.make action call inner right) := by
  obtain ⟨same, calls⟩ := alike
  have reached : AlikeOn (Session.make (action.onPart part) call outer left).2
      (Session.make action call inner right).2 := by
    simp only [Session.make, Raising.onPart, AlikeOn, part.get_set, same,
      calls, and_self]
  have result : (Session.make (action.onPart part) call outer left).1 =
      (Session.make action call inner right).1 := by
    simp only [Session.make, Raising.onPart, same]
  cases ended : Session.make action call inner right with
  | mk innerResult innerReached =>
  cases outerEnded : Session.make (action.onPart part) call outer left with
  | mk outerResult outerReached =>
  rw [ended, outerEnded] at result reached
  cases result
  cases innerResult with
  | error error => exact ⟨rfl, reached⟩
  | ok value => exact ⟨rfl, reached⟩

theorem servesAlike_onPart :
    ServesAlike (@AlikeOn σ τ part adapter start begun) [] where
  getCurrentPolicy := make_onPart
  getObservedUsage := make_onPart
  applyPolicy := fun _ => make_onPart
  verifyWorkload := make_onPart
  restorePolicy := make_onPart
  describeFailure := fun _ => make_onPart
  emit := fun _ alike _ _ _ _ => ⟨rfl, alike⟩

theorem initialState_counts (name otherName : String)
    (request otherRequest : WorkloadRequest) (left right : WorkloadGraphState) :
    workloadKeys.AgreeOn countKeys (initialState name request left)
      (initialState otherName otherRequest right) := by
  simp [Keyed.AgreeOn, countKeys, workloadKeys, initialState]

/-- A run on the part is one of the environment by itself. -/
theorem runFrom_onPart (graph : WorkloadOptimizationGraph)
    (recursionLimit : Nat) (request otherRequest : WorkloadRequest)
    (left right : WorkloadGraphState) (start : σ) :
    Raising.EndAlike (@AlikeOn σ τ part adapter start (part.get start))
      (SameExecution request.runId)
      (runFrom graph recursionLimit request left (adapter.onPart part) start)
      (runFrom graph recursionLimit otherRequest right adapter
        (part.get start)) := by
  apply run_alike servesAlike_onPart
    (List.Subset.refl countKeys) (List.nil_subset countKeys)
  · exact initialState_counts _ _ _ _ _ _
  · exact ⟨rfl, rfl⟩

end Runs

end Kuber.Agent

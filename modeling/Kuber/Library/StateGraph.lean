import Kuber.Library.Raising

/-!
# State graphs

A state graph runs one node after another over a shared state: each node
transforms the state (and an outside world, and may raise), and a router picks
the next node or stops.  The engine has a limit on its steps: it runs a node
only while the limit is not used up, and takes one step more to find that
nothing is left to run, so a run of as many nodes as the limit is cut off.

Runs are reasoned about by attaching assertions to the nodes: what every node
carries to the next holds wherever a run gets, and the budget that every node
lowers bounds the length of the run.
-/

namespace Kuber.Library

structure StateGraph (ε World Node State : Type) where
  execute : Node → State → Raising ε World State
  route : Node → State → Except ε (Option Node)

/-- How a bounded run ends. -/
inductive GraphOutcome (ε State : Type) where
  | finished (state : State)
  | raised (error : ε)
  | exhausted

namespace StateGraph

variable {ε World Node State : Type}

/-- Run from `node` on, executing at most `limit` nodes.  It is assumed of the
engine that a run that ends has to leave one step of the limit, and that a
node or an edge that raises ends it. -/
def invoke (graph : StateGraph ε World Node State) :
    Nat → Node → State → World → GraphOutcome ε State × World
  | 0, _, _, world => (.exhausted, world)
  | limit + 1, node, state, world =>
      match graph.execute node state world with
      | (.error error, reached) => (.raised error, reached)
      | (.ok updated, reached) =>
          match graph.route node updated with
          | .error error => (.raised error, reached)
          | .ok none =>
              if limit = 0 then (.exhausted, reached)
              else (.finished updated, reached)
          | .ok (some next) => graph.invoke limit next updated reached

/-- The nodes such a run executes, in order; the last one may have raised. -/
def trace (graph : StateGraph ε World Node State) :
    Nat → Node → State → World → List Node
  | 0, _, _, _ => []
  | limit + 1, node, state, world =>
      match graph.execute node state world with
      | (.error _, _) => [node]
      | (.ok updated, reached) =>
          match graph.route node updated with
          | .error _ | .ok none => [node]
          | .ok (some next) => node :: graph.trace limit next updated reached

/-- Assertions attached to the nodes, the end of a run and its raises, and the
number of nodes that may still be executed after a node. -/
structure Assertions (ε World Node State : Type) where
  holds : Node → State → World → Prop
  final : State → World → Prop
  raises : ε → World → Prop
  budget : Node → State → Nat

namespace Assertions

/-- Routing an executed node leads to an annotated place, with less budget. -/
def Routed (assertions : Assertions ε World Node State)
    (graph : StateGraph ε World Node State) (node : Node) (state : State)
    (updated : State) (world : World) : Prop :=
  match graph.route node updated with
  | .error error => assertions.raises error world
  | .ok none => assertions.final updated world
  | .ok (some next) =>
      assertions.holds next updated world ∧
        assertions.budget next updated < assertions.budget node state

theorem routed_next {assertions : Assertions ε World Node State}
    {graph : StateGraph ε World Node State} {node : Node}
    {state updated : State} {world : World} (next : Node)
    (edge : graph.route node updated = .ok (some next))
    (holds : assertions.holds next updated world)
    (lower : assertions.budget next updated < assertions.budget node state) :
    assertions.Routed graph node state updated world := by
  simp only [Routed, edge]
  exact ⟨holds, lower⟩

theorem routed_end {assertions : Assertions ε World Node State}
    {graph : StateGraph ε World Node State} {node : Node}
    {state updated : State} {world : World}
    (edge : graph.route node updated = .ok none)
    (final : assertions.final updated world) :
    assertions.Routed graph node state updated world := by
  simp only [Routed, edge]
  exact final

/-- Every node leads from its assertion to that of the next. -/
def Inductive (assertions : Assertions ε World Node State)
    (graph : StateGraph ε World Node State) : Prop :=
  ∀ node state, Raising.Satisfies (assertions.holds node state)
    (graph.execute node state) (assertions.Routed graph node state)
    assertions.raises

/-- What an annotated run guarantees, however it ends. -/
def AtEnd (assertions : Assertions ε World Node State) :
    GraphOutcome ε State × World → Prop
  | (.finished state, world) => assertions.final state world
  | (.raised error, world) => assertions.raises error world
  | (.exhausted, world) =>
      (∃ node state, assertions.holds node state world) ∨
        ∃ state, assertions.final state world

/-- The run rule: inductive assertions hold at the end of every run
started at an annotated node, and a limit above the nodes that the budget
allows is never hit. -/
theorem Inductive.invoke_atEnd
    {assertions : Assertions ε World Node State}
    {graph : StateGraph ε World Node State}
    (preserved : assertions.Inductive graph) (limit : Nat) :
    ∀ node state world, assertions.holds node state world →
      assertions.AtEnd (graph.invoke limit node state world) ∧
        (assertions.budget node state + 1 < limit →
          (graph.invoke limit node state world).1 ≠ .exhausted) := by
  induction limit with
  | zero =>
      intro node state world annotated
      exact ⟨Or.inl ⟨node, state, annotated⟩, fun impossible => by omega⟩
  | succ limit induction =>
      intro node state world annotated
      have stepped := preserved node state world annotated
      simp only [invoke]
      cases executed : graph.execute node state world with
      | mk result reached =>
          rw [executed] at stepped
          cases result with
          | error error => exact ⟨stepped, fun _ => by simp⟩
          | ok updated =>
              simp only [Raising.Ends, Routed] at stepped
              cases routed : graph.route node updated with
              | error error =>
                  simp only [routed] at stepped ⊢
                  exact ⟨stepped, fun _ => by simp⟩
              | ok target =>
                  cases target with
                  | none =>
                      simp only [routed] at stepped ⊢
                      by_cases last : limit = 0
                      · rw [if_pos last]
                        exact ⟨Or.inr ⟨updated, stepped⟩,
                          fun enough => by omega⟩
                      · rw [if_neg last]
                        exact ⟨stepped, fun _ => by simp⟩
                  | some next =>
                      simp only [routed] at stepped ⊢
                      obtain ⟨arrived, lower⟩ := stepped
                      obtain ⟨atEnd, completes⟩ :=
                        induction next updated reached arrived
                      exact ⟨atEnd, fun enough => completes (by omega)⟩

/-- The budget bounds the number of executed nodes. -/
theorem Inductive.trace_length
    {assertions : Assertions ε World Node State}
    {graph : StateGraph ε World Node State}
    (preserved : assertions.Inductive graph) (limit : Nat) :
    ∀ node state world, assertions.holds node state world →
      (graph.trace limit node state world).length ≤
        assertions.budget node state + 1 := by
  induction limit with
  | zero =>
      intro node state world _
      simp [trace]
  | succ limit induction =>
      intro node state world annotated
      have stepped := preserved node state world annotated
      simp only [trace]
      cases executed : graph.execute node state world with
      | mk result reached =>
          rw [executed] at stepped
          cases result with
          | error error => simp
          | ok updated =>
              simp only [Raising.Ends, Routed] at stepped
              cases routed : graph.route node updated with
              | error error => simp [routed]
              | ok target =>
                  cases target with
                  | none => simp [routed]
                  | some next =>
                      simp only [routed] at stepped
                      obtain ⟨arrived, lower⟩ := stepped
                      have later := induction next updated reached arrived
                      simp only [routed, List.length_cons]
                      omega

/-- The assertions of the first and of the second family, with the budget of
the first. -/
def conjoin (first second : Assertions ε World Node State) :
    Assertions ε World Node State where
  holds := fun node state world =>
    first.holds node state world ∧ second.holds node state world
  final := fun state world => first.final state world ∧ second.final state world
  raises := fun error world =>
    first.raises error world ∧ second.raises error world
  budget := first.budget

/-- The executed node leads to a place annotated by the family, whatever its
budget there. -/
def Carried (assertions : Assertions ε World Node State)
    (graph : StateGraph ε World Node State) (node : Node) (updated : State)
    (world : World) : Prop :=
  match graph.route node updated with
  | .error error => assertions.raises error world
  | .ok none => assertions.final updated world
  | .ok (some next) => assertions.holds next updated world

/-- The rule of auxiliary assertions: a family that is carried along wherever
an inductive one holds may be added to it. -/
theorem Inductive.conjoin {first second : Assertions ε World Node State}
    {graph : StateGraph ε World Node State} (preserved : first.Inductive graph)
    (carried : ∀ node state world, first.holds node state world →
      second.holds node state world →
      Raising.Ends (second.Carried graph node) second.raises
        (graph.execute node state world)) :
    (first.conjoin second).Inductive graph := by
  rintro node state world ⟨holdsFirst, holdsSecond⟩
  refine ((preserved node state world holdsFirst).and
    (carried node state world holdsFirst holdsSecond)).imp ?_ ?_
  · intro updated reached ⟨routed, brought⟩
    unfold Routed at routed ⊢
    unfold Carried at brought
    cases edge : graph.route node updated with
    | error error =>
        simp only [edge] at routed brought ⊢
        exact ⟨routed, brought⟩
    | ok target =>
        cases target with
        | none =>
            simp only [edge] at routed brought ⊢
            exact ⟨routed, brought⟩
        | some next =>
            simp only [edge] at routed brought ⊢
            exact ⟨⟨routed.1, brought⟩, routed.2⟩
  · exact fun error reached both => both

/-- Every node leads from its assertion to that of the next, whatever the
budget. -/
def Carries (assertions : Assertions ε World Node State)
    (graph : StateGraph ε World Node State) : Prop :=
  ∀ node state, Raising.Satisfies (assertions.holds node state)
    (graph.execute node state) (assertions.Carried graph node)
    assertions.raises

/-- The run rule of assertions that bound nothing. -/
theorem Carries.invoke_atEnd {assertions : Assertions ε World Node State}
    {graph : StateGraph ε World Node State}
    (carries : assertions.Carries graph) (limit : Nat) :
    ∀ node state world, assertions.holds node state world →
      assertions.AtEnd (graph.invoke limit node state world) := by
  induction limit with
  | zero =>
      intro node state world annotated
      exact Or.inl ⟨node, state, annotated⟩
  | succ limit induction =>
      intro node state world annotated
      have stepped := carries node state world annotated
      simp only [invoke]
      cases executed : graph.execute node state world with
      | mk result reached =>
          rw [executed] at stepped
          cases result with
          | error error => exact stepped
          | ok updated =>
              simp only [Raising.Ends, Carried] at stepped
              cases routed : graph.route node updated with
              | error error =>
                  simp only [routed] at stepped ⊢
                  exact stepped
              | ok target =>
                  cases target with
                  | none =>
                      simp only [routed] at stepped ⊢
                      by_cases last : limit = 0
                      · rw [if_pos last]
                        exact Or.inr ⟨updated, stepped⟩
                      · rw [if_neg last]
                        exact stepped
                  | some next =>
                      simp only [routed] at stepped ⊢
                      exact induction next updated reached stepped

end Assertions

end StateGraph

end Kuber.Library

import Mathlib.Init

/-!
# Runs of transition systems

A transition system is a partial function from a state and a label to the next
state.  A list of labels is played from a state as long as every label is
enabled.  An invariant is shown for the single steps, possibly only for those
that meet a condition, and then holds wherever a run that meets it gets.  An
invariant may speak of the number of steps of one kind so far.
-/

namespace Kuber.Library

variable {State Label : Type}

/-- Take one step after another; a label that is not enabled ends the play. -/
def play (advance : State → Label → Option State) :
    State → List Label → Option State
  | state, [] => some state
  | state, label :: labels =>
      match advance state label with
      | none => none
      | some next => play advance next labels

/-- Take steps that need no label until there is none, or the fuel is used
up. -/
def settle (advance : State → Option State) : Nat → State → State
  | 0, state => state
  | fuel + 1, state =>
      match advance state with
      | none => state
      | some next => settle advance fuel next

theorem settle_of_step {advance : State → Option State} {fuel : Nat}
    {state next : State} (step : advance state = some next) :
    settle advance (fuel + 1) state = settle advance fuel next := by
  rw [settle, step]

theorem settle_of_none {advance : State → Option State} {fuel : Nat}
    {state : State} (rests : advance state = none) :
    settle advance fuel state = state := by
  cases fuel with
  | zero => rfl
  | succ fuel => rw [settle, rests]

/-- The states that `settle` takes a step from. -/
def visited (advance : State → Option State) : Nat → State → List State
  | 0, _ => []
  | fuel + 1, state =>
      match advance state with
      | none => []
      | some next => state :: visited advance fuel next

/-- If every step climbs, a state of one rank is left once at most. -/
theorem countP_visited_le_one {advance : State → Option State}
    {rank : State → Nat} (climbs : ∀ state next,
      advance state = some next → rank state < rank next)
    {test : State → Bool} {height : Nat}
    (only : ∀ state, test state = true → rank state = height) (fuel : Nat) :
    ∀ state, (visited advance fuel state).countP test ≤ 1 ∧
      (height < rank state → (visited advance fuel state).countP test = 0) := by
  induction fuel with
  | zero =>
      intro state
      exact ⟨Nat.zero_le 1, fun _ => rfl⟩
  | succ fuel induction =>
      intro state
      cases step : advance state with
      | none => simp [visited, step]
      | some next =>
          have later := induction next
          have higher := climbs state next step
          simp only [visited, step]
          cases tested : test state with
          | false =>
              rw [List.countP_cons_of_neg (by simp [tested])]
              exact ⟨later.1, fun above => later.2 (by omega)⟩
          | true =>
              have level := only state tested
              rw [List.countP_cons_of_pos tested, later.2 (by omega)]
              exact ⟨Nat.le_refl 1, fun above => by omega⟩

/-- Every step of a run meets a condition. -/
def Meets (advance : State → Label → Option State)
    (condition : State → Label → Prop) : State → List Label → Prop
  | _, [] => True
  | state, label :: labels =>
      condition state label ∧
        ∀ next, advance state label = some next →
          Meets advance condition next labels

/-- Whether a given run meets a condition can be computed. -/
instance Meets.decidable {advance : State → Label → Option State}
    {condition : State → Label → Prop}
    [∀ state label, Decidable (condition state label)] :
    ∀ state labels, Decidable (Meets advance condition state labels)
  | _, [] => .isTrue trivial
  | state, label :: labels =>
      match step : advance state label with
      | none =>
          decidable_of_iff (condition state label)
            ⟨fun permitted => ⟨permitted, fun next taken => by
              rw [step] at taken
              cases taken⟩, And.left⟩
      | some next =>
          have := @Meets.decidable advance condition _ next labels
          decidable_of_iff (condition state label ∧
              Meets advance condition next labels)
            ⟨fun ⟨permitted, later⟩ => ⟨permitted, fun other taken => by
              rw [step] at taken
              cases taken
              exact later⟩,
             fun ⟨permitted, later⟩ => ⟨permitted, later next step⟩⟩

variable {advance : State → Label → Option State}
  {condition : State → Label → Prop} {invariant : State → Prop}

/-- The rule of runs: what every permitted step preserves holds at the end. -/
theorem invariant_play
    (preserved : ∀ state label next, invariant state →
      condition state label → advance state label = some next →
        invariant next)
    {state final : State} {labels : List Label} (start : invariant state)
    (meets : Meets advance condition state labels)
    (played : play advance state labels = some final) : invariant final := by
  induction labels generalizing state with
  | nil =>
      cases played
      exact start
  | cons label labels induction =>
      obtain ⟨permitted, later⟩ := meets
      cases step : advance state label with
      | none =>
          rw [play, step] at played
          cases played
      | some next =>
          rw [play, step] at played
          exact induction (preserved state label next start permitted step)
            (later next step) played

/-- The number of steps of one kind that a run takes. -/
def countSteps (advance : State → Label → Option State)
    (counts : State → Label → Bool) : State → List Label → Nat
  | _, [] => 0
  | state, label :: labels =>
      match advance state label with
      | none => 0
      | some next =>
          (counts state label).toNat + countSteps advance counts next labels

/-- The rule of runs for an invariant that counts. -/
theorem invariant_countSteps {counts : State → Label → Bool}
    {counting : Nat → State → Prop}
    (preserved : ∀ count state label next, counting count state →
      condition state label → advance state label = some next →
        counting (count + (counts state label).toNat) next)
    {state final : State} {labels : List Label} {count : Nat}
    (start : counting count state)
    (meets : Meets advance condition state labels)
    (played : play advance state labels = some final) :
    counting (count + countSteps advance counts state labels) final := by
  induction labels generalizing state count with
  | nil =>
      cases played
      exact start
  | cons label labels induction =>
      obtain ⟨permitted, later⟩ := meets
      cases step : advance state label with
      | none =>
          rw [play, step] at played
          cases played
      | some next =>
          rw [play, step] at played
          have reached := induction
            (preserved count state label next start permitted step)
            (later next step) played
          simpa only [countSteps, step, Nat.add_assoc] using reached

theorem meets_cons {state next : State} {label : Label} {labels : List Label}
    (permitted : condition state label)
    (step : advance state label = some next)
    (later : Meets advance condition next labels) :
    Meets advance condition state (label :: labels) := by
  refine ⟨permitted, fun other otherStep => ?_⟩
  rw [step] at otherStep
  cases otherStep
  exact later

theorem meets_of_forall {labels : List Label}
    (permitted : ∀ label ∈ labels, ∀ state, condition state label)
    (state : State) : Meets advance condition state labels := by
  induction labels generalizing state with
  | nil => trivial
  | cons label labels induction =>
      refine ⟨permitted label List.mem_cons_self state, fun next _ => ?_⟩
      apply induction
      intro other later
      exact permitted other (List.mem_cons_of_mem label later)

end Kuber.Library

import Kuber.Library.Circulation
import Kuber.Library.Transition
import Mathlib.Algebra.BigOperators.Group.Finset.Basic
import Mathlib.Algebra.BigOperators.Group.List.Basic
import Mathlib.Algebra.GroupWithZero.Nat

/-!
# Potentials and progress

Steps that use up a potential are few.  If in addition a step is possible
wherever the goal is not reached, then every run can be continued to the goal.
A potential is often the sum of what the parties hold and of what waits to be
taken.
-/

namespace Kuber.Library

section

variable {State Label : Type} {advance : State → Label → Option State}
  {invariant : State → Prop}

/-- The rule of potentials: the steps that are counted use it up, and those
that add to it have a price. -/
theorem play_spends {potential : State → Nat} {counts adds : Label → Bool}
    {price : Nat}
    (uses : ∀ state label next, invariant state →
      advance state label = some next → invariant next ∧
        potential next + (counts label).toNat ≤
          potential state + price * (adds label).toNat)
    {state final : State} {labels : List Label} (start : invariant state)
    (played : play advance state labels = some final) :
    labels.countP counts + potential final ≤
      potential state + price * labels.countP adds := by
  induction labels generalizing state with
  | nil =>
      cases played
      simp
  | cons label labels induction =>
      cases step : advance state label with
      | none =>
          rw [play, step] at played
          cases played
      | some next =>
          rw [play, step] at played
          obtain ⟨later, used⟩ := uses state label next start step
          have rest := induction later played
          have counted : (label :: labels).countP counts =
              labels.countP counts + (counts label).toNat := by
            rw [List.countP_cons]
            cases counts label with
            | _ => rfl
          have added : (label :: labels).countP adds =
              labels.countP adds + (adds label).toNat := by
            rw [List.countP_cons]
            cases adds label with
            | _ => rfl
          rw [counted, added, Nat.mul_add]
          omega

/-- The rule of progress: where every step uses up the potential and there is
one as long as the goal is not reached, the goal can be reached. -/
theorem play_reaches {potential : State → Nat} {goal : State → Prop}
    {permitted : Label → Prop}
    (uses : ∀ state label next, invariant state → permitted label →
      advance state label = some next →
        invariant next ∧ potential next < potential state)
    (progress : ∀ state, invariant state → goal state ∨
      ∃ label next, permitted label ∧ advance state label = some next)
    {state : State} (start : invariant state) :
    ∃ labels final, (∀ label ∈ labels, permitted label) ∧
      play advance state labels = some final ∧ goal final := by
  induction high : potential state using Nat.strong_induction_on
    generalizing state with
  | _ height induction =>
  cases progress state start with
  | inl reached =>
      refine ⟨[], state, ?_, rfl, reached⟩
      intro label member
      cases member
  | inr goesOn =>
      obtain ⟨label, next, allowed, step⟩ := goesOn
      obtain ⟨later, used⟩ := uses state label next start allowed step
      obtain ⟨labels, final, all, played, reached⟩ :=
        induction _ (high ▸ used) later rfl
      refine ⟨label :: labels, final, ?_, ?_, reached⟩
      · exact List.forall_mem_cons.mpr ⟨allowed, all⟩
      · rw [play, step]
        exact played

end

theorem sum_moved {Party : Type} [Fintype Party] [DecidableEq Party]
    {before after : Party → Nat} {mover : Party}
    (others : ∀ other, other ≠ mover → after other = before other) :
    Finset.univ.sum after + before mover =
      Finset.univ.sum before + after mover := by
  have rest : (Finset.univ.erase mover).sum after =
      (Finset.univ.erase mover).sum before :=
    Finset.sum_congr rfl fun other member =>
      others other (Finset.ne_of_mem_erase member)
  calc Finset.univ.sum after + before mover
    _ = after mover + (Finset.univ.erase mover).sum after + before mover := by
      rw [Finset.add_sum_erase _ after (Finset.mem_univ mover)]
    _ = before mover + (Finset.univ.erase mover).sum before + after mover := by
      rw [rest]
      omega
    _ = Finset.univ.sum before + after mover := by
      rw [Finset.add_sum_erase _ before (Finset.mem_univ mover)]

/-- Only entries of the queue have been taken. -/
def TakenFrom {α : Type} (taken : List Nat) (queue : List α) : Prop :=
  ∀ position ∈ taken, position < queue.length

namespace TakenFrom

variable {α : Type} {taken : List Nat} {queue : List α} {position : Nat}
  {entry : α}

theorem append (within : TakenFrom taken queue) (more : List α) :
    TakenFrom taken (queue ++ more) := by
  intro position member
  rw [List.length_append]
  exact Nat.lt_add_right _ (within position member)

theorem take (within : TakenFrom taken queue)
    (present : queue[position]? = some entry) :
    TakenFrom (position :: taken) queue :=
  List.forall_mem_cons.mpr
    ⟨(List.getElem?_eq_some_iff.mp present).1, within⟩

theorem untaken_append (within : TakenFrom taken queue) (more : List α) :
    untaken taken (queue ++ more) = untaken taken queue ++ more := by
  induction more generalizing queue with
  | nil => rw [List.append_nil, List.append_nil]
  | cons entry more induction =>
      have fresh : queue.length ∉ taken :=
        fun member => Nat.lt_irrefl _ (within _ member)
      rw [← List.singleton_append, ← List.append_assoc,
        induction (within.append [entry]),
        Kuber.Library.untaken_append fresh, List.append_assoc]

end TakenFrom

/-- The weight of what waits to be taken. -/
def waitingWeight {α : Type} (weight : α → Nat) (taken : List Nat)
    (queue : List α) : Nat :=
  ((untaken taken queue).map weight).sum

section

variable {α : Type} {weight : α → Nat} {taken : List Nat} {queue : List α}

theorem waitingWeight_nil : waitingWeight weight taken ([] : List α) = 0 := rfl

theorem waitingWeight_le {most : Nat}
    (light : ∀ entry ∈ queue, weight entry ≤ most) :
    waitingWeight weight [] queue ≤ most * queue.length := by
  have all : untaken [] queue = queue := by
    simp [untaken]
  rw [waitingWeight, all]
  induction queue with
  | nil => exact Nat.zero_le _
  | cons entry queue induction =>
      have rest := induction
        (fun other member => light other (List.mem_cons_of_mem entry member))
        (by simp [untaken])
      have first := light entry List.mem_cons_self
      rw [List.map_cons, List.sum_cons, List.length_cons, Nat.mul_succ]
      omega

theorem waitingWeight_append (within : TakenFrom taken queue)
    (more : List α) : waitingWeight weight taken (queue ++ more) =
      waitingWeight weight taken queue + (more.map weight).sum := by
  rw [waitingWeight, within.untaken_append, List.map_append, List.sum_append]
  rfl

theorem waitingWeight_take (weight : α → Nat) {position : Nat} {entry : α}
    (free : position ∉ taken) (present : queue[position]? = some entry) :
    waitingWeight weight taken queue =
      weight entry + waitingWeight weight (position :: taken) queue := by
  have same := ((untaken_take free present).map weight).sum_eq
  rw [List.map_cons, List.sum_cons] at same
  exact same

end

end Kuber.Library

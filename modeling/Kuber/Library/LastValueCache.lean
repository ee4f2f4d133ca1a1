import Mathlib.Data.List.Induction
import Mathlib.Logic.Function.Basic

/-!
# Caches of last values

A cache keeps one output for every slot, the last one that was answered there.
An input is answered by the stored output of its slot when the two have the
same key, and computed otherwise.  All answers are right exactly when inputs
that follow one another in a slot with the same key have the same output.
-/

namespace Kuber.Library

variable {Slot Input Output Key : Type}

structure LastValueCache (Slot Input Output Key : Type) where
  slot : Input → Slot
  key : Input → Key
  keyOf : Output → Key
  compute : Input → Output
  keyOf_compute : ∀ input, keyOf (compute input) = key input

namespace LastValueCache

variable [DecidableEq Slot] [DecidableEq Key]
  (cache : LastValueCache Slot Input Output Key)

/-- The answer to an input, from what is stored. -/
def answer (stored : Slot → Option Output) (input : Input) : Output :=
  match stored (cache.slot input) with
  | some output =>
      if cache.keyOf output = cache.key input then output
      else cache.compute input
  | none => cache.compute input

/-- What is stored after an answer. -/
def store (stored : Slot → Option Output) (input : Input) :
    Slot → Option Output :=
  Function.update stored (cache.slot input) (some (cache.answer stored input))

/-- What is stored after some inputs. -/
def storedAfter (inputs : List Input) : Slot → Option Output :=
  inputs.foldl cache.store fun _ => none

/-- The last input of a slot. -/
def lastIn (slot : Slot) (inputs : List Input) : Option Input :=
  inputs.reverse.find? fun input => decide (cache.slot input = slot)

/-- Every input that comes after others is answered with its output. -/
def Exact (inputs : List Input) : Prop :=
  ∀ earlier input later, inputs = earlier ++ input :: later →
    cache.answer (cache.storedAfter earlier) input = cache.compute input

/-- Inputs that follow one another in a slot with the same key have the same
output. -/
def Determined (inputs : List Input) : Prop :=
  ∀ earlier input later, inputs = earlier ++ input :: later →
    ∀ previous, cache.lastIn (cache.slot input) earlier = some previous →
      cache.key previous = cache.key input →
        cache.compute previous = cache.compute input

variable {cache}

theorem storedAfter_append (inputs : List Input) (input : Input) :
    cache.storedAfter (inputs ++ [input]) =
      cache.store (cache.storedAfter inputs) input := by
  rw [storedAfter, List.foldl_append]
  rfl

omit [DecidableEq Key] in
theorem lastIn_append (slot : Slot) (inputs : List Input) (input : Input) :
    cache.lastIn slot (inputs ++ [input]) =
      if cache.slot input = slot then some input
      else cache.lastIn slot inputs := by
  rw [lastIn, List.reverse_append, List.reverse_singleton,
    List.singleton_append, List.find?_cons]
  by_cases here : cache.slot input = slot <;> simp [here, lastIn]

theorem Exact.initial {inputs others : List Input}
    (exact_all : cache.Exact (inputs ++ others)) : cache.Exact inputs := by
  intro earlier input later split
  apply exact_all earlier input (later ++ others)
  rw [split, List.append_assoc, List.cons_append]

theorem Exact.storedAfter_eq {inputs : List Input}
    (exact_all : cache.Exact inputs) (slot : Slot) :
    cache.storedAfter inputs slot =
      (cache.lastIn slot inputs).map cache.compute := by
  induction inputs using List.reverseRecOn with
  | nil => rfl
  | append_singleton inputs input induction =>
      have right := exact_all inputs input [] rfl
      rw [storedAfter_append, lastIn_append, store, right]
      by_cases here : cache.slot input = slot
      · rw [if_pos here, ← here, Function.update_self]
        rfl
      · rw [if_neg here, Function.update_of_ne (Ne.symm here)]
        exact induction exact_all.initial

omit [DecidableEq Slot] in
/-- An answer from the last outputs is right when the stored output is, if it
has the key. -/
theorem answer_eq_iff {stored : Slot → Option Output} {input : Input}
    {last : Option Input}
    (same : stored (cache.slot input) = last.map cache.compute) :
    cache.answer stored input = cache.compute input ↔
      ∀ previous, last = some previous →
        cache.key previous = cache.key input →
          cache.compute previous = cache.compute input := by
  rw [answer, same]
  cases last with
  | none => simp
  | some previous =>
      simp only [Option.map_some, Option.some.injEq, forall_eq',
        cache.keyOf_compute]
      by_cases key : cache.key previous = cache.key input <;> simp [key]

theorem Exact.determined {inputs : List Input}
    (exact_all : cache.Exact inputs) : cache.Determined inputs := by
  intro earlier input later split
  have before : cache.Exact earlier := (split ▸ exact_all).initial
  exact (answer_eq_iff (before.storedAfter_eq _)).mp
    (exact_all earlier input later split)

theorem Determined.exact {inputs : List Input}
    (determined : cache.Determined inputs) : cache.Exact inputs := by
  induction inputs using List.reverseRecOn with
  | nil =>
      intro earlier input later split
      simp at split
  | append_singleton inputs last induction =>
      have before : cache.Exact inputs := by
        apply induction
        intro earlier input later split
        apply determined earlier input (later ++ [last])
        rw [split, List.append_assoc, List.cons_append]
      intro earlier input later split
      rcases List.eq_nil_or_concat later with rfl | ⟨rest, final, rfl⟩
      · obtain ⟨rfl, same⟩ := List.append_inj' split rfl
        cases same
        exact (answer_eq_iff (before.storedAfter_eq _)).mpr
          (determined inputs last [] rfl)
      · apply before earlier input rest
        rw [List.concat_eq_append, ← List.cons_append,
          ← List.append_assoc] at split
        exact (List.append_inj' split rfl).1

theorem exact_iff_determined {inputs : List Input} :
    cache.Exact inputs ↔ cache.Determined inputs :=
  ⟨Exact.determined, Determined.exact⟩

end LastValueCache

end Kuber.Library

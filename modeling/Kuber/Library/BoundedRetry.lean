import Mathlib.Data.List.Range

/-!
# Bounded retries

A message is delivered again as long as its delivery puts it back.  If every
message carries the count of the deliveries before it, and is put back only
below a bound, then the chain of its deliveries ends.
-/

namespace Kuber.Library

variable {Message : Type}

/-- The numbered deliveries of a message; `again` is the message that a
delivery puts back. -/
def retryChain (again : Nat → Message → Option Message) :
    Nat → Nat → Message → List (Nat × Message)
  | 0, _, _ => []
  | fuel + 1, index, message =>
      (index, message) ::
        match again index message with
        | none => []
        | some next => retryChain again fuel (index + 1) next

/-- The deliveries before the last one have put the message back, and the last
one has not. -/
structure RetriesEnd (again : Nat → Message → Option Message)
    (property : Message → Prop) (chain : List (Nat × Message))
    (earlier : List (Nat × Message)) (last : Nat × Message) : Prop where
  split : chain = earlier ++ [last]
  retried : ∀ entry ∈ earlier, again entry.1 entry.2 ≠ none
  ended : again last.1 last.2 = none
  holds : ∀ entry ∈ chain, property entry.2

theorem RetriesEnd.flatMap_eq {Item : Type}
    {again : Nat → Message → Option Message} {property : Message → Prop}
    {chain earlier : List (Nat × Message)} {last : Nat × Message}
    (ends : RetriesEnd again property chain earlier last)
    {yields : Nat × Message → List Item}
    (quiet : ∀ entry ∈ earlier, yields entry = []) :
    chain.flatMap yields = yields last := by
  rw [ends.split, List.flatMap_append, List.flatMap_eq_nil_iff.mpr quiet,
    List.nil_append, List.flatMap_singleton]

/-- The rule of bounded retries: a chain that begins with a count of `count`
goes through the numbers from there, and ends below the bound. -/
theorem retryChain_ends {again : Nat → Message → Option Message}
    {count : Message → Nat} {property : Message → Prop} {bound : Nat}
    (counted : ∀ index message next, property message →
      again index message = some next →
        property next ∧ count next = count message + 1 ∧
          count message + 1 < bound) (fuel : Nat) :
    ∀ index message, property message → 1 ≤ fuel →
      bound - count message ≤ fuel →
        (∃ earlier last, RetriesEnd again property
          (retryChain again fuel index message) earlier last) ∧
        (retryChain again fuel index message).map
            (fun entry => count entry.2) =
          List.range' (count message)
            (retryChain again fuel index message).length ∧
        (retryChain again fuel index message).length ≤
          max 1 (bound - count message) := by
  induction fuel with
  | zero =>
      intro index message _ positive
      omega
  | succ fuel induction =>
      intro index message holds _ enough
      cases put : again index message with
      | none =>
          simp only [retryChain, put]
          refine ⟨⟨[], (index, message), rfl, by simp, put, ?_⟩, rfl,
            Nat.le_max_left _ _⟩
          intro entry member
          rw [List.mem_singleton.mp member]
          exact holds
      | some next =>
          obtain ⟨nextHolds, counts, below⟩ :=
            counted index message next holds put
          obtain ⟨⟨earlier, last, rest⟩, numbers, short⟩ :=
            induction (index + 1) next nextHolds (by omega) (by omega)
          simp only [retryChain, put]
          refine ⟨⟨(index, message) :: earlier, last, ?_, ?_, rest.ended, ?_⟩,
            ?_, ?_⟩
          · rw [rest.split, List.cons_append]
          · intro entry member
            cases List.mem_cons.mp member with
            | inl first =>
                rw [first, put]
                exact Option.some_ne_none next
            | inr later => exact rest.retried entry later
          · intro entry member
            cases List.mem_cons.mp member with
            | inl first =>
                rw [first]
                exact holds
            | inr later => exact rest.holds entry later
          · rw [List.map_cons, numbers, counts, List.length_cons,
              List.range'_succ]
          · rw [List.length_cons]
            omega

end Kuber.Library

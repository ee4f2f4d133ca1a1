import Mathlib.Data.List.DropRight

/-!
# Trimming

The items of a list without the blank ones at its two ends, as the stripping
of a text.  A list is trimmed when neither end of it is blank; such lists stay
trimmed when they are joined.
-/

namespace Kuber.Library

variable {α : Type} {blank : α → Bool} {items first second : List α}

def trim (blank : α → Bool) (items : List α) : List α :=
  (items.dropWhile blank).rdropWhile blank

/-- Neither end is blank. -/
structure Trimmed (blank : α → Bool) (items : List α) : Prop where
  head : ∀ item ∈ items.head?, blank item = false
  last : ∀ item ∈ items.getLast?, blank item = false

theorem trimmed_trim (blank : α → Bool) (items : List α) :
    Trimmed blank (trim blank items) := by
  constructor
  · intro item found
    obtain ⟨dropped, whole⟩ :=
      List.rdropWhile_prefix blank (items.dropWhile blank)
    have first : (items.dropWhile blank).head? = some item := by
      rw [← whole, List.head?_append, ← trim, Option.mem_def.mp found,
        Option.some_or]
    have kept := List.head?_dropWhile_not blank items
    rw [first] at kept
    exact kept
  · intro item found
    have nonempty : trim blank items ≠ [] := by
      rintro empty
      rw [empty] at found
      cases found
    have last := List.rdropWhile_last_not blank _ nonempty
    rw [List.getLast?_eq_some_getLast nonempty] at found
    cases found
    exact eq_false_of_ne_true last

theorem trim_of_trimmed (trimmed : Trimmed blank items) :
    trim blank items = items := by
  have left : items.dropWhile blank = items := by
    cases items with
    | nil => rfl
    | cons item items =>
        have shown := trimmed.head item rfl
        exact List.dropWhile_cons_of_neg (by simp [shown])
  rw [trim, left, List.rdropWhile_eq_self_iff]
  intro nonempty
  have shown := trimmed.last _
    (List.getLast?_eq_some_getLast nonempty)
  simp [shown]

theorem Trimmed.append (left : Trimmed blank first)
    (right : Trimmed blank second) (startsWith : first ≠ [])
    (endsWith : second ≠ []) (between : List α) :
    Trimmed blank (first ++ (between ++ second)) := by
  constructor
  · intro item found
    rw [List.head?_append_of_ne_nil _ startsWith] at found
    exact left.head item found
  · intro item found
    rw [← List.append_assoc,
      List.getLast?_append_of_ne_nil _ endsWith] at found
    exact right.last item found

theorem Trimmed.intercalate {parts : List (List α)} (separator : List α)
    (each : ∀ part ∈ parts, Trimmed blank part ∧ part ≠ [])
    (nonempty : parts ≠ []) :
    Trimmed blank (separator.intercalate parts) ∧
      separator.intercalate parts ≠ [] := by
  induction parts with
  | nil => exact absurd rfl nonempty
  | cons part parts induction =>
      obtain ⟨⟨trimmed, shown⟩, others⟩ := List.forall_mem_cons.mp each
      cases parts with
      | nil =>
          rw [List.intercalate_singleton]
          exact ⟨trimmed, shown⟩
      | cons next parts =>
          obtain ⟨rest, someRest⟩ :=
            induction others (List.cons_ne_nil next parts)
          rw [List.intercalate_cons_cons, List.append_assoc]
          exact ⟨trimmed.append rest shown someRest separator,
            List.append_ne_nil_of_left_ne_nil shown _⟩

end Kuber.Library

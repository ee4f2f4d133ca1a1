import Mathlib.Data.List.Basic

/-!
# Framing with half a delimiter

Records are written one after the other, each as its name, a delimiter and its
body.  The names are free of the delimiter, the bodies are not, and nothing
marks where a body ends.  What is written determines the records only when
there is no other place to cut.
-/

namespace Kuber.Library

variable {β : Type} {delimiter : β}

/-- Every record as its name, the delimiter and its body. -/
def frame (delimiter : β) (records : List (List β × List β)) : List β :=
  records.flatMap fun record => record.1 ++ delimiter :: record.2

theorem frame_cons (name body : List β) (records : List (List β × List β)) :
    frame delimiter ((name, body) :: records) =
      name ++ delimiter :: (body ++ frame delimiter records) := by
  rw [frame, List.flatMap_cons, List.append_assoc, List.cons_append]
  rfl

theorem frame_cons_ne_nil {record : List β × List β}
    {records : List (List β × List β)} :
    frame delimiter (record :: records) ≠ [] := by
  obtain ⟨name, body⟩ := record
  rw [frame_cons]
  simp

theorem first_cut {name other rest otherRest : List β}
    (undelimited : delimiter ∉ name) (otherUndelimited : delimiter ∉ other)
    (same : name ++ delimiter :: rest = other ++ delimiter :: otherRest) :
    name = other ∧ rest = otherRest := by
  induction name generalizing other with
  | nil =>
      cases other with
      | nil => exact ⟨rfl, (List.cons.inj same).2⟩
      | cons first other =>
          have here : delimiter = first := (List.cons.inj same).1
          exact absurd (here ▸ List.mem_cons_self) otherUndelimited
  | cons first name induction =>
      cases other with
      | nil =>
          have here : first = delimiter := (List.cons.inj same).1
          exact absurd (here ▸ List.mem_cons_self) undelimited
      | cons otherFirst other =>
          obtain ⟨sameFirst, sameRest⟩ := List.cons.inj same
          rw [List.mem_cons, not_or] at undelimited otherUndelimited
          obtain ⟨sameName, rests⟩ :=
            induction undelimited.2 otherUndelimited.2 sameRest
          exact ⟨by rw [sameFirst, sameName], rests⟩

/-- The first record can take all others into its body. -/
theorem frame_merge (name body : List β)
    (records : List (List β × List β)) :
    frame delimiter [(name, body ++ frame delimiter records)] =
      frame delimiter ((name, body) :: records) := by
  rw [frame_cons, frame_cons]
  simp [frame]

/-- The names that records may have, in order.  Fewer names may always be
given, and no name has a delimiter in it. -/
structure AdmissibleNames (delimiter : β)
    (admissible : List (List β) → Prop) : Prop where
  ofAppend : ∀ {names more}, admissible (names ++ more) → admissible names
  undelimited : ∀ {names}, admissible names → ∀ name ∈ names,
    delimiter ∉ name

/-- No other admissible records are written in the same way. -/
def DeterminedByFrame (delimiter : β) (admissible : List (List β) → Prop)
    (records : List (List β × List β)) : Prop :=
  ∀ others : List (List β × List β), admissible (others.map Prod.fst) →
    frame delimiter records = frame delimiter others → records = others

variable {admissible : List (List β) → Prop}

theorem determinedByFrame_nil :
    DeterminedByFrame delimiter admissible [] := by
  intro others _ same
  cases others with
  | nil => rfl
  | cons record others => exact absurd same.symm frame_cons_ne_nil

theorem not_determinedByFrame_cons_cons
    (names : AdmissibleNames delimiter admissible)
    {first second : List β × List β} {records : List (List β × List β)}
    (written : admissible ((first :: second :: records).map Prod.fst)) :
    ¬ DeterminedByFrame delimiter admissible (first :: second :: records) := by
  intro determined
  obtain ⟨name, body⟩ := first
  have merged : frame delimiter
      [(name, body ++ frame delimiter (second :: records))] =
        frame delimiter ((name, body) :: second :: records) :=
    frame_merge name body (second :: records)
  have listed : admissible ([name] ++ (second :: records).map Prod.fst) :=
    written
  have one : admissible [name] := names.ofAppend listed
  have same := determined [(name, body ++ frame delimiter (second :: records))]
    one merged.symm
  have lengths := congrArg List.length same
  simp at lengths

/-- A record on its own is determined exactly when no name that may follow its
own stands in its body before a delimiter. -/
theorem determinedByFrame_singleton_iff
    (names : AdmissibleNames delimiter admissible) {name body : List β}
    (undelimited : delimiter ∉ name) :
    DeterminedByFrame delimiter admissible [(name, body)] ↔
      ∀ before inner after, body = before ++ inner ++ delimiter :: after →
        ¬ admissible [name, inner] := by
  constructor
  · intro determined before inner after split written
    have same := determined [(name, before), (inner, after)] written (by
      rw [split, ← frame_merge name before [(inner, after)]]
      simp [frame])
    cases same
  · intro uncut others written same
    cases others with
    | nil => exact absurd same frame_cons_ne_nil
    | cons other others =>
        obtain ⟨otherName, otherBody⟩ := other
        have otherUndelimited : delimiter ∉ otherName :=
          names.undelimited written otherName (by simp)
        rw [frame_cons, frame_cons] at same
        obtain ⟨rfl, bodies⟩ := first_cut undelimited otherUndelimited same
        cases others with
        | nil =>
            simp only [frame, List.flatMap_nil, List.append_nil] at bodies
            rw [bodies]
        | cons second others =>
            obtain ⟨inner, after⟩ := second
            exfalso
            rw [frame_cons] at bodies
            apply uncut otherBody inner (after ++ frame delimiter others)
            · simpa [frame] using bodies
            · have listed : admissible
                  ([name, inner] ++ others.map Prod.fst) := written
              exact names.ofAppend listed

/-- What is written determines the records exactly when there is at most one,
and its body cannot be cut. -/
theorem determinedByFrame_iff (names : AdmissibleNames delimiter admissible)
    {records : List (List β × List β)}
    (written : admissible (records.map Prod.fst)) :
    DeterminedByFrame delimiter admissible records ↔
      records = [] ∨ ∃ name body, records = [(name, body)] ∧
        ∀ before inner after, body = before ++ inner ++ delimiter :: after →
          ¬ admissible [name, inner] := by
  match records, written with
  | [], _ => simp [determinedByFrame_nil]
  | [(name, body)], written =>
      have undelimited := names.undelimited written name (by simp)
      rw [determinedByFrame_singleton_iff names undelimited]
      simp
  | first :: second :: records, written =>
      have undetermined := not_determinedByFrame_cons_cons names written
      simp [undetermined]

end Kuber.Library

import Mathlib.Data.List.Basic

/-!
# The lines of a text

Texts are lists of characters.  `splitlines` cuts a text at every line break,
as the string method of that name does: a carriage return and a line feed
together are one break, and a break at the end starts no line.
-/

namespace Kuber.Library

/-- The characters that end a line. -/
def lineBreaks : List Char :=
  ['\n', '\x0b', '\x0c', '\r', '\x1c', '\x1d', '\x1e', '\u0085', '\u2028',
    '\u2029']

/-- Put a character in front of the first line. -/
def extendFirst (character : Char) : List (List Char) → List (List Char)
  | [] => [[character]]
  | line :: lines => (character :: line) :: lines

def splitlines : List Char → List (List Char)
  | [] => []
  | '\r' :: '\n' :: rest => [] :: splitlines rest
  | character :: rest =>
      if character ∈ lineBreaks then [] :: splitlines rest
      else extendFirst character (splitlines rest)

/-- A text without a last line that lacks its line feed. -/
def Terminated (text : List Char) : Prop :=
  ∀ last ∈ text.getLast?, last = '\n'

/-- A text without line breaks. -/
def Unbroken (line : List Char) : Prop :=
  ∀ character ∈ line, character ∉ lineBreaks

instance (line : List Char) : Decidable (Unbroken line) :=
  List.decidableBAll _ line

theorem terminated_nil : Terminated [] := by simp [Terminated]

theorem terminated_append_lineFeed (text : List Char) :
    Terminated (text ++ ['\n']) := by
  simp [Terminated]

theorem Terminated.of_singleton {character : Char}
    (terminated : Terminated [character]) : character = '\n' :=
  terminated character (by simp)

theorem Terminated.tail {character : Char} {text : List Char}
    (terminated : Terminated (character :: text)) : Terminated text := by
  intro last found
  apply terminated last
  rw [Option.mem_def] at found ⊢
  rw [List.getLast?_cons, found, Option.getD_some]

theorem Terminated.append {first second : List Char}
    (left : Terminated first) (right : Terminated second) :
    Terminated (first ++ second) := by
  intro last found
  rw [List.getLast?_append, Option.mem_def] at found
  cases ends : second.getLast? with
  | none =>
      rw [ends, Option.none_or] at found
      exact left last found
  | some character =>
      rw [ends, Option.some_or, Option.some.injEq] at found
      exact found ▸ right character ends

theorem extendFirst_append {character : Char} {lines others : List (List Char)}
    (nonempty : lines ≠ []) :
    extendFirst character (lines ++ others) =
      extendFirst character lines ++ others := by
  cases lines with
  | nil => exact absurd rfl nonempty
  | cons line lines => rfl

theorem splitlines_ne_nil {text : List Char} (nonempty : text ≠ []) :
    splitlines text ≠ [] := by
  fun_cases splitlines text with
  | case1 => exact absurd rfl nonempty
  | case2 rest => simp
  | case3 character rest _ broken => simp
  | case4 character rest _ unbroken =>
      cases splitlines rest <;> simp [extendFirst]

theorem splitlines_cons_of_break {character : Char} {rest : List Char}
    (broken : character ∈ lineBreaks)
    (alone : character = '\r' → rest.head? ≠ some '\n') :
    splitlines (character :: rest) = [] :: splitlines rest := by
  rw [splitlines]
  · exact if_pos broken
  · intro next first second
    exact alone first (by rw [second]; rfl)

theorem splitlines_cons_of_other {character : Char} {rest : List Char}
    (other : character ∉ lineBreaks) :
    splitlines (character :: rest) =
      extendFirst character (splitlines rest) := by
  rw [splitlines]
  · exact if_neg other
  · intro next first second
    exact other (by rw [first]; decide)

/-- Lines after a line feed do not join the ones before. -/
theorem splitlines_append {text : List Char} (terminated : Terminated text)
    (rest : List Char) :
    splitlines (text ++ rest) = splitlines text ++ splitlines rest := by
  induction text using splitlines.induct with
  | case1 => simp [splitlines]
  | case2 text induction =>
      simp [splitlines, induction terminated.tail.tail]
  | case3 character text alone broken induction =>
      have apart : character = '\r' → text.head? ≠ some '\n' := by
        intro carriage head
        obtain ⟨next, rfl⟩ := List.head?_eq_some_iff.mp head
        exact alone next carriage rfl
      have apartLater : character = '\r' →
          (text ++ rest).head? ≠ some '\n' := by
        intro carriage
        cases text with
        | nil =>
            have lineFeed := terminated.of_singleton
            rw [carriage] at lineFeed
            exact absurd lineFeed (by decide)
        | cons first text => exact apart carriage
      rw [List.cons_append, splitlines_cons_of_break broken apartLater,
        splitlines_cons_of_break broken apart, induction terminated.tail,
        List.cons_append]
  | case4 character text alone other induction =>
      have nonempty : text ≠ [] := by
        intro empty
        rw [empty] at terminated
        exact other (by rw [terminated.of_singleton]; decide)
      rw [List.cons_append, splitlines_cons_of_other other,
        splitlines_cons_of_other other, induction terminated.tail,
        extendFirst_append (splitlines_ne_nil nonempty)]

theorem splitlines_unbroken {line : List Char} (unbroken : Unbroken line) :
    splitlines (line ++ ['\n']) = [line] := by
  induction line with
  | nil => decide
  | cons character line induction =>
      have other := unbroken character List.mem_cons_self
      have later := induction fun next member =>
        unbroken next (List.mem_cons_of_mem character member)
      rw [List.cons_append, splitlines_cons_of_other other, later]
      rfl

theorem unbroken_of_mem_splitlines {text line : List Char}
    (member : line ∈ splitlines text) : Unbroken line := by
  induction text using splitlines.induct generalizing line with
  | case1 => simp [splitlines] at member
  | case2 text induction =>
      rw [splitlines, List.mem_cons] at member
      rcases member with rfl | member
      · simp [Unbroken]
      · exact induction member
  | case3 character text alone broken induction =>
      rw [splitlines, if_pos broken, List.mem_cons] at member
      · rcases member with rfl | member
        · simp [Unbroken]
        · exact induction member
      · exact alone
  | case4 character text alone other induction =>
      rw [splitlines_cons_of_other other] at member
      have front : ∀ {first : List Char}, Unbroken first →
          Unbroken (character :: first) := by
        intro first unbroken next
        rw [List.mem_cons]
        rintro (rfl | later)
        · exact other
        · exact unbroken next later
      cases lines : splitlines text with
      | nil =>
          rw [lines, extendFirst, List.mem_singleton] at member
          rw [member]
          exact front (by simp [Unbroken])
      | cons first rest =>
          rw [lines] at induction member
          rw [extendFirst, List.mem_cons] at member
          rcases member with rfl | member
          · exact front (induction List.mem_cons_self)
          · exact induction (List.mem_cons_of_mem first member)

/-- The text of lines that all end with a line feed. -/
def terminateAll (lines : List (List Char)) : List Char :=
  lines.flatMap fun line => line ++ ['\n']

theorem terminated_terminateAll (lines : List (List Char)) :
    Terminated (terminateAll lines) := by
  induction lines with
  | nil => exact terminated_nil
  | cons line lines induction =>
      exact (terminated_append_lineFeed line).append induction

theorem splitlines_terminateAll (lines : List (List Char)) :
    splitlines (terminateAll lines) =
      lines.flatMap fun line => splitlines (line ++ ['\n']) := by
  induction lines with
  | nil => rfl
  | cons line lines induction =>
      rw [List.flatMap_cons, ← induction]
      exact splitlines_append (terminated_append_lineFeed line) _

theorem splitlines_terminateAll_unbroken {lines : List (List Char)}
    (unbroken : ∀ line ∈ lines, Unbroken line) :
    splitlines (terminateAll lines) = lines := by
  rw [splitlines_terminateAll]
  induction lines with
  | nil => rfl
  | cons line lines induction =>
      rw [List.flatMap_cons, splitlines_unbroken
        (unbroken line List.mem_cons_self), induction fun next member =>
          unbroken next (List.mem_cons_of_mem line member)]
      rfl

theorem intercalate_lineFeed (lines : List (List Char)) :
    ['\n'].intercalate (lines ++ [[]]) = terminateAll lines := by
  induction lines with
  | nil => rfl
  | cons line lines induction =>
      have later : lines ++ [[]] ≠ [] := by simp
      obtain ⟨next, rest, shape⟩ := List.exists_cons_of_ne_nil later
      rw [List.cons_append, shape, List.intercalate_cons_cons, ← shape,
        induction]
      simp [terminateAll]

/-- What ends a line in front of `rest`. -/
def Ending (ending rest : List Char) : Prop :=
  ending = ['\r', '\n'] ∨ ∃ character ∈ lineBreaks, ending = [character] ∧
    (character = '\r' → rest.head? ≠ some '\n')

/-- A text that consists of these lines.  Every line has its line break; the
last one may lack it, unless it is empty. -/
inductive MadeOf : List (List Char) → List Char → Prop where
  | nil : MadeOf [] []
  | last {line : List Char} (nonempty : line ≠ [])
      (unbroken : Unbroken line) : MadeOf [line] line
  | cons {line ending rest : List Char} {lines : List (List Char)}
      (unbroken : Unbroken line) (ends : Ending ending rest)
      (later : MadeOf lines rest) :
      MadeOf (line :: lines) (line ++ (ending ++ rest))

theorem unbroken_nil : Unbroken [] := by simp [Unbroken]

theorem unbroken_cons {character : Char} {line : List Char} :
    Unbroken (character :: line) ↔ character ∉ lineBreaks ∧ Unbroken line := by
  simp [Unbroken]

theorem Unbroken.append {first second : List Char} (left : Unbroken first)
    (right : Unbroken second) : Unbroken (first ++ second) := by
  intro character member
  rcases List.mem_append.mp member with member | member
  · exact left character member
  · exact right character member

theorem splitlines_ending {ending rest : List Char}
    (ends : Ending ending rest) :
    splitlines (ending ++ rest) = [] :: splitlines rest := by
  rcases ends with rfl | ⟨character, broken, rfl, alone⟩
  · rfl
  · exact splitlines_cons_of_break broken alone

theorem splitlines_of_unbroken {line : List Char} (nonempty : line ≠ [])
    (unbroken : Unbroken line) : splitlines line = [line] := by
  induction line with
  | nil => exact absurd rfl nonempty
  | cons character line induction =>
      obtain ⟨other, unbroken⟩ := unbroken_cons.mp unbroken
      rw [splitlines_cons_of_other other]
      cases line with
      | nil => rfl
      | cons next line =>
          rw [induction (List.cons_ne_nil next line) unbroken]
          rfl

theorem splitlines_of_madeOf {lines : List (List Char)} {text : List Char}
    (made : MadeOf lines text) : splitlines text = lines := by
  have front : ∀ {line rest : List Char} {lines : List (List Char)},
      Unbroken line → splitlines rest = [] :: lines →
      splitlines (line ++ rest) = line :: lines := by
    intro line rest lines unbroken split
    induction line with
    | nil => exact split
    | cons character line induction =>
        obtain ⟨other, unbroken⟩ := unbroken_cons.mp unbroken
        rw [List.cons_append, splitlines_cons_of_other other,
          induction unbroken]
        rfl
  induction made with
  | nil => rfl
  | last nonempty unbroken => exact splitlines_of_unbroken nonempty unbroken
  | cons unbroken ends later induction =>
      exact front unbroken ((splitlines_ending ends).trans (by rw [induction]))

theorem MadeOf.extendFirst {character : Char} {text : List Char}
    {lines : List (List Char)} (other : character ∉ lineBreaks)
    (made : MadeOf lines text) :
    MadeOf (extendFirst character lines) (character :: text) := by
  cases made with
  | nil => exact .last (by simp) (unbroken_cons.mpr ⟨other, unbroken_nil⟩)
  | last nonempty unbroken =>
      exact .last (by simp) (unbroken_cons.mpr ⟨other, unbroken⟩)
  | cons unbroken ends later =>
      exact .cons (unbroken_cons.mpr ⟨other, unbroken⟩) ends later

theorem madeOf_splitlines (text : List Char) :
    MadeOf (splitlines text) text := by
  induction text using splitlines.induct with
  | case1 => exact .nil
  | case2 rest induction => exact .cons unbroken_nil (Or.inl rfl) induction
  | case3 character rest alone broken induction =>
      have apart : character = '\r' → rest.head? ≠ some '\n' := by
        intro carriage head
        obtain ⟨next, rfl⟩ := List.head?_eq_some_iff.mp head
        exact alone next carriage rfl
      rw [splitlines_cons_of_break broken apart]
      exact .cons unbroken_nil (Or.inr ⟨character, broken, rfl, apart⟩)
        induction
  | case4 character rest alone other induction =>
      rw [splitlines_cons_of_other other]
      exact induction.extendFirst other

/-- The lines of a text are the ones it is made of. -/
theorem splitlines_eq_iff {text : List Char} {lines : List (List Char)} :
    splitlines text = lines ↔ MadeOf lines text :=
  ⟨fun split => split ▸ madeOf_splitlines text, splitlines_of_madeOf⟩

theorem MadeOf.append_lineFeed {lines : List (List Char)} {text : List Char}
    (made : MadeOf lines text) :
    ∃ blank, (∀ line ∈ blank, line = []) ∧
      MadeOf (lines ++ blank) (text ++ ['\n']) := by
  have lineFeed : Ending ['\n'] [] := Or.inr ⟨'\n', by decide, rfl, by simp⟩
  induction made with
  | nil => exact ⟨[[]], by simp, .cons unbroken_nil lineFeed .nil⟩
  | last nonempty unbroken =>
      exact ⟨[], by simp, .cons unbroken lineFeed .nil⟩
  | @cons line ending rest lines unbroken ends later induction =>
      rw [List.append_assoc, List.append_assoc]
      by_cases merged : ending = ['\r'] ∧ rest = []
      · obtain ⟨rfl, rfl⟩ := merged
        obtain rfl : [] = lines := splitlines_of_madeOf later
        exact ⟨[], by simp,
          @MadeOf.cons line ['\r', '\n'] [] [] unbroken (Or.inl rfl) .nil⟩
      · obtain ⟨blank, empty, made⟩ := induction
        refine ⟨blank, empty, .cons unbroken ?_ made⟩
        rcases ends with pair | ⟨character, broken, rfl, alone⟩
        · exact Or.inl pair
        · refine Or.inr ⟨character, broken, rfl, fun carriage => ?_⟩
          cases rest with
          | nil => exact absurd ⟨by rw [carriage], rfl⟩ merged
          | cons next rest => exact alone carriage

/-- Whatever is read from lines, but not from an empty one, is read from two
texts with a line feed between them as from the one and then the other. -/
theorem filterMap_splitlines_lineFeed {β : Type}
    {read : List Char → Option β} (blank : read [] = none)
    (first second : List Char) :
    (splitlines (first ++ '\n' :: second)).filterMap read =
      (splitlines first).filterMap read ++
        (splitlines second).filterMap read := by
  obtain ⟨empties, empty, made⟩ := (madeOf_splitlines first).append_lineFeed
  have silent : empties.filterMap read = [] := by
    rw [List.filterMap_eq_nil_iff]
    intro line member
    rw [empty line member, blank]
  have joined : first ++ '\n' :: second = (first ++ ['\n']) ++ second := by
    simp
  rw [joined, splitlines_append (terminated_append_lineFeed first),
    splitlines_of_madeOf made, List.filterMap_append, List.filterMap_append,
    silent, List.append_nil]

end Kuber.Library

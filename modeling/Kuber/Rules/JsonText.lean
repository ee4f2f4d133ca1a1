import Kuber.Rules.Document

/-!
# The text of JSON values

What `json.dumps` writes with its default settings: every character that is
not printable ASCII is escaped, so the text has one line.
-/

namespace Kuber.Rules

/-- `\uXXXX`, of a number below 65536. -/
def unicodeEscape (code : Nat) : List Char :=
  '\\' :: 'u' :: [4096, 256, 16, 1].map fun place =>
    Nat.digitChar (code / place % 16)

/-- The characters with an escape of their own. -/
def shortEscapes : List (Char × Char) :=
  [('"', '"'), ('\\', '\\'), ('\n', 'n'), ('\r', 'r'), ('\t', 't'),
    ('\x08', 'b'), ('\x0c', 'f')]

/-- One character of a JSON string; one outside the basic plane takes a
surrogate pair. -/
def escapeJson (character : Char) : List Char :=
  match shortEscapes.lookup character with
  | some short => ['\\', short]
  | none =>
      if 32 ≤ character.toNat ∧ character.toNat < 127 then [character]
      else if character.toNat < 65536 then unicodeEscape character.toNat
      else
        let offset := character.toNat - 65536
        unicodeEscape (55296 + offset / 1024) ++
          unicodeEscape (56320 + offset % 1024)

def jsonString (text : String) : List Char :=
  '"' :: text.toList.flatMap escapeJson ++ ['"']

/-- A floating-point number, from its printed form. -/
def jsonFloat (text : String) : List Char :=
  if text = "nan" then "NaN".toList
  else if text = "inf" then "Infinity".toList
  else if text = "-inf" then "-Infinity".toList
  else text.toList

namespace Json

mutual

/-- `json.dumps(value)`. -/
def dumps : Json → List Char
  | null => "null".toList
  | bool true => "true".toList
  | bool false => "false".toList
  | int value => (toString value).toList
  | float text => jsonFloat text
  | string value => jsonString value
  | list items => '[' :: [',', ' '].intercalate (dumpsItems items) ++ [']']
  | mapping fields =>
      '\x7b' :: [',', ' '].intercalate (dumpsFields fields) ++ ['\x7d']

def dumpsItems : List Json → List (List Char)
  | [] => []
  | item :: items => dumps item :: dumpsItems items

def dumpsFields : List (String × Json) → List (List Char)
  | [] => []
  | (name, value) :: fields =>
      (jsonString name ++ ':' :: ' ' :: dumps value) :: dumpsFields fields

end

end Json

/-- A text of printable ASCII characters. -/
def Printable (text : List Char) : Prop :=
  ∀ character ∈ text, 32 ≤ character.toNat ∧ character.toNat < 127

instance (text : List Char) : Decidable (Printable text) :=
  List.decidableBAll _ text

theorem Printable.append {first second : List Char} (left : Printable first)
    (right : Printable second) : Printable (first ++ second) := by
  intro character member
  rcases List.mem_append.mp member with member | member
  · exact left character member
  · exact right character member

theorem Printable.intercalate {separator : List Char}
    {parts : List (List Char)} (between : Printable separator)
    (each : ∀ part ∈ parts, Printable part) :
    Printable (separator.intercalate parts) := by
  induction parts with
  | nil => simp [Printable]
  | cons part parts induction =>
      have here := each part List.mem_cons_self
      have later := induction fun other member =>
        each other (List.mem_cons_of_mem part member)
      cases parts with
      | nil => rwa [List.intercalate_singleton]
      | cons next parts =>
          rw [List.intercalate_cons_cons]
          exact (here.append between).append later

theorem printable_unicodeEscape (code : Nat) :
    Printable (unicodeEscape code) := by
  have digits : ∀ digit < 16, 32 ≤ (Nat.digitChar digit).toNat ∧
      (Nat.digitChar digit).toNat < 127 := by decide
  intro character member
  simp only [unicodeEscape, List.mem_cons, List.mem_map] at member
  rcases member with rfl | rfl | ⟨place, -, rfl⟩
  · decide
  · decide
  · exact digits _ (Nat.mod_lt _ (by decide))

theorem printable_escapeJson (character : Char) :
    Printable (escapeJson character) := by
  rw [escapeJson]
  cases found : shortEscapes.lookup character with
  | some short =>
      have shown : ∀ escape ∈ shortEscapes, Printable ['\\', escape.2] := by
        simp [shortEscapes, Printable]
      obtain ⟨before, after, split, -⟩ := List.lookup_eq_some_iff.mp found
      exact shown (character, short) (by rw [split]; simp)
  | none =>
      dsimp only
      split_ifs with shown basic
      · simpa [Printable] using shown
      · exact printable_unicodeEscape character.toNat
      · exact (printable_unicodeEscape _).append (printable_unicodeEscape _)

theorem printable_jsonString (text : String) : Printable (jsonString text) := by
  intro character member
  simp only [jsonString, List.cons_append, List.mem_cons, List.mem_append,
    List.mem_flatMap, List.not_mem_nil, or_false] at member
  rcases member with rfl | ⟨source, -, escaped⟩ | rfl
  · decide
  · exact printable_escapeJson source character escaped
  · decide

namespace Json

/-- A value without numbers and without other values in it. -/
def Textual : Json → Prop
  | null => True
  | bool _ => True
  | string _ => True
  | _ => False

theorem Textual.printable {value : Json} (textual : value.Textual) :
    Printable value.dumps := by
  cases value with
  | null => unfold dumps; decide
  | bool value =>
      cases value with
      | true => unfold dumps; decide
      | false => unfold dumps; decide
  | string value => exact printable_jsonString value
  | _ => cases textual

theorem dumpsFields_eq_map (fields : List (String × Json)) :
    dumpsFields fields = fields.map fun field =>
      jsonString field.1 ++ ':' :: ' ' :: field.2.dumps := by
  induction fields with
  | nil => rfl
  | cons field fields induction =>
      obtain ⟨name, value⟩ := field
      rw [dumpsFields, induction, List.map_cons]

theorem printable_dumps_mapping {fields : List (String × Json)}
    (textual : ∀ field ∈ fields, field.2.Textual) :
    Printable (dumps (.mapping fields)) := by
  have parts : ∀ part ∈ dumpsFields fields, Printable part := by
    rw [dumpsFields_eq_map]
    intro part member
    obtain ⟨field, fieldMember, rfl⟩ := List.mem_map.mp member
    have colon : Printable [':', ' '] := by decide
    exact (printable_jsonString field.1).append
      (colon.append (textual field fieldMember).printable)
  have comma : Printable [',', ' '] := by decide
  have opening : Printable ['\x7b'] := by decide
  have closing : Printable ['\x7d'] := by decide
  rw [dumps]
  exact opening.append ((comma.intercalate parts).append closing)

end Json

end Kuber.Rules

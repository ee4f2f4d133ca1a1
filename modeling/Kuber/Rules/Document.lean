import Mathlib.Data.List.Basic
import Mathlib.Data.String.Basic

/-!
# JSON-like documents

The values a YAML or JSON loader returns.  A floating-point number is kept as
its printed form, the only part of it that any reader of a document uses.
-/

namespace Kuber.Rules

inductive Json where
  | null
  | bool (value : Bool)
  | int (value : Int)
  | float (text : String)
  | string (value : String)
  | list (items : List Json)
  | mapping (fields : List (String × Json))

/-- The fields of a mapping, in document order. -/
abbrev Document := List (String × Json)

/-- `document.get(name)`: an absent field reads as null. -/
def Document.field (document : Document) (name : String) : Json :=
  (document.lookup name).getD .null

/-- `document.get(name, default)`: only an absent field is defaulted. -/
def Document.fieldD (document : Document) (name : String) (default : Json) :
    Json :=
  (document.lookup name).getD default

namespace Json

/-- `bool(value)`. -/
def truthy : Json → Bool
  | null => false
  | bool value => value
  | int value => decide (value ≠ 0)
  | float text => decide (text ≠ "0.0" ∧ text ≠ "-0.0")
  | string value => decide (value ≠ "")
  | list items => !items.isEmpty
  | mapping fields => !fields.isEmpty

def isText (text : String) : Json → Bool
  | string value => decide (value = text)
  | _ => false

def asText? : Json → Option String
  | string value => some value
  | _ => none

/-- `str(value)` of a hashable value. -/
def scalarText : Json → String
  | null => "None"
  | bool true => "True"
  | bool false => "False"
  | int value => toString value
  | float text => text
  | string value => value
  | list _ => "list"
  | mapping _ => "dict"

/-- One character of a quoted text.  Of the characters that are not printable
those up to U+00FF are escaped as in Python; those behind, such as U+200B, are
left as they are, since that takes the Unicode tables. -/
def escapeCharacter (quote character : Char) : String :=
  if character = '\\' then "\\\\"
  else if character = quote then "\\" ++ quote.toString
  else if character = '\n' then "\\n"
  else if character = '\r' then "\\r"
  else if character = '\t' then "\\t"
  else if character.toNat < 32 ∨
      127 ≤ character.toNat ∧ character.toNat ≤ 160 ∨
        character.toNat = 173 then
    "\\x" ++ String.ofList (Nat.toDigits 16 (character.toNat / 16) ++
      Nat.toDigits 16 (character.toNat % 16))
  else character.toString

/-- `repr(text)`: single quotes, unless these would need escapes. -/
def quoteText (text : String) : String :=
  let quote :=
    if '\'' ∈ text.toList ∧ '"' ∉ text.toList then '"' else '\''
  quote.toString ++
    String.join (text.toList.map (escapeCharacter quote)) ++ quote.toString

mutual

/-- `repr(value)`. -/
def repr : Json → String
  | null => "None"
  | bool true => "True"
  | bool false => "False"
  | int value => toString value
  | float text => text
  | string value => quoteText value
  | list items => "[" ++ ", ".intercalate (reprItems items) ++ "]"
  | mapping fields =>
      "\x7b" ++ ", ".intercalate (reprFields fields) ++ "\x7d"

def reprItems : List Json → List String
  | [] => []
  | item :: items => repr item :: reprItems items

def reprFields : List (String × Json) → List String
  | [] => []
  | (name, value) :: fields =>
      (quoteText name ++ ": " ++ repr value) :: reprFields fields

end

/-- `str(value)`. -/
def str : Json → String
  | string value => value
  | value => value.repr

theorem str_ne_empty_of_truthy {value : Json} (holds : value.truthy = true)
    (printed : value ≠ .float "") : value.str ≠ "" := by
  cases value with
  | null => cases holds
  | bool value => cases value <;> simp [str, repr]
  | int value =>
      cases value with
      | ofNat value => exact Nat.repr_ne_empty
      | negSucc value => simp [str, repr, toString, Int.repr]
  | float text =>
      intro empty
      exact printed (congrArg Json.float empty)
  | string value => exact of_decide_eq_true holds
  | list items => simp [str, repr]
  | mapping fields => simp [str, repr]

def ofOptionText : Option String → Json
  | none => null
  | some text => string text

end Json

end Kuber.Rules

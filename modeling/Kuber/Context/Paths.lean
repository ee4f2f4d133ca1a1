import Kuber.Exceptions
import Kuber.Rules.Document

/-!
# Paths and the file system

Paths are an anchor and the parts below it; a part is neither empty nor the
current directory and has no slash, so different paths have different texts.
The file system is a parameter: each of its operations may raise, and nothing
is a file and a directory at once.
-/

namespace Kuber.Context

open Kuber.Rules

/-- One name in a path. -/
abbrev Part :=
  {text : String // text ≠ "" ∧ text ≠ "." ∧ '/' ∉ text.toList}

/-- `PurePath.parts`. -/
structure Path where
  anchor : String
  parts : List Part
deriving DecidableEq

/-- The parts of a text between slashes; empty ones and dots are dropped. -/
def partsOf (text : String) : List Part :=
  ((text.toList.splitOn '/').map String.ofList).filterMap fun name =>
    if whole : name ≠ "" ∧ name ≠ "." ∧ '/' ∉ name.toList then
      some ⟨name, whole⟩
    else none

def anchorOf (text : String) : String :=
  match text.toList with
  | '/' :: '/' :: '/' :: _ => "/"
  | '/' :: '/' :: _ => "//"
  | '/' :: _ => "/"
  | _ => ""

/-- `PurePath.as_posix` of parts without an anchor. -/
def posixText (parts : List Part) : String :=
  if parts = [] then "."
  else String.ofList
    (['/'].intercalate (parts.map fun part => part.val.toList))

namespace Path

/-- `Path(text)`. -/
def ofText (text : String) : Path := ⟨anchorOf text, partsOf text⟩

/-- `str(path)`. -/
def text (path : Path) : String :=
  if path.anchor ≠ "" ∧ path.parts = [] then path.anchor
  else path.anchor ++ posixText path.parts

/-- `path / relative`. -/
def join (path : Path) (relative : String) : Path :=
  let other := ofText relative
  if other.anchor = "" then ⟨path.anchor, path.parts ++ other.parts⟩
  else other

def isRelativeTo (path root : Path) : Bool :=
  decide (path.anchor = root.anchor ∧ root.parts <+: path.parts)

def relativeTo (path root : Path) : Except PyException (List Part) :=
  if path.isRelativeTo root = true then
    .ok (path.parts.drop root.parts.length)
  else .error (.valueError (Json.quoteText path.text ++
    " is not in the subpath of " ++ Json.quoteText root.text))

/-- What paths are compared by. -/
def sortKey (path : Path) : List String :=
  (path.text.toList.splitOn '/').map String.ofList

end Path

/-- `PurePath.name`. -/
def nameOf (parts : List Part) : String :=
  parts.getLast?.elim "" Subtype.val

/-- `PurePath.suffix` of a name. -/
def suffixOf (name : String) : String :=
  let ending := name.toList.reverse.takeWhile (· != '.')
  if ending ≠ [] ∧ ending.length + 1 < name.length then
    String.ofList ('.' :: ending.reverse)
  else ""

/-- What `pathlib` sees of the disk. -/
structure FileSystem where
  resolve : Path → Except PyException Path
  isDir : Path → Except PyException Bool
  isFile : Path → Except PyException Bool
  rglob : Path → Except PyException (List Path)
  size : Path → Except PyException Nat
  readBytes : Path → Except PyException (List UInt8)
  apart : ∀ path, isDir path = .ok true → isFile path ≠ .ok true

theorem posixText_of_ne_nil {parts : List Part} (nonempty : parts ≠ []) :
    (posixText parts).toList.splitOn '/' =
      parts.map fun part => part.val.toList := by
  rw [posixText, if_neg nonempty, String.toList_ofList]
  apply List.splitOn_intercalate
  · intro name member
    obtain ⟨part, -, rfl⟩ := List.mem_map.mp member
    exact part.property.2.2
  · exact fun empty => nonempty (List.map_eq_nil_iff.mp empty)

theorem posixText_injective : Function.Injective posixText := by
  have apart : ∀ parts : List Part, parts ≠ [] → posixText parts ≠ "." := by
    intro parts nonempty same
    have split := posixText_of_ne_nil nonempty
    rw [same] at split
    obtain ⟨part, rest, rfl⟩ := List.exists_cons_of_ne_nil nonempty
    rw [List.map_cons] at split
    have first : ['.'] = part.val.toList := (List.cons.inj split).1
    exact part.property.2.1 (String.ext first.symm)
  intro left right same
  by_cases leftEmpty : left = []
  · by_cases rightEmpty : right = []
    · rw [leftEmpty, rightEmpty]
    · rw [leftEmpty] at same
      exact absurd same.symm (apart right rightEmpty)
  · by_cases rightEmpty : right = []
    · rw [rightEmpty] at same
      exact absurd same (apart left leftEmpty)
    · have split := posixText_of_ne_nil leftEmpty
      rw [same, posixText_of_ne_nil rightEmpty] at split
      apply List.map_injective_iff.mpr _ split.symm
      intro first second equal
      exact Subtype.ext (String.ext equal)

theorem Path.relativeTo_eq_ok_iff {path root : Path} {relative : List Part} :
    path.relativeTo root = .ok relative ↔
      path.anchor = root.anchor ∧ path.parts = root.parts ++ relative := by
  rw [relativeTo, isRelativeTo]
  by_cases below : path.anchor = root.anchor ∧ root.parts <+: path.parts
  · obtain ⟨sameAnchor, rest, parts⟩ := below
    simp [sameAnchor, ← parts]
  · simp only [below, decide_false, Bool.false_eq_true, if_false,
      reduceCtorEq, false_iff]
    intro ⟨sameAnchor, parts⟩
    exact below ⟨sameAnchor, relative, parts.symm⟩

end Kuber.Context

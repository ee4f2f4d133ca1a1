import Mathlib.Data.List.TakeWhile
import Kuber.Library.StableOrder
import Kuber.Runtime.TrackedKubeClient

/-!
# Exact collection of structured evidence

A log holds the records that tracked clients print, with anything in front of
them that has no brace, and lines that are something else.  What is collected
from it are the events of its records, every one at its first occurrence.
-/

namespace Kuber.Runtime

open Kuber.Library Kuber.Rules

/-- `json.loads` gives back the dictionary that `json.dumps` has written. -/
def TextReader.Inverts (reader : TextReader) (record : Document) : Prop :=
  ∃ decoded, reader.loads
      (String.ofList (TrackedKubeClient.recordText record)) = some decoded ∧
    decoded.Same (.mapping record)

/-- The text is a JSON object with the mark of an event, from its first brace
on. -/
def HoldsEvent (reader : TextReader) (text : List Char) : Prop :=
  '\x7b' ∈ text ∧ ∃ fields : Document,
    reader.loads (String.ofList (text.dropWhile (· != '\x7b'))) =
        some (.mapping fields) ∧
      flagged (fields.field "kuber_event") = true

inductive LoggedLine where
  | record (before : List Char) (call : TrackedCall) (printed : Document)
  | other (text : List Char)

namespace LoggedLine

def text : LoggedLine → List Char
  | record before _ printed => before ++ TrackedKubeClient.recordText printed
  | other text => text

/-- A record that the call prints, behind a text without a brace, or a line
that holds no event. -/
def WellFormed (reader : TextReader) : LoggedLine → Prop
  | record before call printed => '\x7b' ∉ before ∧ call.Prints printed
  | other text => ¬ HoldsEvent reader text

def printed? : LoggedLine → Option Document
  | record _ _ printed => some printed
  | other _ => none

/-- The event of a record, or of a record that is marked as denied. -/
def event? (deniedOnly : Bool) : LoggedLine → Option KubeEvent
  | record _ call printed =>
      if deniedOnly = true ∧ flagged (printed.field "kuber_denied") = false
      then none
      else some call.kubeEvent
  | other _ => none

end LoggedLine

theorem flagged_sortKeys (value : Json) :
    flagged value.sortKeys = flagged value := by
  cases value <;> rfl

theorem flagged_field_of_same {left right : Document} (same : left.Same right)
    (name : String) :
    flagged (left.field name) = flagged (right.field name) := by
  rw [← flagged_sortKeys, ← Document.field_sorted, same, Document.field_sorted,
    flagged_sortKeys]

section Lines

variable {reader : TextReader} {deniedOnly : Bool}

theorem lineEvent?_of_braceless (empty : reader.loads "" = none)
    {text : List Char} (braceless : '\x7b' ∉ text) :
    lineEvent? reader deniedOnly text = none := by
  have nothing : text.dropWhile (· != '\x7b') = [] := by
    rw [List.dropWhile_eq_nil_iff]
    intro character member
    exact bne_iff_ne.mpr fun same => braceless (same ▸ member)
  rw [lineEvent?, nothing, String.ofList_nil, empty]

theorem lineEvent?_of_not_holdsEvent (empty : reader.loads "" = none)
    {text : List Char} (silent : ¬ HoldsEvent reader text) :
    lineEvent? reader deniedOnly text = none := by
  by_cases brace : '\x7b' ∈ text
  · rw [lineEvent?]
    split
    · rename_i fields decoded
      have unmarked :
          flagged (Document.field fields "kuber_event") = false := by
        rw [← Bool.not_eq_true]
        exact fun marked => silent ⟨brace, fields, decoded, marked⟩
      rw [if_pos unmarked]
    · rfl
  · exact lineEvent?_of_braceless empty brace

theorem lineEvent?_record {before : List Char} {call : TrackedCall}
    {printed : Document} (braceless : '\x7b' ∉ before)
    (prints : call.Prints printed) (inverts : reader.Inverts printed) :
    lineEvent? reader deniedOnly
        (before ++ TrackedKubeClient.recordText printed) =
      (LoggedLine.event? deniedOnly (.record before call printed)).map
        .ofKubeEvent := by
  obtain ⟨rest, opening⟩ := TrackedKubeClient.recordText_eq_cons printed
  have found : (before ++ TrackedKubeClient.recordText printed).dropWhile
      (· != '\x7b') = TrackedKubeClient.recordText printed := by
    rw [List.dropWhile_append_of_pos, opening]
    · rfl
    · intro character member
      exact bne_iff_ne.mpr fun same => braceless (same ▸ member)
  obtain ⟨decoded, loaded, sameValue⟩ := inverts
  obtain ⟨entries, rfl, same⟩ := Document.mapping_of_same sameValue
  have marked : flagged (entries.field "kuber_event") = true := by
    rw [flagged_field_of_same same, TrackedCall.field_marked prints]
    rfl
  have describes := (TrackedCall.describes_of_prints prints).of_same same
  have read := eventOfDict?_of_describes describes
  rw [lineEvent?, found, loaded]
  simp only [marked, read, flagged_field_of_same same, LoggedLine.event?]
  by_cases skipped :
      deniedOnly = true ∧ flagged (printed.field "kuber_denied") = false
  · simp [skipped]
  · simp [skipped]

theorem lineEvent?_text (empty : reader.loads "" = none) {line : LoggedLine}
    (wellFormed : line.WellFormed reader)
    (inverts : ∀ printed ∈ line.printed?, reader.Inverts printed) :
    lineEvent? reader deniedOnly line.text =
      (line.event? deniedOnly).map .ofKubeEvent := by
  cases line with
  | record before call printed =>
      exact lineEvent?_record wellFormed.1 wellFormed.2 (inverts printed rfl)
  | other text => exact lineEvent?_of_not_holdsEvent empty wellFormed

theorem collectEvents_of_madeOf (empty : reader.loads "" = none)
    {lines : List LoggedLine} {logText : List Char}
    (wellFormed : ∀ line ∈ lines, line.WellFormed reader)
    (inverts : ∀ line ∈ lines, ∀ printed ∈ line.printed?,
      reader.Inverts printed)
    (made : MadeOf (lines.map LoggedLine.text) logText) :
    collectEvents reader logText deniedOnly =
      (lines.filterMap (LoggedLine.event? deniedOnly)).eraseDups.map
        .ofKubeEvent := by
  have read : (lines.map LoggedLine.text).filterMap
      (lineEvent? reader deniedOnly) =
        (lines.filterMap (LoggedLine.event? deniedOnly)).map .ofKubeEvent := by
    rw [List.filterMap_map, List.map_filterMap]
    apply List.filterMap_congr
    intro line member
    exact lineEvent?_text empty (wellFormed line member) (inverts line member)
  rw [collectEvents, splitlines_of_madeOf made, lineEvents, read,
    CollectedEvent.firstBy_ofKubeEvent]

theorem collectEvents_lineFeed (empty : reader.loads "" = none)
    (first second : List Char) :
    collectEvents reader (first ++ '\n' :: second) deniedOnly =
      firstBy CollectedEvent.compared
        (collectEvents reader first deniedOnly ++
          collectEvents reader second deniedOnly) := by
  have blank : lineEvent? reader deniedOnly [] = none :=
    lineEvent?_of_braceless empty (by simp)
  simp only [collectEvents, lineEvents]
  rw [firstBy_append_firstBy, filterMap_splitlines_lineFeed blank]

end Lines

/-- From lines that are records or hold no event, the events of the records
are collected; and a text in two parts gives what the parts give. -/
theorem evidence_is_collected_exactly (reader : TextReader)
    (empty : reader.loads "" = none) (deniedOnly : Bool) :
    (∀ (lines : List LoggedLine) (logText : List Char),
      (∀ line ∈ lines, line.WellFormed reader) →
      (∀ line ∈ lines, ∀ printed ∈ line.printed?, reader.Inverts printed) →
      MadeOf (lines.map LoggedLine.text) logText →
      collectEvents reader logText deniedOnly =
        (lines.filterMap (LoggedLine.event? deniedOnly)).eraseDups.map
          .ofKubeEvent) ∧
    ∀ first second : List Char,
      collectEvents reader (first ++ '\n' :: second) deniedOnly =
        firstBy CollectedEvent.compared
          (collectEvents reader first deniedOnly ++
            collectEvents reader second deniedOnly) :=
  ⟨fun _ _ => collectEvents_of_madeOf empty, collectEvents_lineFeed empty⟩

def leaseRead : TrackedCall where
  client := ⟨"shop", some "web"⟩
  apiGroup := "coordination.k8s.io"
  resource := "leases"
  verb := "get"
  resourceName := some "leader"

def leaseDenied : Document :=
  TrackedKubeClient.denial leaseRead.event (some "Forbidden")

/-- A JSON module, as far as these two records go. -/
def leaseReader : TextReader where
  loads text :=
    if text.toList = TrackedKubeClient.recordText leaseRead.event then
      some (.mapping leaseRead.event)
    else if text.toList = TrackedKubeClient.recordText leaseDenied then
      some (.mapping leaseDenied)
    else none
  decimal _ := none

def leaseLines : List LoggedLine :=
  [.record "INFO kuber.events ".toList leaseRead leaseRead.event,
    .other "not a \x7brecord\x7d".toList,
    .record [] leaseRead leaseDenied]

theorem inverts_leaseReader {printed : Document}
    (written : printed = leaseRead.event ∨ printed = leaseDenied) :
    leaseReader.Inverts printed := by
  have different : TrackedKubeClient.recordText leaseDenied ≠
      TrackedKubeClient.recordText leaseRead.event := by decide
  rcases written with rfl | rfl
  · refine ⟨.mapping leaseRead.event, ?_, .refl _⟩
    simp only [leaseReader, String.toList_ofList, if_true]
  · refine ⟨.mapping leaseDenied, ?_, .refl _⟩
    simp only [leaseReader, String.toList_ofList, if_neg different, if_true]

theorem wellFormed_leaseLines :
    ∀ line ∈ leaseLines, line.WellFormed leaseReader := by
  intro line member
  simp only [leaseLines, List.mem_cons, List.not_mem_nil, or_false] at member
  rcases member with rfl | rfl | rfl
  · exact ⟨by decide, leaseRead.prints_event⟩
  · rintro ⟨-, fields, loaded, -⟩
    have missing : (leaseReader.loads (String.ofList
        ("not a \x7brecord\x7d".toList.dropWhile
          (· != '\x7b')))).isNone = true := by decide
    rw [loaded] at missing
    cases missing
  · exact ⟨by decide, leaseRead.prints_denial _⟩

theorem evidence_is_collected_exactly_lease :
    collectEvents leaseReader (terminateAll (leaseLines.map LoggedLine.text))
      true = [.ofKubeEvent leaseRead.kubeEvent] := by
  have empty : leaseReader.loads "" = none := by
    obtain ⟨_, first⟩ := TrackedKubeClient.recordText_eq_cons leaseRead.event
    obtain ⟨_, second⟩ := TrackedKubeClient.recordText_eq_cons leaseDenied
    simp [leaseReader, first, second]
  have inverts : ∀ line ∈ leaseLines, ∀ printed ∈ line.printed?,
      leaseReader.Inverts printed := by
    intro line member printed found
    apply inverts_leaseReader
    simp only [leaseLines, List.mem_cons, List.not_mem_nil, or_false] at member
    rcases member with rfl | rfl | rfl
    · exact Or.inl (Option.some.inj found).symm
    · cases found
    · exact Or.inr (Option.some.inj found).symm
  have unbroken : ∀ text ∈ leaseLines.map LoggedLine.text, Unbroken text := by
    intro text member
    simp only [leaseLines, List.map_cons, List.map_nil, List.mem_cons,
      List.not_mem_nil, or_false] at member
    rcases member with rfl | rfl | rfl
    · refine Unbroken.append ?_
        (TrackedCall.unbroken_recordText leaseRead.prints_event)
      decide
    · rw [LoggedLine.text]
      decide
    · exact TrackedCall.unbroken_recordText (leaseRead.prints_denial _)
  rw [(evidence_is_collected_exactly leaseReader empty true).1 leaseLines _
    wellFormed_leaseLines inverts
    (splitlines_eq_iff.mp (splitlines_terminateAll_unbroken unbroken))]
  rfl

end Kuber.Runtime

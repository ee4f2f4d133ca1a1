import Kuber.Agent.Interfaces
import Kuber.Library.StableOrder
import Kuber.Library.TextLines
import Kuber.Rules.Document

/-!
# Observation of a workload

The structured events in the logs of a workload, and the two calls of the live
adapter that read these logs.  Both poll until a reading holds what they look
for or their deadline has passed, so the readings of a call are the texts that
it would see before its deadline.  The JSON module and the table of decimal
digits are parameters.
-/

namespace Kuber.Runtime

open Kuber.Library Kuber.Rules Kuber.Agent

/-- `json.loads`, where it returns, and the values of decimal digits. -/
structure TextReader where
  loads : String → Option Json
  decimal : Char → Option Nat

structure CompletedProcess where
  returncode : Int
  stdout : String
  stderr : String

/-- What the equality of hashable values compares: `True` is 1, and so is
`1.0`.  Other floats are told apart by their printed forms. -/
inductive Compared where
  | none
  | number (value : Int)
  | float (text : String)
  | text (value : String)
deriving DecidableEq

/-- The number of a float without a fraction. -/
def wholeNumber? (text : String) : Option Int :=
  match text.toList.reverse with
  | '0' :: '.' :: digits => (String.ofList digits.reverse).toInt?
  | _ => none

def compared : Json → Compared
  | .bool value => .number (if value = true then 1 else 0)
  | .int value => .number value
  | .float text =>
      match wholeNumber? text with
      | some value => .number value
      | none => .float text
  | .string value => .text value
  | _ => .none

example : compared (.bool true) = compared (.int 1) := rfl

/-- A value that can be an attribute of a collected event, which is hashed. -/
def attribute? : Json → Option Json
  | .list _ => none
  | .mapping _ => none
  | value => some value

/-- A `KubeEvent` as `from_dict` makes it, which takes the last attributes as
they are. -/
structure CollectedEvent where
  apiGroup : String
  resource : String
  verb : String
  «namespace» : Json
  resourceName : Json
  workloadId : Json

/-- What the equality of events compares. -/
def CollectedEvent.compared (event : CollectedEvent) :
    String × String × String × Compared × Compared × Compared :=
  (event.apiGroup, event.resource, event.verb,
    Runtime.compared event.namespace, Runtime.compared event.resourceName,
    Runtime.compared event.workloadId)

/-- `KubeEvent.from_dict`, where the event can be collected. -/
def eventOfDict? (value : Document) : Option CollectedEvent := do
  let resource ← value.lookup "resource"
  let verb ← value.lookup "verb"
  let scope ← attribute? (value.field "namespace")
  let resourceName ← attribute? (value.field "resource_name")
  let workloadId ← attribute? (value.field "workload_id")
  return ⟨(value.fieldD "api_group" (.string "")).str, resource.str, verb.str,
    scope, resourceName, workloadId⟩

def textOf? : Json → Option String
  | .null => none
  | value => some value.str

/-- The event that the policies are asked about, in which an attribute that is
no text is printed. -/
def CollectedEvent.kubeEvent (event : CollectedEvent) : KubeEvent where
  apiGroup := event.apiGroup
  resource := event.resource
  verb := event.verb
  «namespace» := textOf? event.namespace
  resourceName := textOf? event.resourceName
  workloadId := textOf? event.workloadId

/-- An event whose attributes are texts, as it is collected. -/
def CollectedEvent.ofKubeEvent (event : KubeEvent) : CollectedEvent where
  apiGroup := event.apiGroup
  resource := event.resource
  verb := event.verb
  «namespace» := .ofOptionText event.namespace
  resourceName := .ofOptionText event.resourceName
  workloadId := .ofOptionText event.workloadId

theorem textOf?_ofOptionText (text : Option String) :
    textOf? (.ofOptionText text) = text := by
  cases text <;> rfl

theorem compared_ofOptionText_inj {left right : Option String} :
    compared (.ofOptionText left) = compared (.ofOptionText right) ↔
      left = right := by
  cases left <;> cases right <;> simp [Json.ofOptionText, compared]

namespace CollectedEvent

@[simp] theorem kubeEvent_ofKubeEvent (event : KubeEvent) :
    (ofKubeEvent event).kubeEvent = event := by
  simp [ofKubeEvent, kubeEvent, textOf?_ofOptionText]

theorem map_kubeEvent_ofKubeEvent (events : List KubeEvent) :
    (events.map ofKubeEvent).map kubeEvent = events := by
  simp [Function.comp_def]

theorem compared_ofKubeEvent_injective :
    Function.Injective fun event => compared (ofKubeEvent event) := by
  intro left right same
  simp only [compared, ofKubeEvent, Prod.mk.injEq, compared_ofOptionText_inj]
    at same
  obtain ⟨group, resource, verb, scope, name, workload⟩ := same
  cases left
  cases right
  simp_all

/-- Events whose attributes are texts are told apart by them. -/
theorem firstBy_ofKubeEvent (events : List KubeEvent) :
    firstBy compared (events.map ofKubeEvent) =
      events.eraseDups.map ofKubeEvent :=
  firstBy_map_of_injective compared compared_ofKubeEvent_injective events

end CollectedEvent

/-- `value is True`. -/
def flagged : Json → Bool
  | .bool value => value
  | _ => false

section Reading

variable (reader : TextReader)

/-- The event that one line holds. -/
def lineEvent? (deniedOnly : Bool) (line : List Char) :
    Option CollectedEvent :=
  match reader.loads (String.ofList (line.dropWhile (· != '\x7b'))) with
  | some (.mapping value) =>
      if flagged (Document.field value "kuber_event") = false then none
      else if deniedOnly = true ∧
        flagged (Document.field value "kuber_denied") = false then none
      else eventOfDict? value
  | _ => none

/-- The events of lines, every one at its first occurrence. -/
def lineEvents (deniedOnly : Bool) (lines : List (List Char)) :
    List CollectedEvent :=
  firstBy CollectedEvent.compared
    (lines.filterMap (lineEvent? reader deniedOnly))

/-- `collect_events`. -/
def collectEvents (logText : List Char) (deniedOnly : Bool) :
    List CollectedEvent :=
  lineEvents reader deniedOnly (splitlines logText)

/-- The turns that a polling loop takes. -/
def pollUntil {α : Type} (found : α → Bool) : List α → List α
  | [] => []
  | reading :: readings =>
      if found reading = true then [reading]
      else reading :: pollUntil found readings

/-- `_logs`, of one answer of `kubectl logs`. -/
def logs (output : CompletedProcess) : List Char :=
  output.stdout.toList ++ '\n' :: output.stderr.toList

/-- The readings that `get_observed_usage` takes. -/
def observationTurns (readings : List CompletedProcess) :
    List CompletedProcess :=
  pollUntil (fun output => decide (collectEvents reader (logs output) false ≠
    [])) readings

/-- `get_observed_usage`: the events, and the cursor that it leaves. -/
def getObservedUsage (readings : List CompletedProcess) :
    List KubeEvent × Nat :=
  match (observationTurns reader readings).getLast? with
  | none => ([], (splitlines []).length)
  | some output =>
      ((collectEvents reader (logs output) false).map
        CollectedEvent.kubeEvent, (splitlines (logs output)).length)

/-- Where the fresh lines start: at the cursor, unless there are too few. -/
def freshStart (cursor : Nat) (lines : List (List Char)) : Nat :=
  if cursor ≤ lines.length then cursor else 0

def freshLines (cursor : Nat) (output : CompletedProcess) :
    List (List Char) :=
  let lines := splitlines (logs output)
  lines.drop (freshStart cursor lines)

def freshLogs (cursor : Nat) (output : CompletedProcess) : List Char :=
  ['\n'].intercalate (freshLines cursor output)

def freshDenials (cursor : Nat) (output : CompletedProcess) :
    List CollectedEvent :=
  collectEvents reader (freshLogs cursor output) true

/-- The readings that `verify_workload` takes. -/
def verificationTurns (cursor : Nat) (smoke : CompletedProcess)
    (readings : List CompletedProcess) : List CompletedProcess :=
  pollUntil (fun output => decide (smoke.returncode = 0 ∨
    freshDenials reader cursor output ≠ [])) readings

/-- `int` of decimal digits. -/
def decimalNumber (digits : List Char) : Nat :=
  digits.foldl (fun number digit =>
    10 * number + (reader.decimal digit).getD 0) 0

def isDecimal (character : Char) : Bool := (reader.decimal character).isSome

/-- Two numbers with a slash between them, at the start of a text. -/
def summaryCounts? (text : List Char) : Option (Nat × Nat) :=
  match text.dropWhile (isDecimal reader) with
  | '/' :: rest =>
      let passed := text.takeWhile (isDecimal reader)
      let total := rest.takeWhile (isDecimal reader)
      if passed = [] ∨ total = [] then none
      else some (decimalNumber reader passed, decimalNumber reader total)
  | _ => none

/-- The first match of `KUBER_TEST_SUMMARY=(\d+)/(\d+)`. -/
def testSummary? : List Char → Option (Nat × Nat)
  | [] => none
  | character :: text =>
      let mark := "KUBER_TEST_SUMMARY=".toList
      let here :=
        if mark.isPrefixOf (character :: text) = true then
          summaryCounts? reader ((character :: text).drop mark.length)
        else none
      here.or (testSummary? text)

/-- The passed tests and all tests of a smoke run. -/
def testCounts (smoke : CompletedProcess) : Nat × Nat :=
  match testSummary? reader smoke.stdout.toList with
  | some counts => counts
  | none => (if smoke.returncode = 0 then 6 else 0, 6)

/-- `verify_workload`: the result, and the cursor that it leaves. -/
def verifyWorkload (cursor : Nat) (smoke : CompletedProcess)
    (readings : List CompletedProcess) : VerificationResult × Nat :=
  let last := (verificationTurns reader cursor smoke readings).getLast?
  let fresh := last.elim [] (freshLogs cursor)
  let denied := last.elim [] (freshDenials reader cursor)
  let counts := testCounts reader smoke
  (⟨decide (smoke.returncode = 0), counts.1, counts.2,
    denied.map CollectedEvent.kubeEvent, smoke.stdout,
    smoke.stderr ++ "\n" ++ String.ofList fresh⟩,
    last.elim 0 fun output => (splitlines (logs output)).length)

end Reading

section Polling

variable {α β : Type} {found : α → Bool} {readings : List α}

theorem pollUntil_sublist : (pollUntil found readings).Sublist readings := by
  induction readings with
  | nil => exact List.Sublist.slnil
  | cons reading readings induction =>
      rw [pollUntil]
      by_cases here : found reading = true
      · rw [if_pos here]
        exact List.Sublist.cons_cons reading (List.nil_sublist readings)
      · rw [if_neg here]
        exact List.Sublist.cons_cons reading induction

theorem pollUntil_ne_nil (nonempty : readings ≠ []) :
    pollUntil found readings ≠ [] := by
  cases readings with
  | nil => exact absurd rfl nonempty
  | cons reading readings =>
      rw [pollUntil]
      by_cases here : found reading = true <;> simp [here]

theorem pollUntil_map {found : β → Bool} (read : α → β) :
    pollUntil found (readings.map read) =
      (pollUntil (fun reading => found (read reading)) readings).map read := by
  induction readings with
  | nil => rfl
  | cons reading readings induction =>
      rw [List.map_cons, pollUntil, pollUntil, induction]
      by_cases here : found (read reading) = true <;> simp [here]

end Polling

end Kuber.Runtime

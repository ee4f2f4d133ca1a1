import Kuber.Rules.JsonText
import Kuber.Rules.SortedKeys
import Kuber.Runtime.Observation

/-!
# The tracked Kubernetes client

A workload announces each of its Kubernetes calls, and each denial of one, by a
line with a JSON object on its standard output.  The Kubernetes client itself
is a parameter: only what an operation returns or raises matters here.
-/

namespace Kuber.Runtime

open Kuber.Library Kuber.Rules

structure TrackedKubeClient where
  «namespace» : String
  workloadId : Option String := none

/-- What an operation raises. -/
inductive OperationError where
  | apiException (status : Option Int) (reason : Option String)
  | other (error : PyException)

namespace TrackedKubeClient

/-- `_event`. -/
def event (client : TrackedKubeClient)
    (apiGroup resource verb : String) (resourceName : Option String := none) :
    Document :=
  [("kuber_event", .bool true), ("api_group", .string apiGroup),
    ("resource", .string resource), ("verb", .string verb),
    ("namespace", .string client.namespace),
    ("resource_name", .ofOptionText resourceName)] ++
  match client.workloadId with
  | none => []
  | some workloadId =>
      if workloadId = "" then [] else [("workload_id", .string workloadId)]

/-- `{**event, "kuber_denied": True, "message": exc.reason}`. -/
def denial (event : Document) (reason : Option String) : Document :=
  event ++ [("kuber_denied", .bool true), ("message", .ofOptionText reason)]

/-- `_call`: the objects that are printed, and what it returns or raises. -/
def call {α : Type} (event : Document)
    (operation : Except OperationError α) :
    List Document × Except OperationError α :=
  match operation with
  | .ok value => ([event], .ok value)
  | .error (.apiException status reason) =>
      if status = some 403 then
        ([event, denial event reason], .error (.apiException status reason))
      else ([event], .error (.apiException status reason))
  | .error (.other error) => ([event], .error (.other error))

/-- `json.dumps(event, sort_keys=True)`. -/
def recordText (event : Document) : List Char :=
  (Json.mapping event).sortKeys.dumps

end TrackedKubeClient

/-- A call that a client makes. -/
structure TrackedCall where
  client : TrackedKubeClient
  apiGroup : String
  resource : String
  verb : String
  resourceName : Option String := none

namespace TrackedCall

def event (call : TrackedCall) : Document :=
  call.client.event call.apiGroup call.resource call.verb call.resourceName

/-- What the call is, for those who collect it. -/
def kubeEvent (call : TrackedCall) : KubeEvent where
  apiGroup := call.apiGroup
  resource := call.resource
  verb := call.verb
  «namespace» := some call.client.namespace
  resourceName := call.resourceName
  workloadId :=
    match call.client.workloadId with
    | none => none
    | some workloadId => if workloadId = "" then none else some workloadId

/-- One of the objects that are printed when the call is made. -/
def Prints (call : TrackedCall) (record : Document) : Prop :=
  ∃ operation : Except OperationError Unit,
    record ∈ (TrackedKubeClient.call call.event operation).1

theorem prints_iff {call : TrackedCall} {record : Document} :
    call.Prints record ↔ record = call.event ∨
      ∃ reason, record = TrackedKubeClient.denial call.event reason := by
  constructor
  · intro ⟨operation, printed⟩
    cases operation with
    | ok value => exact Or.inl (List.mem_singleton.mp printed)
    | error error =>
        cases error with
        | other error => exact Or.inl (List.mem_singleton.mp printed)
        | apiException status reason =>
            rw [TrackedKubeClient.call] at printed
            split_ifs at printed with denied
            · simp only [List.mem_cons, List.not_mem_nil, or_false] at printed
              exact printed.imp_right fun same => ⟨reason, same⟩
            · exact Or.inl (List.mem_singleton.mp printed)
  · rintro (rfl | ⟨reason, rfl⟩)
    · exact ⟨.ok (), List.mem_singleton.mpr rfl⟩
    · refine ⟨.error (.apiException (some 403) reason), ?_⟩
      rw [TrackedKubeClient.call, if_pos rfl]
      simp

theorem prints_event (call : TrackedCall) : call.Prints call.event :=
  prints_iff.mpr (Or.inl rfl)

theorem prints_denial (call : TrackedCall) (reason : Option String) :
    call.Prints (TrackedKubeClient.denial call.event reason) :=
  prints_iff.mpr (Or.inr ⟨reason, rfl⟩)

end TrackedCall

/-- The fields of a record that an event is made of. -/
structure Describes (record : Document) (event : KubeEvent) : Prop where
  apiGroup : record.lookup "api_group" = some (.string event.apiGroup)
  resource : record.lookup "resource" = some (.string event.resource)
  verb : record.lookup "verb" = some (.string event.verb)
  scope : record.field "namespace" = .ofOptionText event.namespace
  resourceName : record.field "resource_name" =
    .ofOptionText event.resourceName
  workloadId : record.field "workload_id" = .ofOptionText event.workloadId

theorem attribute?_ofOptionText (text : Option String) :
    attribute? (.ofOptionText text) = some (.ofOptionText text) := by
  cases text <;> rfl

theorem eventOfDict?_of_describes {record : Document} {event : KubeEvent}
    (describes : Describes record event) :
    eventOfDict? record = some (.ofKubeEvent event) := by
  have group : record.fieldD "api_group" (.string "") =
      .string event.apiGroup := by
    rw [Document.fieldD, describes.apiGroup, Option.getD_some]
  simp [eventOfDict?, group, describes.resource, describes.verb,
    describes.scope, describes.resourceName, describes.workloadId,
    attribute?_ofOptionText, Json.str, CollectedEvent.ofKubeEvent]

theorem textual_sortKeys {value : Json} (textual : value.Textual) :
    value.sortKeys.Textual := by
  cases value with
  | list => cases textual
  | mapping => cases textual
  | _ => simpa only [Json.sortKeys] using textual

theorem scalar_ofOptionText (text : Option String) :
    (Json.ofOptionText text).Scalar := by
  cases text <;> trivial

theorem Describes.of_same {entries record : Document} {event : KubeEvent}
    (describes : Describes record event) (same : entries.Same record) :
    Describes entries event where
  apiGroup := same.lookup_scalar "api_group" describes.apiGroup trivial
  resource := same.lookup_scalar "resource" describes.resource trivial
  verb := same.lookup_scalar "verb" describes.verb trivial
  scope := describes.scope ▸
    same.field_scalar "namespace" (describes.scope ▸ scalar_ofOptionText _)
  resourceName := describes.resourceName ▸ same.field_scalar "resource_name"
    (describes.resourceName ▸ scalar_ofOptionText _)
  workloadId := describes.workloadId ▸ same.field_scalar "workload_id"
    (describes.workloadId ▸ scalar_ofOptionText _)

namespace TrackedCall

section Printing

variable {call : TrackedCall} {record : Document}

theorem field_workloadId {rest : Document}
    (absent : rest.lookup "workload_id" = none) :
    Document.field (call.event ++ rest) "workload_id" =
      .ofOptionText call.kubeEvent.workloadId := by
  rw [kubeEvent, event, TrackedKubeClient.event]
  cases call.client.workloadId with
  | none =>
      simp [Document.field, List.lookup_cons, absent, Json.ofOptionText]
  | some workloadId =>
      by_cases empty : workloadId = ""
      · simp [Document.field, List.lookup_cons, empty, absent,
          Json.ofOptionText]
      · simp [Document.field, List.lookup_cons, empty, Json.ofOptionText]

theorem field_marked (prints : call.Prints record) :
    record.field "kuber_event" = .bool true := by
  rcases prints_iff.mp prints with rfl | ⟨reason, rfl⟩ <;> rfl

theorem describes_of_prints (prints : call.Prints record) :
    Describes record call.kubeEvent := by
  rcases prints_iff.mp prints with rfl | ⟨reason, rfl⟩
  · have workloadId : Document.field (call.event ++ []) "workload_id" =
        .ofOptionText call.kubeEvent.workloadId := field_workloadId rfl
    rw [List.append_nil] at workloadId
    exact ⟨rfl, rfl, rfl, rfl, rfl, workloadId⟩
  · exact ⟨rfl, rfl, rfl, rfl, rfl, field_workloadId rfl⟩

theorem textual_event : ∀ field ∈ call.event, field.2.Textual := by
  have others : ∀ text, (Json.ofOptionText text).Textual := by
    intro text
    cases text <;> trivial
  intro field member
  rw [event, TrackedKubeClient.event] at member
  rcases List.mem_append.mp member with always | tagged
  · simp only [List.mem_cons, List.not_mem_nil, or_false] at always
    rcases always with rfl | rfl | rfl | rfl | rfl | rfl
    all_goals first | trivial | exact others _
  · cases tag : call.client.workloadId with
    | none => simp [tag] at tagged
    | some workloadId =>
        simp only [tag] at tagged
        split_ifs at tagged with empty
        · simp at tagged
        · rw [List.mem_singleton.mp tagged]
          trivial

theorem textual_of_prints (prints : call.Prints record) :
    ∀ field ∈ record, field.2.Textual := by
  rcases prints_iff.mp prints with rfl | ⟨reason, rfl⟩
  · exact textual_event
  · intro field member
    rcases List.mem_append.mp member with announced | denied
    · exact textual_event field announced
    · simp only [List.mem_cons, List.not_mem_nil, or_false] at denied
      rcases denied with rfl | rfl
      · trivial
      · cases reason <;> trivial

theorem unbroken_recordText (prints : call.Prints record) :
    Unbroken (TrackedKubeClient.recordText record) := by
  have textual : ∀ field ∈ record.sorted, field.2.Textual := by
    intro field member
    rw [Document.sorted, mem_sortBy, Json.sortFields_eq_map] at member
    obtain ⟨source, sourceMember, rfl⟩ := List.mem_map.mp member
    exact textual_sortKeys (textual_of_prints prints source sourceMember)
  have breaks : ∀ character ∈ lineBreaks, ¬ Printable [character] := by
    simp [lineBreaks, Printable]
  intro character member broken
  have shown := Json.printable_dumps_mapping textual character member
  exact breaks character broken (by simpa [Printable] using shown)

end Printing

end TrackedCall

theorem TrackedKubeClient.recordText_eq_cons (record : Document) :
    ∃ rest, recordText record = '\x7b' :: rest :=
  ⟨_, rfl⟩

end Kuber.Runtime

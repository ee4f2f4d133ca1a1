import Kuber.Runtime.Collection
import Kuber.Runtime.ReferenceWorkload

/-!
# The logs of answered requests

What is collected from the log of the reference workload: the denied calls,
one for each request that was answered with the status of a denial, and as
usage everything that the API was asked for.
-/

namespace Kuber.Runtime

open Kuber.Library Kuber.Rules

variable {σ lease : Type}

/-- The event of a record, or of a record that is marked as denied. -/
def recordEvent? (deniedOnly : Bool) (record : Document) : Option KubeEvent :=
  if deniedOnly = true ∧ flagged (record.field "kuber_denied") = false then
    none
  else (eventOfDict? record).map CollectedEvent.kubeEvent

theorem event?_eq_recordEvent? {reader : TextReader} {line : LoggedLine}
    (wellFormed : line.WellFormed reader) (deniedOnly : Bool) :
    line.event? deniedOnly = line.printed?.bind (recordEvent? deniedOnly) := by
  cases line with
  | other text => rfl
  | record before call printed =>
      have read := eventOfDict?_of_describes
        (TrackedCall.describes_of_prints wellFormed.2)
      simp only [LoggedLine.event?, LoggedLine.printed?, Option.bind_some,
        recordEvent?, read, Option.map_some,
        CollectedEvent.kubeEvent_ofKubeEvent]

namespace MadeCall

/-- The event of a call that was denied. -/
def denial? (made : MadeCall) : Option KubeEvent :=
  made.denied.map fun _ => made.call.kubeEvent

theorem read_denial (call : TrackedCall) (reason : Option String) :
    eventOfDict? (TrackedKubeClient.denial call.event reason) =
      some (.ofKubeEvent call.kubeEvent) :=
  eventOfDict?_of_describes
    (TrackedCall.describes_of_prints (call.prints_denial reason))

/-- An announcement does not look like a denial. -/
theorem announced (call : TrackedCall) :
    flagged (call.event.field "kuber_denied") = false := by
  rw [TrackedCall.event, TrackedKubeClient.event]
  cases call.client.workloadId with
  | none => rfl
  | some workloadId =>
      by_cases absent : workloadId = ""
      · simp [Document.field, List.lookup_cons, absent, flagged]
      · simp [Document.field, List.lookup_cons, absent, flagged]

theorem flagged_denial (call : TrackedCall) (reason : Option String) :
    flagged (Document.field (TrackedKubeClient.denial call.event reason)
      "kuber_denied") = true := by
  rw [TrackedKubeClient.denial, TrackedCall.event, TrackedKubeClient.event]
  cases call.client.workloadId with
  | none => rfl
  | some workloadId =>
      by_cases absent : workloadId = ""
      · simp [Document.field, List.lookup_cons, absent, flagged]
      · simp [Document.field, List.lookup_cons, absent, flagged]

theorem filterMap_records (made : MadeCall) :
    made.records.filterMap (recordEvent? true) = made.denial?.toList := by
  obtain ⟨call, denied⟩ := made
  cases denied with
  | none => simp [records, recordEvent?, denial?, announced]
  | some reason =>
      simp [records, recordEvent?, denial?, announced, flagged_denial,
        read_denial]

theorem filterMap_flatMap_records (calls : List MadeCall) :
    (calls.flatMap records).filterMap (recordEvent? true) =
      calls.filterMap denial? := by
  induction calls with
  | nil => rfl
  | cons made calls induction =>
      rw [List.flatMap_cons, List.filterMap_append, induction,
        filterMap_records, List.filterMap_cons]
      cases made.denial? <;> rfl

end MadeCall

/-- The call that stopped a request. -/
def stoppedBy? (calls : List MadeCall) : Option TrackedCall :=
  calls.getLast?.bind fun made => made.denied.map fun _ => made.call

section Stopping

variable {stopped : Prop} {calls : List MadeCall}

theorem Undenied.stoppedBy? (undenied : Undenied calls) :
    stoppedBy? calls = none := by
  rw [Kuber.Runtime.stoppedBy?, Option.bind_eq_none_iff]
  intro made last
  rw [undenied made (List.mem_of_getLast? last), Option.map_none]

/-- The only denial of a request is that of its last call. -/
theorem Closed.filterMap_denial? (closed : Closed stopped calls) :
    calls.filterMap MadeCall.denial? =
      ((stoppedBy? calls).map TrackedCall.kubeEvent).toList := by
  have silent : ∀ {calls : List MadeCall}, Undenied calls →
      calls.filterMap MadeCall.denial? = [] := by
    intro calls undenied
    rw [List.filterMap_eq_nil_iff]
    intro made member
    rw [MadeCall.denial?, undenied made member, Option.map_none]
  by_cases isStopped : stopped
  · obtain ⟨earlier, call, reason, rfl, undenied⟩ := closed.denied isStopped
    rw [List.filterMap_append, silent undenied]
    simp [stoppedBy?, MadeCall.denial?]
  · have undenied := closed.undenied isStopped
    rw [silent undenied, undenied.stoppedBy?]
    rfl

end Stopping

namespace ReferenceWorkload

variable {client : TrackedKubeClient} {served : List AnsweredRequest}
  {calls : List (List MadeCall)}

end ReferenceWorkload

/-- A JSON module, as far as these records go. -/
def recordReader (records : List Document) : TextReader where
  loads text :=
    (records.find? fun record =>
      decide (text.toList = TrackedKubeClient.recordText record)).map .mapping
  decimal _ := none

theorem inverts_recordReader {records : List Document}
    (distinct : (records.map TrackedKubeClient.recordText).Nodup)
    {record : Document} (member : record ∈ records) :
    (recordReader records).Inverts record := by
  refine ⟨.mapping record, ?_, .refl _⟩
  simp only [recordReader, String.toList_ofList, Option.map_eq_some_iff]
  refine ⟨record, ?_, rfl⟩
  induction records with
  | nil => cases member
  | cons first records induction =>
      rw [List.map_cons, List.nodup_cons] at distinct
      rcases List.mem_cons.mp member with rfl | later
      · simp
      · rw [List.find?_cons_of_neg]
        · exact induction distinct.2 later
        · intro same
          rw [decide_eq_true_iff] at same
          exact distinct.1 (same ▸ List.mem_map_of_mem later)

theorem recordReader_empty (records : List Document) :
    (recordReader records).loads "" = none := by
  have other : ∀ record ∈ records, ¬ decide ("".toList =
      TrackedKubeClient.recordText record) = true := by
    intro record _ same
    obtain ⟨rest, shape⟩ := TrackedKubeClient.recordText_eq_cons record
    rw [decide_eq_true_iff, shape] at same
    cases same
  simp only [recordReader, List.find?_eq_none.mpr other, Option.map_none]

namespace ReferenceWorkload

end ReferenceWorkload

end Kuber.Runtime

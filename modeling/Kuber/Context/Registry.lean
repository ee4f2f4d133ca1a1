import Kuber.Context.Models
import Mathlib.Data.List.Find

/-!
# The service registry

A table of services with one row for every service identifier; the namespace
is a column.  The registry lists the services of a namespace, but a service
put under another namespace takes the row of the one with its identifier.
-/

namespace Kuber.Context

open Kuber.Library Kuber.Rules Kuber.Event

/-- A row of `services`.  The record is the dictionary that the stored text
holds, whose keys were sorted when it was written. -/
structure ServiceRow where
  serviceId : String
  «namespace» : String
  record : Document

/-- The table; `service_id` is its primary key. -/
structure SQLiteServiceRegistry where
  rows : List ServiceRow
  keyed : (rows.map ServiceRow.serviceId).Nodup

def ServiceContext.row (service : ServiceContext) : ServiceRow where
  serviceId := service.serviceId
  «namespace» := service.namespace
  record := service.toDict.sorted

namespace SQLiteServiceRegistry

def empty : SQLiteServiceRegistry := ⟨[], List.nodup_nil⟩

/-- The rows that stay when an identifier is replaced. -/
def others (registry : SQLiteServiceRegistry) (serviceId : String) :
    List ServiceRow :=
  registry.rows.filter fun row => decide (row.serviceId ≠ serviceId)

/-- `put`: insert or replace. -/
def put (registry : SQLiteServiceRegistry) (service : ServiceContext) :
    SQLiteServiceRegistry where
  rows := registry.others service.serviceId ++ [service.row]
  keyed := by
    have kept := registry.keyed.sublist
      (List.Sublist.map ServiceRow.serviceId
        (List.filter_sublist (l := registry.rows)
          (p := fun row => decide (row.serviceId ≠ service.serviceId))))
    rw [List.map_append, List.nodup_append]
    refine ⟨kept, by simp, ?_⟩
    intro serviceId member other single
    obtain ⟨row, stays, rfl⟩ := List.mem_map.mp member
    rw [List.map_singleton, List.mem_singleton] at single
    rw [single]
    exact of_decide_eq_true (List.mem_filter.mp stays).2

def get (registry : SQLiteServiceRegistry) (serviceId : String) :
    Except PyException (Option ServiceContext) :=
  match registry.rows.find? fun row => decide (row.serviceId = serviceId) with
  | none => .ok none
  | some row => (ServiceContext.fromDict row.record).map some

/-- The rows a listing selects. -/
def selected (registry : SQLiteServiceRegistry) :
    Option String → List ServiceRow
  | none => registry.rows
  | some scope =>
      registry.rows.filter fun row => decide (row.namespace = scope)

/-- `list`: the selected records by `service_id`. -/
def list (registry : SQLiteServiceRegistry) (scope : Option String) :
    Except PyException (List ServiceContext) :=
  (sortBy ServiceRow.serviceId (registry.selected scope)).mapM
    fun row => ServiceContext.fromDict row.record

/-- The registry after a sequence of calls of `put`. -/
def putAll (services : List ServiceContext) : SQLiteServiceRegistry :=
  services.foldl put empty

end SQLiteServiceRegistry

/-! ### Reading a record back -/

namespace ServiceContext

/-- An empty text is read back as absent. -/
def absentIfEmpty (text : Option String) : Option String :=
  text.filter fun value => decide (value ≠ "")

/-- The service as its record is read back. -/
def readBack (service : ServiceContext) : ServiceContext :=
  { service with
    sourceRepository :=
      { service.sourceRepository with
        remoteUrl := absentIfEmpty service.sourceRepository.remoteUrl
        commitSha := absentIfEmpty service.sourceRepository.commitSha }
    labels := .ofList (sortBy Prod.fst service.labels.entries)
    lastIndexedCommit := absentIfEmpty service.lastIndexedCommit
    ownRepository := service.ownRepository }

/-- Equality of services; labels are a dictionary. -/
def Same (left right : ServiceContext) : Prop :=
  { left with labels := .empty } = { right with labels := .empty } ∧
    ∀ name, left.labels.get? name = right.labels.get? name

theorem Same.serviceId {left right : ServiceContext}
    (same : left.Same right) : left.serviceId = right.serviceId := by
  have fields := congrArg ServiceContext.serviceId same.1
  exact fields

/-- No optional text is present and empty. -/
def NoEmptyTexts (service : ServiceContext) : Prop :=
  service.sourceRepository.remoteUrl ≠ some "" ∧
    service.sourceRepository.commitSha ≠ some "" ∧
    service.lastIndexedCommit ≠ some ""

theorem textIfTruthy_ofOptionText (text : Option String) :
    textIfTruthy (Json.ofOptionText text) = absentIfEmpty text := by
  cases text with
  | none => rfl
  | some value =>
      by_cases empty : value = ""
      · simp [textIfTruthy, Json.ofOptionText, Json.truthy, absentIfEmpty,
          Option.filter, empty]
      · simp [textIfTruthy, Json.ofOptionText, Json.truthy, absentIfEmpty,
          Option.filter, Json.str, empty]

theorem sortKeys_textList (texts : List String) :
    (textList texts).sortKeys = textList texts := by
  rw [textList, Json.sortKeys, Json.sortItems_eq_map, List.map_map]
  rfl

theorem sortKeys_ofOptionText (text : Option String) :
    (Json.ofOptionText text).sortKeys = Json.ofOptionText text := by
  cases text with
  | none => rfl
  | some value => rfl

theorem requiredField_sorted (document : Document) (name : String) :
    requiredField document.sorted name =
      (requiredField document name).map Json.sortKeys := by
  rw [requiredField, requiredField, Document.lookup_sorted]
  cases List.lookup name document with
  | none => rfl
  | some value => rfl

theorem labelsOf_sorted (labels : OrderedDict String String) :
    labelsOf (Json.mapping (labels.entries.map fun (name, label) =>
      (name, .string label))).sortKeys =
        .ok (.ofList (sortBy Prod.fst labels.entries)) := by
  have sortedFields : Json.sortFields (labels.entries.map
      fun (name, label) => (name, Json.string label)) =
        labels.entries.map fun (name, label) => (name, .string label) := by
    rw [Json.sortFields_eq_map, List.map_map]
    rfl
  rw [Json.sortKeys, sortedFields, sortBy_map, labelsOf, List.map_map]
  exact congrArg (fun entries => Except.ok (OrderedDict.ofList entries))
    (List.map_id _)

end ServiceContext

theorem RepositorySource.fromDict_record (source : RepositorySource) :
    RepositorySource.fromDict source.toDict.sorted = .ok
      { source with
        remoteUrl := ServiceContext.absentIfEmpty source.remoteUrl
        commitSha := ServiceContext.absentIfEmpty source.commitSha } := by
  have serviceId : requiredField source.toDict "service_id" =
      .ok (.string source.serviceId) := rfl
  have localPath : requiredField source.toDict "local_path" =
      .ok (.string source.localPath) := rfl
  have remoteUrl : source.toDict.field "remote_url" =
      .ofOptionText source.remoteUrl := rfl
  have commitSha : source.toDict.field "commit_sha" =
      .ofOptionText source.commitSha := rfl
  simp only [RepositorySource.fromDict, ServiceContext.requiredField_sorted,
    Document.field_sorted, serviceId, localPath, remoteUrl, commitSha,
    ServiceContext.sortKeys_ofOptionText,
    ServiceContext.textIfTruthy_ofOptionText]
  rfl

theorem ServiceContext.fromDict_record (service : ServiceContext) :
    fromDict service.row.record = .ok service.readBack := by
  have source : RepositorySource.fromDict (sortBy Prod.fst
      (Json.sortFields service.sourceRepository.toDict)) = _ :=
    RepositorySource.fromDict_record service.sourceRepository
  have texts : ∀ name field,
      service.toDict.fieldD name (.list []) = textList field →
        textsOf (service.toDict.sorted.fieldD name (.list [])) = .ok field := by
    intro name field found
    have sortedField := service.toDict.fieldD_sorted name (.list [])
    rw [found, sortKeys_textList] at sortedField
    exact sortedField ▸ textsOf_textList field
  have labels : labelsOf (service.toDict.sorted.fieldD "labels" (.mapping [])) =
      .ok (.ofList (sortBy Prod.fst service.labels.entries)) := by
    have sortedField := service.toDict.fieldD_sorted "labels" (.mapping [])
    exact sortedField ▸ labelsOf_sorted service.labels
  have commit : textIfTruthy
      (service.toDict.sorted.field "last_indexed_commit") =
        absentIfEmpty service.lastIndexedCommit := by
    rw [Document.field_sorted]
    have found : service.toDict.field "last_indexed_commit" =
      .ofOptionText service.lastIndexedCommit := rfl
    rw [found, sortKeys_ofOptionText, textIfTruthy_ofOptionText]
  have required : ∀ name value, requiredField service.toDict name = .ok value →
      requiredField service.toDict.sorted name = .ok value.sortKeys := by
    intro name value found
    rw [requiredField_sorted, found]
    rfl
  unfold fromDict row
  simp only [required "source_repository" _ rfl, required "service_id" _ rfl,
    required "namespace" _ rfl, required "workload_kind" _ rfl,
    required "deployment_name" _ rfl, required "service_account" _ rfl,
    required "verification_profile" _ rfl, texts "important_paths" _ rfl,
    texts "container_images" _ rfl, texts "kubernetes_usage" _ rfl,
    texts "dependencies" _ rfl, labels, commit]
  simp only [Json.sortKeys, bind, Except.bind, source]
  exact dif_pos service.ownRepository

theorem ServiceContext.get?_readBack_labels (service : ServiceContext)
    (name : String) :
    service.readBack.labels.get? name = service.labels.get? name := by
  have permuted := sortBy_perm Prod.fst service.labels.entries
  have distinct : ((sortBy Prod.fst service.labels.entries).map
      Prod.fst).Nodup :=
    (permuted.map Prod.fst).nodup_iff.mpr service.labels.keysNodup
  have entries : service.readBack.labels.entries =
      sortBy Prod.fst service.labels.entries :=
    OrderedDict.entries_ofList distinct
  apply Option.ext
  intro label
  rw [OrderedDict.get?_eq_some_iff, OrderedDict.get?_eq_some_iff, entries]
  exact permuted.mem_iff

/-- A service is read back unchanged when it has no empty optional text. -/
theorem ServiceContext.readBack_same_iff {service : ServiceContext} :
    service.readBack.Same service ↔ service.NoEmptyTexts := by
  have kept : ∀ text : Option String,
      absentIfEmpty text = text ↔ text ≠ some "" := by
    intro text
    cases text with
    | none => simp [absentIfEmpty]
    | some value =>
        by_cases empty : value = ""
        · simp [absentIfEmpty, Option.filter, empty]
        · simp [absentIfEmpty, Option.filter, empty]
  rw [NoEmptyTexts, ← kept, ← kept, ← kept]
  constructor
  · intro ⟨fields, _⟩
    simp only [readBack, ServiceContext.mk.injEq, true_and] at fields
    obtain ⟨source, indexed⟩ := fields
    exact ⟨congrArg RepositorySource.remoteUrl source,
      congrArg RepositorySource.commitSha source, indexed⟩
  · intro ⟨remote, sha, indexed⟩
    refine ⟨?_, service.get?_readBack_labels⟩
    simp only [readBack, remote, sha, indexed]

/-! ### What the registry lists -/

namespace SQLiteServiceRegistry

theorem putAll_append (services : List ServiceContext)
    (service : ServiceContext) :
    putAll (services ++ [service]) = (putAll services).put service := by
  rw [putAll, putAll, List.foldl_append]
  rfl

theorem mem_rows_putAll {services : List ServiceContext} {row : ServiceRow} :
    row ∈ (putAll services).rows ↔
      ∃ service ∈ uniqueBy ServiceContext.serviceId services,
        service.row = row := by
  induction services using List.reverseRecOn with
  | nil => simp [putAll, empty, mem_uniqueBy_iff]
  | append_singleton services service induction =>
      have single : uniqueBy ServiceContext.serviceId [service] = [service] :=
        uniqueBy_eq_self (by simp)
      simp only [putAll_append, put, others, List.mem_append, List.mem_filter,
        induction, mem_uniqueBy_append, single, List.mem_singleton,
        decide_eq_true_eq, List.map_singleton]
      constructor
      · intro member
        cases member with
        | inl stays =>
            obtain ⟨⟨other, last, rfl⟩, different⟩ := stays
            exact ⟨other, Or.inr ⟨last, different⟩, rfl⟩
        | inr new => exact ⟨service, Or.inl rfl, new.symm⟩
      · intro ⟨other, kept, written⟩
        subst written
        cases kept with
        | inl same => exact Or.inr (same ▸ rfl)
        | inr earlier => exact Or.inl ⟨⟨other, earlier.1, rfl⟩, earlier.2⟩

theorem rows_putAll_perm (services : List ServiceContext) :
    (putAll services).rows.Perm
      ((uniqueBy ServiceContext.serviceId services).map
        ServiceContext.row) := by
  have distinct : (((uniqueBy ServiceContext.serviceId services).map
      ServiceContext.row).map ServiceRow.serviceId).Nodup := by
    rw [List.map_map]
    exact uniqueBy_keysNodup ServiceContext.serviceId services
  apply (List.perm_ext_iff_of_nodup (putAll services).keyed.of_map
    distinct.of_map).mpr
  intro row
  rw [mem_rows_putAll, List.mem_map]

/-- The services whose records are listed for a namespace. -/
def held (services : List ServiceContext) (scope : String) :
    List ServiceContext :=
  (uniqueBy ServiceContext.serviceId services).filter
    fun service => decide (service.namespace = scope)

/-- A listing never fails: it is made of the last services put under their
identifiers, as far as they are in the namespace. -/
theorem list_putAll (services : List ServiceContext) (scope : String) :
    (putAll services).list (some scope) =
      .ok ((sortBy ServiceContext.serviceId (held services scope)).map
        ServiceContext.readBack) := by
  have permuted : ((putAll services).selected (some scope)).Perm
      ((held services scope).map ServiceContext.row) := by
    have filtered := (rows_putAll_perm services).filter
      fun row => decide (row.namespace = scope)
    rw [List.filter_map] at filtered
    exact filtered
  have distinct : (((putAll services).selected (some scope)).map
      ServiceRow.serviceId).Nodup :=
    (putAll services).keyed.sublist
      (List.Sublist.map ServiceRow.serviceId List.filter_sublist)
  rw [list, sortBy_eq_of_perm permuted distinct, sortBy_map, mapM_eq_ok_iff,
    List.forall₂_map_left_iff, List.forall₂_map_right_iff]
  exact List.forall₂_same.mpr fun service _ => service.fromDict_record

/-- What the namespace should list: the last service put in it under every
identifier, by identifier. -/
def lastPut (services : List ServiceContext) (scope : String) :
    List ServiceContext :=
  sortBy ServiceContext.serviceId (uniqueBy ServiceContext.serviceId
    (services.filter fun service => decide (service.namespace = scope)))

/-- Every namespace lists what was put in it. -/
def Partitioned (services : List ServiceContext) : Prop :=
  ∀ scope, ∃ listed, (putAll services).list (some scope) = .ok listed ∧
    List.Forall₂ ServiceContext.Same listed (lastPut services scope)

/-- No identifier is put under two namespaces. -/
def OneNamespace (services : List ServiceContext) : Prop :=
  ∀ left ∈ services, ∀ right ∈ services,
    left.serviceId = right.serviceId → left.namespace = right.namespace

theorem sortBy_held_eq_lastPut {services : List ServiceContext}
    (one : OneNamespace services) (scope : String) :
    sortBy ServiceContext.serviceId (held services scope) =
      lastPut services scope := by
  have distinct : ((held services scope).map
      ServiceContext.serviceId).Nodup :=
    (uniqueBy_keysNodup ServiceContext.serviceId services).sublist
      (List.Sublist.map ServiceContext.serviceId List.filter_sublist)
  apply sortBy_eq_of_perm _ distinct
  apply (List.perm_ext_iff_of_nodup distinct.of_map
    (uniqueBy_keysNodup ServiceContext.serviceId _).of_map).mpr
  intro service
  have sameSearch : service ∈ services → service.namespace = scope →
      services.reverse.find? (fun other =>
          decide (other.namespace = scope) &&
            decide (other.serviceId = service.serviceId)) =
        services.reverse.find? (fun other =>
          decide (other.serviceId = service.serviceId)) := by
    intro present inside
    apply List.find?_congr
    intro other member
    have agree := one other (List.mem_reverse.mp member) service present
    by_cases same : other.serviceId = service.serviceId
    · simp [same, agree same, inside]
    · simp [same]
  rw [held, List.mem_filter, mem_uniqueBy_iff, mem_uniqueBy_iff,
    ← List.filter_reverse, List.find?_filter, decide_eq_true_eq]
  simp only [Bool.decide_and, Bool.decide_eq_true]
  constructor
  · intro ⟨found, inside⟩
    have present := List.mem_reverse.mp (List.mem_of_find?_eq_some found)
    exact (sameSearch present inside).trans found
  · intro found
    have present := List.mem_reverse.mp (List.mem_of_find?_eq_some found)
    have inside : service.namespace = scope := by
      have both := List.find?_some found
      simp only [Bool.and_eq_true, decide_eq_true_eq] at both
      exact both.1
    exact ⟨(sameSearch present inside).symm.trans found, inside⟩

/-- Services put elsewhere leave the listing of a namespace alone, as long as
no identifier is used twice. -/
theorem list_putAll_append {services more : List ServiceContext}
    {scope : String} (one : OneNamespace (services ++ more))
    (elsewhere : ∀ service ∈ more, service.namespace ≠ scope) :
    (putAll (services ++ more)).list (some scope) =
      (putAll services).list (some scope) := by
  have oneBefore : OneNamespace services := by
    intro left leftMember right rightMember
    exact one left (List.mem_append_left _ leftMember) right
      (List.mem_append_left _ rightMember)
  have absent : more.filter
      (fun service => decide (service.namespace = scope)) = [] :=
    List.filter_eq_nil_iff.mpr (by simpa using elsewhere)
  rw [list_putAll, list_putAll, sortBy_held_eq_lastPut one,
    sortBy_held_eq_lastPut oneBefore, lastPut, lastPut, List.filter_append,
    absent, List.append_nil]

theorem exists_held_of_partitioned {services : List ServiceContext}
    (partitioned : Partitioned services) {service : ServiceContext}
    (member : service ∈ services) :
    ∃ last ∈ uniqueBy ServiceContext.serviceId services,
      last.serviceId = service.serviceId ∧
        last.namespace = service.namespace := by
  obtain ⟨listed, returned, same⟩ := partitioned service.namespace
  rw [list_putAll] at returned
  cases returned
  have kept : service.serviceId ∈
      (lastPut services service.namespace).map ServiceContext.serviceId := by
    rw [lastPut, ((sortBy_perm ServiceContext.serviceId _).map _).mem_iff,
      mem_map_uniqueBy_iff]
    exact List.mem_map_of_mem (List.mem_filter.mpr ⟨member, by simp⟩)
  obtain ⟨wanted, wantedMember, sameId⟩ := List.mem_map.mp kept
  obtain ⟨_, found, equal⟩ := forall₂_mem_right same wantedMember
  obtain ⟨last, lastMember, rfl⟩ := List.mem_map.mp found
  obtain ⟨unique, inside⟩ := List.mem_filter.mp (mem_sortBy.mp lastMember)
  have lastId : last.serviceId = wanted.serviceId := equal.serviceId
  exact ⟨last, unique, lastId.trans sameId, of_decide_eq_true inside⟩

theorem oneNamespace_of_partitioned {services : List ServiceContext}
    (partitioned : Partitioned services) : OneNamespace services := by
  intro left leftMember right rightMember sameId
  obtain ⟨leftLast, leftUnique, leftId, leftScope⟩ :=
    exists_held_of_partitioned partitioned leftMember
  obtain ⟨rightLast, rightUnique, rightId, rightScope⟩ :=
    exists_held_of_partitioned partitioned rightMember
  have same : leftLast = rightLast :=
    List.inj_on_of_nodup_map
      (uniqueBy_keysNodup ServiceContext.serviceId services) leftUnique
      rightUnique (leftId.trans (sameId.trans rightId.symm))
  rw [← leftScope, ← rightScope, same]

/-- Every namespace lists what was put in it exactly when no identifier is
put under two namespaces, and the services put last have no empty optional
text. -/
theorem partitioned_iff (services : List ServiceContext) :
    Partitioned services ↔
      OneNamespace services ∧
        ∀ service ∈ uniqueBy ServiceContext.serviceId services,
          service.NoEmptyTexts := by
  have listings : OneNamespace services → ∀ scope,
      ((∃ listed, (putAll services).list (some scope) = .ok listed ∧
          List.Forall₂ ServiceContext.Same listed (lastPut services scope)) ↔
        ∀ service ∈ held services scope, service.NoEmptyTexts) := by
    intro one scope
    rw [list_putAll, sortBy_held_eq_lastPut one, ← sortBy_held_eq_lastPut one]
    simp only [Except.ok.injEq, exists_eq_left', List.forall₂_map_left_iff,
      List.forall₂_same, mem_sortBy, ServiceContext.readBack_same_iff]
  constructor
  · intro partitioned
    have one := oneNamespace_of_partitioned partitioned
    refine ⟨one, ?_⟩
    intro service unique
    apply (listings one service.namespace).mp (partitioned _) service
    exact List.mem_filter.mpr ⟨unique, by simp⟩
  · rintro ⟨one, texts⟩ scope
    apply (listings one scope).mpr
    intro service inside
    exact texts service (List.mem_filter.mp inside).1

/-- A web shop's service, as it is discovered in a namespace. -/
def webService (scope : String) : ServiceContext where
  serviceId := "web"
  «namespace» := scope
  workloadKind := "Deployment"
  deploymentName := "web"
  serviceAccount := "web"
  sourceRepository := ⟨"web", "/srv/web", none, none⟩
  importantPaths := ["."]
  verificationProfile := "web"
  ownRepository := @rfl String "web"

/-- The service of the second namespace takes the row of the first. -/
theorem registry_not_partitioned :
    ¬ ∀ services : List ServiceContext, Partitioned services := by
  intro partitioned
  have one := oneNamespace_of_partitioned
    (partitioned [webService "shop", webService "bank"])
  have same := one (webService "shop") (by simp) (webService "bank") (by simp)
    rfl
  exact absurd same (by decide)

end SQLiteServiceRegistry

end Kuber.Context

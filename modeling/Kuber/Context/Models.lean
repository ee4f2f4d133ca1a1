import Kuber.Event.Wire
import Kuber.Library.OrderedDict
import Kuber.Rules.SortedKeys

/-!
# Services and their indexed contexts

The record of a discovered service, and the compact context that indexing it
gives.  Both are stored as the dictionaries of their fields.
-/

namespace Kuber.Context

open Kuber.Library Kuber.Rules Kuber.Event

structure RepositorySource where
  serviceId : String
  localPath : String
  remoteUrl : Option String := none
  commitSha : Option String := none
deriving DecidableEq

/-- A discovered service; its repository is its own. -/
structure ServiceContext where
  serviceId : String
  «namespace» : String
  workloadKind : String
  deploymentName : String
  serviceAccount : String
  sourceRepository : RepositorySource
  importantPaths : List String
  verificationProfile : String
  labels : OrderedDict String String := .empty
  containerImages : List String := []
  kubernetesUsage : List String := []
  dependencies : List String := []
  lastIndexedCommit : Option String := none
  ownRepository : sourceRepository.serviceId = serviceId

structure IndexedServiceContext where
  contextRef : String
  serviceId : String
  contentHash : String
  files : List String
  bytesLoaded : Int
  languages : List String
  kubernetesUsage : List String
  dependencies : List String
  entryPoints : List String
deriving DecidableEq, Repr

/-- `value[name]`. -/
def requiredField (value : Document) (name : String) :
    Except PyException Json :=
  match value.lookup name with
  | some found => .ok found
  | none => .error (.keyError name)

/-- `tuple(map(str, value))`. -/
def textsOf : Json → Except PyException (List String)
  | .list items => .ok (items.map Json.str)
  | .string value => .ok (value.toList.map Char.toString)
  | .mapping fields => .ok (fields.map Prod.fst)
  | .null => .error (typeError "'NoneType' object is not iterable")
  | .bool _ => .error (typeError "'bool' object is not iterable")
  | .int _ => .error (typeError "'int' object is not iterable")
  | .float _ => .error (typeError "'float' object is not iterable")

def textList (texts : List String) : Json := .list (texts.map .string)

theorem textsOf_textList (texts : List String) :
    textsOf (textList texts) = .ok texts := by
  rw [textList, textsOf, List.map_map]
  exact congrArg Except.ok (List.map_id texts)

/-- `str(value) if value else None`. -/
def textIfTruthy (value : Json) : Option String :=
  if value.truthy = true then some value.str else none

namespace RepositorySource

def toDict (source : RepositorySource) : Document :=
  [("service_id", .string source.serviceId),
    ("local_path", .string source.localPath),
    ("remote_url", .ofOptionText source.remoteUrl),
    ("commit_sha", .ofOptionText source.commitSha)]

def fromDict (value : Document) : Except PyException RepositorySource := do
  let serviceId ← requiredField value "service_id"
  let localPath ← requiredField value "local_path"
  return ⟨serviceId.str, localPath.str,
    textIfTruthy (value.field "remote_url"),
    textIfTruthy (value.field "commit_sha")⟩

end RepositorySource

namespace ServiceContext

def toDict (service : ServiceContext) : Document :=
  [("service_id", .string service.serviceId),
    ("namespace", .string service.namespace),
    ("workload_kind", .string service.workloadKind),
    ("deployment_name", .string service.deploymentName),
    ("service_account", .string service.serviceAccount),
    ("source_repository", .mapping service.sourceRepository.toDict),
    ("important_paths", textList service.importantPaths),
    ("verification_profile", .string service.verificationProfile),
    ("labels", .mapping (service.labels.entries.map fun (name, label) =>
      (name, .string label))),
    ("container_images", textList service.containerImages),
    ("kubernetes_usage", textList service.kubernetesUsage),
    ("dependencies", textList service.dependencies),
    ("last_indexed_commit", .ofOptionText service.lastIndexedCommit)]

/-- An element of a list given to `dict`. -/
def labelPair (element : Json × Nat) : Except PyException (String × String) :=
  let badLength (length : Nat) : Except PyException (String × String) :=
    .error (.valueError ("dictionary update sequence element #" ++
      toString element.2 ++ " has length " ++ toString length ++
      "; 2 is required"))
  match element.1 with
  | .list [.list _, _] => .error (typeError "unhashable type: 'list'")
  | .list [.mapping _, _] => .error (typeError "unhashable type: 'dict'")
  | .list [name, label] => .ok (name.str, label.str)
  | .list items => badLength items.length
  | .string text =>
      match text.toList with
      | [name, label] => .ok (name.toString, label.toString)
      | characters => badLength characters.length
  | .mapping [(name, _), (label, _)] => .ok (name, label)
  | .mapping fields => badLength fields.length
  | _ => .error (typeError ("cannot convert dictionary update sequence " ++
      "element #" ++ toString element.2 ++ " to a sequence"))

/-- `{str(key): str(item) for key, item in dict(value).items()}`. -/
def labelsOf : Json → Except PyException (OrderedDict String String)
  | .mapping fields => .ok (.ofList (fields.map fun (name, label) =>
      (name, label.str)))
  | .list items => do
      let pairs ← items.zipIdx.mapM labelPair
      return .ofList pairs
  | .string text => do
      let pairs ← (text.toList.map fun character =>
        Json.string character.toString).zipIdx.mapM labelPair
      return .ofList pairs
  | .null => .error (typeError "'NoneType' object is not iterable")
  | .bool _ => .error (typeError "'bool' object is not iterable")
  | .int _ => .error (typeError "'int' object is not iterable")
  | .float _ => .error (typeError "'float' object is not iterable")

def fromDict (value : Document) : Except PyException ServiceContext := do
  let repository ← requiredField value "source_repository"
  let .mapping repositoryFields := repository
    | .error (.valueError "source_repository must be an object")
  let serviceId ← requiredField value "service_id"
  let scope ← requiredField value "namespace"
  let workloadKind ← requiredField value "workload_kind"
  let deploymentName ← requiredField value "deployment_name"
  let serviceAccount ← requiredField value "service_account"
  let source ← RepositorySource.fromDict repositoryFields
  let importantPaths ← textsOf (value.fieldD "important_paths" (.list []))
  let verificationProfile ← requiredField value "verification_profile"
  let labels ← labelsOf (value.fieldD "labels" (.mapping []))
  let containerImages ← textsOf (value.fieldD "container_images" (.list []))
  let kubernetesUsage ← textsOf (value.fieldD "kubernetes_usage" (.list []))
  let dependencies ← textsOf (value.fieldD "dependencies" (.list []))
  if own : source.serviceId = serviceId.str then
    return {
      serviceId := serviceId.str
      «namespace» := scope.str
      workloadKind := workloadKind.str
      deploymentName := deploymentName.str
      serviceAccount := serviceAccount.str
      sourceRepository := source
      importantPaths := importantPaths
      verificationProfile := verificationProfile.str
      labels := labels
      containerImages := containerImages
      kubernetesUsage := kubernetesUsage
      dependencies := dependencies
      lastIndexedCommit := textIfTruthy (value.field "last_indexed_commit")
      ownRepository := own }
  else
    .error (.valueError "repository service_id must match service context")

end ServiceContext

namespace IndexedServiceContext

def toDict (context : IndexedServiceContext) : Document :=
  [("context_ref", .string context.contextRef),
    ("service_id", .string context.serviceId),
    ("content_hash", .string context.contentHash),
    ("files", textList context.files),
    ("bytes_loaded", .int context.bytesLoaded),
    ("languages", textList context.languages),
    ("kubernetes_usage", textList context.kubernetesUsage),
    ("dependencies", textList context.dependencies),
    ("entry_points", textList context.entryPoints)]

def fromDict (loader : Loader) (value : Document) :
    Except PyException IndexedServiceContext := do
  let contextRef ← requiredField value "context_ref"
  let serviceId ← requiredField value "service_id"
  let contentHash ← requiredField value "content_hash"
  let files ← textsOf (value.fieldD "files" (.list []))
  let bytesLoaded ← loader.int (value.fieldD "bytes_loaded" (.int 0))
  let languages ← textsOf (value.fieldD "languages" (.list []))
  let kubernetesUsage ← textsOf (value.fieldD "kubernetes_usage" (.list []))
  let dependencies ← textsOf (value.fieldD "dependencies" (.list []))
  let entryPoints ← textsOf (value.fieldD "entry_points" (.list []))
  return ⟨contextRef.str, serviceId.str, contentHash.str, files, bytesLoaded,
    languages, kubernetesUsage, dependencies, entryPoints⟩

theorem fromDict_toDict (loader : Loader) (context : IndexedServiceContext) :
    fromDict loader context.toDict = .ok context := by
  have reads : fromDict loader context.toDict = (do
      let files ← textsOf (textList context.files)
      let languages ← textsOf (textList context.languages)
      let kubernetesUsage ← textsOf (textList context.kubernetesUsage)
      let dependencies ← textsOf (textList context.dependencies)
      let entryPoints ← textsOf (textList context.entryPoints)
      return ⟨context.contextRef, context.serviceId, context.contentHash,
        files, context.bytesLoaded, languages, kubernetesUsage, dependencies,
        entryPoints⟩) := rfl
  rw [reads]
  simp only [textsOf_textList]
  rfl

end IndexedServiceContext

end Kuber.Context

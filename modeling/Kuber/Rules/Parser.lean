import Kuber.Rules.Canonicalizer
import Kuber.Rules.Document

/-!
# The RBAC parser

Every check is made in the order of the source, since the order decides which
error a document with several faults raises.  Looking up an unhashable value
in a set raises the language's own `TypeError`, not a parse error.
-/

namespace Kuber.Rules

structure ServiceAccountObject where
  name : String
  «namespace» : String
deriving DecidableEq, Repr

structure RoleObject where
  name : String
  «namespace» : Option String
  rules : List PolicyRule
  clusterRole : Bool := false
deriving DecidableEq, Repr

inductive RoleKind where
  | role
  | clusterRole
deriving DecidableEq, Repr

structure BindingObject where
  name : String
  «namespace» : Option String
  roleName : String
  roleKind : RoleKind
  subjects : List ServiceAccountRef
  clusterBinding : Bool := false
deriving DecidableEq, Repr

structure ParsedRbac where
  serviceAccounts : List ServiceAccountObject := []
  roles : List RoleObject := []
  bindings : List BindingObject := []
deriving DecidableEq, Repr

/-- The supported kinds of RBAC objects. -/
inductive ObjectKind where
  | serviceAccount
  | role
  | clusterRole
  | roleBinding
  | clusterRoleBinding
deriving DecidableEq, Repr

def ObjectKind.ofText? : String → Option ObjectKind
  | "ServiceAccount" => some .serviceAccount
  | "Role" => some .role
  | "ClusterRole" => some .clusterRole
  | "RoleBinding" => some .roleBinding
  | "ClusterRoleBinding" => some .clusterRoleBinding
  | _ => none

def RoleKind.ofText? : String → Option RoleKind
  | "Role" => some .role
  | "ClusterRole" => some .clusterRole
  | _ => none

/-- One accepted document. -/
inductive ParsedObject where
  | serviceAccount (object : ServiceAccountObject)
  | role (object : RoleObject)
  | binding (object : BindingObject)
deriving DecidableEq, Repr

def parseError {α : Type} (message : String) : Except PyException α :=
  .error ⟨.rbacParseError, message⟩

def unhashable {α : Type} (typeName : String) : Except PyException α :=
  .error ⟨.typeError, "unhashable type: '" ++ typeName ++ "'"⟩

/-- `_strings`. -/
def parseStrings (value : Json) (field : String) (allowEmptyString : Bool) :
    Except PyException (List String) :=
  match value with
  | .list (first :: rest) =>
      match (first :: rest).mapM Json.asText? with
      | none => parseError (field ++ " entries must be strings")
      | some texts =>
          if allowEmptyString = false ∧ "" ∈ texts then
            parseError (field ++ " entries must not be empty")
          else .ok texts
  | _ => parseError (field ++ " must be a non-empty list")

/-- `_metadata`. -/
def parseMetadata (document : Document) :
    Except PyException (String × Option String) :=
  match document.field "metadata" with
  | .mapping metadata =>
      match Document.field metadata "name" with
      | .string name =>
          if name = "" then
            parseError "every RBAC object requires metadata.name"
          else
            match Document.field metadata "namespace" with
            | .null => .ok (name, none)
            | .string scope => .ok (name, some scope)
            | _ => parseError "metadata.namespace must be a string"
      | _ => parseError "every RBAC object requires metadata.name"
  | _ => parseError "every RBAC object requires metadata.name"

def checkVerbs : List String → Except PyException Unit
  | [] => .ok ()
  | verb :: verbs =>
      if verb ≠ "*" ∧ verb ∉ supportedVerbs then
        parseError ("unsupported verb: " ++ verb)
      else checkVerbs verbs

def checkResources : List (String × String) → Except PyException Unit
  | [] => .ok ()
  | (group, resource) :: pairs =>
      if isSupportedResource group resource = false then
        .error ⟨.unsupportedResourceError, "unsupported resource: " ++
          orElse group "core" ++ "/" ++ resource⟩
      else checkResources pairs

def parseResourceNames (value : Json) : Except PyException (List String) :=
  match value with
  | .list items =>
      match items.mapM Json.asText? with
      | none => parseError "resourceNames entries must be non-empty strings"
      | some names =>
          if "" ∈ names then
            parseError "resourceNames entries must be non-empty strings"
          else .ok names
  | _ => parseError "resourceNames must be a list"

/-- One entry of `rules`. -/
def parseRule (raw : Json) : Except PyException PolicyRule :=
  match raw with
  | .mapping fields => do
      let apiGroups ← parseStrings
        (Document.fieldD fields "apiGroups" (.list [.string ""]))
        "apiGroups" true
      let resources ← parseStrings (Document.field fields "resources")
        "resources" false
      let verbs ← parseStrings (Document.field fields "verbs") "verbs" false
      let resourceNames ← parseResourceNames
        (Document.fieldD fields "resourceNames" (.list []))
      checkVerbs verbs
      checkResources
        (apiGroups.flatMap fun group => resources.map fun resource =>
          (group, resource))
      return ⟨apiGroups, resources, verbs, resourceNames⟩
  | _ => parseError "each rule must be a mapping"

/-- `_rules`. -/
def parseRules (value : Json) : Except PyException (List PolicyRule) :=
  match value with
  | .list items => items.mapM parseRule
  | _ => parseError "rules must be a list"

def invalidRoleRef {α : Type} : Except PyException α :=
  parseError "binding requires a valid roleRef"

def parseRoleRef (document : Document) :
    Except PyException (RoleKind × String) :=
  match document.field "roleRef" with
  | .mapping roleRef =>
      if (Document.field roleRef "apiGroup").isText
          "rbac.authorization.k8s.io" = false then invalidRoleRef
      else
        match Document.field roleRef "kind" with
        | .list _ => unhashable "list"
        | .mapping _ => unhashable "dict"
        | .string text =>
            match RoleKind.ofText? text, Document.field roleRef "name" with
            | some kind, .string name =>
                if name = "" then invalidRoleRef else .ok (kind, name)
            | _, _ => invalidRoleRef
        | _ => invalidRoleRef
  | _ => invalidRoleRef

/-- One entry of `subjects`; subjects that are no service account are skipped. -/
def parseSubject (bindingNamespace : Option String) (subject : Json) :
    Except PyException (Option ServiceAccountRef) :=
  match subject with
  | .mapping fields =>
      if (Document.field fields "kind").isText "ServiceAccount" = false then
        .ok none
      else
        let declared := Document.field fields "namespace"
        let subjectNamespace :=
          if declared.truthy then declared
          else Json.ofOptionText bindingNamespace
        match Document.field fields "name", subjectNamespace with
        | .string name, .string scope =>
            if name = "" ∨ scope = "" then
              parseError "ServiceAccount subjects require name and namespace"
            else .ok (some ⟨name, scope⟩)
        | _, _ =>
            parseError "ServiceAccount subjects require name and namespace"
  | _ => parseError "binding subjects must be mappings"

def parseSubjects (bindingNamespace : Option String) (value : Json) :
    Except PyException (List ServiceAccountRef) :=
  match value with
  | .list items => do
      let subjects ← items.mapM (parseSubject bindingNamespace)
      return subjects.filterMap id
  | _ => parseError "binding subjects must be a list"

/-- `not namespace`. -/
def missingText (text : Option String) : Bool := text.getD "" = ""

/-- A namespaced object needs its namespace. -/
def checkScope (kind : String) (scope : Option String) (cluster : Bool) :
    Except PyException Unit :=
  if cluster = false ∧ missingText scope = true then
    parseError (kind ++ " requires metadata.namespace")
  else .ok ()

def checkRoleKind (roleKind : RoleKind) (cluster : Bool) :
    Except PyException Unit :=
  if cluster = true ∧ roleKind ≠ .clusterRole then
    parseError "ClusterRoleBinding must reference a ClusterRole"
  else .ok ()

def parseRoleObject (document : Document) (name : String)
    (scope : Option String) (cluster : Bool) :
    Except PyException ParsedObject := do
  checkScope "Role" scope cluster
  let rules ← parseRules (Document.fieldD document "rules" (.list []))
  return .role ⟨name, if cluster then none else scope, rules, cluster⟩

def parseBindingObject (document : Document) (name : String)
    (scope : Option String) (cluster : Bool) :
    Except PyException ParsedObject := do
  checkScope "RoleBinding" scope cluster
  let (roleKind, roleName) ← parseRoleRef document
  checkRoleKind roleKind cluster
  let subjects ← parseSubjects scope
    (Document.fieldD document "subjects" (.list []))
  return .binding ⟨name, if cluster then none else scope, roleName, roleKind,
    subjects, cluster⟩

/-- The kind check at the head of the parser's loop. -/
def parseKind (document : Document) : Except PyException ObjectKind :=
  match document.field "kind" with
  | .list _ => unhashable "list"
  | .mapping _ => unhashable "dict"
  | .string text =>
      match ObjectKind.ofText? text with
      | some kind => .ok kind
      | none => parseError ("unsupported RBAC kind: " ++ text)
  | other => parseError ("unsupported RBAC kind: " ++ other.scalarText)

/-- The body of the parser's loop over the flattened documents. -/
def parseObject (document : Document) : Except PyException ParsedObject := do
  let kind ← parseKind document
  let (name, scope) ← parseMetadata document
  match kind with
  | .serviceAccount =>
      match scope with
      | some text =>
          if text = "" then
            parseError "ServiceAccount requires metadata.namespace"
          else return .serviceAccount ⟨name, text⟩
      | none => parseError "ServiceAccount requires metadata.namespace"
  | .role => parseRoleObject document name scope false
  | .clusterRole => parseRoleObject document name scope true
  | .roleBinding => parseBindingObject document name scope false
  | .clusterRoleBinding => parseBindingObject document name scope true

mutual

/-- One document of `_flatten_documents`: nothing for null, the items of a
`List`, itself otherwise. -/
def flattenDocument : Json → Except PyException (List Document)
  | .null => .ok []
  | .mapping fields =>
      if (Document.field fields "kind").isText "List" then flattenItems fields
      else .ok [fields]
  | _ => parseError "YAML documents must be mappings"

/-- The documents under `items`, the first field of that name. -/
def flattenItems : Document → Except PyException (List Document)
  | [] => parseError "List.items must be a list"
  | (name, value) :: rest =>
      if name = "items" then
        match value with
        | .list items => flattenDocuments items
        | _ => parseError "List.items must be a list"
      else flattenItems rest

/-- `_flatten_documents`. -/
def flattenDocuments : List Json → Except PyException (List Document)
  | [] => .ok []
  | document :: documents => do
      let first ← flattenDocument document
      let others ← flattenDocuments documents
      return first ++ others

end

namespace ParsedRbac

/-- Collect accepted objects by kind, in document order. -/
def ofObjects (objects : List ParsedObject) : ParsedRbac where
  serviceAccounts := objects.filterMap fun
    | .serviceAccount object => some object
    | _ => none
  roles := objects.filterMap fun
    | .role object => some object
    | _ => none
  bindings := objects.filterMap fun
    | .binding object => some object
    | _ => none

theorem mem_roles_ofObjects {objects : List ParsedObject}
    {role : RoleObject} :
    role ∈ (ofObjects objects).roles ↔ .role role ∈ objects := by
  simp only [ofObjects, List.mem_filterMap]
  constructor
  · rintro ⟨object, member, selected⟩
    cases object <;> simp_all
  · intro member
    exact ⟨.role role, member, rfl⟩

theorem mem_bindings_ofObjects {objects : List ParsedObject}
    {binding : BindingObject} :
    binding ∈ (ofObjects objects).bindings ↔ .binding binding ∈ objects := by
  simp only [ofObjects, List.mem_filterMap]
  constructor
  · rintro ⟨object, member, selected⟩
    cases object <;> simp_all
  · intro member
    exact ⟨.binding binding, member, rfl⟩

end ParsedRbac

/-- The objects of already loaded documents, in document order. -/
def parseObjects (documents : List Json) :
    Except PyException (List ParsedObject) := do
  let flattened ← flattenDocuments documents
  flattened.mapM parseObject

/-- Parse the supported RBAC subset from already loaded documents. -/
def parseRbac (documents : List Json) : Except PyException ParsedRbac := do
  let objects ← parseObjects documents
  return ParsedRbac.ofObjects objects

end Kuber.Rules

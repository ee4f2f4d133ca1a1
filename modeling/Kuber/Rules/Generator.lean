import Kuber.Rules.Parser

/-!
# The policy generator

A policy is written out as one role and one binding for every scope of its
permissions.  Verbs are grouped under equal group, resource and name, so that
the parser's cross product over a rule cannot add a permission.
-/

namespace Kuber.Rules

open Kuber.Library

abbrev RuleKey := String × String × Option String

/-- `_rule_key`. -/
def ruleKey (permission : Permission) : RuleKey :=
  (permission.apiGroup, permission.resource, permission.resourceName)

/-- The sort key of generated rules. -/
def ruleSortKey (key : RuleKey) : List String :=
  [key.1, key.2.1, key.2.2.getD ""]

/-- The set of verbs of every rule key, in the order of the sorted items. -/
def groupedRules (permissions : List Permission) :
    List (RuleKey × List String) :=
  sortBy (fun item => ruleSortKey item.1)
    (OrderedDict.groupFold ruleKey []
      (fun verbs permission => verbs.insert permission.verb)
      permissions).entries

/-- A name or namespace that the generator writes out. -/
def presentText (text : Option String) : List String :=
  text.toList.filter (fun present => decide (present ≠ ""))

def ruleDocument (item : RuleKey × List String) : Json :=
  .mapping
    ([("apiGroups", .list [.string item.1.1]),
      ("resources", .list [.string item.1.2.1]),
      ("verbs", .list ((sortBy id item.2).map .string))] ++
    (presentText item.1.2.2).map fun name =>
      ("resourceNames", .list [.string name]))

/-- `_rules`. -/
def generateRules (permissions : List Permission) : List Json :=
  (groupedRules permissions).map ruleDocument

/-- The permissions of every scope, in the order of the sorted items. -/
def groupedScopes (policy : Policy) :
    List (Option String × List Permission) :=
  sortBy (fun item => item.1.getD "")
    (OrderedDict.groupFold Permission.namespace []
      (fun permissions permission => permissions ++ [permission])
      policy.permissions).entries

/-- The suffix that tells the scopes of one policy apart. -/
def scopeSuffix : Option String → String
  | none => "cluster"
  | some scope => scope

def generatedRoleName (policy : Policy) (scope : Option String) : String :=
  policy.name ++ "-" ++ scopeSuffix scope

def generatedBindingName (policy : Policy) (scope : Option String) : String :=
  generatedRoleName policy scope ++ "-binding"

def generatedRoleKind (scope : Option String) : RoleKind :=
  if scope = none then .clusterRole else .role

def RoleKind.text : RoleKind → String
  | .role => "Role"
  | .clusterRole => "ClusterRole"

def metadataDocument (name : String) (scope : Option String) : Json :=
  .mapping (("name", .string name) ::
    (presentText scope).map fun text => ("namespace", .string text))

def roleDocument (policy : Policy)
    (item : Option String × List Permission) : Document :=
  [("apiVersion", .string "rbac.authorization.k8s.io/v1"),
    ("kind", .string (generatedRoleKind item.1).text),
    ("metadata", metadataDocument (generatedRoleName policy item.1) item.1),
    ("rules", .list (generateRules item.2))]

def bindingDocument (policy : Policy) (scope : Option String) : Document :=
  [("apiVersion", .string "rbac.authorization.k8s.io/v1"),
    ("kind", .string
      (if scope = none then "ClusterRoleBinding" else "RoleBinding")),
    ("metadata", metadataDocument (generatedBindingName policy scope) scope),
    ("roleRef", .mapping [
      ("apiGroup", .string "rbac.authorization.k8s.io"),
      ("kind", .string (generatedRoleKind scope).text),
      ("name", .string (generatedRoleName policy scope))]),
    ("subjects", .list [.mapping [
      ("kind", .string "ServiceAccount"),
      ("name", .string policy.serviceAccount),
      ("namespace", .string policy.serviceAccountNamespace)]])]

/-- Generate role and binding pairs, separating every policy scope. -/
def policyToDocuments (policy : Policy) : List Document :=
  (groupedScopes policy).flatMap fun item =>
    [roleDocument policy item, bindingDocument policy item.1]

/-- The YAML library: its loader may refuse a text. -/
structure PyYaml where
  safeDumpAll : List Document → String
  safeLoadAll : String → Except String (List Json)

/-- Reading a path: absent, unreadable with a message, or a text. -/
abbrev ReadPath := String → Except String (Option String)

def emptyPolicyText : String := "# Empty policy: no RBAC grants\n"

def policyToYaml (yaml : PyYaml) (policy : Policy) : String :=
  match policyToDocuments policy with
  | [] => emptyPolicyText
  | documents => yaml.safeDumpAll documents

def invalidYaml {α : Type} (message : String) : Except PyException α :=
  parseError ("invalid RBAC YAML: " ++ message)

def loadText (yaml : PyYaml) (source : String) :
    Except PyException (List Json) :=
  match yaml.safeLoadAll source with
  | .ok documents => .ok documents
  | .error message => invalidYaml message

/-- A text source: without a line break it may be the path of a manifest. -/
def loadDocuments (yaml : PyYaml) (readPath : ReadPath) (source : String) :
    Except PyException (List Json) :=
  if '\n' ∈ source.toList then loadText yaml source
  else
    match readPath source with
    | .error message => invalidYaml message
    | .ok none => loadText yaml source
    | .ok (some text) => loadText yaml text

/-- `parse_rbac` on a text. -/
def parseRbacText (yaml : PyYaml) (readPath : ReadPath) (source : String) :
    Except PyException ParsedRbac := do
  let documents ← loadDocuments yaml readPath source
  parseRbac documents

end Kuber.Rules

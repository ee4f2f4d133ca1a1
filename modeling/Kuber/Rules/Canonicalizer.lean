import Kuber.Rules.Models

/-!
# The supported catalogue

The resources and verbs Kuber knows, and the expansion of wildcards over
them, from which effective permissions are counted.
-/

namespace Kuber.Rules

def supportedResources : List (String × List String) :=
  [("", ["pods", "configmaps", "secrets", "services"]),
    ("apps", ["deployments"]),
    ("batch", ["jobs"]),
    ("coordination.k8s.io", ["leases"])]

def supportedVerbs : List String :=
  ["get", "list", "watch", "create", "update", "patch", "delete"]

def isSupportedResource (apiGroup resource : String) : Bool :=
  if apiGroup = "*" then
    if resource = "*" then true
    else supportedResources.any (fun entry => decide (resource ∈ entry.2))
  else
    match supportedResources.lookup apiGroup with
    | none => false
    | some resources =>
        if resource = "*" then true else decide (resource ∈ resources)

theorem supportedVerb_ne_wildcard {verb : String}
    (supported : verb ∈ supportedVerbs) : verb ≠ "*" := by
  rintro rfl
  revert supported
  decide

theorem supportedVerb_ne_empty {verb : String}
    (supported : verb = "*" ∨ verb ∈ supportedVerbs) : verb ≠ "" := by
  rintro rfl
  revert supported
  decide

theorem supportedResource_ne_empty {apiGroup resource : String}
    (supported : isSupportedResource apiGroup resource = true) :
    resource ≠ "" := by
  rintro rfl
  have listed : ∀ entry ∈ supportedResources, "" ∉ entry.2 := by decide
  unfold isSupportedResource at supported
  split at supported
  · simp only [String.reduceEq, if_false, List.any_eq_true,
      decide_eq_true_eq] at supported
    obtain ⟨entry, member, empty⟩ := supported
    exact listed entry member empty
  · split at supported
    · cases supported
    · rename_i resources found
      simp only [String.reduceEq, if_false, decide_eq_true_eq] at supported
      obtain ⟨earlier, later, position, -⟩ := List.lookup_eq_some_iff.mp found
      exact listed (apiGroup, resources) (by simp [position]) supported

/-- The groups a permission stands for. -/
def expansionGroups (permission : Permission) : List String :=
  if permission.apiGroup = "*" ∧ permission.resource ≠ "*" then
    (supportedResources.filter
      (fun entry => decide (permission.resource ∈ entry.2))).map Prod.fst
  else if permission.apiGroup = "*" then supportedResources.map Prod.fst
  else [permission.apiGroup]

/-- All concrete permissions a wildcard permission stands for. -/
def expandPermission (permission : Permission) : List Permission :=
  let verbs :=
    if permission.verb = "*" then supportedVerbs else [permission.verb]
  (expansionGroups permission).flatMap fun group =>
    let resources :=
      if permission.resource = "*" then
        (supportedResources.lookup group).getD []
      else [permission.resource]
    resources.flatMap fun resource =>
      verbs.map fun verb =>
        { permission with apiGroup := group, resource := resource, verb := verb }

def expandPolicy (policy : Policy) : Policy :=
  policy.withPermissions (policy.permissions.flatMap expandPermission)

def effectivePermissionCount (policy : Policy) : Nat :=
  (expandPolicy policy).permissions.length

end Kuber.Rules

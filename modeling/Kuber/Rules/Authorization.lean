import Kuber.Library.LeastGrant
import Kuber.Rules.Models

/-!
# Authorization

The point query of the rules engine, and its reading as a set of requests: a
policy authorizes exactly what one of its keys covers.  Nothing but the keys
of a policy matters, so later modules compare policies as sets of keys.
-/

namespace Kuber.Rules

open Kuber.Library

def resourceNameVerbs : List String := ["get", "update", "patch", "delete"]

structure AuthorizationDecision where
  allowed : Bool
  matchingPermission : Option Permission := none
  reason : String := ""
deriving DecidableEq

/-- `_matches`: one permission against one event. -/
def permissionMatches (permission : Permission) (event : KubeEvent) : Bool :=
  if permission.apiGroup ∉ ["*", event.apiGroup] then false
  else if permission.resource ∉ ["*", event.resource] then false
  else if permission.verb ∉ ["*", event.verb] then false
  else if permission.namespace ≠ none ∧
      permission.namespace ≠ event.namespace then false
  else
    match permission.resourceName with
    | none => true
    | some name =>
        if event.verb ∉ resourceNameVerbs then false
        else if event.resourceName ≠ some name then false
        else true

def authorize (policy : Policy) (event : KubeEvent) : AuthorizationDecision :=
  match policy.permissions.find? (permissionMatches · event) with
  | some permission =>
      ⟨true, some permission, "matched deterministic RBAC rule"⟩
  | none => ⟨false, none, "no matching permission"⟩

def isAuthorized (policy : Policy) (event : KubeEvent) : Bool :=
  (authorize policy event).allowed

/-- The events a permission key grants. -/
def KeyCovers : PermissionKey → KubeEvent → Prop
  | (apiGroup, resource, verb, scope, resourceName), event =>
      (apiGroup = "*" ∨ apiGroup = event.apiGroup) ∧
      (resource = "*" ∨ resource = event.resource) ∧
      (verb = "*" ∨ verb = event.verb) ∧
      (scope = none ∨ scope = event.namespace) ∧
      (resourceName = none ∨
        event.verb ∈ resourceNameVerbs ∧ event.resourceName = resourceName)

theorem permissionMatches_iff {permission : Permission} {event : KubeEvent} :
    permissionMatches permission event = true ↔
      KeyCovers permission.key event := by
  obtain ⟨apiGroup, resource, verb, scope, resourceName, source⟩ := permission
  simp only [permissionMatches, KeyCovers, Permission.key, List.mem_cons,
    List.not_mem_nil, or_false]
  by_cases group : apiGroup = "*" ∨ apiGroup = event.apiGroup
  · by_cases kind : resource = "*" ∨ resource = event.resource
    · by_cases action : verb = "*" ∨ verb = event.verb
      · by_cases location : scope ≠ none ∧ scope ≠ event.namespace
        · simp [group, kind, action, location]
        · have inside : scope = none ∨ scope = event.namespace := by tauto
          cases resourceName with
          | none => simp [group, kind, action, location, inside]
          | some name =>
              by_cases nameable : event.verb ∈ resourceNameVerbs
              · simp [group, kind, action, location, inside, nameable]
              · simp [group, kind, action, location, nameable]
      · simp [group, kind, action]
    · simp [group, kind]
  · simp [group]

/-- A policy authorizes exactly the events covered by one of its keys. -/
theorem isAuthorized_iff {policy : Policy} {event : KubeEvent} :
    isAuthorized policy event = true ↔
      event ∈ allowed KeyCovers policy.keys := by
  constructor
  · intro authorized
    cases found : policy.permissions.find? (permissionMatches · event) with
    | none => simp [isAuthorized, authorize, found] at authorized
    | some permission =>
        have member := List.mem_of_find?_eq_some found
        have matched : permissionMatches permission event = true := by
          simpa using List.find?_some found
        exact ⟨permission.key, Policy.mem_keys_of_mem member,
          permissionMatches_iff.mp matched⟩
  · rintro ⟨key, keyMember, covered⟩
    obtain ⟨permission, member, rfl⟩ := List.mem_map.mp keyMember
    have matched := permissionMatches_iff.mpr covered
    cases found : policy.permissions.find? (permissionMatches · event) with
    | some permission => simp [isAuthorized, authorize, found]
    | none =>
        have unmatched := List.find?_eq_none.mp found permission member
        exact absurd matched unmatched

/-- `narrow` authorizes nothing that `wide` denies. -/
def Within (narrow wide : Policy) : Prop :=
  ∀ event, isAuthorized narrow event = true → isAuthorized wide event = true

theorem within_iff {narrow wide : Policy} :
    Within narrow wide ↔
      allowed KeyCovers narrow.keys ⊆ allowed KeyCovers wide.keys := by
  constructor
  · intro within event covered
    exact isAuthorized_iff.mp (within event (isAuthorized_iff.mpr covered))
  · intro subset event authorized
    exact isAuthorized_iff.mpr (subset (isAuthorized_iff.mp authorized))

theorem within_refl (policy : Policy) : Within policy policy :=
  fun _ authorized => authorized

theorem within_of_keys_subset {narrow wide : Policy}
    (subset : narrow.keys ⊆ wide.keys) : Within narrow wide :=
  within_iff.mpr (allowed_mono subset)

theorem not_isAuthorized_iff {policy : Policy} {event : KubeEvent} :
    isAuthorized policy event = false ↔
      event ∉ allowed KeyCovers policy.keys := by
  rw [← isAuthorized_iff, Bool.not_eq_true]

end Kuber.Rules

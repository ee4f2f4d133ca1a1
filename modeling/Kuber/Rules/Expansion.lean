import Kuber.Rules.Authorization
import Kuber.Rules.Canonicalizer

/-!
# The meaning of expanded wildcards

Expanding a permission only ever replaces a wildcard by something it stands
for, and reaches every request of the catalogue that the permission grants.
What is expanded has no wildcard left, so a second expansion changes nothing.
-/

namespace Kuber.Rules

open Kuber.Library

/-- A request about a resource and with a verb of the catalogue. -/
def Catalogued (event : KubeEvent) : Prop :=
  (∃ entry ∈ supportedResources,
    entry.1 = event.apiGroup ∧ event.resource ∈ entry.2) ∧
  event.verb ∈ supportedVerbs

instance (event : KubeEvent) : Decidable (Catalogued event) :=
  inferInstanceAs (Decidable (_ ∧ _))

/-- A permission without a wildcard group, resource or verb. -/
structure Permission.Concrete (permission : Permission) : Prop where
  apiGroup : permission.apiGroup ≠ "*"
  resource : permission.resource ≠ "*"
  verb : permission.verb ≠ "*"

/-- What an expanded permission keeps of the one it comes from. -/
structure Narrowed (permission expanded : Permission) : Prop where
  apiGroup : permission.apiGroup = "*" ∨
    expanded.apiGroup = permission.apiGroup
  resource : permission.resource = "*" ∨
    expanded.resource = permission.resource
  verb : permission.verb = "*" ∨ expanded.verb = permission.verb
  scope : expanded.namespace = permission.namespace
  name : expanded.resourceName = permission.resourceName

theorem lookup_supportedResources :
    ∀ entry ∈ supportedResources,
      supportedResources.lookup entry.1 = some entry.2 := by
  decide

theorem catalogue_concrete :
    ∀ entry ∈ supportedResources, entry.1 ≠ "*" ∧ "*" ∉ entry.2 := by
  decide

theorem mem_expandPermission_iff {permission expanded : Permission} :
    expanded ∈ expandPermission permission ↔
      ∃ group ∈ expansionGroups permission,
        ∃ resource ∈
            (if permission.resource = "*" then
              (supportedResources.lookup group).getD []
            else [permission.resource]),
          ∃ verb ∈
              (if permission.verb = "*" then supportedVerbs
              else [permission.verb]),
            expanded = { permission with
              apiGroup := group, resource := resource, verb := verb } := by
  simp only [expandPermission, List.mem_flatMap, List.mem_map, eq_comm]

theorem mem_expansionGroups {permission : Permission} {group : String}
    (member : group ∈ expansionGroups permission) :
    group ≠ "*" ∧
      (permission.apiGroup = "*" ∨ group = permission.apiGroup) := by
  unfold expansionGroups at member
  split at member
  · rename_i wildcard
    obtain ⟨entry, kept, rfl⟩ := List.mem_map.mp member
    exact ⟨(catalogue_concrete entry (List.mem_of_mem_filter kept)).1,
      Or.inl wildcard.1⟩
  · split at member
    · rename_i wildcard
      obtain ⟨entry, listed, rfl⟩ := List.mem_map.mp member
      exact ⟨(catalogue_concrete entry listed).1, Or.inl wildcard⟩
    · rename_i concrete
      rw [List.mem_singleton.mp member]
      exact ⟨concrete, Or.inr rfl⟩

theorem expanded_resource {resource group kept : String}
    (member : kept ∈
      if resource = "*" then (supportedResources.lookup group).getD []
      else [resource]) :
    kept ≠ "*" ∧ (resource = "*" ∨ kept = resource) := by
  split at member
  · rename_i wildcard
    refine ⟨?_, Or.inl wildcard⟩
    cases found : supportedResources.lookup group with
    | none => simp [found] at member
    | some resources =>
        rw [found, Option.getD_some] at member
        obtain ⟨earlier, later, position, -⟩ :=
          List.lookup_eq_some_iff.mp found
        have concrete :=
          (catalogue_concrete (group, resources) (by simp [position])).2
        exact fun same => concrete (same ▸ member)
  · rename_i concrete
    rw [List.mem_singleton.mp member]
    exact ⟨concrete, Or.inr rfl⟩

theorem expanded_verb {verb kept : String}
    (member : kept ∈ if verb = "*" then supportedVerbs else [verb]) :
    kept ≠ "*" ∧ (verb = "*" ∨ kept = verb) := by
  split at member
  · rename_i wildcard
    exact ⟨supportedVerb_ne_wildcard member, Or.inl wildcard⟩
  · rename_i concrete
    rw [List.mem_singleton.mp member]
    exact ⟨concrete, Or.inr rfl⟩

/-- An expanded permission is concrete and replaces nothing but wildcards. -/
theorem expandPermission_narrowed {permission expanded : Permission}
    (member : expanded ∈ expandPermission permission) :
    expanded.Concrete ∧ Narrowed permission expanded := by
  obtain ⟨group, groupMember, resource, resourceMember, verb, verbMember,
    rfl⟩ := mem_expandPermission_iff.mp member
  obtain ⟨groupConcrete, groupKept⟩ := mem_expansionGroups groupMember
  obtain ⟨resourceConcrete, resourceKept⟩ := expanded_resource resourceMember
  obtain ⟨verbConcrete, verbKept⟩ := expanded_verb verbMember
  exact ⟨⟨groupConcrete, resourceConcrete, verbConcrete⟩,
    ⟨groupKept, resourceKept, verbKept, rfl, rfl⟩⟩

theorem Narrowed.covers {permission expanded : Permission} {event : KubeEvent}
    (narrowed : Narrowed permission expanded) (concrete : expanded.Concrete)
    (covered : KeyCovers expanded.key event) :
    KeyCovers permission.key event := by
  obtain ⟨group, resource, verb, scope, name⟩ := covered
  have sameGroup := group.resolve_left concrete.apiGroup
  have sameResource := resource.resolve_left concrete.resource
  have sameVerb := verb.resolve_left concrete.verb
  refine ⟨?_, ?_, ?_, narrowed.scope ▸ scope, narrowed.name ▸ name⟩
  · exact narrowed.apiGroup.imp id fun kept => kept.symm.trans sameGroup
  · exact narrowed.resource.imp id fun kept => kept.symm.trans sameResource
  · exact narrowed.verb.imp id fun kept => kept.symm.trans sameVerb

theorem catalogued_group {permission : Permission} {event : KubeEvent}
    {resources : List String}
    (listed : (event.apiGroup, resources) ∈ supportedResources)
    (offered : event.resource ∈ resources)
    (covered : KeyCovers permission.key event) :
    event.apiGroup ∈ expansionGroups permission := by
  obtain ⟨group, resource, -⟩ := covered
  unfold expansionGroups
  split
  · rename_i wildcard
    have same : permission.resource = event.resource :=
      resource.resolve_left wildcard.2
    apply List.mem_map_of_mem (f := Prod.fst) (a := (event.apiGroup, resources))
    simp only [List.mem_filter, decide_eq_true_eq]
    exact ⟨listed, same ▸ offered⟩
  · split
    · exact List.mem_map_of_mem (f := Prod.fst) listed
    · rename_i concrete
      exact List.mem_singleton.mpr (group.resolve_left concrete).symm

/-- Every catalogued request that a permission grants is granted by one of
the permissions it expands to. -/
theorem expandPermission_covers {permission : Permission} {event : KubeEvent}
    (catalogued : Catalogued event)
    (covered : KeyCovers permission.key event) :
    ∃ expanded ∈ expandPermission permission,
      KeyCovers expanded.key event := by
  obtain ⟨⟨⟨group, resources⟩, listed, rfl, offered⟩, verbListed⟩ := catalogued
  have groupMember := catalogued_group listed offered covered
  obtain ⟨-, resource, verb, scope, name⟩ := covered
  have resourceMember : event.resource ∈
      if permission.resource = "*" then
        (supportedResources.lookup event.apiGroup).getD []
      else [permission.resource] := by
    split
    · rw [lookup_supportedResources _ listed]
      exact offered
    · rename_i concrete
      exact List.mem_singleton.mpr (resource.resolve_left concrete).symm
  have verbMember : event.verb ∈
      if permission.verb = "*" then supportedVerbs
      else [permission.verb] := by
    split
    · exact verbListed
    · rename_i concrete
      exact List.mem_singleton.mpr (verb.resolve_left concrete).symm
  exact ⟨_, mem_expandPermission_iff.mpr ⟨_, groupMember, _, resourceMember,
    _, verbMember, rfl⟩, Or.inr rfl, Or.inr rfl, Or.inr rfl, scope, name⟩

theorem expandPermission_of_concrete {permission : Permission}
    (concrete : permission.Concrete) :
    expandPermission permission = [permission] := by
  simp [expandPermission, expansionGroups, concrete.apiGroup,
    concrete.resource, concrete.verb]

theorem expandPolicy_concrete {policy : Policy} {permission : Permission}
    (member : permission ∈ (expandPolicy policy).permissions) :
    permission.Concrete := by
  obtain ⟨source, -, expanded⟩ :=
    List.mem_flatMap.mp (Policy.mem_of_mem_build member)
  exact (expandPermission_narrowed expanded).1

theorem mem_keys_expandPolicy {policy : Policy} {key : PermissionKey} :
    key ∈ (expandPolicy policy).keys ↔
      ∃ permission ∈ policy.permissions,
        ∃ expanded ∈ expandPermission permission, expanded.key = key := by
  simp only [expandPolicy, Policy.mem_keys_withPermissions, List.mem_map,
    List.mem_flatMap]
  constructor
  · rintro ⟨expanded, ⟨permission, member, made⟩, same⟩
    exact ⟨permission, member, expanded, made, same⟩
  · rintro ⟨permission, member, expanded, made, same⟩
    exact ⟨expanded, ⟨permission, member, made⟩, same⟩

theorem isAuthorized_expandPolicy_iff {policy : Policy} {event : KubeEvent}
    (catalogued : Catalogued event) :
    isAuthorized (expandPolicy policy) event = true ↔
      isAuthorized policy event = true := by
  rw [isAuthorized_iff, isAuthorized_iff]
  constructor
  · intro ⟨key, keyMember, covered⟩
    obtain ⟨permission, member, expanded, made, rfl⟩ :=
      mem_keys_expandPolicy.mp keyMember
    obtain ⟨concrete, narrowed⟩ := expandPermission_narrowed made
    exact ⟨permission.key, Policy.mem_keys_of_mem member,
      narrowed.covers concrete covered⟩
  · intro ⟨key, keyMember, covered⟩
    obtain ⟨permission, member, rfl⟩ := List.mem_map.mp keyMember
    obtain ⟨expanded, made, reached⟩ :=
      expandPermission_covers catalogued covered
    exact ⟨expanded.key,
      mem_keys_expandPolicy.mpr ⟨permission, member, expanded, made, rfl⟩,
      reached⟩

theorem expandPolicy_idempotent (policy : Policy) :
    expandPolicy (expandPolicy policy) = expandPolicy policy := by
  have unchanged : (expandPolicy policy).permissions.flatMap expandPermission =
      (expandPolicy policy).permissions := by
    rw [List.flatMap_congr fun permission member =>
      expandPermission_of_concrete (expandPolicy_concrete member)]
    exact List.flatMap_singleton' _
  rw [expandPolicy, unchanged]
  exact Policy.withPermissions_self _

/-- Wildcard expansion preserves the meaning of a policy on the catalogue,
leaves no wildcard, and is idempotent. -/
theorem expansion_preserves_meaning (policy : Policy) :
    (∀ event, Catalogued event →
      (isAuthorized (expandPolicy policy) event = true ↔
        isAuthorized policy event = true)) ∧
    (∀ permission ∈ (expandPolicy policy).permissions,
      permission.apiGroup ≠ "*" ∧ permission.resource ≠ "*" ∧
        permission.verb ≠ "*") ∧
    expandPolicy (expandPolicy policy) = expandPolicy policy := by
  refine ⟨fun event catalogued => isAuthorized_expandPolicy_iff catalogued,
    ?_, expandPolicy_idempotent policy⟩
  intro permission member
  obtain ⟨group, resource, verb⟩ := expandPolicy_concrete member
  exact ⟨group, resource, verb⟩

end Kuber.Rules

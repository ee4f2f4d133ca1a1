import Kuber.Rules.Authorization
import Kuber.Rules.Parser

/-!
# The resolver

Flattening bindings, roles and rules into the permissions of one service
account, and its agreement with the meaning of the rules: resolving neither
loses nor adds a request.
-/

namespace Kuber.Rules

open Kuber.Library

/-- The test by which the resolver picks the role of a binding. -/
def roleMatches (binding : BindingObject) (candidate : RoleObject) : Bool :=
  decide (candidate.name = binding.roleName ∧
    ((binding.roleKind = .clusterRole ∧ candidate.clusterRole = true) ∨
      (binding.roleKind = .role ∧ candidate.clusterRole = false ∧
        candidate.namespace = binding.namespace)))

def bindingSource (binding : BindingObject) : String :=
  (if binding.clusterBinding then "ClusterRoleBinding" else "RoleBinding") ++
    "/" ++ binding.name

def bindingScope (binding : BindingObject) : Option String :=
  if binding.clusterBinding then none else binding.namespace

/-- `rule.resource_names or (None,)`. -/
def ruleNames (rule : PolicyRule) : List (Option String) :=
  if rule.resourceNames = [] then [none] else rule.resourceNames.map some

def rulePermissions (scope : Option String) (source : String)
    (rule : PolicyRule) : List Permission :=
  rule.apiGroups.flatMap fun group =>
    rule.resources.flatMap fun resource =>
      rule.verbs.flatMap fun verb =>
        (ruleNames rule).map fun resourceName =>
          ⟨group, resource, verb, scope, resourceName, some source⟩

def bindingPermissions (parsed : ParsedRbac)
    (serviceAccount : ServiceAccountRef) (binding : BindingObject) :
    List Permission :=
  if serviceAccount ∉ binding.subjects then []
  else
    match parsed.roles.find? (roleMatches binding) with
    | none => []
    | some role =>
        role.rules.flatMap
          (rulePermissions (bindingScope binding) (bindingSource binding))

/-- Resolve the bindings of one service account. -/
def resolveEffectivePolicy (parsed : ParsedRbac)
    (serviceAccount : ServiceAccountRef) : Policy :=
  Policy.build
    (parsed.bindings.flatMap (bindingPermissions parsed serviceAccount))
    (serviceAccount.name ++ "-effective") serviceAccount.name
    serviceAccount.namespace

/-- The keys one rule yields in a scope. -/
def RuleGrants (scope : Option String) (rule : PolicyRule) :
    PermissionKey → Prop
  | (group, resource, verb, keyScope, resourceName) =>
      group ∈ rule.apiGroups ∧ resource ∈ rule.resources ∧
        verb ∈ rule.verbs ∧ keyScope = scope ∧
        resourceName ∈ ruleNames rule

theorem mem_rulePermissions_keys {scope : Option String} {source : String}
    {rule : PolicyRule} {key : PermissionKey} :
    key ∈ (rulePermissions scope source rule).map Permission.key ↔
      RuleGrants scope rule key := by
  obtain ⟨group, resource, verb, keyScope, resourceName⟩ := key
  simp only [rulePermissions, RuleGrants, List.mem_map, List.mem_flatMap]
  constructor
  · rintro ⟨permission, ⟨g, gMember, r, rMember, v, vMember, n, nMember,
      rfl⟩, equality⟩
    simp only [Permission.key, Prod.mk.injEq] at equality
    obtain ⟨rfl, rfl, rfl, rfl, rfl⟩ := equality
    exact ⟨gMember, rMember, vMember, rfl, nMember⟩
  · rintro ⟨gMember, rMember, vMember, rfl, nMember⟩
    exact ⟨_, ⟨group, gMember, resource, rMember, verb, vMember,
      resourceName, nMember, rfl⟩, rfl⟩

/-- Every key of a resolved policy comes from a rule of the role selected by
one of the account's bindings, and conversely. -/
theorem mem_keys_resolve_iff {parsed : ParsedRbac}
    {serviceAccount : ServiceAccountRef} {key : PermissionKey} :
    key ∈ (resolveEffectivePolicy parsed serviceAccount).keys ↔
      ∃ binding ∈ parsed.bindings, serviceAccount ∈ binding.subjects ∧
        ∃ role, parsed.roles.find? (roleMatches binding) = some role ∧
          ∃ rule ∈ role.rules, RuleGrants (bindingScope binding) rule key := by
  simp only [resolveEffectivePolicy, Policy.mem_keys_build, List.map_flatMap,
    List.mem_flatMap]
  constructor
  · rintro ⟨binding, bindingMember, keyMember⟩
    by_cases subject : serviceAccount ∈ binding.subjects
    · cases selected : parsed.roles.find? (roleMatches binding) with
      | none => simp [bindingPermissions, subject, selected] at keyMember
      | some role =>
          simp only [bindingPermissions, subject, not_true_eq_false, if_false,
            selected, List.map_flatMap, List.mem_flatMap] at keyMember
          obtain ⟨rule, ruleMember, granted⟩ := keyMember
          exact ⟨binding, bindingMember, subject, role, selected, rule, ruleMember,
            mem_rulePermissions_keys.mp granted⟩
    · simp [bindingPermissions, subject] at keyMember
  · rintro ⟨binding, bindingMember, subject, role, selected, rule, ruleMember,
      granted⟩
    refine ⟨binding, bindingMember, ?_⟩
    simp only [bindingPermissions, subject, not_true_eq_false, if_false,
      selected, List.map_flatMap, List.mem_flatMap]
    exact ⟨rule, ruleMember, mem_rulePermissions_keys.mpr granted⟩

end Kuber.Rules

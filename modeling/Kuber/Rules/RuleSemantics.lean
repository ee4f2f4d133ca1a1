import Kuber.Rules.Resolver
import Kuber.Rules.WellFormed

/-!
# The meaning of RBAC rules

What the objects of a manifest grant, read directly from bindings, roles and
rules without flattening them.  Resolving an accepted manifest agrees with
this meaning on every event.
-/

namespace Kuber.Rules

open Kuber.Library

/-- A rule field contains the value or the wildcard. -/
def Contains (texts : List String) (value : String) : Prop :=
  value ∈ texts ∨ "*" ∈ texts

/-- The requests a rule allows, in whatever scope it is bound. -/
def RuleAllows (rule : PolicyRule) (event : KubeEvent) : Prop :=
  Contains rule.apiGroups event.apiGroup ∧
  Contains rule.resources event.resource ∧
  Contains rule.verbs event.verb ∧
  (rule.resourceNames = [] ∨
    event.verb ∈ ["get", "update", "patch", "delete"] ∧
      ∃ name ∈ rule.resourceNames, event.resourceName = some name)

/-- A role reference names a cluster role, or a role in the binding's own
namespace. -/
def Names (binding : BindingObject) (role : RoleObject) : Prop :=
  role.name = binding.roleName ∧
    (binding.roleKind = .clusterRole ∧ role.clusterRole = true ∨
      binding.roleKind = .role ∧ role.clusterRole = false ∧
        role.namespace = binding.namespace)

/-- The referenced role, the first in document order if several are named. -/
def Selects (parsed : ParsedRbac) (binding : BindingObject)
    (role : RoleObject) : Prop :=
  ∃ earlier later, parsed.roles = earlier ++ role :: later ∧
    Names binding role ∧ ∀ other ∈ earlier, ¬Names binding other

/-- The scope of a binding contains the event. -/
def Reaches (binding : BindingObject) (event : KubeEvent) : Prop :=
  binding.clusterBinding = true ∨ binding.namespace = event.namespace

/-- The manifest grants an event to a service account. -/
def Grants (parsed : ParsedRbac) (serviceAccount : ServiceAccountRef)
    (event : KubeEvent) : Prop :=
  ∃ binding ∈ parsed.bindings, serviceAccount ∈ binding.subjects ∧
    ∃ role, Selects parsed binding role ∧
      (∃ rule ∈ role.rules, RuleAllows rule event) ∧ Reaches binding event

theorem roleMatches_iff {binding : BindingObject} {role : RoleObject} :
    roleMatches binding role = true ↔ Names binding role := by
  simp [roleMatches, Names]

theorem find?_roleMatches_iff {parsed : ParsedRbac} {binding : BindingObject}
    {role : RoleObject} :
    parsed.roles.find? (roleMatches binding) = some role ↔
      Selects parsed binding role := by
  rw [List.find?_eq_some_iff_append]
  constructor
  · rintro ⟨matched, earlier, later, split, unmatched⟩
    refine ⟨earlier, later, split, roleMatches_iff.mp matched, ?_⟩
    intro other member named
    simpa [roleMatches_iff.mpr named] using unmatched other member
  · rintro ⟨earlier, later, split, named, unnamed⟩
    refine ⟨roleMatches_iff.mpr named, earlier, later, split, ?_⟩
    intro other member
    have unmatched := mt roleMatches_iff.mp (unnamed other member)
    simpa using unmatched

private theorem contains_iff {texts : List String} {value : String} :
    (∃ text ∈ texts, text = "*" ∨ text = value) ↔ Contains texts value := by
  constructor
  · rintro ⟨text, member, rfl | rfl⟩
    · exact Or.inr member
    · exact Or.inl member
  · rintro (member | member)
    · exact ⟨value, member, Or.inr rfl⟩
    · exact ⟨"*", member, Or.inl rfl⟩

private theorem ruleNames_cover_iff {rule : PolicyRule} {event : KubeEvent} :
    (∃ resourceName ∈ ruleNames rule, resourceName = none ∨
        event.verb ∈ resourceNameVerbs ∧ event.resourceName = resourceName) ↔
      (rule.resourceNames = [] ∨
        event.verb ∈ ["get", "update", "patch", "delete"] ∧
          ∃ name ∈ rule.resourceNames, event.resourceName = some name) := by
  by_cases unnamed : rule.resourceNames = []
  · simp [ruleNames, unnamed]
  · simp only [ruleNames, unnamed, if_false, List.mem_map, false_or]
    constructor
    · rintro ⟨_, ⟨name, member, rfl⟩, absurdity | ⟨nameable, named⟩⟩
      · cases absurdity
      · exact ⟨nameable, name, member, named⟩
    · rintro ⟨nameable, name, member, named⟩
      exact ⟨some name, ⟨name, member, rfl⟩, Or.inr ⟨nameable, named⟩⟩

/-- The keys of a rule cover what the rule allows, within its scope. -/
theorem ruleGrants_cover_iff {scope : Option String} {rule : PolicyRule}
    {event : KubeEvent} :
    (∃ key, RuleGrants scope rule key ∧ KeyCovers key event) ↔
      RuleAllows rule event ∧ (scope = none ∨ scope = event.namespace) := by
  simp only [RuleAllows, ← contains_iff, ← ruleNames_cover_iff]
  constructor
  · rintro ⟨⟨group, resource, verb, keyScope, resourceName⟩,
      ⟨groupMember, resourceMember, verbMember, rfl, nameMember⟩,
      ⟨groupCovers, resourceCovers, verbCovers, scopeCovers, nameCovers⟩⟩
    exact ⟨⟨⟨group, groupMember, groupCovers⟩,
      ⟨resource, resourceMember, resourceCovers⟩,
      ⟨verb, verbMember, verbCovers⟩,
      ⟨resourceName, nameMember, nameCovers⟩⟩, scopeCovers⟩
  · rintro ⟨⟨⟨group, groupMember, groupCovers⟩,
      ⟨resource, resourceMember, resourceCovers⟩,
      ⟨verb, verbMember, verbCovers⟩,
      ⟨resourceName, nameMember, nameCovers⟩⟩, scopeCovers⟩
    exact ⟨(group, resource, verb, scope, resourceName),
      ⟨groupMember, resourceMember, verbMember, rfl, nameMember⟩,
      ⟨groupCovers, resourceCovers, verbCovers, scopeCovers, nameCovers⟩⟩

/-- For a well formed binding the scope test is the reach of the binding: a
namespaced binding never loses its namespace. -/
theorem bindingScope_covers_iff {binding : BindingObject} {event : KubeEvent}
    (wellFormed : binding.WellFormed) :
    (bindingScope binding = none ∨ bindingScope binding = event.namespace) ↔
      Reaches binding event := by
  cases cluster : binding.clusterBinding with
  | true => simp [bindingScope, Reaches, cluster]
  | false =>
      obtain ⟨scope, located, -⟩ := wellFormed.namespaced cluster
      simp [bindingScope, Reaches, cluster, located]

/-- Resolving an accepted manifest for any service account authorizes exactly
the events that the manifest's own rules grant it. -/
theorem resolveEffectivePolicy_agrees {documents : List Json}
    {parsed : ParsedRbac} (accepted : parseRbac documents = .ok parsed)
    (serviceAccount : ServiceAccountRef) (event : KubeEvent) :
    isAuthorized (resolveEffectivePolicy parsed serviceAccount) event = true ↔
      Grants parsed serviceAccount event := by
  have wellFormed := parseRbac_wellFormed accepted
  rw [isAuthorized_iff]
  constructor
  · rintro ⟨key, keyMember, covered⟩
    obtain ⟨binding, bindingMember, subject, role, found, rule, ruleMember,
      granted⟩ := mem_keys_resolve_iff.mp keyMember
    obtain ⟨allows, inScope⟩ :=
      ruleGrants_cover_iff.mp ⟨key, granted, covered⟩
    exact ⟨binding, bindingMember, subject, role,
      find?_roleMatches_iff.mp found, ⟨rule, ruleMember, allows⟩,
      (bindingScope_covers_iff
        (wellFormed.bindings binding bindingMember)).mp inScope⟩
  · rintro ⟨binding, bindingMember, subject, role, selected,
      ⟨rule, ruleMember, allows⟩, reaches⟩
    have inScope := (bindingScope_covers_iff
      (wellFormed.bindings binding bindingMember)).mpr reaches
    obtain ⟨key, granted, covered⟩ :=
      ruleGrants_cover_iff.mpr ⟨allows, inScope⟩
    exact ⟨key, mem_keys_resolve_iff.mpr ⟨binding, bindingMember, subject,
      role, find?_roleMatches_iff.mpr selected, rule, ruleMember, granted⟩,
      covered⟩

/-- A cluster role bound inside one namespace. -/
def namespacedReaderManifest : List Json :=
  [.mapping [("kind", .string "ClusterRole"),
      ("metadata", .mapping [("name", .string "reader")]),
      ("rules", .list [.mapping [
        ("apiGroups", .list [.string ""]),
        ("resources", .list [.string "pods"]),
        ("verbs", .list [.string "get", .string "list"])]])],
    .mapping [("kind", .string "RoleBinding"),
      ("metadata", .mapping [("name", .string "reader-binding"),
        ("namespace", .string "shop")]),
      ("roleRef", .mapping [
        ("apiGroup", .string "rbac.authorization.k8s.io"),
        ("kind", .string "ClusterRole"), ("name", .string "reader")]),
      ("subjects", .list [.mapping [("kind", .string "ServiceAccount"),
        ("name", .string "web")]])]]

def namespacedReader : ParsedRbac where
  roles := [⟨"reader", none, [⟨[""], ["pods"], ["get", "list"], []⟩], true⟩]
  bindings := [⟨"reader-binding", some "shop", "reader", .clusterRole,
    [⟨"web", "shop"⟩], false⟩]

/-- The cluster role grants in the namespace of its binding. -/
theorem resolveEffectivePolicy_agrees_namespacedReader :
    parseRbac namespacedReaderManifest = .ok namespacedReader ∧
      Grants namespacedReader ⟨"web", "shop"⟩
        ⟨"", "pods", "list", some "shop", none, none⟩ := by
  have accepted :
      parseRbac namespacedReaderManifest = .ok namespacedReader := rfl
  exact ⟨accepted,
    (resolveEffectivePolicy_agrees accepted _ _).mp (by decide)⟩

end Kuber.Rules

import Kuber.Rules.LeastPrivilege
import Kuber.Rules.RoundTrip

/-!
# Regenerating policies

Which policies survive being written out and read back.  What is resolved from
an accepted manifest always does; a candidate made from observed events does
unless an event names an empty namespace or an empty object.
-/

namespace Kuber.Rules

open Kuber.Library

/-- A permission that a manifest can express. -/
structure Permission.Expressible (permission : Permission) : Prop where
  resource :
    isSupportedResource permission.apiGroup permission.resource = true
  verb : permission.verb = "*" ∨ permission.verb ∈ supportedVerbs
  scope : permission.namespace ≠ some ""
  name : permission.resourceName ≠ some ""

theorem Permission.Expressible.of_key {permission other : Permission}
    (expressible : permission.Expressible)
    (same : permission.key = other.key) : other.Expressible := by
  simp only [Permission.key, Prod.mk.injEq] at same
  obtain ⟨group, resource, verb, scope, name⟩ := same
  exact ⟨group ▸ resource ▸ expressible.resource, verb ▸ expressible.verb,
    scope ▸ expressible.scope, name ▸ expressible.name⟩

section

variable {parsed : ParsedRbac} {account : ServiceAccountRef}
  {permission : Permission}

theorem resolved_source
    (member : permission ∈
      (resolveEffectivePolicy parsed account).permissions) :
    ∃ binding ∈ parsed.bindings, account ∈ binding.subjects ∧
      ∃ role ∈ parsed.roles, roleMatches binding role = true ∧
        ∃ rule ∈ role.rules,
          RuleGrants (bindingScope binding) rule permission.key := by
  obtain ⟨binding, bound, subject, role, found, granted⟩ :=
    mem_keys_resolve_iff.mp (Policy.mem_keys_of_mem member)
  exact ⟨binding, bound, subject, role, List.mem_of_find?_eq_some found,
    List.find?_some found, granted⟩

theorem resolved_account (wellFormed : parsed.WellFormed)
    (member : permission ∈
      (resolveEffectivePolicy parsed account).permissions) :
    account.name ≠ "" ∧ account.namespace ≠ "" := by
  obtain ⟨binding, bound, subject, -⟩ := resolved_source member
  exact (wellFormed.bindings binding bound).subjects account subject

theorem bindingScope_ne_empty {binding : BindingObject}
    (wellFormed : binding.WellFormed) : bindingScope binding ≠ some "" := by
  unfold bindingScope
  split
  · exact fun absent => by cases absent
  · rename_i namespaced
    obtain ⟨text, located, nonempty⟩ :=
      wellFormed.namespaced (Bool.eq_false_of_not_eq_true namespaced)
    rw [located]
    exact fun empty => nonempty (Option.some.inj empty)

theorem clusterBinding_of_bindingScope_none {binding : BindingObject}
    (wellFormed : binding.WellFormed) (wide : bindingScope binding = none) :
    binding.clusterBinding = true := by
  by_contra namespaced
  obtain ⟨text, located, -⟩ :=
    wellFormed.namespaced (Bool.eq_false_of_not_eq_true namespaced)
  rw [bindingScope, if_neg namespaced, located] at wide
  cases wide

theorem ruleNames_ne_empty {rule : PolicyRule} (wellFormed : rule.WellFormed)
    {name : Option String} (member : name ∈ ruleNames rule) :
    name ≠ some "" := by
  rintro rfl
  unfold ruleNames at member
  split at member
  · simp at member
  · obtain ⟨text, textMember, same⟩ := List.mem_map.mp member
    exact wellFormed.resourceNames (Option.some.inj same ▸ textMember)

/-- The parser's checks make every resolved permission expressible. -/
theorem resolved_expressible (wellFormed : parsed.WellFormed)
    (member : permission ∈
      (resolveEffectivePolicy parsed account).permissions) :
    permission.Expressible := by
  obtain ⟨binding, bound, -, role, roleMember, -, rule, ruleMember, granted⟩ :=
    resolved_source member
  have rules := (wellFormed.roles role roleMember).rules rule ruleMember
  obtain ⟨group, resource, verb, scope, name⟩ := granted
  refine ⟨rules.resources _ group _ resource, rules.verbs _ verb, ?_,
    ruleNames_ne_empty rules name⟩
  rw [scope]
  exact bindingScope_ne_empty (wellFormed.bindings binding bound)

theorem expressible_of_sameKeys {policy : Policy}
    (wellFormed : parsed.WellFormed)
    (same : (resolveEffectivePolicy parsed account).keys = policy.keys)
    (member : permission ∈ policy.permissions) : permission.Expressible := by
  have resolved := same.symm ▸ Policy.mem_keys_of_mem member
  obtain ⟨source, sourceMember, sameKey⟩ := List.mem_map.mp resolved
  exact (resolved_expressible wellFormed sourceMember).of_key sameKey

end

/-- The permission made for an event can be expressed unless a text of the
event that it keeps is empty. -/
theorem eventPermission_expressible_iff {event : KubeEvent}
    {permission : Permission}
    (made : eventPermission event = .ok permission) :
    permission.Expressible ↔ event.namespace ≠ some "" ∧
      (event.verb ∈ resourceNameSafeVerbs → event.resourceName ≠ some "") := by
  obtain ⟨verb, resource, shape⟩ := eventPermission_ok made
  simp only [Permission.key, Prod.mk.injEq] at shape
  obtain ⟨sameGroup, sameResource, sameVerb, sameScope, sameName⟩ := shape
  constructor
  · intro expressible
    refine ⟨sameScope ▸ expressible.scope, fun nameable => ?_⟩
    rw [if_pos nameable] at sameName
    exact sameName ▸ expressible.name
  · rintro ⟨scope, name⟩
    refine ⟨sameGroup ▸ sameResource ▸ resource, sameVerb ▸ Or.inr verb,
      sameScope ▸ scope, ?_⟩
    rw [sameName]
    split
    · exact name ‹_›
    · exact fun absent => by cases absent

/-- What is written and read back without loss: exactly the policies whose
permissions can be expressed. -/
theorem regenerates_iff {policy : Policy}
    (addressed : ∀ permission ∈ policy.permissions,
      policy.serviceAccount ≠ "" ∧ policy.serviceAccountNamespace ≠ "") :
    (∃ parsed,
      parseRbac ((policyToDocuments policy).map .mapping) = .ok parsed ∧
        (resolveEffectivePolicy parsed ⟨policy.serviceAccount,
          policy.serviceAccountNamespace⟩).keys = policy.keys) ↔
      ∀ permission ∈ policy.permissions, permission.Expressible := by
  constructor
  · intro ⟨parsed, accepted, sameKeys⟩ permission member
    exact expressible_of_sameKeys (parseRbac_wellFormed accepted) sameKeys
      member
  · intro expressible
    have writable : policy.Writable := by
      intro permission member
      obtain ⟨resource, verb, scope, -⟩ := expressible permission member
      obtain ⟨named, located⟩ := addressed permission member
      refine ⟨⟨resource, verb, scope⟩, named, ?_⟩
      simp [generatedSubject, orElse, located]
    exact ⟨_, parseRbac_policyToDocuments_iff.mpr ⟨rfl, writable⟩,
      keys_resolve_generatedRbac
        (fun permission member => (addressed permission member).2)
        fun permission member => (expressible permission member).name⟩

/-- Whatever an accepted manifest grants an account is within the grammar of
the generator, and its manifest grants the account the same. -/
theorem accepted_manifest_regenerates {documents : List Json}
    {parsed : ParsedRbac} (accepted : parseRbac documents = .ok parsed)
    (account : ServiceAccountRef) :
    (∀ permission ∈ (resolveEffectivePolicy parsed account).permissions,
      isSupportedResource permission.apiGroup permission.resource = true ∧
        (permission.verb = "*" ∨ permission.verb ∈ supportedVerbs) ∧
        permission.namespace ≠ some "" ∧
        permission.resourceName ≠ some "" ∧
        (permission.namespace = none →
          ∃ binding ∈ parsed.bindings, binding.clusterBinding = true ∧
            account ∈ binding.subjects ∧
            ∃ role ∈ parsed.roles, roleMatches binding role = true ∧
              ∃ rule ∈ role.rules, RuleGrants none rule permission.key)) ∧
    ∃ regenerated,
      parseRbac ((policyToDocuments
          (resolveEffectivePolicy parsed account)).map .mapping) =
        .ok regenerated ∧
      (resolveEffectivePolicy regenerated account).keys =
        (resolveEffectivePolicy parsed account).keys := by
  have wellFormed := parseRbac_wellFormed accepted
  constructor
  · intro permission member
    obtain ⟨resource, verb, scope, name⟩ :=
      resolved_expressible wellFormed member
    refine ⟨resource, verb, scope, name, ?_⟩
    intro wide
    obtain ⟨binding, bound, subject, role, roleMember, matched, rule,
      ruleMember, granted⟩ := resolved_source member
    have scopeNone : bindingScope binding = none :=
      granted.2.2.2.1.symm.trans wide
    rw [scopeNone] at granted
    exact ⟨binding, bound, clusterBinding_of_bindingScope_none
      (wellFormed.bindings binding bound) scopeNone, subject, role, roleMember,
      matched, rule, ruleMember, granted⟩
  · have addressed := fun permission
      (member : permission ∈
        (resolveEffectivePolicy parsed account).permissions) =>
      resolved_account wellFormed member
    exact (regenerates_iff addressed).mpr fun permission member =>
      resolved_expressible wellFormed member

/-- The manifest of a role that grants every permission of the catalogue in
the cluster-wide scope, wrapped in a list. -/
def wideManifest : List Json :=
  [.mapping [("kind", .string "List"),
    ("items", .list [
      .mapping [("kind", .string "ClusterRole"),
        ("metadata", .mapping [("name", .string "wide")]),
        ("rules", .list [.mapping [
          ("apiGroups", .list [.string "*"]),
          ("resources", .list [.string "*"]),
          ("verbs", .list [.string "*"])]])],
      .mapping [("kind", .string "ClusterRoleBinding"),
        ("metadata", .mapping [("name", .string "overprivileged")]),
        ("roleRef", .mapping [
          ("apiGroup", .string "rbac.authorization.k8s.io"),
          ("kind", .string "ClusterRole"), ("name", .string "wide")]),
        ("subjects", .list [.mapping [("kind", .string "ServiceAccount"),
          ("name", .string "web"), ("namespace", .string "shop")]])]])]]

def webAccount : ServiceAccountRef := ⟨"web", "shop"⟩

def wideRbac : ParsedRbac where
  roles := [⟨"wide", none, [⟨["*"], ["*"], ["*"], []⟩], true⟩]
  bindings :=
    [⟨"overprivileged", none, "wide", .clusterRole, [webAccount], true⟩]

theorem parseRbac_wideManifest : parseRbac wideManifest = .ok wideRbac := rfl

/-- The wildcard grant of a cluster role binding is put back. -/
theorem accepted_manifest_regenerates_wide :
    ∃ regenerated,
      parseRbac ((policyToDocuments
          (resolveEffectivePolicy wideRbac webAccount)).map .mapping) =
        .ok regenerated ∧
      (resolveEffectivePolicy regenerated webAccount).keys =
        (resolveEffectivePolicy wideRbac webAccount).keys :=
  (accepted_manifest_regenerates parseRbac_wideManifest webAccount).2

/-- The grants of a candidate are written out and read back without loss
exactly when no observed event names an empty namespace, and none that a name
can restrict names an empty object. -/
theorem candidate_is_expressible_iff {documents : List Json}
    {parsed : ParsedRbac} {account : ServiceAccountRef}
    {observed : List KubeEvent} {candidate : Policy}
    (accepted : parseRbac documents = .ok parsed)
    (made : observedOnlyPolicy (resolveEffectivePolicy parsed account)
      observed = .ok candidate) :
    (∃ written,
      parseRbac ((policyToDocuments candidate).map .mapping) = .ok written ∧
        (resolveEffectivePolicy written ⟨candidate.serviceAccount,
          candidate.serviceAccountNamespace⟩).keys = candidate.keys) ↔
      ∀ event ∈ observed, event.namespace ≠ some "" ∧
        (event.verb ∈ resourceNameSafeVerbs →
          event.resourceName ≠ some "") := by
  obtain ⟨authorized, supported, sameKeys, -, sameAccount, sameNamespace⟩ :=
    observedOnlyPolicy_ok made
  have source : ∀ permission ∈ candidate.permissions,
      ∃ event ∈ observed, ∃ single, eventPermission event = .ok single ∧
        single.key = permission.key := by
    intro permission member
    obtain ⟨event, observedMember, keyMade⟩ :
        permission.key ∈ eventKeys observed :=
      sameKeys ▸ Policy.mem_keys_of_mem member
    exact ⟨event, observedMember, eventKey?_eq_some_iff.mp keyMade⟩
  have addressed : ∀ permission ∈ candidate.permissions,
      candidate.serviceAccount ≠ "" ∧
        candidate.serviceAccountNamespace ≠ "" := by
    intro permission member
    obtain ⟨event, observedMember, -⟩ := source permission member
    obtain ⟨key, granted, -⟩ :=
      isAuthorized_iff.mp (authorized event observedMember)
    obtain ⟨grant, grantMember, -⟩ := List.mem_map.mp granted
    rw [sameAccount, sameNamespace]
    exact resolved_account (parseRbac_wellFormed accepted) grantMember
  rw [regenerates_iff addressed]
  constructor
  · intro expressible event member
    obtain ⟨single, singleMade⟩ := supported event member
    have keyMember : single.key ∈ candidate.keys := by
      rw [sameKeys]
      exact ⟨event, member,
        eventKey?_eq_some_iff.mpr ⟨single, singleMade, rfl⟩⟩
    obtain ⟨permission, permissionMember, same⟩ := List.mem_map.mp keyMember
    have writes := (expressible permission permissionMember).of_key same
    exact (eventPermission_expressible_iff singleMade).mp writes
  · intro present permission member
    obtain ⟨event, observedMember, single, singleMade, same⟩ :=
      source permission member
    exact ((eventPermission_expressible_iff singleMade).mpr
      (present event observedMember)).of_key same

def unscopedRead : KubeEvent :=
  ⟨"", "pods", "get", some "", none, none⟩

def unnamedRead : KubeEvent :=
  ⟨"", "secrets", "get", some "shop", some "", none⟩

def tlsRead : KubeEvent := { unnamedRead with resourceName := some "tls" }

/-- An empty namespace makes a candidate whose manifest is rejected; an empty
name makes one whose manifest grants every name. -/
theorem empty_texts_are_not_expressed :
    parseRbac wideManifest = .ok wideRbac ∧
    (∃ candidate error,
      observedOnlyPolicy (resolveEffectivePolicy wideRbac webAccount)
        [unscopedRead] = .ok candidate ∧
      parseRbac ((policyToDocuments candidate).map .mapping) =
        .error error) ∧
    ∃ candidate written,
      observedOnlyPolicy (resolveEffectivePolicy wideRbac webAccount)
        [unnamedRead] = .ok candidate ∧
      parseRbac ((policyToDocuments candidate).map .mapping) = .ok written ∧
      isAuthorized candidate tlsRead = false ∧
      isAuthorized (resolveEffectivePolicy written webAccount) tlsRead =
        true :=
  ⟨rfl, ⟨_, _, rfl, rfl⟩, _, _, rfl, rfl, rfl, rfl⟩

/-- A named read is expressed. -/
theorem candidate_is_expressible_iff_tlsRead :
    ∃ candidate written,
      observedOnlyPolicy (resolveEffectivePolicy wideRbac webAccount)
        [tlsRead] = .ok candidate ∧
      parseRbac ((policyToDocuments candidate).map .mapping) = .ok written ∧
      (resolveEffectivePolicy written ⟨candidate.serviceAccount,
        candidate.serviceAccountNamespace⟩).keys = candidate.keys := by
  obtain ⟨candidate, made⟩ : ∃ candidate,
      observedOnlyPolicy (resolveEffectivePolicy wideRbac webAccount)
        [tlsRead] = .ok candidate := ⟨_, rfl⟩
  obtain ⟨written, expressed⟩ :=
    (candidate_is_expressible_iff parseRbac_wideManifest made).mpr (by decide)
  exact ⟨candidate, written, made, expressed⟩

end Kuber.Rules

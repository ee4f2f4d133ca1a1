import Kuber.Runtime.Cluster

/-!
# Generated objects in a cluster

The keys under which the objects of a policy are stored: one pair for every
scope, told apart by the scope and by the name of the policy.  Policies with
different names therefore never touch each other's objects.
-/

namespace Kuber.Runtime

open Kuber.Library Kuber.Rules

/-- Where the role of a scope is stored. -/
def scopeRoleKey (policyName : String) (scope : Option String) : ObjectKey :=
  ⟨if scope = none then .clusterRole else .role, scope,
    policyName ++ "-" ++ scopeSuffix scope⟩

/-- Where the binding of a scope is stored. -/
def scopeBindingKey (policyName : String) (scope : Option String) :
    ObjectKey :=
  ⟨if scope = none then .clusterRoleBinding else .roleBinding, scope,
    policyName ++ "-" ++ scopeSuffix scope ++ "-binding"⟩

/-- A key under which policies of this name are stored. -/
def NamedFor (policyName : String) (key : ObjectKey) : Prop :=
  ∃ scope, key = scopeRoleKey policyName scope ∨
    key = scopeBindingKey policyName scope

theorem scopeRoleKey_ne_scopeBindingKey (first second : String)
    (left right : Option String) :
    scopeRoleKey first left ≠ scopeBindingKey second right := by
  intro same
  have kinds := congrArg ObjectKey.kind same
  cases left <;> cases right <;> simp [scopeRoleKey, scopeBindingKey] at kinds

theorem scopeRoleKey_inj {first second : String}
    {left right : Option String} :
    scopeRoleKey first left = scopeRoleKey second right ↔
      first = second ∧ left = right := by
  constructor
  · intro same
    have scopes : left = right := congrArg ObjectKey.namespace same
    subst scopes
    have names := congrArg ObjectKey.name same
    simp only [scopeRoleKey, String.append_assoc, String.append_left_inj]
      at names
    exact ⟨names, rfl⟩
  · intro ⟨names, scopes⟩
    rw [names, scopes]

theorem scopeBindingKey_inj {first second : String}
    {left right : Option String} :
    scopeBindingKey first left = scopeBindingKey second right ↔
      first = second ∧ left = right := by
  constructor
  · intro same
    have scopes : left = right := congrArg ObjectKey.namespace same
    subst scopes
    have names := congrArg ObjectKey.name same
    simp only [scopeBindingKey, String.append_assoc, String.append_left_inj]
      at names
    exact ⟨names, rfl⟩
  · intro ⟨names, scopes⟩
    rw [names, scopes]

theorem NamedFor.unique {first second : String} {key : ObjectKey}
    (left : NamedFor first key) (right : NamedFor second key) :
    first = second := by
  obtain ⟨leftScope, rfl | rfl⟩ := left
  · obtain ⟨rightScope, same | same⟩ := right
    · exact (scopeRoleKey_inj.mp same).1
    · exact absurd same (scopeRoleKey_ne_scopeBindingKey _ _ _ _)
  · obtain ⟨rightScope, same | same⟩ := right
    · exact absurd same.symm (scopeRoleKey_ne_scopeBindingKey _ _ _ _)
    · exact (scopeBindingKey_inj.mp same).1

theorem NamedFor.isPrefix {policyName : String} {key : ObjectKey}
    (named : NamedFor policyName key) :
    policyName.toList <+: key.name.toList := by
  obtain ⟨scope, rfl | rfl⟩ := named
  · simp only [scopeRoleKey, String.append_assoc, String.toList_append]
    exact List.prefix_append _ _
  · simp only [scopeBindingKey, String.append_assoc, String.toList_append]
    exact List.prefix_append _ _

variable {policy : Policy}

theorem objectKey_generatedRole (item : Option String × List Permission) :
    objectKey (.role (generatedRole policy item)) =
      scopeRoleKey policy.name item.1 := by
  obtain ⟨scope, permissions⟩ := item
  cases scope <;> rfl

theorem objectKey_generatedBinding (scope : Option String) :
    objectKey (.binding (generatedBinding policy scope)) =
      scopeBindingKey policy.name scope := by
  cases scope <;> rfl

theorem referencedKey_generatedBinding (scope : Option String) :
    referencedKey (generatedBinding policy scope) =
      scopeRoleKey policy.name scope := by
  cases scope <;> rfl

theorem mem_generatedObjects_iff {object : ParsedObject} :
    object ∈ generatedObjects policy ↔
      ∃ item ∈ groupedScopes policy,
        object = .role (generatedRole policy item) ∨
          object = .binding (generatedBinding policy item.1) := by
  simp only [generatedObjects, List.mem_flatMap, List.mem_cons,
    List.not_mem_nil, or_false]

theorem namedFor_of_mem_generatedObjects {object : ParsedObject}
    (member : object ∈ generatedObjects policy) :
    NamedFor policy.name (objectKey object) := by
  obtain ⟨item, -, rfl | rfl⟩ := mem_generatedObjects_iff.mp member
  · exact ⟨item.1, Or.inl (objectKey_generatedRole item)⟩
  · exact ⟨item.1, Or.inr (objectKey_generatedBinding item.1)⟩

theorem groupedScopes_scopesNodup (policy : Policy) :
    ((groupedScopes policy).map Prod.fst).Nodup :=
  ((sortBy_perm _ _).map Prod.fst).nodup_iff.mpr (OrderedDict.keysNodup _)

theorem generatedObjects_keysNodup (policy : Policy) :
    ((generatedObjects policy).map objectKey).Nodup := by
  have keys : (generatedObjects policy).map objectKey =
      ((groupedScopes policy).map Prod.fst).flatMap fun scope =>
        [scopeRoleKey policy.name scope, scopeBindingKey policy.name scope] := by
    simp only [generatedObjects, List.map_flatMap, List.flatMap_map,
      List.map_cons, List.map_nil, objectKey_generatedRole,
      objectKey_generatedBinding]
  rw [keys, List.nodup_flatMap]
  constructor
  · intro scope _
    simp [scopeRoleKey_ne_scopeBindingKey]
  · apply (groupedScopes_scopesNodup policy).imp
    intro left right different key inLeft inRight
    simp only [List.mem_cons, List.not_mem_nil, or_false] at inLeft inRight
    have scopes : key.namespace = left ∧ key.namespace = right := by
      constructor
      · rcases inLeft with rfl | rfl <;> rfl
      · rcases inRight with rfl | rfl <;> rfl
    exact different (scopes.1.symm.trans scopes.2)

/-- A policy that can be written and read back without loss, and whose
bindings are about this account. -/
structure Enforceable (account : ServiceAccountRef) (policy : Policy) :
    Prop where
  writable : policy.Writable
  named : ∀ permission ∈ policy.permissions,
    permission.resourceName ≠ some ""
  subject : ∀ permission ∈ policy.permissions,
    account ∈ (generatedBinding policy permission.namespace).subjects

/-- A policy resolved from an accepted manifest can be written and read back. -/
theorem resolveEffectivePolicy_enforceable {parsed : ParsedRbac}
    (wellFormed : parsed.WellFormed) (account : ServiceAccountRef) :
    Enforceable account (resolveEffectivePolicy parsed account) := by
  constructor
  · intro permission member
    obtain ⟨resource, verb, scope, -⟩ := resolved_expressible wellFormed member
    obtain ⟨named, located⟩ := resolved_account wellFormed member
    refine ⟨⟨resource, verb, scope⟩, named, ?_⟩
    simp [generatedSubject, resolveEffectivePolicy, Policy.build, orElse,
      located]
  · intro permission member
    exact (resolved_expressible wellFormed member).name
  · intro permission member
    exact mem_subjects_generatedBinding
      (resolved_account wellFormed member).2 _

theorem Cluster.grants_generated_iff {cluster : Cluster}
    {binding : BindingObject} {item : Option String × List Permission}
    (named : ∀ permission ∈ policy.permissions,
      permission.resourceName ≠ some "")
    (member : item ∈ groupedScopes policy)
    (held : cluster.get? (referencedKey binding) =
      some (.role (generatedRole policy item))) {key : PermissionKey} :
    cluster.Grants binding key ↔
      ∃ permission ∈ policy.permissions, permission.namespace = item.1 ∧
        keyInScope (bindingScope binding) permission = key := by
  simp only [Cluster.Grants, held, Option.some.injEq, ParsedObject.role.injEq,
    exists_eq_left', generatedRole_grants_iff named member]

end Kuber.Runtime

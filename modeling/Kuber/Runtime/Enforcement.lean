import Kuber.Runtime.AdapterEffects

/-!
# Enforcement over delivery attempts

Every delivery attempt works with a new adapter, so what an earlier attempt
has left in the cluster is only removed if a later call happens to write or
delete the same keys.  The objects that can be left are the generated ones,
and an applied policy is enforced alone exactly when none of them grants more.
-/

namespace Kuber.Runtime

open Kuber.Library Kuber.Rules

namespace KubernetesEnvironment

def candidateName (environment : KubernetesEnvironment) : String :=
  environment.settings.serviceAccount ++ "-kuber"

def effectiveName (environment : KubernetesEnvironment) : String :=
  environment.settings.serviceAccount ++ "-effective"

/-- A policy as the repair loop builds it for the account. -/
structure Candidate (environment : KubernetesEnvironment) (policy : Policy) :
    Prop where
  name : policy.name = environment.candidateName
  serviceAccount : policy.serviceAccount = environment.settings.serviceAccount
  «namespace» :
    policy.serviceAccountNamespace = environment.settings.namespace

/-- A key that is generated for the account. -/
def Generates (environment : KubernetesEnvironment) (key : ObjectKey) : Prop :=
  NamedFor environment.candidateName key ∨
    NamedFor environment.effectiveName key

theorem not_generates {environment : KubernetesEnvironment} {key : ObjectKey}
    (notCandidate :
      ¬environment.candidateName.toList <+: key.name.toList)
    (notEffective :
      ¬environment.effectiveName.toList <+: key.name.toList) :
    ¬environment.Generates key := by
  intro generates
  rcases generates with candidate | effective
  · exact notCandidate candidate.isPrefix
  · exact notEffective effective.isPrefix

/-- A manifest in which the account is bound by the original binding only, and
in which no generated name occurs. -/
structure InitialManifest (environment : KubernetesEnvironment)
    (objects : List ParsedObject) : Prop where
  bound : ∀ binding, .binding binding ∈ objects →
    environment.account ∈ binding.subjects →
      objectKey (.binding binding) = environment.originalRoleBindingKey ∨
        objectKey (.binding binding) =
          environment.originalClusterRoleBindingKey
  fresh : ∀ object ∈ objects, ¬environment.Generates (objectKey object)
  freshRoleBinding :
    ¬environment.Generates environment.originalRoleBindingKey
  freshClusterRoleBinding :
    ¬environment.Generates environment.originalClusterRoleBindingKey

/-- A policy whose objects the adapter may have written. -/
structure Writes (environment : KubernetesEnvironment) (policy : Policy) :
    Prop where
  enforceable : Enforceable environment.account policy
  source : environment.Candidate policy ∨ policy = environment.originalPolicy

/-- The adapter is about the effective policy of its account. -/
def ForAccount (environment : KubernetesEnvironment) : Prop :=
  environment.originalPolicy.name = environment.effectiveName ∧
    Enforceable environment.account environment.originalPolicy

variable {environment : KubernetesEnvironment} {policy : Policy}
  {objects : List ParsedObject} {cluster : Cluster}

theorem create_ok {settings : KubernetesSettings} {manifest : List Json}
    {probe : SandboxProbe} (created : create settings manifest probe =
      .ok environment) (parsed : parseObjects manifest = .ok objects) :
    environment.originalPolicy = resolveEffectivePolicy
        (ParsedRbac.ofObjects objects) environment.account ∧
      environment.ForAccount := by
  simp only [create, bind_eq_ok_iff, pure_eq_ok_iff] at created
  obtain ⟨rbac, accepted, _, -, rfl⟩ := created
  obtain ⟨others, othersOk, rfl⟩ := parseRbac_eq_ok_iff.mp accepted
  rw [parsed] at othersOk
  cases othersOk
  exact ⟨rfl, rfl, resolveEffectivePolicy_enforceable
    (parseRbac_wellFormed accepted) _⟩

theorem candidateName_ne_effectiveName (environment : KubernetesEnvironment) :
    environment.candidateName ≠ environment.effectiveName := by
  simp [candidateName, effectiveName]

/-- The calls on the adapters of one account; every delivery attempt creates a
new one. -/
inductive AdapterCall where
  | create
  | apply (policy : Policy)
  | restore

/-- The state after a call, whether it returned or raised. -/
def afterCall (environment : KubernetesEnvironment)
    (state : KubernetesState) : AdapterCall → KubernetesState
  | .create => environment.opened state.cluster state.outcomes
  | .apply policy => (environment.applyPolicy policy state).2
  | .restore => (environment.restorePolicy state).2

def afterCalls (environment : KubernetesEnvironment)
    (state : KubernetesState) (calls : List AdapterCall) : KubernetesState :=
  calls.foldl environment.afterCall state

/-- One call keeps the composition of the cluster. -/
theorem composed_afterCall {state : KubernetesState}
    (account : environment.ForAccount)
    (composed : Composed environment.Writes objects state.cluster)
    {call : AdapterCall}
    (candidate : ∀ policy, call = .apply policy →
      environment.Candidate policy) :
    Composed environment.Writes objects
      (environment.afterCall state call).cluster := by
  cases call with
  | create => exact composed
  | apply policy =>
      apply composed.applyPolicy
      intro validated
      exact ⟨enforceable_of_validatePolicy validated,
        Or.inl (candidate policy rfl)⟩
  | restore =>
      exact composed.gains ⟨account.2, Or.inr rfl⟩
        (environment.restorePolicy_gains state)

theorem composed_afterCalls {state : KubernetesState}
    (account : environment.ForAccount) {calls : List AdapterCall}
    (composed : Composed environment.Writes objects state.cluster)
    (candidates : ∀ policy, .apply policy ∈ calls →
      environment.Candidate policy) :
    Composed environment.Writes objects
      (environment.afterCalls state calls).cluster := by
  induction calls generalizing state with
  | nil => exact composed
  | cons call calls induction =>
      apply induction
      · apply composed_afterCall account composed
        intro policy same
        exact candidates policy (same ▸ List.mem_cons_self)
      · intro policy later
        exact candidates policy (List.mem_cons_of_mem call later)

theorem Writes.named (writes : environment.Writes policy)
    (account : environment.ForAccount) :
    policy.name = environment.candidateName ∨
      policy = environment.originalPolicy ∧
        policy.name = environment.effectiveName := by
  rcases writes.source with candidate | rfl
  · exact Or.inl candidate.name
  · exact Or.inr ⟨rfl, account.1⟩

theorem Writes.generates (writes : environment.Writes policy)
    (account : environment.ForAccount) {key : ObjectKey}
    (named : NamedFor policy.name key) : environment.Generates key := by
  rcases writes.named account with candidate | ⟨-, effective⟩
  · exact Or.inl (candidate ▸ named)
  · exact Or.inr (effective ▸ named)

section

variable {policies : Policy → Prop}
  (fresh : ∀ object ∈ objects, ¬environment.Generates (objectKey object))
  (composed : Composed policies objects cluster)

include fresh composed

theorem generated_at {name : String} {object : ParsedObject}
    (known : name = environment.candidateName ∨
      name = environment.effectiveName)
    (named : NamedFor name (objectKey object))
    (holds : cluster.Holds object) :
    ∃ policy, policies policy ∧ policy.name = name ∧
      object ∈ generatedObjects policy := by
  rcases composed object holds with written | ⟨policy, source, generated⟩
  · have generates : environment.Generates (objectKey object) := by
      rcases known with rfl | rfl
      · exact Or.inl named
      · exact Or.inr named
    exact absurd generates (fresh object written)
  · exact ⟨policy, source,
      (namedFor_of_mem_generatedObjects generated).unique named, generated⟩

theorem role_at {name : String} {scope : Option String}
    {object : ParsedObject}
    (known : name = environment.candidateName ∨
      name = environment.effectiveName)
    (held : cluster.get? (scopeRoleKey name scope) = some object) :
    ∃ policy item, policies policy ∧ policy.name = name ∧
      item ∈ groupedScopes policy ∧ item.1 = scope ∧
      object = .role (generatedRole policy item) := by
  obtain ⟨sameKey, holds⟩ := Cluster.get?_eq_some_iff.mp held
  obtain ⟨policy, source, rfl, generated⟩ := generated_at fresh composed
    known (sameKey ▸ ⟨scope, Or.inl rfl⟩) holds
  obtain ⟨item, member, rfl | rfl⟩ := mem_generatedObjects_iff.mp generated
  · rw [objectKey_generatedRole, scopeRoleKey_inj] at sameKey
    exact ⟨policy, item, source, rfl, member, sameKey.2, rfl⟩
  · rw [objectKey_generatedBinding] at sameKey
    exact absurd sameKey.symm (scopeRoleKey_ne_scopeBindingKey _ _ _ _)

theorem binding_at {name : String} {scope : Option String}
    {object : ParsedObject}
    (known : name = environment.candidateName ∨
      name = environment.effectiveName)
    (held : cluster.get? (scopeBindingKey name scope) = some object) :
    ∃ policy item, policies policy ∧ policy.name = name ∧
      item ∈ groupedScopes policy ∧ item.1 = scope ∧
      object = .binding (generatedBinding policy scope) := by
  obtain ⟨sameKey, holds⟩ := Cluster.get?_eq_some_iff.mp held
  obtain ⟨policy, source, rfl, generated⟩ := generated_at fresh composed
    known (sameKey ▸ ⟨scope, Or.inr rfl⟩) holds
  obtain ⟨item, member, rfl | rfl⟩ := mem_generatedObjects_iff.mp generated
  · rw [objectKey_generatedRole] at sameKey
    exact absurd sameKey (scopeRoleKey_ne_scopeBindingKey _ _ _ _)
  · rw [objectKey_generatedBinding, scopeBindingKey_inj] at sameKey
    exact ⟨policy, item, source, rfl, member, sameKey.2, by rw [sameKey.2]⟩

end

/-- A policy that has a permission in this scope. -/
def HasScope (policy : Policy) (scope : Option String) : Prop :=
  ∃ permission ∈ policy.permissions, permission.namespace = scope

theorem hasScope_of_mem_groupedScopes
    {item : Option String × List Permission}
    (member : item ∈ groupedScopes policy) : HasScope policy item.1 :=
  (mem_groupedScopes_iff.mp member).1

theorem hasScope_of_mem_keys {key : PermissionKey}
    (member : key ∈ policy.keys) : HasScope policy key.2.2.2.1 := by
  obtain ⟨permission, inPolicy, rfl⟩ := List.mem_map.mp member
  exact ⟨permission, inPolicy, rfl⟩

theorem HasScope.mono {larger : Policy} {scope : Option String}
    (occurs : HasScope policy scope) (subset : policy.keys ⊆ larger.keys) :
    HasScope larger scope := by
  obtain ⟨permission, member, rfl⟩ := occurs
  exact hasScope_of_mem_keys (subset (Policy.mem_keys_of_mem member))

theorem mem_keys_generatedObjects_iff {name : String} {scope : Option String}
    {key : ObjectKey}
    (named : key = scopeRoleKey name scope ∨ key = scopeBindingKey name scope) :
    key ∈ (generatedObjects policy).map objectKey ↔
      policy.name = name ∧ HasScope policy scope := by
  constructor
  · intro member
    obtain ⟨object, generated, sameKey⟩ := List.mem_map.mp member
    obtain ⟨item, grouped, rfl | rfl⟩ := mem_generatedObjects_iff.mp generated
    · rw [objectKey_generatedRole] at sameKey
      rcases named with rfl | rfl
      · obtain ⟨names, scopes⟩ := scopeRoleKey_inj.mp sameKey
        exact ⟨names, scopes ▸ hasScope_of_mem_groupedScopes grouped⟩
      · exact absurd sameKey (scopeRoleKey_ne_scopeBindingKey _ _ _ _)
    · rw [objectKey_generatedBinding] at sameKey
      rcases named with rfl | rfl
      · exact absurd sameKey.symm (scopeRoleKey_ne_scopeBindingKey _ _ _ _)
      · obtain ⟨names, scopes⟩ := scopeBindingKey_inj.mp sameKey
        exact ⟨names, scopes ▸ hasScope_of_mem_groupedScopes grouped⟩
  · intro ⟨names, occurs⟩
    have grouped := mem_groupedScopes_iff.mpr ⟨occurs, Eq.refl _⟩
    rcases named with rfl | rfl
    · refine List.mem_map.mpr ⟨_, mem_generatedObjects_iff.mpr
        ⟨_, grouped, Or.inl rfl⟩, ?_⟩
      rw [objectKey_generatedRole, names]
    · refine List.mem_map.mpr ⟨_, mem_generatedObjects_iff.mpr
        ⟨_, grouped, Or.inr rfl⟩, ?_⟩
      rw [objectKey_generatedBinding, names]

/-- The role and the binding of a scope are both in the cluster. -/
def HasPair (cluster : Cluster) (name : String) (scope : Option String) :
    Prop :=
  cluster.get? (scopeRoleKey name scope) ≠ none ∧
    cluster.get? (scopeBindingKey name scope) ≠ none

/-- What no earlier call may have left when `policy` is applied: a pair of
candidate objects in a scope that the policy does not write, or a restored
pair with a permission that the policy does not have. -/
def NothingLeft (environment : KubernetesEnvironment) (policy : Policy)
    (cluster : Cluster) : Prop :=
  (∀ scope, HasPair cluster environment.candidateName scope →
    HasScope policy scope) ∧
  ∀ scope, HasPair cluster environment.effectiveName scope →
    ∀ permission ∈ environment.originalPolicy.permissions,
      permission.namespace = scope → permission.key ∈ policy.keys

theorem mem_keys_of_holds_pair {roleSource bindingSource : Policy}
    {item : Option String × List Permission}
    (sameName : bindingSource.name = roleSource.name)
    (enforceable : Enforceable environment.account roleSource)
    (grouped : item ∈ groupedScopes roleSource)
    (role : cluster.Holds (.role (generatedRole roleSource item)))
    (binding : cluster.Holds
      (.binding (generatedBinding bindingSource item.1)))
    (subject : environment.account ∈
      (generatedBinding bindingSource item.1).subjects)
    {permission : Permission} (member : permission ∈ roleSource.permissions)
    (scope : permission.namespace = item.1) :
    permission.key ∈ (cluster.policy environment.account).keys := by
  refine Cluster.mem_keys_policy_iff.mpr ⟨_, binding, subject, ?_⟩
  have held : cluster.get? (referencedKey
      (generatedBinding bindingSource item.1)) =
        some (.role (generatedRole roleSource item)) := by
    rw [referencedKey_generatedBinding, sameName,
      ← objectKey_generatedRole]
    exact role
  rw [Cluster.grants_generated_iff enforceable.named grouped held]
  refine ⟨permission, member, scope, ?_⟩
  rw [bindingScope_generatedBinding, ← scope]
  rfl

section

variable (initial : environment.InitialManifest objects)
  (composed : Composed environment.Writes objects cluster)

include initial composed

/-- A pair in the cluster grants the permissions of some policy. -/
theorem pair_grants {name : String} {scope : Option String}
    (known : name = environment.candidateName ∨
      name = environment.effectiveName)
    (pair : HasPair cluster name scope) :
    ∃ policy, environment.Writes policy ∧ policy.name = name ∧
      HasScope policy scope ∧
      ∀ permission ∈ policy.permissions, permission.namespace = scope →
        permission.key ∈ (cluster.policy environment.account).keys := by
  obtain ⟨roleObject, roleHeld⟩ := Option.ne_none_iff_exists'.mp pair.1
  obtain ⟨bindingObject, bindingHeld⟩ := Option.ne_none_iff_exists'.mp pair.2
  obtain ⟨policy, item, writes, rfl, grouped, rfl, rfl⟩ :=
    role_at initial.fresh composed known roleHeld
  obtain ⟨other, otherItem, otherWrites, otherName, otherGrouped, sameScope,
    rfl⟩ := binding_at initial.fresh composed known bindingHeld
  have occurs := hasScope_of_mem_groupedScopes grouped
  refine ⟨policy, writes, rfl, occurs, ?_⟩
  intro permission member inScope
  apply mem_keys_of_holds_pair otherName writes.enforceable grouped
    (Cluster.get?_eq_some_iff.mp roleHeld).2
    (Cluster.get?_eq_some_iff.mp bindingHeld).2 ?_ member inScope
  obtain ⟨witness, witnessMember, witnessScope⟩ :=
    hasScope_of_mem_groupedScopes otherGrouped
  rw [← sameScope, ← witnessScope]
  exact otherWrites.enforceable.subject witness witnessMember

end

theorem key_mem_of_granted
    {item : Option String × List Permission}
    (named : ∀ permission ∈ policy.permissions,
      permission.resourceName ≠ some "")
    (grouped : item ∈ groupedScopes policy) {key : PermissionKey}
    (granted : ∃ rule ∈ (generatedRole policy item).rules,
      RuleGrants item.1 rule key) : key ∈ policy.keys := by
  rw [generatedRole_grants_iff named grouped] at granted
  obtain ⟨permission, member, scope, rfl⟩ := granted
  rw [← scope]
  exact Policy.mem_keys_of_mem member

section

variable (account : environment.ForAccount)
  (initial : environment.InitialManifest objects)

include initial

theorem originalKeys_not_generated {key : ObjectKey}
    (generates : environment.Generates key) :
    key ≠ environment.originalRoleBindingKey ∧
      key ≠ environment.originalClusterRoleBindingKey := by
  constructor
  · intro same
    exact initial.freshRoleBinding (same ▸ generates)
  · intro same
    exact initial.freshClusterRoleBinding (same ▸ generates)

theorem get?_enforced_of_not_mem {key : ObjectKey}
    (generates : environment.Generates key)
    (other : key ∉ (generatedObjects policy).map objectKey) :
    (environment.enforced policy cluster).get? key = cluster.get? key := by
  obtain ⟨notRole, notCluster⟩ :=
    originalKeys_not_generated initial generates
  rw [enforced, Cluster.get?_remove, if_neg notCluster, Cluster.get?_remove,
    if_neg notRole, Cluster.get?_applyAll_of_not_mem other]

theorem hasPair_enforced_iff {name : String} {scope : Option String}
    (known : name = environment.candidateName ∨
      name = environment.effectiveName)
    (other : ¬(policy.name = name ∧ HasScope policy scope)) :
    HasPair (environment.enforced policy cluster) name scope ↔
      HasPair cluster name scope := by
  have generates : ∀ key, NamedFor name key → environment.Generates key := by
    intro key named
    rcases known with rfl | rfl
    · exact Or.inl named
    · exact Or.inr named
  have roleKept := @get?_enforced_of_not_mem environment policy objects
    cluster initial (scopeRoleKey name scope)
    (generates _ ⟨scope, Or.inl rfl⟩)
    fun member => other
      ((mem_keys_generatedObjects_iff (Or.inl rfl)).mp member)
  have bindingKept := @get?_enforced_of_not_mem environment policy objects
    cluster initial (scopeBindingKey name scope)
    (generates _ ⟨scope, Or.inr rfl⟩)
    fun member => other
      ((mem_keys_generatedObjects_iff (Or.inr rfl)).mp member)
  rw [HasPair, roleKept, bindingKept, HasPair]

include account

theorem holds_enforced {object : ParsedObject}
    (writes : environment.Writes policy)
    (member : object ∈ generatedObjects policy) :
    (environment.enforced policy cluster).Holds object := by
  have generates := writes.generates account
    (namedFor_of_mem_generatedObjects member)
  obtain ⟨notRole, notCluster⟩ :=
    originalKeys_not_generated initial generates
  exact Cluster.holds_remove_iff.mpr ⟨notCluster,
    Cluster.holds_remove_iff.mpr ⟨notRole,
      Cluster.holds_applyAll_of_mem (generatedObjects_keysNodup policy)
        member⟩⟩

/-- An applied policy is always enforced; the question is what else is. -/
theorem keys_subset_enforced (writes : environment.Writes policy) :
    policy.keys ⊆ ((environment.enforced policy cluster).policy
      environment.account).keys := by
  intro key keyMember
  obtain ⟨permission, member, rfl⟩ := List.mem_map.mp keyMember
  have grouped := mem_groupedScopes_iff.mpr
    ⟨⟨permission, member, rfl⟩, Eq.refl _⟩
  exact mem_keys_of_holds_pair rfl writes.enforceable grouped
    (holds_enforced account initial writes
      (mem_generatedObjects_iff.mpr ⟨_, grouped, Or.inl rfl⟩))
    (holds_enforced account initial writes
      (mem_generatedObjects_iff.mpr ⟨_, grouped, Or.inr rfl⟩))
    (writes.enforceable.subject permission member) member rfl

/-- After an application nothing but the policy and what was left before is
granted. -/
theorem enforced_subset_keys
    (composed : Composed environment.Writes objects cluster)
    (writes : environment.Writes policy)
    (named : policy.name = environment.candidateName)
    (nothing : environment.NothingLeft policy cluster) :
    ((environment.enforced policy cluster).policy environment.account).keys ⊆
      policy.keys := by
  have after : Composed environment.Writes objects
      (environment.enforced policy cluster) :=
    composed.gains writes gains_enforced
  intro key keyMember
  obtain ⟨binding, held, subject, role, roleHeld, granted⟩ :=
    Cluster.mem_keys_policy_iff.mp keyMember
  rcases after _ held with original | ⟨source, sourceWrites, generated⟩
  · -- the bindings of the manifest were deleted
    have kept := Cluster.holds_remove_iff.mp held
    have keptRole := Cluster.holds_remove_iff.mp kept.2
    rcases initial.bound binding original subject with same | same
    · exact absurd same keptRole.1
    · exact absurd same kept.1
  · obtain ⟨item, grouped, impossible | same⟩ :=
      mem_generatedObjects_iff.mp generated
    · cases impossible
    cases same
    rw [referencedKey_generatedBinding] at roleHeld
    rw [bindingScope_generatedBinding] at granted
    by_cases rewritten : policy.name = source.name ∧ HasScope policy item.1
    · -- the reference leads to the role that was just written
      have ownGrouped := mem_groupedScopes_iff.mpr
        ⟨rewritten.2, Eq.refl _⟩
      have ownRole : (environment.enforced policy cluster).Holds _ :=
        holds_enforced account initial writes
          (mem_generatedObjects_iff.mpr ⟨_, ownGrouped, Or.inl rfl⟩)
      rw [Cluster.Holds, objectKey_generatedRole, rewritten.1, roleHeld]
        at ownRole
      cases ownRole
      exact key_mem_of_granted writes.enforceable.named ownGrouped granted
    · have known := (sourceWrites.named account).imp id And.right
      have pair : HasPair cluster source.name item.1 := by
        rw [← hasPair_enforced_iff initial known rewritten, HasPair,
          ← objectKey_generatedBinding, held, roleHeld]
        simp
      rcases known with candidate | effective
      · -- a candidate that an earlier attempt has left
        rw [candidate] at pair rewritten
        exact absurd ⟨named, nothing.1 _ pair⟩ rewritten
      · -- an original permission that a restoration has written
        rw [effective] at pair roleHeld
        obtain ⟨roleSource, roleItem, roleWrites, sameName, roleGrouped,
          sameScope, written⟩ := role_at initial.fresh after (Or.inr rfl) roleHeld
        cases written
        rcases roleWrites.named account with impossible | ⟨rfl, -⟩
        · rw [sameName] at impossible
          exact absurd impossible.symm
            environment.candidateName_ne_effectiveName
        · rw [generatedRole_grants_iff roleWrites.enforceable.named
            roleGrouped] at granted
          obtain ⟨permission, member, scope, rfl⟩ := granted
          rw [← sameScope, ← scope]
          rw [sameScope] at scope
          exact nothing.2 _ pair permission member scope

/-- Conversely, what was left is granted and has to be part of the policy. -/
theorem nothingLeft_of_enforced
    (composed : Composed environment.Writes objects cluster)
    (writes : environment.Writes policy)
    (named : policy.name = environment.candidateName)
    (alone : ((environment.enforced policy cluster).policy
      environment.account).keys ⊆ policy.keys) :
    environment.NothingLeft policy cluster := by
  have after : Composed environment.Writes objects
      (environment.enforced policy cluster) :=
    composed.gains writes gains_enforced
  constructor
  · intro scope pair
    by_contra absent
    rw [← hasPair_enforced_iff initial (Or.inl rfl)
      fun rewritten => absent rewritten.2] at pair
    obtain ⟨source, -, -, ⟨permission, member, inScope⟩, grants⟩ :=
      pair_grants initial after (Or.inl rfl) pair
    apply absent
    rw [← inScope]
    exact hasScope_of_mem_keys (alone (grants permission member inScope))
  · intro scope pair permission member inScope
    have different : policy.name ≠ environment.effectiveName :=
      named ▸ environment.candidateName_ne_effectiveName
    rw [← hasPair_enforced_iff initial (Or.inr rfl)
      fun rewritten => different rewritten.1] at pair
    obtain ⟨source, sourceWrites, sourceName, -, grants⟩ :=
      pair_grants initial after (Or.inr rfl) pair
    rcases sourceWrites.named account with impossible | ⟨rfl, -⟩
    · exact absurd (impossible.symm.trans sourceName)
        environment.candidateName_ne_effectiveName
    · exact alone (grants permission member inScope)

end

/-- A live candidate is enforced alone exactly when no earlier call of any
attempt has left a pair of objects that grants more: in any sequence of calls,
with any outcomes of their commands, an application that returns makes the
account's effective policy equal to the applied one if and only if nothing was
left before it. -/
theorem applied_policy_is_enforced_iff
    {settings : KubernetesSettings} {manifest : List Json}
    {probe : SandboxProbe} {environment : KubernetesEnvironment}
    {objects : List ParsedObject} {outcomes : List Outcome}
    {calls : List AdapterCall} {policy : Policy} {after : KubernetesState}
    (created : create settings manifest probe = .ok environment)
    (parsed : parseObjects manifest = .ok objects)
    (initial : environment.InitialManifest objects)
    (candidates : ∀ earlier, .apply earlier ∈ calls →
      environment.Candidate earlier)
    (candidate : environment.Candidate policy)
    (applied : environment.applyPolicy policy (environment.afterCalls
      (environment.opened (deployed objects) outcomes) calls) =
        (.ok (), after)) :
    (after.cluster.policy environment.account).keys = policy.keys ↔
      environment.NothingLeft policy (environment.afterCalls
        (environment.opened (deployed objects) outcomes) calls).cluster := by
  have account := (create_ok created parsed).2
  have start : Composed environment.Writes objects
      (environment.opened (deployed objects) outcomes).cluster :=
    composed_deployed
  have composed := composed_afterCalls account start candidates
  have ends := environment.applyPolicy_ends policy (environment.afterCalls
    (environment.opened (deployed objects) outcomes) calls)
  rw [applied] at ends
  obtain ⟨validated, written, -⟩ := ends
  have writes : environment.Writes policy :=
    ⟨enforceable_of_validatePolicy validated, Or.inl candidate⟩
  rw [written]
  constructor
  · intro same
    exact nothingLeft_of_enforced account initial composed writes
      candidate.name same.subset
  · intro nothing
    apply Set.Subset.antisymm
    · exact enforced_subset_keys account initial composed writes candidate.name
        nothing
    · exact keys_subset_enforced account initial writes

def shopSettings : KubernetesSettings where
  «namespace» := "shop"
  serviceAccount := "web"
  workloadId := "web"
  originalBindingName := "overprivileged"

def kindSandbox : SandboxProbe := ⟨some "kind-kuber", some "true"⟩

/-- A role and the only binding of the account `web`. -/
def shopManifest : List Json :=
  [.mapping
    [("kind", .string "Role"),
      ("metadata", .mapping
        [("name", .string "reader"), ("namespace", .string "shop")]),
      ("rules", .list [.mapping
        [("resources", .list [.string "pods"]),
          ("verbs", .list [.string "get", .string "list"])]])],
    .mapping
      [("kind", .string "RoleBinding"),
        ("metadata", .mapping
          [("name", .string "overprivileged"),
            ("namespace", .string "shop")]),
        ("roleRef", .mapping
          [("apiGroup", .string "rbac.authorization.k8s.io"),
            ("kind", .string "Role"), ("name", .string "reader")]),
        ("subjects", .list [.mapping
          [("kind", .string "ServiceAccount"), ("name", .string "web"),
            ("namespace", .string "shop")]])]]

def shopObjects : List ParsedObject :=
  [.role ⟨"reader", some "shop", [⟨[""], ["pods"], ["get", "list"], []⟩],
      false⟩,
    .binding ⟨"overprivileged", some "shop", "reader", .role,
      [⟨"web", "shop"⟩], false⟩]

def shopEnvironment : KubernetesEnvironment :=
  ⟨shopSettings, resolveEffectivePolicy (ParsedRbac.ofObjects shopObjects)
    ⟨"web", "shop"⟩, true, false⟩

theorem shopObjects_initial : shopEnvironment.InitialManifest shopObjects := by
  refine ⟨?_, ?_, not_generates (by decide) (by decide),
    not_generates (by decide) (by decide)⟩
  · intro binding member _
    simp only [shopObjects, List.mem_cons, reduceCtorEq, List.not_mem_nil,
      or_false, false_or] at member
    rw [member]
    exact Or.inl rfl
  · intro object member
    simp only [shopObjects, List.mem_cons, List.not_mem_nil, or_false]
      at member
    rcases member with rfl | rfl
    · exact not_generates (by decide) (by decide)
    · exact not_generates (by decide) (by decide)

/-- The candidate that keeps one of the two verbs. -/
def listPods : Policy :=
  Policy.build [⟨"", "pods", "list", some "shop", none, none⟩] "web-kuber"
    "web" "shop"

theorem listPods_candidate : shopEnvironment.Candidate listPods :=
  ⟨rfl, rfl, rfl⟩

/-- A first attempt that is rolled back, and the creation of the adapter for
the second attempt. -/
def secondAttempt : List AdapterCall :=
  [.create, .apply listPods, .restore, .create]

/-- After a rollback the next attempt does not enforce its candidate: the
restored grants stay, so the account may still get pods. -/
theorem second_attempt_is_not_enforced :
    create shopSettings shopManifest kindSandbox = .ok shopEnvironment ∧
      parseObjects shopManifest = .ok shopObjects ∧
      shopEnvironment.InitialManifest shopObjects ∧
      shopEnvironment.Candidate listPods ∧
      ∃ after,
        shopEnvironment.applyPolicy listPods (shopEnvironment.afterCalls
          (shopEnvironment.opened (deployed shopObjects) []) secondAttempt) =
            (.ok (), after) ∧
        (after.cluster.policy shopEnvironment.account).keys ≠
          listPods.keys := by
  refine ⟨rfl, rfl, shopObjects_initial, listPods_candidate, _, rfl, ?_⟩
  intro same
  have getPods : ("", "pods", "get", some "shop", none) ∈ listPods.keys := by
    rw [← same, Policy.mem_keys]
    decide +kernel
  rw [Policy.mem_keys] at getPods
  revert getPods
  decide

/-- The second attempt is not enforced because of what the first has left. -/
theorem applied_policy_is_enforced_iff_secondAttempt :
    ∃ after,
      shopEnvironment.applyPolicy listPods (shopEnvironment.afterCalls
        (shopEnvironment.opened (deployed shopObjects) []) secondAttempt) =
          (.ok (), after) ∧
      ((after.cluster.policy shopEnvironment.account).keys = listPods.keys ↔
        shopEnvironment.NothingLeft listPods (shopEnvironment.afterCalls
          (shopEnvironment.opened (deployed shopObjects) [])
            secondAttempt).cluster) := by
  have candidates : ∀ earlier, .apply earlier ∈ secondAttempt →
      shopEnvironment.Candidate earlier := by
    intro earlier member
    simp only [secondAttempt, List.mem_cons, reduceCtorEq,
      AdapterCall.apply.injEq, List.not_mem_nil, or_false, false_or] at member
    rw [member]
    exact listPods_candidate
  obtain ⟨after, applied⟩ : ∃ after,
      shopEnvironment.applyPolicy listPods (shopEnvironment.afterCalls
        (shopEnvironment.opened (deployed shopObjects) []) secondAttempt) =
          (.ok (), after) := ⟨_, rfl⟩
  have created : create shopSettings shopManifest kindSandbox =
      .ok shopEnvironment := rfl
  exact ⟨after, applied, applied_policy_is_enforced_iff created rfl
    shopObjects_initial candidates listPods_candidate applied⟩

private theorem composed_applications (environment : KubernetesEnvironment)
    (policies : List Policy) {state : KubernetesState}
    {known : Policy → Prop}
    (start : Composed known objects state.cluster)
    (included : ∀ policy ∈ policies,
      environment.validatePolicy policy = .ok () → known policy) :
    Composed known objects (environment.afterCalls state
      (policies.map .apply)).cluster := by
  induction policies generalizing state with
  | nil => exact start
  | cons policy policies induction =>
      apply induction
      · exact start.applyPolicy (included policy List.mem_cons_self)
      · intro other later
        exact included other (List.mem_cons_of_mem policy later)

theorem nothingLeft_of_growing {policies : List Policy}
    (initial : environment.InitialManifest objects)
    (composed : Composed (· ∈ policies) objects cluster)
    (candidates : ∀ earlier ∈ policies, environment.Candidate earlier)
    (growing : ∀ earlier ∈ policies, earlier.keys ⊆ policy.keys) :
    environment.NothingLeft policy cluster := by
  constructor
  · intro scope pair
    obtain ⟨object, held⟩ := Option.ne_none_iff_exists'.mp pair.1
    obtain ⟨earlier, item, member, -, grouped, rfl, -⟩ :=
      role_at initial.fresh composed (Or.inl rfl) held
    exact (hasScope_of_mem_groupedScopes grouped).mono (growing earlier member)
  · intro scope pair
    obtain ⟨object, held⟩ := Option.ne_none_iff_exists'.mp pair.1
    obtain ⟨earlier, item, member, effective, -⟩ :=
      role_at initial.fresh composed (Or.inr rfl) held
    rw [(candidates earlier member).name] at effective
    exact absurd effective environment.candidateName_ne_effectiveName

/-- The first attempt enforces every policy it applies, as long as each one
contains the earlier ones. -/
theorem first_attempt_is_enforced
    {settings : KubernetesSettings} {manifest : List Json}
    {probe : SandboxProbe} {environment : KubernetesEnvironment}
    {objects : List ParsedObject} {outcomes : List Outcome}
    {policies : List Policy} {policy : Policy} {after : KubernetesState}
    (created : create settings manifest probe = .ok environment)
    (parsed : parseObjects manifest = .ok objects)
    (initial : environment.InitialManifest objects)
    (candidates : ∀ earlier ∈ policies, environment.Candidate earlier)
    (candidate : environment.Candidate policy)
    (growing : ∀ earlier ∈ policies, earlier.keys ⊆ policy.keys)
    (applied : environment.applyPolicy policy (environment.afterCalls
      (environment.opened (deployed objects) outcomes)
        (policies.map .apply)) = (.ok (), after)) :
    (after.cluster.policy environment.account).keys = policy.keys := by
  have account := (create_ok created parsed).2
  have start (known : Policy → Prop) : Composed known objects
      (environment.opened (deployed objects) outcomes).cluster :=
    composed_deployed
  have members := composed_applications environment policies
    (start (· ∈ policies)) fun _ member _ => member
  have written := composed_applications environment policies
    (start environment.Writes) fun earlier member validated =>
      ⟨enforceable_of_validatePolicy validated,
        Or.inl (candidates earlier member)⟩
  have ends := environment.applyPolicy_ends policy (environment.afterCalls
    (environment.opened (deployed objects) outcomes) (policies.map .apply))
  rw [applied] at ends
  obtain ⟨validated, enforcedCluster, -⟩ := ends
  have writes : environment.Writes policy :=
    ⟨enforceable_of_validatePolicy validated, Or.inl candidate⟩
  rw [enforcedCluster]
  apply Set.Subset.antisymm
  · exact enforced_subset_keys account initial written writes candidate.name
      (nothingLeft_of_growing initial members candidates growing)
  · exact keys_subset_enforced account initial writes

end KubernetesEnvironment

end Kuber.Runtime

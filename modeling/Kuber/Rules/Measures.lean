import Mathlib.Algebra.Order.BigOperators.Group.Finset
import Kuber.Rules.Expansion
import Kuber.Rules.LeastPrivilege
import Kuber.Rules.Risk

/-!
# Narrowing and the published measures

Every permission of a candidate is contained in a permission of the policy
that it was made from, and taken alone it is neither riskier nor broader.
Both published measures are sums over permissions, though: where one
permission is replaced by several, the sums can grow.
-/

namespace Kuber.Rules

open Kuber.Library

namespace Permission

/-- `wide` grants all that `narrow` grants. -/
def Contains (wide narrow : Permission) : Prop :=
  ∀ event, KeyCovers narrow.key event → KeyCovers wide.key event

def capability (permission : Permission) : String × String × String :=
  (permission.apiGroup, permission.resource, permission.verb)

/-- Secrets of the wildcard group, which are not taken for a wildcard of
resources as well. -/
def WildcardSecrets (permission : Permission) : Prop :=
  permission.apiGroup = "*" ∧ permission.resource = "secrets"

instance (permission : Permission) : Decidable permission.WildcardSecrets :=
  inferInstanceAs (Decidable (_ ∧ _))

def wildcardPoints (permission : Permission) : Nat :=
  if permission.resource = "*" ∨ permission.apiGroup = "*" then 25 else 0

def scopePoints (permission : Permission) : Nat :=
  if permission.namespace = none then 8 else 0

def secretPoints (resource verb : String) : Nat :=
  if resource = "secrets" then
    if verb ∈ ["get", "list", "watch", "*"] then 8 else 12
  else 0

def verbPoints (verb : String) : Nat :=
  (if verb = "*" then 20 else 0) + (if verb ∈ mutatingVerbs then 4 else 0) +
    if verb ∈ ["delete", "*"] then 5 else 0

/-- Points for where a permission comes from and for the resources of RBAC
itself, which no permission for an event has. -/
def grantPoints (permission : Permission) : Nat :=
  (if (permission.source.getD "").startsWith "ClusterRoleBinding/" then 5
    else 0) +
  if permission.resource ∈
      ["roles", "clusterroles", "rolebindings", "clusterrolebindings"]
    then 20 else 0

theorem points_eq (permission : Permission) :
    permission.points = permission.wildcardPoints + permission.scopePoints +
      secretPoints permission.resource permission.verb +
      verbPoints permission.verb + permission.grantPoints := by
  have signal : ∀ (condition : Prop) [Decidable condition] (reason : String)
      (points : Nat), ((if condition then [(reason, points)] else []).map
        Prod.snd).sum = if condition then points else 0 := by
    intro condition _ reason points
    by_cases holds : condition
    · simp [holds]
    · simp [holds]
  simp only [points, permissionRiskSignals, List.map_append, List.sum_append,
    signal, wildcardPoints, scopePoints, secretPoints, verbPoints, grantPoints]
  omega

theorem secretPoints_le (resource verb : String) :
    secretPoints resource verb ≤ 12 := by
  unfold secretPoints
  split
  · split <;> decide
  · decide

/-- A wildcard of verbs outweighs any verb, and any secrets with it. -/
theorem verbPoints_le_wildcard {verb : String} (concrete : verb ≠ "*") :
    verbPoints verb + 12 ≤ verbPoints "*" := by
  have mutating : (if verb ∈ mutatingVerbs then 4 else 0) ≤ 4 := by
    split <;> decide
  have deleting : (if verb ∈ ["delete", "*"] then 5 else 0) ≤ 5 := by
    split <;> decide
  have wildcard : verbPoints "*" = 29 := by decide
  rw [wildcard, verbPoints, if_neg concrete]
  omega

end Permission

section Made

variable {event : KubeEvent} {made wide : Permission}

/-- The parts of a permission for an event that are scored. -/
structure MadeFor (event : KubeEvent) (made : Permission) : Prop where
  apiGroup : made.apiGroup = event.apiGroup
  resource : made.resource = event.resource
  verb : made.verb = event.verb
  scope : made.namespace = event.namespace
  source : made.source = some "Kuber/verified"

theorem madeFor_of_eventPermission
    (accepted : eventPermission event = .ok made) : MadeFor event made := by
  unfold eventPermission at accepted
  split at accepted
  · cases accepted
  · split at accepted
    · cases accepted
    · cases accepted
      exact ⟨rfl, rfl, rfl, rfl, rfl⟩

theorem keyCovers_of_contains (accepted : eventPermission event = .ok made)
    (contains : wide.Contains made) : KeyCovers wide.key event :=
  contains event (eventPermission_isLeastGrant accepted).covers_request

theorem listed_of_isSupportedResource {apiGroup resource : String}
    (supported : isSupportedResource apiGroup resource = true) :
    resource = "*" ∨ ∃ entry ∈ supportedResources, resource ∈ entry.2 := by
  unfold isSupportedResource at supported
  split at supported
  · split at supported
    · exact Or.inl ‹_›
    · simp only [List.any_eq_true, decide_eq_true_eq] at supported
      exact Or.inr supported
  · split at supported
    · cases supported
    · rename_i resources found
      split at supported
      · exact Or.inl ‹_›
      · obtain ⟨earlier, later, position, -⟩ := List.lookup_eq_some_iff.mp found
        exact Or.inr ⟨(apiGroup, resources), by simp [position],
          of_decide_eq_true supported⟩

theorem supportedResource_not_rbac {apiGroup resource : String}
    (supported : isSupportedResource apiGroup resource = true) :
    resource ∉ ["roles", "clusterroles", "rolebindings",
      "clusterrolebindings"] := by
  have unlisted : ∀ entry ∈ ("", ["*"]) :: supportedResources,
      ∀ listed ∈ entry.2, listed ∉ ["roles", "clusterroles", "rolebindings",
        "clusterrolebindings"] := by decide
  rcases listed_of_isSupportedResource supported with
    wildcard | ⟨entry, member, listed⟩
  · exact wildcard ▸ unlisted ("", ["*"]) List.mem_cons_self "*"
      List.mem_cons_self
  · exact unlisted entry (List.mem_cons_of_mem _ member) resource listed

theorem grantPoints_made (accepted : eventPermission event = .ok made) :
    made.grantPoints = 0 := by
  obtain ⟨-, supported, -⟩ := eventPermission_ok accepted
  have parts := madeFor_of_eventPermission accepted
  have unbound : ¬ ("Kuber/verified".startsWith "ClusterRoleBinding/") = true :=
    by decide
  rw [Permission.grantPoints, parts.source, parts.resource, Option.getD_some,
    if_neg unbound, if_neg (supportedResource_not_rbac supported)]

theorem scopePoints_le (accepted : eventPermission event = .ok made)
    (contains : wide.Contains made) :
    made.scopePoints ≤ wide.scopePoints := by
  obtain ⟨-, -, -, scope, -⟩ := keyCovers_of_contains accepted contains
  rw [← (madeFor_of_eventPermission accepted).scope] at scope
  rw [Permission.scopePoints, Permission.scopePoints]
  rcases scope with everywhere | same
  · rw [if_pos everywhere]
    split
    · exact le_refl 8
    · exact Nat.zero_le 8
  · rw [same]

theorem wildcardPoints_le (accepted : eventPermission event = .ok made)
    (contains : wide.Contains made) :
    made.wildcardPoints ≤ wide.wildcardPoints := by
  obtain ⟨group, resource, -⟩ := keyCovers_of_contains accepted contains
  have parts := madeFor_of_eventPermission accepted
  rw [← parts.apiGroup] at group
  rw [← parts.resource] at resource
  rw [Permission.wildcardPoints, Permission.wildcardPoints]
  by_cases wildcard : made.resource = "*" ∨ made.apiGroup = "*"
  · have kept : wide.resource = "*" ∨ wide.apiGroup = "*" :=
      wildcard.imp (fun all => resource.elim id fun same => same.trans all)
        fun all => group.elim id fun same => same.trans all
    rw [if_pos wildcard, if_pos kept]
  · rw [if_neg wildcard]
    exact Nat.zero_le _

theorem resourcePoints_le (accepted : eventPermission event = .ok made)
    (contains : wide.Contains made) (seen : ¬made.WildcardSecrets)
    (verb : String) :
    made.wildcardPoints + Permission.secretPoints made.resource verb ≤
      wide.wildcardPoints + Permission.secretPoints wide.resource verb := by
  obtain ⟨-, resource, -⟩ := keyCovers_of_contains accepted contains
  rw [← (madeFor_of_eventPermission accepted).resource] at resource
  have wildcards := wildcardPoints_le accepted contains
  rcases resource with all | same
  · by_cases secret : made.resource = "secrets"
    · have plain : ¬ (made.resource = "*" ∨ made.apiGroup = "*") := by
        intro wildcard
        rcases wildcard with anything | anywhere
        · rw [secret] at anything
          exact absurd anything (by decide)
        · exact seen ⟨anywhere, secret⟩
      have secrets := Permission.secretPoints_le made.resource verb
      rw [Permission.wildcardPoints, Permission.wildcardPoints, if_neg plain,
        if_pos (Or.inl all)]
      omega
    · rw [Permission.secretPoints, if_neg secret]
      exact Nat.le_add_right_of_le wildcards
  · rw [same]
    exact Nat.add_le_add_right wildcards _

/-- A permission for an event has at most the points of any that contains it,
except that secrets of the wildcard group are not seen behind the wildcard of
resources. -/
theorem points_le_of_contains (accepted : eventPermission event = .ok made)
    (contains : wide.Contains made) (seen : ¬made.WildcardSecrets) :
    made.points ≤ wide.points := by
  obtain ⟨verbSupported, -, -⟩ := eventPermission_ok accepted
  obtain ⟨-, -, verb, -⟩ := keyCovers_of_contains accepted contains
  have sameVerb := (madeFor_of_eventPermission accepted).verb
  have scopes := scopePoints_le accepted contains
  have wildcards := wildcardPoints_le accepted contains
  have resources := resourcePoints_le accepted contains seen event.verb
  rw [Permission.points_eq, Permission.points_eq, grantPoints_made accepted,
    sameVerb]
  rcases verb with all | same
  · have secrets := Permission.secretPoints_le made.resource event.verb
    have verbs := Permission.verbPoints_le_wildcard
      (supportedVerb_ne_wildcard verbSupported)
    rw [all]
    omega
  · rw [same]
    omega

example : (⟨"*", "*", "get", some "shop", none, none⟩ : Permission).points <
    (⟨"*", "secrets", "get", some "shop", none, none⟩ : Permission).points := by
  decide +kernel

theorem listed_of_mem_expandPermission {permission expanded : Permission}
    (supported :
      isSupportedResource permission.apiGroup permission.resource = true)
    (member : expanded ∈ expandPermission permission) :
    ∃ entry ∈ supportedResources,
      entry.1 = expanded.apiGroup ∧ expanded.resource ∈ entry.2 := by
  obtain ⟨group, groupMember, resource, resourceMember, verb, -, rfl⟩ :=
    mem_expandPermission_iff.mp member
  unfold expansionGroups at groupMember
  split at groupMember
  · rename_i anywhere
    obtain ⟨entry, kept, rfl⟩ := List.mem_map.mp groupMember
    obtain ⟨listed, offered⟩ := List.mem_filter.mp kept
    rw [if_neg anywhere.2, List.mem_singleton] at resourceMember
    exact ⟨entry, listed, rfl, resourceMember ▸ of_decide_eq_true offered⟩
  · rename_i notOnly
    split at groupMember
    · rename_i anywhere
      have all : permission.resource = "*" := by
        by_contra named
        exact notOnly ⟨anywhere, named⟩
      obtain ⟨entry, listed, rfl⟩ := List.mem_map.mp groupMember
      rw [if_pos all, lookup_supportedResources entry listed,
        Option.getD_some] at resourceMember
      exact ⟨entry, listed, rfl, resourceMember⟩
    · rename_i concrete
      obtain rfl := List.mem_singleton.mp groupMember
      rw [isSupportedResource, if_neg concrete] at supported
      split at supported
      · cases supported
      · rename_i resources found
        obtain ⟨earlier, later, position, -⟩ := List.lookup_eq_some_iff.mp found
        refine ⟨(permission.apiGroup, resources), by simp [position], rfl, ?_⟩
        by_cases all : permission.resource = "*"
        · rwa [if_pos all, found, Option.getD_some] at resourceMember
        · rw [if_neg all, List.mem_singleton] at resourceMember
          rw [if_neg all, decide_eq_true_eq] at supported
          exact resourceMember ▸ supported

/-- A permission that contains one for an event stands for all its
capabilities. -/
theorem capability_expanded_of_contains {expanded : Permission}
    (accepted : eventPermission event = .ok made)
    (contains : wide.Contains made)
    (member : expanded ∈ expandPermission made) :
    ∃ other ∈ expandPermission wide,
      other.capability = expanded.capability := by
  obtain ⟨verbSupported, supported, -⟩ := eventPermission_ok accepted
  obtain ⟨-, -, -, scope, name⟩ :=
    (eventPermission_isLeastGrant accepted).covers_request
  have parts := madeFor_of_eventPermission accepted
  obtain ⟨concrete, narrowed⟩ := expandPermission_narrowed member
  let request : KubeEvent :=
    { event with apiGroup := expanded.apiGroup, resource := expanded.resource }
  have sameVerb : expanded.verb = event.verb :=
    parts.verb ▸ narrowed.verb.resolve_left
      (parts.verb ▸ supportedVerb_ne_wildcard verbSupported)
  have requested : KeyCovers expanded.key request :=
    ⟨Or.inr rfl, Or.inr rfl, Or.inr sameVerb, narrowed.scope ▸ scope,
      narrowed.name ▸ name⟩
  have catalogued : Catalogued request := by
    rw [← parts.apiGroup, ← parts.resource] at supported
    exact ⟨listed_of_mem_expandPermission supported member, verbSupported⟩
  obtain ⟨other, otherMember, group, resource, verb, -⟩ :=
    expandPermission_covers catalogued
      (contains request (narrowed.covers concrete requested))
  have otherConcrete := (expandPermission_narrowed otherMember).1
  refine ⟨other, otherMember, ?_⟩
  rw [Permission.capability, Permission.capability, sameVerb,
    group.resolve_left otherConcrete.apiGroup,
    resource.resolve_left otherConcrete.resource,
    verb.resolve_left otherConcrete.verb]

end Made

/-- How many namespaces and names a capability is granted for. -/
def Policy.scopeCount (policy : Policy)
    (capability : String × String × String) : Nat :=
  ((expandPolicy policy).permissions.map Permission.capability).count capability

/-- The permissions of a candidate that a current permission answers for. -/
def charged (candidate : Policy) (charge : Permission → Permission)
    (current : Permission) : Finset Permission :=
  candidate.permissions.toFinset.filter fun permission =>
    charge permission = current

/-- Every permission of the candidate is assigned to a current one that
contains it.  A current one that has to answer for several, or for secrets of
the wildcard group, has as many points as these together. -/
structure Accounted (current candidate : Policy)
    (charge : Permission → Permission) : Prop where
  present : ∀ permission ∈ candidate.permissions,
    charge permission ∈ current.permissions
  contained : ∀ permission ∈ candidate.permissions,
    (charge permission).Contains permission
  balanced : ∀ wide ∈ current.permissions,
    (charged candidate charge wide).card ≤ 1 ∧
        (∀ permission ∈ charged candidate charge wide,
          ¬permission.WildcardSecrets) ∨
      ∑ permission ∈ charged candidate charge wide, permission.points ≤
        wide.points

section Candidate

variable {current candidate : Policy} {observed : List KubeEvent}

theorem Policy.nodup (policy : Policy) : policy.permissions.Nodup :=
  List.Nodup.of_map Permission.key policy.keysNodup

theorem exists_event_of_mem_permissions
    (returned : observedOnlyPolicy current observed = .ok candidate)
    {permission : Permission} (member : permission ∈ candidate.permissions) :
    ∃ event ∈ observed, eventPermission event = .ok permission := by
  unfold observedOnlyPolicy at returned
  split at returned
  · simp only [bind_eq_ok_iff, pure_eq_ok_iff] at returned
    obtain ⟨permissions, mapped, rfl⟩ := returned
    exact forall₂_mem_right (mapM_eq_ok_iff.mp mapped)
      (Policy.mem_of_mem_build member)
  · cases returned

theorem exists_contains_of_mem
    (returned : observedOnlyPolicy current observed = .ok candidate)
    {permission : Permission} (member : permission ∈ candidate.permissions) :
    ∃ wide ∈ current.permissions, wide.Contains permission := by
  obtain ⟨event, eventMember, accepted⟩ :=
    exists_event_of_mem_permissions returned member
  obtain ⟨authorized, -⟩ := observedOnlyPolicy_ok returned
  obtain ⟨key, keyMember, covers⟩ :=
    isAuthorized_iff.mp (authorized event eventMember)
  obtain ⟨wide, wideMember, rfl⟩ := List.mem_map.mp keyMember
  exact ⟨wide, wideMember,
    (eventPermission_isLeastGrant accepted).least wide.key covers⟩

theorem charged_points_le
    (returned : observedOnlyPolicy current observed = .ok candidate)
    {charge : Permission → Permission}
    (accounted : Accounted current candidate charge) {wide : Permission}
    (wideMember : wide ∈ current.permissions) :
    ∑ permission ∈ charged candidate charge wide, permission.points ≤
      wide.points := by
  rcases accounted.balanced wide wideMember with ⟨few, seen⟩ | balanced
  · rcases Nat.le_one_iff_eq_zero_or_eq_one.mp few with
      empty | single
    · rw [Finset.card_eq_zero.mp empty, Finset.sum_empty]
      exact Nat.zero_le _
    · obtain ⟨only, alone⟩ := Finset.card_eq_one.mp single
      have member : only ∈ charged candidate charge wide :=
        alone ▸ Finset.mem_singleton_self only
      obtain ⟨inCandidate, chargedTo⟩ := Finset.mem_filter.mp member
      rw [List.mem_toFinset] at inCandidate
      obtain ⟨event, -, accepted⟩ :=
        exists_event_of_mem_permissions returned inCandidate
      have contains := accounted.contained only inCandidate
      rw [chargedTo] at contains
      rw [alone, Finset.sum_singleton]
      exact points_le_of_contains accepted contains (seen only member)
  · exact balanced

/-- The points of a candidate are those that its permissions are charged. -/
theorem uncappedScore_le_of_accounted
    (returned : observedOnlyPolicy current observed = .ok candidate)
    {charge : Permission → Permission}
    (accounted : Accounted current candidate charge) :
    (scorePolicy candidate).uncappedScore ≤
      (scorePolicy current).uncappedScore := by
  have assigned : ∀ permission ∈ candidate.permissions.toFinset,
      charge permission ∈ current.permissions.toFinset := by
    intro permission member
    rw [List.mem_toFinset] at member ⊢
    exact accounted.present permission member
  calc (scorePolicy candidate).uncappedScore
      = ∑ permission ∈ candidate.permissions.toFinset, permission.points := by
        rw [uncappedScore_eq_sum, List.sum_toFinset _ candidate.nodup]
    _ = ∑ wide ∈ current.permissions.toFinset,
          ∑ permission ∈ charged candidate charge wide, permission.points :=
        (Finset.sum_fiberwise_of_maps_to assigned _).symm
    _ ≤ ∑ wide ∈ current.permissions.toFinset, wide.points := by
        apply Finset.sum_le_sum
        intro wide member
        exact charged_points_le returned accounted (List.mem_toFinset.mp member)
    _ = (scorePolicy current).uncappedScore := by
        rw [uncappedScore_eq_sum, List.sum_toFinset _ current.nodup]

theorem mem_capabilities_iff {policy : Policy}
    {capability : String × String × String} :
    capability ∈ (expandPolicy policy).permissions.map Permission.capability ↔
      ∃ permission ∈ policy.permissions,
        ∃ expanded ∈ expandPermission permission,
          expanded.capability = capability := by
  have byKey : ∀ listed : Policy, capability ∈
      listed.permissions.map Permission.capability ↔
        ∃ key ∈ listed.keys, (key.1, key.2.1, key.2.2.1) = capability := by
    intro listed
    simp [Policy.mem_keys, Permission.capability, Permission.key]
  rw [byKey]
  simp only [mem_keys_expandPolicy]
  constructor
  · rintro ⟨key, ⟨permission, member, expanded, made, sameKey⟩, same⟩
    rw [← sameKey] at same
    exact ⟨permission, member, expanded, made, same⟩
  · rintro ⟨permission, member, expanded, made, same⟩
    exact ⟨expanded.key, ⟨permission, member, expanded, made, rfl⟩, same⟩

theorem capabilities_subset
    (returned : observedOnlyPolicy current observed = .ok candidate) :
    (expandPolicy candidate).permissions.map Permission.capability ⊆
      (expandPolicy current).permissions.map Permission.capability := by
  intro capability member
  obtain ⟨permission, inCandidate, expanded, made, rfl⟩ :=
    mem_capabilities_iff.mp member
  obtain ⟨event, -, accepted⟩ :=
    exists_event_of_mem_permissions returned inCandidate
  obtain ⟨wide, wideMember, contains⟩ :=
    exists_contains_of_mem returned inCandidate
  obtain ⟨other, otherMember, same⟩ :=
    capability_expanded_of_contains accepted contains made
  exact mem_capabilities_iff.mpr ⟨wide, wideMember, other, otherMember, same⟩

theorem effectivePermissionCount_le
    (returned : observedOnlyPolicy current observed = .ok candidate)
    (unsplit : ∀ capability, 1 < candidate.scopeCount capability →
      candidate.scopeCount capability ≤ current.scopeCount capability) :
    effectivePermissionCount candidate ≤ effectivePermissionCount current := by
  have subperm : ((expandPolicy candidate).permissions.map
      Permission.capability).Subperm
        ((expandPolicy current).permissions.map Permission.capability) := by
    rw [List.subperm_ext_iff]
    intro capability member
    have present := List.count_pos_iff.mpr (capabilities_subset returned member)
    by_cases split : 1 < candidate.scopeCount capability
    · exact unsplit capability split
    · exact (Nat.le_of_not_lt split).trans present
  have shorter := subperm.length_le
  rwa [List.length_map, List.length_map] at shorter

end Candidate

/-- A candidate is contained in the current policy permission by permission,
each with no more points and capabilities than what contains it.  The measures
only grow where the permissions that replace one weigh more together. -/
theorem narrowing_grows_by_splitting_only {current candidate : Policy}
    {observed : List KubeEvent}
    (returned : observedOnlyPolicy current observed = .ok candidate) :
    (∀ permission ∈ candidate.permissions,
      ∃ wide ∈ current.permissions, wide.Contains permission) ∧
    (∀ permission ∈ candidate.permissions, ∀ wide ∈ current.permissions,
      wide.Contains permission →
        (¬permission.WildcardSecrets → permission.points ≤ wide.points) ∧
        ∀ expanded ∈ expandPermission permission,
          ∃ other ∈ expandPermission wide,
            other.capability = expanded.capability) ∧
    ((scorePolicy current).score = 100 ∨
        (∃ charge, Accounted current candidate charge) →
      (scorePolicy candidate).score ≤ (scorePolicy current).score) ∧
    ((∀ capability, 1 < candidate.scopeCount capability →
        candidate.scopeCount capability ≤ current.scopeCount capability) →
      effectivePermissionCount candidate ≤ effectivePermissionCount current) := by
  refine ⟨fun permission member => exists_contains_of_mem returned member,
    ?_, ?_, effectivePermissionCount_le returned⟩
  · intro permission member wide _ contains
    obtain ⟨event, -, accepted⟩ :=
      exists_event_of_mem_permissions returned member
    exact ⟨points_le_of_contains accepted contains, fun expanded made =>
      capability_expanded_of_contains accepted contains made⟩
  · intro bounded
    rcases bounded with capped | ⟨charge, accounted⟩
    · rw [capped]
      exact Nat.min_le_left 100 _
    · exact min_le_min_left 100
        (uncappedScore_le_of_accounted returned accounted)

/-- All verbs on the secrets of a namespace. -/
def allSecrets : Permission := ⟨"", "secrets", "*", some "shop", none, none⟩

def secretsPolicy : Policy :=
  Policy.build [allSecrets] "web-effective" "web" "shop"

def readSecrets : List KubeEvent :=
  [⟨"", "secrets", "get", some "shop", none, none⟩,
    ⟨"", "secrets", "list", some "shop", none, none⟩]

/-- Two verbs weigh less than the wildcard that they replace. -/
theorem narrowing_grows_by_splitting_only_secrets :
    ∃ candidate, observedOnlyPolicy secretsPolicy readSecrets = .ok candidate ∧
      (scorePolicy candidate).score ≤ (scorePolicy secretsPolicy).score ∧
      effectivePermissionCount candidate ≤
        effectivePermissionCount secretsPolicy := by
  obtain ⟨candidate, returned, listed, balanced, distinct⟩ :
      ∃ candidate,
        observedOnlyPolicy secretsPolicy readSecrets = .ok candidate ∧
        (∀ permission ∈ candidate.permissions, permission.apiGroup = "" ∧
          permission.resource = "secrets" ∧
          permission.namespace = some "shop") ∧
        ∑ permission ∈ charged candidate (fun _ => allSecrets) allSecrets,
          permission.points ≤ allSecrets.points ∧
        ((expandPolicy candidate).permissions.map
          Permission.capability).Nodup :=
    ⟨_, rfl, by decide, by decide +kernel, by decide +kernel⟩
  have accounted : Accounted secretsPolicy candidate fun _ => allSecrets := by
    refine ⟨fun _ _ => List.mem_cons_self, ?_, ?_⟩
    · intro permission member event covers
      obtain ⟨group, resource, scope⟩ := listed permission member
      rw [Permission.key, group, resource, scope] at covers
      obtain ⟨sameGroup, sameResource, -, sameScope, -⟩ := covers
      exact ⟨sameGroup, sameResource, Or.inl rfl, sameScope, Or.inl rfl⟩
    · intro wide member
      rw [List.mem_singleton.mp member]
      exact Or.inr balanced
  obtain ⟨-, -, scores, counts⟩ := narrowing_grows_by_splitting_only returned
  refine ⟨candidate, returned, scores (Or.inr ⟨_, accounted⟩), counts ?_⟩
  intro capability split
  exact absurd (List.nodup_iff_count_le_one.mp distinct capability)
    (Nat.not_le_of_lt split)

def getSecrets : Policy :=
  Policy.build [⟨"", "secrets", "get", some "shop", none, none⟩]
    "web-effective" "web" "shop"

/-- One permission is replaced by one for each of two names. -/
theorem named_secrets_score_higher :
    ∃ candidate,
      observedOnlyPolicy getSecrets
        [⟨"", "secrets", "get", some "shop", some "key", none⟩,
          ⟨"", "secrets", "get", some "shop", some "token", none⟩] =
            .ok candidate ∧
      (scorePolicy getSecrets).score < (scorePolicy candidate).score ∧
      effectivePermissionCount getSecrets <
        effectivePermissionCount candidate :=
  ⟨_, rfl, by decide +kernel, by decide +kernel⟩

end Kuber.Rules

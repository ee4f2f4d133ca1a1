import Mathlib.Data.Set.Card
import Mathlib.Data.List.Lex
import Mathlib.Data.String.Basic
import Mathlib.Order.CompletePartialOrder
import Kuber.Exceptions
import Kuber.Library.Canonical

/-!
# Events, permissions and policies

The value types of the rules engine.  A policy lists its permissions in the
canonical order established by its constructor: one permission for every key,
sorted by key with an absent part read as the empty string.  Both facts are
fields, so no other policy can be built.
-/

namespace Kuber.Rules

open Kuber.Library

/-- One normalized Kubernetes API call. -/
structure KubeEvent where
  apiGroup : String
  resource : String
  verb : String
  «namespace» : Option String := none
  resourceName : Option String := none
  workloadId : Option String := none
deriving DecidableEq, Repr

/-- `value or default` on strings. -/
def orElse (value fallback : String) : String :=
  if value = "" then fallback else value

def KubeEvent.display (event : KubeEvent) : String :=
  let group := orElse event.apiGroup "core"
  let name :=
    match event.resourceName with
    | none => ""
    | some text => if text = "" then "" else "/" ++ text
  event.verb ++ " " ++ group ++ "/" ++ event.resource ++ name

/-- A permission key: group, resource, verb, namespace, resource name. -/
abbrev PermissionKey :=
  String × String × String × Option String × Option String

/-- One normalized RBAC capability.  The absent namespace is cluster-wide
scope; wildcards are kept as they are written. -/
structure Permission where
  apiGroup : String
  resource : String
  verb : String
  «namespace» : Option String := none
  resourceName : Option String := none
  source : Option String := none
deriving DecidableEq, Repr

namespace Permission

def key (permission : Permission) : PermissionKey :=
  (permission.apiGroup, permission.resource, permission.verb,
    permission.namespace, permission.resourceName)

/-- The sort key of policies: every part, absent ones as `""`. -/
def sortKey (permission : Permission) : List String :=
  [permission.apiGroup, permission.resource, permission.verb,
    permission.namespace.getD "", permission.resourceName.getD ""]

end Permission

structure PolicyRule where
  apiGroups : List String
  resources : List String
  verbs : List String
  resourceNames : List String := []
deriving DecidableEq, Repr

structure ServiceAccountRef where
  name : String
  «namespace» : String
deriving DecidableEq, Repr

/-- Permissions in canonical form, and the service account they belong to. -/
structure Policy where
  permissions : List Permission
  name : String
  serviceAccount : String
  serviceAccountNamespace : String
  keysNodup : (permissions.map Permission.key).Nodup
  ordered : permissions.Pairwise
    (fun left right => left.sortKey ≤ right.sortKey)
deriving DecidableEq

namespace Policy

/-- The constructor: deduplicate by key, then sort. -/
def build (permissions : List Permission) (name serviceAccount
    serviceAccountNamespace : String) : Policy where
  permissions := sortBy Permission.sortKey (uniqueBy Permission.key permissions)
  name := name
  serviceAccount := serviceAccount
  serviceAccountNamespace := serviceAccountNamespace
  keysNodup := by
    have permuted := (sortBy_perm Permission.sortKey
      (uniqueBy Permission.key permissions)).map Permission.key
    exact permuted.nodup_iff.mpr (uniqueBy_keysNodup Permission.key permissions)
  ordered := sortBy_ordered Permission.sortKey _

def withPermissions (policy : Policy) (permissions : List Permission) :
    Policy :=
  build permissions policy.name policy.serviceAccount
    policy.serviceAccountNamespace

theorem withPermissions_self (policy : Policy) :
    policy.withPermissions policy.permissions = policy := by
  have unique := uniqueBy_eq_self policy.keysNodup
  have sorted := sortBy_eq_self policy.ordered
  obtain ⟨permissions, name, serviceAccount, scope, _, _⟩ := policy
  simp only [withPermissions, build, unique, sorted]

/-- The set of permission keys, as `{item.key() for item in permissions}`. -/
def keys (policy : Policy) : Set PermissionKey :=
  {key | key ∈ policy.permissions.map Permission.key}

theorem mem_keys {policy : Policy} {key : PermissionKey} :
    key ∈ policy.keys ↔ key ∈ policy.permissions.map Permission.key :=
  Iff.rfl

theorem mem_keys_of_mem {policy : Policy} {permission : Permission}
    (member : permission ∈ policy.permissions) :
    permission.key ∈ policy.keys :=
  List.mem_map_of_mem member

theorem mem_of_mem_build {permissions : List Permission}
    {name serviceAccount serviceAccountNamespace : String}
    {permission : Permission}
    (member : permission ∈ (build permissions name serviceAccount
      serviceAccountNamespace).permissions) : permission ∈ permissions :=
  mem_of_mem_uniqueBy (mem_sortBy.mp member)

/-- Building a policy neither loses nor invents a key. -/
@[simp] theorem mem_keys_build {permissions : List Permission}
    {name serviceAccount serviceAccountNamespace : String}
    {key : PermissionKey} :
    key ∈ (build permissions name serviceAccount
        serviceAccountNamespace).keys ↔
      key ∈ permissions.map Permission.key :=
  ((sortBy_perm Permission.sortKey _).map Permission.key).mem_iff.trans
    mem_map_uniqueBy_iff

@[simp] theorem mem_keys_withPermissions {policy : Policy}
    {permissions : List Permission} {key : PermissionKey} :
    key ∈ (policy.withPermissions permissions).keys ↔
      key ∈ permissions.map Permission.key :=
  mem_keys_build

theorem length_eq_card_keys (policy : Policy) :
    policy.permissions.length =
      (policy.permissions.map Permission.key).toFinset.card := by
  rw [List.toFinset_card_of_nodup policy.keysNodup, List.length_map]

theorem length_lt_of_keys_subset {small large : Policy}
    (subset : small.keys ⊆ large.keys) {key : PermissionKey}
    (present : key ∈ large.keys) (absent : key ∉ small.keys) :
    small.permissions.length < large.permissions.length := by
  rw [length_eq_card_keys, length_eq_card_keys]
  apply Finset.card_lt_card
  rw [Finset.ssubset_iff_of_subset]
  · exact ⟨key, List.mem_toFinset.mpr present,
      fun member => absent (List.mem_toFinset.mp member)⟩
  · intro other member
    exact List.mem_toFinset.mpr (subset (List.mem_toFinset.mp member))

theorem ncard_keys (policy : Policy) :
    policy.keys.ncard = policy.permissions.length := by
  have listed : policy.keys =
      ↑(policy.permissions.map Permission.key).toFinset := by
    ext key
    simp [mem_keys]
  rw [listed, Set.ncard_coe_finset, length_eq_card_keys]

theorem keys_ssubset_of_length_lt {small large : Policy}
    (subset : small.keys ⊆ large.keys)
    (larger : small.permissions.length < large.permissions.length) :
    small.keys ⊂ large.keys := by
  refine subset.ssubset_of_ne fun same => ?_
  rw [← ncard_keys, ← ncard_keys, same] at larger
  exact lt_irrefl _ larger

end Policy

end Kuber.Rules

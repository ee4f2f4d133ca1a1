import Kuber.Library.OrderedDict
import Kuber.Rules.Regeneration

/-!
# The RBAC objects of a cluster

A cluster holds one object for every kind, namespace and name.  Applying an
object replaces the one with its key, deleting removes a key.  That every
object is held under its own key is a field, so the role that a binding refers
to is found by one lookup.
-/

namespace Kuber.Runtime

open Kuber.Library Kuber.Rules

structure ObjectKey where
  kind : ObjectKind
  «namespace» : Option String
  name : String
deriving DecidableEq, Repr

def roleObjectKey (role : RoleObject) : ObjectKey :=
  if role.clusterRole then ⟨.clusterRole, none, role.name⟩
  else ⟨.role, role.namespace, role.name⟩

def bindingObjectKey (binding : BindingObject) : ObjectKey :=
  if binding.clusterBinding then ⟨.clusterRoleBinding, none, binding.name⟩
  else ⟨.roleBinding, binding.namespace, binding.name⟩

def objectKey : ParsedObject → ObjectKey
  | .serviceAccount object =>
      ⟨.serviceAccount, some object.namespace, object.name⟩
  | .role object => roleObjectKey object
  | .binding object => bindingObjectKey object

/-- The object that a `roleRef` names. -/
def referencedKey (binding : BindingObject) : ObjectKey :=
  match binding.roleKind with
  | .clusterRole => ⟨.clusterRole, none, binding.roleName⟩
  | .role => ⟨.role, binding.namespace, binding.roleName⟩

theorem roleMatches_iff_referencedKey {binding : BindingObject}
    {role : RoleObject} :
    roleMatches binding role = true ↔
      objectKey (.role role) = referencedKey binding := by
  obtain ⟨name, scope, roleName, kind, subjects, clusterBinding⟩ := binding
  obtain ⟨candidateName, candidateScope, rules, clusterRole⟩ := role
  cases kind with
  | role =>
      cases clusterRole <;>
        simp [roleMatches, objectKey, roleObjectKey, referencedKey, and_comm]
  | clusterRole =>
      cases clusterRole <;>
        simp [roleMatches, objectKey, roleObjectKey, referencedKey]

/-- The objects of a cluster, every one under its own key. -/
structure Cluster where
  objects : OrderedDict ObjectKey ParsedObject
  keyed : ∀ key object, objects.get? key = some object →
    objectKey object = key

namespace Cluster

def empty : Cluster := ⟨.empty, by simp⟩

def get? (cluster : Cluster) (key : ObjectKey) : Option ParsedObject :=
  cluster.objects.get? key

/-- Create an object or replace the one with its key. -/
def upsert (cluster : Cluster) (object : ParsedObject) : Cluster where
  objects := cluster.objects.set (objectKey object) object
  keyed := by
    intro key found present
    rw [OrderedDict.get?_set] at present
    by_cases same : key = objectKey object
    · rw [if_pos same, Option.some.injEq] at present
      rw [← present, same]
    · rw [if_neg same] at present
      exact cluster.keyed key found present

def remove (cluster : Cluster) (key : ObjectKey) : Cluster where
  objects := cluster.objects.erase key
  keyed := by
    intro other found present
    rw [OrderedDict.get?_erase] at present
    by_cases same : other = key
    · simp [same] at present
    · rw [if_neg same] at present
      exact cluster.keyed other found present

def applyAll (cluster : Cluster) (objects : List ParsedObject) : Cluster :=
  objects.foldl upsert cluster

def removeAll (cluster : Cluster) (keys : List ObjectKey) : Cluster :=
  keys.foldl remove cluster

/-- The effective policy of a service account in the cluster. -/
def policy (cluster : Cluster) (serviceAccount : ServiceAccountRef) : Policy :=
  resolveEffectivePolicy (ParsedRbac.ofObjects cluster.objects.values)
    serviceAccount

/-- The cluster holds this object. -/
def Holds (cluster : Cluster) (object : ParsedObject) : Prop :=
  cluster.get? (objectKey object) = some object

variable {cluster : Cluster} {object : ParsedObject} {key : ObjectKey}

theorem get?_upsert : (cluster.upsert object).get? key =
    if key = objectKey object then some object else cluster.get? key :=
  OrderedDict.get?_set _ _ _ _

theorem get?_remove {removed : ObjectKey} : (cluster.remove removed).get? key =
    if key = removed then none else cluster.get? key :=
  OrderedDict.get?_erase _ _ _

theorem get?_eq_some_iff :
    cluster.get? key = some object ↔
      objectKey object = key ∧ cluster.Holds object := by
  constructor
  · intro present
    have same := cluster.keyed key object present
    subst same
    exact ⟨rfl, present⟩
  · intro ⟨same, holds⟩
    subst same
    exact holds

theorem holds_remove_iff {removed : ObjectKey} :
    (cluster.remove removed).Holds object ↔
      objectKey object ≠ removed ∧ cluster.Holds object := by
  rw [Holds, get?_remove]
  by_cases same : objectKey object = removed
  · simp [same]
  · simp [same, Holds]

theorem holds_upsert_iff {written : ParsedObject} :
    (cluster.upsert written).Holds object ↔
      object = written ∨
        objectKey object ≠ objectKey written ∧ cluster.Holds object := by
  rw [Holds, get?_upsert]
  by_cases same : objectKey object = objectKey written
  · simp [same, eq_comm]
  · have other : object ≠ written := fun equality => same (by rw [equality])
    simp [same, other, Holds]

theorem holds_of_holds_applyAll {objects : List ParsedObject}
    (holds : (cluster.applyAll objects).Holds object) :
    object ∈ objects ∨ cluster.Holds object := by
  induction objects generalizing cluster with
  | nil => exact Or.inr holds
  | cons first objects induction =>
      rcases induction holds with applied | earlier
      · exact Or.inl (List.mem_cons_of_mem first applied)
      · rcases holds_upsert_iff.mp earlier with written | ⟨-, before⟩
        · exact Or.inl (written ▸ List.mem_cons_self)
        · exact Or.inr before

theorem get?_applyAll_of_not_mem {objects : List ParsedObject}
    (other : key ∉ objects.map objectKey) :
    (cluster.applyAll objects).get? key = cluster.get? key := by
  induction objects generalizing cluster with
  | nil => rfl
  | cons first objects induction =>
      simp only [List.map_cons, List.mem_cons, not_or] at other
      have later := @induction (cluster.upsert first) other.2
      rw [get?_upsert, if_neg other.1] at later
      exact later

theorem holds_applyAll_of_mem {objects : List ParsedObject}
    (distinct : (objects.map objectKey).Nodup) (member : object ∈ objects) :
    (cluster.applyAll objects).Holds object := by
  induction objects generalizing cluster with
  | nil => cases member
  | cons first objects induction =>
      simp only [List.map_cons, List.nodup_cons] at distinct
      rcases List.mem_cons.mp member with rfl | later
      · have kept := @get?_applyAll_of_not_mem (cluster.upsert object)
          (objectKey object) objects distinct.1
        rw [get?_upsert, if_pos rfl] at kept
        exact kept
      · exact induction distinct.2 later

theorem get?_removeAll {keys : List ObjectKey} :
    (cluster.removeAll keys).get? key =
      if key ∈ keys then none else cluster.get? key := by
  induction keys generalizing cluster with
  | nil => simp [removeAll]
  | cons first keys induction =>
      have later := @induction (cluster.remove first)
      rw [get?_remove] at later
      simp only [removeAll, List.foldl_cons, List.mem_cons] at later ⊢
      rw [later]
      by_cases same : key = first <;> simp [same]

theorem holds_iff_mem_values :
    cluster.Holds object ↔ object ∈ cluster.objects.values := by
  rw [OrderedDict.mem_values_iff]
  constructor
  · intro holds
    exact ⟨_, holds⟩
  · intro ⟨key, present⟩
    exact (get?_eq_some_iff.mp present).2

/-- A binding of the cluster grants a key: the role it refers to is there and
has a rule for the key. -/
def Grants (cluster : Cluster) (binding : BindingObject)
    (key : PermissionKey) : Prop :=
  ∃ role, cluster.get? (referencedKey binding) = some (.role role) ∧
    ∃ rule ∈ role.rules, RuleGrants (bindingScope binding) rule key

end Cluster

private theorem find?_roleMatches_eq_some_iff {objects : List ParsedObject}
    (distinct : (objects.map objectKey).Nodup) {binding : BindingObject}
    {role : RoleObject} :
    (ParsedRbac.ofObjects objects).roles.find? (roleMatches binding) =
        some role ↔
      .role role ∈ objects ∧
        objectKey (.role role) = referencedKey binding := by
  constructor
  · intro found
    exact ⟨ParsedRbac.mem_roles_ofObjects.mp (List.mem_of_find?_eq_some found),
      roleMatches_iff_referencedKey.mp (List.find?_some found)⟩
  · intro ⟨member, reference⟩
    have present := ParsedRbac.mem_roles_ofObjects.mpr member
    cases found : (ParsedRbac.ofObjects objects).roles.find?
        (roleMatches binding) with
    | none =>
        have unmatched := List.find?_eq_none.mp found role present
        exact absurd (roleMatches_iff_referencedKey.mpr reference) unmatched
    | some other =>
        have otherMember := ParsedRbac.mem_roles_ofObjects.mp
          (List.mem_of_find?_eq_some found)
        have otherReference :=
          roleMatches_iff_referencedKey.mp (List.find?_some found)
        have same := List.inj_on_of_nodup_map distinct otherMember member
          (otherReference.trans reference.symm)
        cases same
        rfl

/-- In a manifest without repeated objects a binding grants through the one
role that it refers to. -/
theorem mem_keys_resolve_objects_iff {objects : List ParsedObject}
    (distinct : (objects.map objectKey).Nodup)
    {serviceAccount : ServiceAccountRef} {key : PermissionKey} :
    key ∈ (resolveEffectivePolicy (ParsedRbac.ofObjects objects)
        serviceAccount).keys ↔
      ∃ binding, .binding binding ∈ objects ∧
        serviceAccount ∈ binding.subjects ∧
        ∃ role, (.role role ∈ objects ∧
            objectKey (.role role) = referencedKey binding) ∧
          ∃ rule ∈ role.rules, RuleGrants (bindingScope binding) rule key := by
  rw [mem_keys_resolve_iff]
  simp only [ParsedRbac.mem_bindings_ofObjects,
    find?_roleMatches_eq_some_iff distinct]

namespace Cluster

variable {cluster : Cluster}

theorem values_keysNodup (cluster : Cluster) :
    (cluster.objects.values.map objectKey).Nodup := by
  have keys : cluster.objects.values.map objectKey =
      cluster.objects.keys := by
    rw [OrderedDict.values, OrderedDict.keys, List.map_map]
    apply List.map_congr_left
    intro entry member
    exact cluster.keyed entry.1 entry.2
      (OrderedDict.get?_eq_some_iff.mpr member)
  rw [keys]
  exact cluster.objects.keysNodup

theorem mem_keys_policy_iff {serviceAccount : ServiceAccountRef}
    {key : PermissionKey} :
    key ∈ (cluster.policy serviceAccount).keys ↔
      ∃ binding, cluster.Holds (.binding binding) ∧
        serviceAccount ∈ binding.subjects ∧ cluster.Grants binding key := by
  rw [policy, mem_keys_resolve_objects_iff cluster.values_keysNodup]
  simp only [← holds_iff_mem_values, Grants, get?_eq_some_iff,
    @and_comm (cluster.Holds _)]

end Cluster

end Kuber.Runtime

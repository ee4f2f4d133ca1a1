import Kuber.Library.StableOrder
import Kuber.Rules.Models

/-!
# The canonical form of policies

A policy lists the keys of its permissions sorted, an absent part read as the
empty string.  Keys that differ only in this are left in the order in which
they first occurred, so two sequences of permissions with the same keys give
policies that list them alike exactly when such keys first occur in the same
order in both.
-/

namespace Kuber.Rules

open Kuber.Library

/-- What the sort looks at, of a key. -/
def sortParts : PermissionKey → List String
  | (apiGroup, resource, verb, scope, resourceName) =>
      [apiGroup, resource, verb, scope.getD "", resourceName.getD ""]

theorem sortKey_eq_sortParts (permission : Permission) :
    permission.sortKey = sortParts permission.key := rfl

/-- Keys that the sort does not tell apart first occur in the same order. -/
def TiesAgree (left right : List Permission) : Prop :=
  ∀ first ∈ left, ∀ second ∈ left, first.sortKey = second.sortKey →
    (FirstBefore (left.map Permission.key) first.key second.key ↔
      FirstBefore (right.map Permission.key) first.key second.key)

/-- Two policies with the same keys in the same order, which are kept when the
policies are built again. -/
structure CanonicalForm (left right : Policy) : Prop where
  sameKeys : left.permissions.map Permission.key =
    right.permissions.map Permission.key
  leftDistinct : (left.permissions.map Permission.key).Nodup
  rightDistinct : (right.permissions.map Permission.key).Nodup
  leftRebuilt : left.withPermissions left.permissions = left
  rightRebuilt : right.withPermissions right.permissions = right

theorem canonicalForm_iff_sameKeys {left right : Policy} :
    CanonicalForm left right ↔ left.permissions.map Permission.key =
      right.permissions.map Permission.key := by
  refine ⟨CanonicalForm.sameKeys, fun same => ?_⟩
  exact ⟨same, left.keysNodup, right.keysNodup, left.withPermissions_self,
    right.withPermissions_self⟩

section Building

variable {permissions left right : List Permission}
  {name serviceAccount serviceAccountNamespace : String}

theorem map_key_build :
    (Policy.build permissions name serviceAccount
      serviceAccountNamespace).permissions.map Permission.key =
        sortBy sortParts (uniqueBy id (permissions.map Permission.key)) := by
  rw [uniqueBy_id, ← map_uniqueBy]
  exact (@sortBy_map _ _ _ _ sortParts Permission.key _).symm

/-- Permissions in canonical order without a repeated key are kept. -/
theorem permissions_build_eq_self
    (distinct : (permissions.map Permission.key).Nodup)
    (ordered : permissions.Pairwise
      fun first second => first.sortKey ≤ second.sortKey) :
    (Policy.build permissions name serviceAccount
      serviceAccountNamespace).permissions = permissions := by
  have unique : (Policy.build permissions name serviceAccount
      serviceAccountNamespace).permissions =
        sortBy Permission.sortKey permissions :=
    congrArg (sortBy Permission.sortKey) (uniqueBy_eq_self distinct)
  rw [unique, sortBy_eq_self ordered]

theorem sameKeys_build_iff {otherName otherAccount otherScope : String}
    (same : ∀ key, key ∈ left.map Permission.key ↔
      key ∈ right.map Permission.key) :
    (Policy.build left name serviceAccount
        serviceAccountNamespace).permissions.map Permission.key =
      (Policy.build right otherName otherAccount
        otherScope).permissions.map Permission.key ↔ TiesAgree left right := by
  rw [map_key_build, map_key_build, sortBy_uniqueBy_eq_iff same]
  simp only [List.forall_mem_map, TiesAgree, sortKey_eq_sortParts]

theorem TiesAgree.of_present (present : ∀ permission ∈ left,
    permission.namespace ≠ some "" ∧ permission.resourceName ≠ some "") :
    TiesAgree left right := by
  have parts : ∀ {one other : Option String}, one ≠ some "" →
      other ≠ some "" → one.getD "" = other.getD "" → one = other := by
    intro one other onePresent otherPresent same
    cases one <;> cases other <;> simp_all
  intro first firstMember second secondMember tied
  obtain ⟨firstScope, firstName⟩ := present first firstMember
  obtain ⟨secondScope, secondName⟩ := present second secondMember
  simp only [Permission.sortKey, List.cons.injEq, and_true] at tied
  obtain ⟨group, resource, verb, scope, resourceName⟩ := tied
  have same : first.key = second.key := by
    rw [Permission.key, Permission.key, group, resource, verb,
      parts firstScope secondScope scope,
      parts firstName secondName resourceName]
  rw [same]
  exact iff_of_false (not_firstBefore_self _ _) (not_firstBefore_self _ _)

end Building

/-- Policies that are built from permissions with the same keys have one
canonical form exactly when their ties agree. -/
theorem canonicalForm_build_iff {left right : List Permission}
    (same : ∀ key, key ∈ left.map Permission.key ↔
      key ∈ right.map Permission.key)
    (leftName leftAccount leftScope rightName rightAccount rightScope :
      String) :
    CanonicalForm (Policy.build left leftName leftAccount leftScope)
        (Policy.build right rightName rightAccount rightScope) ↔
      TiesAgree left right :=
  canonicalForm_iff_sameKeys.trans (sameKeys_build_iff same)

def podReads : List Permission :=
  [⟨"", "pods", "get", some "shop", none, some "RoleBinding/web"⟩,
    ⟨"", "pods", "list", none, some "web", none⟩,
    ⟨"", "pods", "get", some "shop", none, none⟩]

theorem canonicalForm_build_podReads :
    CanonicalForm (Policy.build podReads "policy" "web" "shop")
      (Policy.build podReads.reverse "other" "api" "bank") :=
  (canonicalForm_build_iff
    (fun key => by rw [List.map_reverse, List.mem_reverse])
    "policy" "web" "shop" "other" "api" "bank").mpr
      (TiesAgree.of_present (by decide))

/-- The keys of the two differ in the scope, and the sort does not see it. -/
def clusterReader : Permission := ⟨"", "pods", "get", none, none, none⟩

def emptyScopeReader : Permission := ⟨"", "pods", "get", some "", none, none⟩

theorem tied_keys_are_left_as_they_come :
    (∀ key, key ∈ [clusterReader, emptyScopeReader].map Permission.key ↔
      key ∈ [emptyScopeReader, clusterReader].map Permission.key) ∧
    ¬ CanonicalForm
      (Policy.build [clusterReader, emptyScopeReader] "policy" "web" "shop")
      (Policy.build [emptyScopeReader, clusterReader] "policy" "web"
        "shop") := by
  refine ⟨fun key => by simp [or_comm], fun canonical => ?_⟩
  have tied : clusterReader.sortKey = emptyScopeReader.sortKey := rfl
  have same := canonical.sameKeys
  rw [permissions_build_eq_self (by decide) (by simp [tied]),
    permissions_build_eq_self (by decide) (by simp [tied])] at same
  exact absurd same (by decide)

end Kuber.Rules

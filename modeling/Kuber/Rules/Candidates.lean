import Kuber.Rules.Authorization
import Kuber.Rules.CanonicalForm
import Kuber.Rules.Risk

/-!
# Candidate reductions

The permissions that no observed event needs, the riskiest first.  Each one is
judged alone, by a policy that holds nothing else; since a policy authorizes
what one of its permissions matches, all of them can be removed together.
-/

namespace Kuber.Rules

open Kuber.Library

structure CandidateReduction where
  permission : Permission
  reason : String
  riskValue : Nat
deriving DecidableEq, Repr

/-- The reduction of one permission, where no observed event needs it. -/
def candidateReduction? (policy : Policy) (observed : List KubeEvent)
    (permission : Permission) : Option CandidateReduction :=
  let single := policy.withPermissions [permission]
  if observed.any (isAuthorized single) = true then none
  else some ⟨permission, "not required by observed usage",
    permission.points⟩

/-- `candidate_reductions`. -/
def candidateReductions (policy : Policy) (observed : List KubeEvent) :
    List CandidateReduction :=
  sortBy (fun item => toLex (-(item.riskValue : Int), item.permission.sortKey))
    (policy.permissions.filterMap (candidateReduction? policy observed))

/-- The permissions that are listed. -/
def listedPermissions (policy : Policy) (observed : List KubeEvent) :
    List Permission :=
  (candidateReductions policy observed).map CandidateReduction.permission

/-- The policy without all permissions that are listed. -/
def withoutListed (policy : Policy) (observed : List KubeEvent) : Policy :=
  policy.withPermissions (policy.permissions.filter
    fun permission => decide (permission ∉ listedPermissions policy observed))

section Reductions

variable {policy : Policy} {observed : List KubeEvent}
  {permission : Permission} {event : KubeEvent}

theorem isAuthorized_single :
    isAuthorized (policy.withPermissions [permission]) event =
      permissionMatches permission event := by
  rw [Bool.eq_iff_iff, isAuthorized_iff, permissionMatches_iff]
  constructor
  · intro ⟨key, member, covered⟩
    rw [Policy.mem_keys_withPermissions, List.map_singleton,
      List.mem_singleton] at member
    exact member ▸ covered
  · intro covered
    refine ⟨permission.key, ?_, covered⟩
    rw [Policy.mem_keys_withPermissions]
    exact List.mem_map_of_mem (List.mem_singleton.mpr rfl)

theorem isAuthorized_iff_exists_matching :
    isAuthorized policy event = true ↔
      ∃ permission ∈ policy.permissions,
        permissionMatches permission event = true := by
  rw [isAuthorized_iff]
  constructor
  · intro ⟨key, member, covered⟩
    obtain ⟨permission, permissionMember, rfl⟩ := List.mem_map.mp member
    exact ⟨permission, permissionMember, permissionMatches_iff.mpr covered⟩
  · intro ⟨permission, member, matched⟩
    exact ⟨permission.key, Policy.mem_keys_of_mem member,
      permissionMatches_iff.mp matched⟩

theorem candidateReduction?_eq_some {item : CandidateReduction} :
    candidateReduction? policy observed permission = some item ↔
      (∀ event ∈ observed, permissionMatches permission event = false) ∧
        item = ⟨permission, "not required by observed usage",
          permission.points⟩ := by
  rw [candidateReduction?]
  by_cases needed : observed.any
      (isAuthorized (policy.withPermissions [permission])) = true
  · obtain ⟨event, member, authorized⟩ := List.any_eq_true.mp needed
    rw [isAuthorized_single] at authorized
    simp only [if_pos needed, reduceCtorEq, false_iff, not_and]
    intro unmatched
    rw [unmatched event member] at authorized
    cases authorized
  · have unmatched : ∀ event ∈ observed,
        permissionMatches permission event = false := by
      intro event member
      rw [← @isAuthorized_single policy, ← Bool.not_eq_true]
      exact fun authorized =>
        needed (List.any_eq_true.mpr ⟨event, member, authorized⟩)
    simp only [if_neg needed, Option.some.injEq, and_iff_right unmatched]
    exact eq_comm

theorem mem_listedPermissions :
    permission ∈ listedPermissions policy observed ↔
      permission ∈ policy.permissions ∧
        ∀ event ∈ observed, permissionMatches permission event = false := by
  simp only [listedPermissions, candidateReductions, List.mem_map, mem_sortBy,
    List.mem_filterMap, candidateReduction?_eq_some]
  constructor
  · rintro ⟨item, ⟨other, member, unmatched, rfl⟩, rfl⟩
    exact ⟨member, unmatched⟩
  · rintro ⟨member, unmatched⟩
    exact ⟨_, ⟨permission, member, unmatched, rfl⟩, rfl⟩

theorem permissions_withoutListed :
    (withoutListed policy observed).permissions =
      policy.permissions.filter fun permission =>
        decide (permission ∉ listedPermissions policy observed) := by
  apply permissions_build_eq_self
  · exact (List.filter_sublist.map Permission.key).nodup policy.keysNodup
  · exact policy.ordered.sublist List.filter_sublist

theorem mem_withoutListed :
    permission ∈ (withoutListed policy observed).permissions ↔
      permission ∈ policy.permissions ∧
        ∃ event ∈ observed, permissionMatches permission event = true := by
  rw [permissions_withoutListed, List.mem_filter, decide_eq_true_eq,
    mem_listedPermissions]
  refine and_congr_right fun member => ?_
  simp [member]

theorem isAuthorized_withoutListed (seen : event ∈ observed) :
    isAuthorized (withoutListed policy observed) event =
      isAuthorized policy event := by
  rw [Bool.eq_iff_iff, isAuthorized_iff_exists_matching,
    isAuthorized_iff_exists_matching]
  constructor
  · intro ⟨permission, member, matched⟩
    exact ⟨permission, (mem_withoutListed.mp member).1, matched⟩
  · intro ⟨permission, member, matched⟩
    have kept := mem_withoutListed.mpr ⟨member, event, seen, matched⟩
    exact ⟨permission, kept, matched⟩

theorem riskValues_candidateReductions :
    (candidateReductions policy observed).Pairwise
      fun first second => second.riskValue ≤ first.riskValue := by
  refine (sortBy_ordered _ _).imp fun {first second} ordered => ?_
  have ranks := Prod.Lex.monotone_fst_ofLex ordered
  simpa using ranks

end Reductions

/-- Everything that is listed can be removed together, and nothing is missed:
the observed events stay authorized as they were, and each permission that is
kept matches one of them.  The list starts with the riskiest. -/
theorem candidateReductions_jointly_safe (policy : Policy)
    (observed : List KubeEvent) :
    (∀ event ∈ observed,
      isAuthorized (withoutListed policy observed) event =
        isAuthorized policy event) ∧
    (∀ permission ∈ (withoutListed policy observed).permissions,
      ∃ event ∈ observed, permissionMatches permission event = true) ∧
    (candidateReductions policy observed).Pairwise
      fun first second => second.riskValue ≤ first.riskValue :=
  ⟨fun _ seen => isAuthorized_withoutListed seen,
    fun _ member => (mem_withoutListed.mp member).2,
    riskValues_candidateReductions⟩

end Kuber.Rules

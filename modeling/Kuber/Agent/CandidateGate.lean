import Kuber.Agent.RepairLoop

/-!
# The validation gate

The validation node asks the original policy about every permission of a
candidate, read as a request in which wildcards and absent parts are plain
values.  These finitely many questions decide enough: a policy that passes
allows nothing new, and the policies of the reducer always pass.
-/

namespace Kuber.Agent

open Kuber.Library Kuber.Rules

/-- The policies the reducer and the repair build from an original policy. -/
inductive Candidate (original : Policy) : Policy → Prop where
  | observed {events : List KubeEvent} {candidate : Policy} :
      observedOnlyPolicy original events = .ok candidate →
      Candidate original candidate
  | repaired {candidate repaired : Policy} {missing : List KubeEvent} :
      Candidate original candidate →
      Rules.repairPolicy candidate missing original = .ok repaired →
      Candidate original repaired

variable {original candidate : Policy}

theorem checkCandidate_ok_iff :
    checkCandidate candidate original = .ok () ↔
      ∀ permission ∈ candidate.permissions,
        isAuthorized original (permissionEvent permission) = true := by
  rw [← List.all_eq_true]
  constructor
  · intro passed
    by_contra refused
    rw [checkCandidate, if_neg refused] at passed
    cases passed
  · intro passed
    exact if_pos passed

/-- A key covering a permission read as a request covers everything that the
permission grants.  A wildcard of the permission is only matched by a wildcard
of the key, its absent namespace only by an absent one. -/
theorem keyCovers_of_permissionEvent {wide : PermissionKey}
    {permission : Permission} {event : KubeEvent}
    (asked : KeyCovers wide (permissionEvent permission))
    (granted : KeyCovers permission.key event) : KeyCovers wide event := by
  obtain ⟨apiGroup, resource, verb, scope, resourceName⟩ := wide
  obtain ⟨group, kind, action, location, name⟩ := asked
  obtain ⟨grantedGroup, grantedKind, grantedAction, grantedLocation,
    grantedName⟩ := granted
  simp only [permissionEvent] at group kind action location name
  refine ⟨?_, ?_, ?_, ?_, ?_⟩
  · rcases group with wildcard | same
    · exact Or.inl wildcard
    · exact same ▸ grantedGroup
  · rcases kind with wildcard | same
    · exact Or.inl wildcard
    · exact same ▸ grantedKind
  · rcases action with wildcard | same
    · exact Or.inl wildcard
    · exact same ▸ grantedAction
  · rcases location with clusterWide | same
    · exact Or.inl clusterWide
    · exact same ▸ grantedLocation
  · rcases name with unnamed | ⟨-, same⟩
    · exact Or.inl unnamed
    · exact same ▸ grantedName

/-- A candidate that passes the gate allows only what the original allows. -/
theorem within_of_checkCandidate_ok
    (passed : checkCandidate candidate original = .ok ()) :
    Within candidate original := by
  intro event authorized
  obtain ⟨key, keyMember, covered⟩ := isAuthorized_iff.mp authorized
  obtain ⟨permission, member, rfl⟩ := List.mem_map.mp keyMember
  have asked := checkCandidate_ok_iff.mp passed permission member
  obtain ⟨wide, wideMember, wideCovers⟩ := isAuthorized_iff.mp asked
  exact isAuthorized_iff.mpr
    ⟨wide, wideMember, keyCovers_of_permissionEvent wideCovers covered⟩

theorem Candidate.built (built : Candidate original candidate) :
    ∃ events, candidate.keys = eventKeys events ∧
      ∀ event ∈ events, isAuthorized original event = true := by
  induction built with
  | observed returned =>
      obtain ⟨authorized, -, sameKeys, -⟩ := observedOnlyPolicy_ok returned
      exact ⟨_, sameKeys, authorized⟩
  | @repaired _ _ missing _ returned induction =>
      obtain ⟨events, sameKeys, authorized⟩ := induction
      obtain ⟨more, -, moreKeys, -⟩ := repairPolicy_ok returned
      refine ⟨events ++ missing, ?_, ?_⟩
      · rw [moreKeys, sameKeys, eventKeys_append]
      · intro event member
        exact (List.mem_append.mp member).elim (authorized event) (more event)

theorem Candidate.checkCandidate_ok (built : Candidate original candidate) :
    checkCandidate candidate original = .ok () := by
  obtain ⟨events, sameKeys, authorized⟩ := built.built
  exact checkCandidate_ok_of_eventKeys sameKeys authorized

/-- The gate is sound for arbitrary policies, as the condition that it checks
and by the value that the graph reads, and it never refuses what the reducer
and any number of repairs build. -/
theorem candidate_gate_sound_and_complete :
    (∀ original candidate : Policy,
      (∀ permission ∈ candidate.permissions,
        isAuthorized original (permissionEvent permission) = true) →
      ∀ event, isAuthorized candidate event = true →
        isAuthorized original event = true) ∧
    (∀ original candidate : Policy,
      checkCandidate candidate original = .ok () →
      ∀ event, isAuthorized candidate event = true →
        isAuthorized original event = true) ∧
    ∀ original candidate : Policy, Candidate original candidate →
      checkCandidate candidate original = .ok () := by
  refine ⟨?_, ?_, ?_⟩
  · intro original candidate asked
    exact within_of_checkCandidate_ok (checkCandidate_ok_iff.mpr asked)
  · intro original candidate passed
    exact within_of_checkCandidate_ok passed
  · intro original candidate built
    exact built.checkCandidate_ok

/-- A wildcard policy passes the gate of itself, and so does the candidate
made from it. -/
theorem candidate_gate_sound_and_complete_wildcard :
    isAuthorized wildcardPolicy
        ⟨"", "pods", "watch", some "shop", none, none⟩ = true ∧
      ∃ candidate,
        observedOnlyPolicy wildcardPolicy namedReadAndListing =
          .ok candidate ∧
        checkCandidate candidate wildcardPolicy = .ok () := by
  refine ⟨?_, ?_⟩
  · exact candidate_gate_sound_and_complete.1 wildcardPolicy wildcardPolicy
      (by decide) _ rfl
  · have returned : ∃ candidate,
        observedOnlyPolicy wildcardPolicy namedReadAndListing =
          .ok candidate := ⟨_, rfl⟩
    obtain ⟨candidate, returned⟩ := returned
    exact ⟨candidate, returned, candidate_gate_sound_and_complete.2.2 _ _
      (.observed returned)⟩

end Kuber.Agent

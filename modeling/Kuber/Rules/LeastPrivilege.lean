import Kuber.Rules.Reducer

/-!
# Candidates are least policies

What the reducer and the repair return, said once as sets of keys.  Both only
ever add least grants, so a candidate never allows more than any policy that
is sufficient for the events it was built from.
-/

namespace Kuber.Rules

open Kuber.Library

theorem eventKey?_eq_some_iff {event : KubeEvent} {key : PermissionKey} :
    eventKey? event = some key ↔
      ∃ permission, eventPermission event = .ok permission ∧
        permission.key = key := by
  cases made : eventPermission event with
  | error error => simp [eventKey?, made, Except.toOption]
  | ok permission => simp [eventKey?, made, Except.toOption]

/-- The keys made for a list of events. -/
def eventKeys (events : List KubeEvent) : Set PermissionKey :=
  {key | ∃ event ∈ events, eventKey? event = some key}

/-- Every event has a permission that can be made for it. -/
def AllSupported (events : List KubeEvent) : Prop :=
  ∀ event ∈ events, ∃ permission, eventPermission event = .ok permission

theorem eventKeys_append (events more : List KubeEvent) :
    eventKeys (events ++ more) = eventKeys events ∪ eventKeys more := by
  ext key
  simp only [eventKeys, List.mem_append, Set.mem_union, Set.mem_ofPred_eq,
    or_and_right, exists_or]

theorem eventKeys_leastGrantsFor (events : List KubeEvent) :
    LeastGrantsFor KeyCovers {event | event ∈ events} (eventKeys events) := by
  rintro key ⟨event, member, made⟩
  obtain ⟨permission, permissionMade, rfl⟩ := eventKey?_eq_some_iff.mp made
  exact ⟨event, member, eventPermission_isLeastGrant permissionMade⟩

theorem covered_by_eventKeys {events : List KubeEvent}
    (supported : AllSupported events) {event : KubeEvent}
    (member : event ∈ events) : event ∈ allowed KeyCovers (eventKeys events) := by
  obtain ⟨permission, made⟩ := supported event member
  exact ⟨permission.key,
    ⟨event, member, eventKey?_eq_some_iff.mpr ⟨permission, made, rfl⟩⟩,
    (eventPermission_isLeastGrant made).covers_request⟩

theorem mem_keys_of_made {events : List KubeEvent}
    {permissions : List Permission}
    (made : List.Forall₂
      (fun event permission => eventPermission event = .ok permission)
      events permissions) (key : PermissionKey) :
    key ∈ permissions.map Permission.key ↔ key ∈ eventKeys events := by
  induction made with
  | nil => simp [eventKeys]
  | @cons event permission events permissions first _ induction =>
      have firstKey : eventKey? event = some permission.key :=
        eventKey?_eq_some_iff.mpr ⟨permission, first, rfl⟩
      simp only [eventKeys, Set.mem_ofPred_eq] at induction
      simp [eventKeys, induction, firstKey, eq_comm]

private theorem supported_of_made {events : List KubeEvent}
    {permissions : List Permission}
    (made : List.Forall₂
      (fun event permission => eventPermission event = .ok permission)
      events permissions) : AllSupported events := by
  induction made with
  | nil => simp [AllSupported]
  | cons first _ induction =>
      intro event member
      rcases List.mem_cons.mp member with rfl | later
      · exact ⟨_, first⟩
      · exact induction event later

/-- All that a returned observed-only candidate says. -/
theorem observedOnlyPolicy_ok {current candidate : Policy}
    {observed : List KubeEvent}
    (returned : observedOnlyPolicy current observed = .ok candidate) :
    (∀ event ∈ observed, isAuthorized current event = true) ∧
      AllSupported observed ∧
      candidate.keys = eventKeys observed ∧
      candidate.name = current.serviceAccount ++ "-kuber" ∧
      candidate.serviceAccount = current.serviceAccount ∧
      candidate.serviceAccountNamespace = current.serviceAccountNamespace := by
  unfold observedOnlyPolicy at returned
  split at returned
  · rename_i noneUnauthorized
    simp only [bind_eq_ok_iff, pure_eq_ok_iff] at returned
    obtain ⟨permissions, mapped, rfl⟩ := returned
    have made := mapM_eq_ok_iff.mp mapped
    refine ⟨?_, supported_of_made made, ?_, rfl, rfl, rfl⟩
    · intro event member
      have kept := List.filter_eq_nil_iff.mp noneUnauthorized event member
      simpa using kept
    · ext key
      rw [Policy.mem_keys_build, mem_keys_of_made made]
  · cases returned

theorem repairAdditions_ok {original : Policy}
    {missing : List KubeEvent} {additions : List Permission}
    (returned : repairAdditions original missing = .ok additions) :
    (∀ event ∈ missing, isAuthorized original event = true) ∧
      List.Forall₂
        (fun event permission => eventPermission event = .ok permission)
        missing additions := by
  induction missing generalizing additions with
  | nil =>
      cases returned
      exact ⟨by simp, .nil⟩
  | cons event missing induction =>
      simp only [repairAdditions] at returned
      cases authorized : isAuthorized original event with
      | false => rw [authorized] at returned; cases returned
      | true =>
          simp only [authorized, Bool.true_eq_false, if_false,
            bind_eq_ok_iff, pure_eq_ok_iff] at returned
          obtain ⟨addition, made, others, rest, rfl⟩ := returned
          obtain ⟨restAuthorized, restMade⟩ := induction rest
          refine ⟨?_, .cons made restMade⟩
          intro item member
          rcases List.mem_cons.mp member with rfl | later
          · exact authorized
          · exact restAuthorized item later

private theorem repairAdditions_succeeds {original : Policy}
    {missing : List KubeEvent}
    (authorized : ∀ event ∈ missing, isAuthorized original event = true)
    (supported : AllSupported missing) :
    ∃ additions, repairAdditions original missing = .ok additions := by
  induction missing with
  | nil => exact ⟨[], rfl⟩
  | cons event missing induction =>
      obtain ⟨additions, rest⟩ := induction
        (fun item member => authorized item (List.mem_cons_of_mem _ member))
        (fun item member => supported item (List.mem_cons_of_mem _ member))
      obtain ⟨addition, made⟩ := supported event List.mem_cons_self
      refine ⟨addition :: additions, ?_⟩
      simp only [repairAdditions,
        authorized event List.mem_cons_self, made, rest]
      rfl

/-- All that a returned repair says. -/
theorem repairPolicy_ok {candidate repaired original : Policy}
    {missing : List KubeEvent}
    (returned : repairPolicy candidate missing original = .ok repaired) :
    (∀ event ∈ missing, isAuthorized original event = true) ∧
      AllSupported missing ∧
      repaired.keys = candidate.keys ∪ eventKeys missing ∧
      repaired.name = candidate.name ∧
      repaired.serviceAccount = candidate.serviceAccount ∧
      repaired.serviceAccountNamespace =
        candidate.serviceAccountNamespace := by
  simp only [repairPolicy, bind_eq_ok_iff, pure_eq_ok_iff] at returned
  obtain ⟨additions, added, rfl⟩ := returned
  obtain ⟨authorized, made⟩ := repairAdditions_ok added
  refine ⟨authorized, supported_of_made made, ?_, rfl, rfl, rfl⟩
  ext key
  rw [Policy.mem_keys_withPermissions, List.map_append, List.mem_append,
    mem_keys_of_made made]
  rfl

theorem repairPolicy_succeeds {candidate original : Policy}
    {missing : List KubeEvent}
    (authorized : ∀ event ∈ missing, isAuthorized original event = true)
    (supported : AllSupported missing) :
    ∃ repaired, repairPolicy candidate missing original = .ok repaired := by
  obtain ⟨additions, added⟩ := repairAdditions_succeeds authorized supported
  refine ⟨candidate.withPermissions (candidate.permissions ++ additions), ?_⟩
  simp only [repairPolicy, added]
  rfl

/-- A policy whose keys are least grants for events that `wide` allows allows
nothing more than `wide`. -/
theorem within_of_leastGrants {policy wide : Policy} {events : Set KubeEvent}
    (least : LeastGrantsFor KeyCovers events policy.keys)
    (sufficient : ∀ event ∈ events, isAuthorized wide event = true) :
    Within policy wide :=
  within_iff.mpr (least.allowed_subset fun event member =>
    isAuthorized_iff.mp (sufficient event member))

theorem observedOnlyPolicy_leastGrantsFor {current candidate : Policy}
    {observed : List KubeEvent}
    (returned : observedOnlyPolicy current observed = .ok candidate) :
    LeastGrantsFor KeyCovers {event | event ∈ observed} candidate.keys := by
  obtain ⟨-, -, sameKeys, -⟩ := observedOnlyPolicy_ok returned
  rw [sameKeys]
  exact eventKeys_leastGrantsFor observed

/-- The observed-only candidate authorizes every observed event, authorizes
nothing that some sufficient policy denies, and stays within the current
policy. -/
theorem observedOnlyPolicy_is_least_sufficient
    {current candidate : Policy} {observed : List KubeEvent}
    (returned : observedOnlyPolicy current observed = .ok candidate) :
    (∀ event ∈ observed, isAuthorized candidate event = true) ∧
      (∀ other : Policy,
        (∀ event ∈ observed, isAuthorized other event = true) →
          ∀ event, isAuthorized candidate event = true →
            isAuthorized other event = true) ∧
      ∀ event, isAuthorized candidate event = true →
        isAuthorized current event = true := by
  have least := observedOnlyPolicy_leastGrantsFor returned
  obtain ⟨authorized, supported, sameKeys, -⟩ := observedOnlyPolicy_ok returned
  refine ⟨?_, ?_, ?_⟩
  · intro event member
    rw [isAuthorized_iff, sameKeys]
    exact covered_by_eventKeys supported member
  · intro other sufficient
    exact within_of_leastGrants least sufficient
  · exact within_of_leastGrants least authorized

def wildcardPolicy : Policy :=
  Policy.build [⟨"", "*", "*", none, none, none⟩] "web-effective" "web" "shop"

def namedReadAndListing : List KubeEvent :=
  [⟨"", "pods", "get", some "shop", some "cart", none⟩,
    ⟨"", "pods", "list", some "shop", none, none⟩]

/-- A wildcard policy reduced to one named read and one listing. -/
theorem observedOnlyPolicy_is_least_sufficient_wildcard :
    ∃ candidate,
      observedOnlyPolicy wildcardPolicy namedReadAndListing = .ok candidate ∧
        ∀ event ∈ namedReadAndListing, isAuthorized candidate event = true := by
  have returned : ∃ candidate,
      observedOnlyPolicy wildcardPolicy namedReadAndListing = .ok candidate :=
    ⟨_, rfl⟩
  obtain ⟨candidate, returned⟩ := returned
  exact ⟨candidate, returned,
    (observedOnlyPolicy_is_least_sufficient returned).1⟩

end Kuber.Rules

import Kuber.Rules.LeastPrivilege

/-!
# Repair is a union

Repairing in one step and repairing in several steps reach the same policy.
A repair is refused exactly when one of its events is unauthorized or has no
permission, and what it returns is the candidate with the permissions of the
events put over it.  Both depend on the events as a set only.
-/

namespace Kuber.Rules

open Kuber.Library

/-- A computation that raises. -/
def Refused {α : Type} (outcome : Except PyException α) : Prop :=
  ∃ error, outcome = .error error

theorem not_refused_iff {α : Type} {outcome : Except PyException α} :
    ¬ Refused outcome ↔ ∃ value, outcome = .ok value := by
  cases outcome with
  | error error =>
      constructor
      · intro accepted
        exact absurd ⟨error, rfl⟩ accepted
      · intro ⟨_, impossible⟩
        cases impossible
  | ok value =>
      constructor
      · intro _
        exact ⟨value, rfl⟩
      · intro _ ⟨_, impossible⟩
        cases impossible

/-- The original policy allows every event, and each has a permission. -/
def Repairable (original : Policy) (events : List KubeEvent) : Prop :=
  (∀ event ∈ events, isAuthorized original event = true) ∧
    AllSupported events

theorem repairable_append {original : Policy}
    {events more : List KubeEvent} :
    Repairable original (events ++ more) ↔
      Repairable original events ∧ Repairable original more := by
  simp only [Repairable, AllSupported, List.forall_mem_append]
  tauto

theorem repairable_congr {original : Policy} {events others : List KubeEvent}
    (same : ∀ event, event ∈ events ↔ event ∈ others) :
    Repairable original events ↔ Repairable original others := by
  simp only [Repairable, AllSupported, same]

theorem repairPolicy_succeeds_iff (candidate : Policy) {original : Policy}
    {missing : List KubeEvent} :
    (∃ repaired, repairPolicy candidate missing original = .ok repaired) ↔
      Repairable original missing := by
  constructor
  · intro ⟨repaired, returned⟩
    obtain ⟨authorized, supported, -⟩ := repairPolicy_ok returned
    exact ⟨authorized, supported⟩
  · intro ⟨authorized, supported⟩
    exact repairPolicy_succeeds authorized supported

theorem repairPolicy_refused_iff {candidate original : Policy}
    {missing : List KubeEvent} :
    Refused (repairPolicy candidate missing original) ↔
      ¬ Repairable original missing := by
  rw [← repairPolicy_succeeds_iff candidate,
    ← not_refused_iff, not_not]

/-! ### Repairing twice -/

/-- One repair after another, as the repair loop makes them. -/
def repairTwice (candidate : Policy) (first second : List KubeEvent)
    (original : Policy) : Except PyException Policy := do
  let repaired ← repairPolicy candidate first original
  repairPolicy repaired second original

theorem repairTwice_succeeds_iff (candidate : Policy) {original : Policy}
    {first second : List KubeEvent} :
    (∃ repaired,
        repairTwice candidate first second original = .ok repaired) ↔
      Repairable original (first ++ second) := by
  rw [repairable_append]
  simp only [repairTwice, bind_eq_ok_iff]
  constructor
  · intro ⟨repaired, once, onceReturned, returned⟩
    exact ⟨(repairPolicy_succeeds_iff _).mp ⟨once, onceReturned⟩,
      (repairPolicy_succeeds_iff _).mp ⟨repaired, returned⟩⟩
  · intro ⟨firstRepairable, secondRepairable⟩
    obtain ⟨once, onceReturned⟩ :=
      (repairPolicy_succeeds_iff candidate).mpr firstRepairable
    obtain ⟨repaired, returned⟩ :=
      (repairPolicy_succeeds_iff once).mpr secondRepairable
    exact ⟨repaired, once, onceReturned, returned⟩

theorem repairTwice_refused_iff {candidate original : Policy}
    {first second : List KubeEvent} :
    Refused (repairTwice candidate first second original) ↔
      ¬ Repairable original (first ++ second) := by
  rw [← repairTwice_succeeds_iff candidate,
    ← not_refused_iff, not_not]

theorem repairTwice_keys {candidate original repaired : Policy}
    {first second : List KubeEvent}
    (returned : repairTwice candidate first second original = .ok repaired) :
    repaired.keys = candidate.keys ∪ eventKeys (first ++ second) := by
  simp only [repairTwice, bind_eq_ok_iff] at returned
  obtain ⟨once, onceReturned, returned⟩ := returned
  obtain ⟨-, -, onceKeys, -⟩ := repairPolicy_ok onceReturned
  obtain ⟨-, -, repairedKeys, -⟩ := repairPolicy_ok returned
  rw [repairedKeys, onceKeys, eventKeys_append, Set.union_assoc]

/-! ### The permissions of a repaired policy -/

theorem eventPermission_eq_of_key {left right : KubeEvent}
    {first second : Permission}
    (firstMade : eventPermission left = .ok first)
    (secondMade : eventPermission right = .ok second)
    (sameKey : first.key = second.key) : first = second := by
  have verified : ∀ {event : KubeEvent} {permission : Permission},
      eventPermission event = .ok permission →
        permission.source = some "Kuber/verified" := by
    intro event permission made
    unfold eventPermission at made
    split at made
    · cases made
    · split at made
      · cases made
      · cases made
        rfl
  have firstSource := verified firstMade
  have secondSource := verified secondMade
  cases first
  cases second
  simp only [Permission.key, Prod.mk.injEq] at sameKey firstSource secondSource
  simp only [Permission.mk.injEq]
  exact ⟨sameKey.1, sameKey.2.1, sameKey.2.2.1, sameKey.2.2.2.1,
    sameKey.2.2.2.2, firstSource.trans secondSource.symm⟩

/-- A repaired policy has the permissions made for the events, and those of
the candidate with other keys. -/
theorem mem_repairPolicy_iff {candidate original repaired : Policy}
    {missing : List KubeEvent}
    (returned : repairPolicy candidate missing original = .ok repaired)
    {permission : Permission} :
    permission ∈ repaired.permissions ↔
      (∃ event ∈ missing, eventPermission event = .ok permission) ∨
        permission ∈ candidate.permissions ∧
          permission.key ∉ eventKeys missing := by
  simp only [repairPolicy, bind_eq_ok_iff, pure_eq_ok_iff] at returned
  obtain ⟨additions, added, rfl⟩ := returned
  obtain ⟨-, made⟩ := repairAdditions_ok added
  have additionsMade : ∀ addition, addition ∈ additions ↔
      ∃ event ∈ missing, eventPermission event = .ok addition := by
    intro addition
    constructor
    · exact forall₂_mem_right made
    · rintro ⟨event, member, eventMade⟩
      obtain ⟨other, otherMember, otherMade⟩ := forall₂_mem_left made member
      rw [eventMade] at otherMade
      cases otherMade
      exact otherMember
  have functional : ∀ left ∈ additions, ∀ right ∈ additions,
      left.key = right.key → left = right := by
    intro left leftMember right rightMember
    obtain ⟨_, -, leftMade⟩ := (additionsMade left).mp leftMember
    obtain ⟨_, -, rightMade⟩ := (additionsMade right).mp rightMember
    exact eventPermission_eq_of_key leftMade rightMade
  rw [Policy.withPermissions, Policy.build, mem_sortBy, mem_uniqueBy_append,
    mem_uniqueBy_of_functional functional, uniqueBy_eq_self candidate.keysNodup,
    additionsMade, mem_keys_of_made made]

theorem repairPolicy_perm {candidate original left right : Policy}
    {events others : List KubeEvent}
    (same : ∀ event, event ∈ events ↔ event ∈ others)
    (leftReturned : repairPolicy candidate events original = .ok left)
    (rightReturned : repairPolicy candidate others original = .ok right) :
    left.permissions.Perm right.permissions := by
  apply (List.perm_ext_iff_of_nodup left.keysNodup.of_map
    right.keysNodup.of_map).mpr
  intro permission
  rw [mem_repairPolicy_iff leftReturned, mem_repairPolicy_iff rightReturned]
  simp only [eventKeys, same]

/-- A repair keeps what the candidate allows, allows the events, and nothing
that neither the candidate nor the original policy allows. -/
theorem repairPolicy_allows {candidate original repaired : Policy}
    {missing : List KubeEvent}
    (returned : repairPolicy candidate missing original = .ok repaired) :
    Within candidate repaired ∧
      (∀ event ∈ missing, isAuthorized repaired event = true) ∧
      ∀ event, isAuthorized repaired event = true →
        isAuthorized candidate event = true ∨
          isAuthorized original event = true := by
  obtain ⟨authorized, supported, sameKeys, -⟩ := repairPolicy_ok returned
  refine ⟨?_, ?_, ?_⟩
  · apply within_of_keys_subset
    rw [sameKeys]
    exact Set.subset_union_left
  · intro event member
    rw [isAuthorized_iff, sameKeys]
    exact allowed_mono Set.subset_union_right
      (covered_by_eventKeys supported member)
  · intro event allowedEvent
    rw [isAuthorized_iff, sameKeys] at allowedEvent
    obtain ⟨key, member, covered⟩ := allowedEvent
    cases member with
    | inl fromCandidate =>
        exact Or.inl (isAuthorized_iff.mpr ⟨key, fromCandidate, covered⟩)
    | inr fromEvents =>
        have least := eventKeys_leastGrantsFor missing
        have subset := least.allowed_subset fun event member =>
          isAuthorized_iff.mp (authorized event member)
        exact Or.inr (isAuthorized_iff.mpr (subset ⟨key, fromEvents, covered⟩))

/-- Repairing step by step and repairing at once are refused together and
reach the same keys; a repair depends on its events as a set, and is the
union of what the candidate allows with the events, inside what the candidate
and the original policy allow. -/
theorem repairPolicy_is_compositional_union (candidate original : Policy) :
    (∀ first second : List KubeEvent,
      (Refused (repairTwice candidate first second original) ↔
          Refused (repairPolicy candidate (first ++ second) original)) ∧
        ∀ twice once,
          repairTwice candidate first second original = .ok twice →
          repairPolicy candidate (first ++ second) original = .ok once →
            twice.keys = once.keys) ∧
      (∀ events others : List KubeEvent,
        (∀ event, event ∈ events ↔ event ∈ others) →
          (Refused (repairPolicy candidate events original) ↔
              Refused (repairPolicy candidate others original)) ∧
            ∀ left right,
              repairPolicy candidate events original = .ok left →
              repairPolicy candidate others original = .ok right →
                left.keys = right.keys ∧
                  left.permissions.Perm right.permissions) ∧
      ∀ (events : List KubeEvent) (repaired : Policy),
        repairPolicy candidate events original = .ok repaired →
          (∀ event, isAuthorized candidate event = true →
            isAuthorized repaired event = true) ∧
          (∀ event ∈ events, isAuthorized repaired event = true) ∧
          ∀ event, isAuthorized repaired event = true →
            isAuthorized candidate event = true ∨
              isAuthorized original event = true := by
  refine ⟨?_, ?_, ?_⟩
  · intro first second
    constructor
    · rw [repairTwice_refused_iff, repairPolicy_refused_iff]
    · intro twice once twiceReturned onceReturned
      rw [repairTwice_keys twiceReturned, (repairPolicy_ok onceReturned).2.2.1]
  · intro events others same
    constructor
    · rw [repairPolicy_refused_iff, repairPolicy_refused_iff,
        repairable_congr same]
    · intro left right leftReturned rightReturned
      have permuted := repairPolicy_perm same leftReturned rightReturned
      refine ⟨?_, permuted⟩
      ext key
      exact (permuted.map Permission.key).mem_iff
  · intro events repaired returned
    exact repairPolicy_allows returned

/-- Two denied events under a wildcard policy, added one at a time or
together. -/
theorem repairPolicy_is_compositional_union_wildcard :
    ∃ candidate twice once,
      repairTwice candidate (namedReadAndListing.take 1)
          (namedReadAndListing.drop 1) wildcardPolicy = .ok twice ∧
        repairPolicy candidate namedReadAndListing wildcardPolicy = .ok once ∧
        twice.keys = once.keys := by
  have stepwise : ∃ twice, repairTwice (Policy.build [] "web-kuber" "web" "shop")
      (namedReadAndListing.take 1) (namedReadAndListing.drop 1)
        wildcardPolicy = .ok twice := ⟨_, rfl⟩
  have together : ∃ once, repairPolicy (Policy.build [] "web-kuber" "web" "shop")
      namedReadAndListing wildcardPolicy = .ok once := ⟨_, rfl⟩
  obtain ⟨twice, twiceReturned⟩ := stepwise
  obtain ⟨once, onceReturned⟩ := together
  exact ⟨_, twice, once, twiceReturned, onceReturned,
    ((repairPolicy_is_compositional_union _ wildcardPolicy).1 _ _).2 twice once
      twiceReturned onceReturned⟩

end Kuber.Rules

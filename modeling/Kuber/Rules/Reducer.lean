import Kuber.Library.ExceptResult
import Kuber.Rules.Authorization
import Kuber.Rules.Canonicalizer

/-!
# Reduction and repair

The narrowest candidate for observed events and its extension by denied
events.  Every permission made here is the least grant for its event, so the
candidates are least policies for the events they were built from.
-/

namespace Kuber.Rules

open Kuber.Library

def resourceNameSafeVerbs : List String := ["get", "update", "patch", "delete"]

def eventPermission (event : KubeEvent) : Except PyException Permission :=
  if event.verb ∉ supportedVerbs then
    .error (.valueError ("unsupported observed verb: " ++ event.verb))
  else if isSupportedResource event.apiGroup event.resource = false then
    .error (.valueError ("unsupported observed resource: " ++
      orElse event.apiGroup "core" ++ "/" ++ event.resource))
  else
    let name :=
      if event.verb ∈ resourceNameSafeVerbs then event.resourceName else none
    .ok ⟨event.apiGroup, event.resource, event.verb, event.namespace, name,
      some "Kuber/verified"⟩

/-- Build the narrowest supported policy for observed, authorized calls. -/
def observedOnlyPolicy (current : Policy) (observed : List KubeEvent) :
    Except PyException Policy :=
  match observed.filter (fun event => !isAuthorized current event) with
  | [] => do
      let permissions ← observed.mapM eventPermission
      return Policy.build permissions (current.serviceAccount ++ "-kuber")
        current.serviceAccount current.serviceAccountNamespace
  | unauthorized =>
      .error (.valueError
        ("observed usage is not authorized by the current policy: " ++
          ", ".intercalate (unauthorized.map KubeEvent.display)))

/-- The permissions repairing `missing`, refusing at the first event that the
original policy denies or that has no supported permission. -/
def repairAdditions (original : Policy) :
    List KubeEvent → Except PyException (List Permission)
  | [] => .ok []
  | event :: missing => do
      if isAuthorized original event = false then
        .error (.valueError
          ("refusing to invent permission absent from original policy: " ++
            event.display))
      let addition ← eventPermission event
      let additions ← repairAdditions original missing
      return addition :: additions

/-- Add only denied capabilities that the original policy allowed. -/
def repairPolicy (candidate : Policy) (missing : List KubeEvent)
    (original : Policy) : Except PyException Policy := do
  let additions ← repairAdditions original missing
  return candidate.withPermissions (candidate.permissions ++ additions)

/-- The key of the permission made for an event, when there is one. -/
def eventKey? (event : KubeEvent) : Option PermissionKey :=
  (eventPermission event).toOption.map Permission.key

theorem eventPermission_ok {event : KubeEvent} {permission : Permission}
    (made : eventPermission event = .ok permission) :
    event.verb ∈ supportedVerbs ∧
      isSupportedResource event.apiGroup event.resource = true ∧
      permission.key =
        (event.apiGroup, event.resource, event.verb, event.namespace,
          if event.verb ∈ resourceNameSafeVerbs then event.resourceName
          else none) := by
  unfold eventPermission at made
  split at made
  · cases made
  · rename_i verbSupported
    split at made
    · cases made
    · rename_i resourceSupported
      cases made
      exact ⟨not_not.mp verbSupported,
        Bool.eq_true_of_not_eq_false resourceSupported, rfl⟩

theorem eventPermission_error {event : KubeEvent} {error : PyException}
    (refused : eventPermission event = .error error) :
    error.kind.isValueError = true := by
  unfold eventPermission at refused
  split at refused
  · cases refused
    rfl
  · split at refused
    · cases refused
      rfl
    · cases refused

/-- A repair is refused with a `ValueError`, which callers rely on. -/
theorem repairPolicy_error {candidate original : Policy}
    {missing : List KubeEvent} {error : PyException}
    (refused : repairPolicy candidate missing original = .error error) :
    error.kind.isValueError = true := by
  have additionsRefused :
      repairAdditions original missing = .error error := by
    unfold repairPolicy at refused
    cases added : repairAdditions original missing with
    | error other =>
        rw [added] at refused
        cases refused
        rfl
    | ok additions =>
        rw [added] at refused
        cases refused
  clear refused
  induction missing with
  | nil => cases additionsRefused
  | cons event missing induction =>
      simp only [repairAdditions] at additionsRefused
      split at additionsRefused
      · cases additionsRefused
        rfl
      · cases made : eventPermission event with
        | error other =>
            rw [made] at additionsRefused
            cases additionsRefused
            exact eventPermission_error made
        | ok addition =>
            rw [made] at additionsRefused
            cases rest : repairAdditions original missing with
            | error other =>
                rw [rest] at additionsRefused
                cases additionsRefused
                exact induction rest
            | ok additions =>
                rw [rest] at additionsRefused
                cases additionsRefused

/-- The permission made for an event covers it and is contained in every key
covering it.  The name is kept exactly for the verbs whose requests the
authorization check can restrict by name. -/
theorem eventPermission_isLeastGrant {event : KubeEvent}
    {permission : Permission}
    (made : eventPermission event = .ok permission) :
    IsLeastGrant KeyCovers event permission.key := by
  obtain ⟨verbSupported, -, shape⟩ := eventPermission_ok made
  have concrete := supportedVerb_ne_wildcard verbSupported
  have sameVerbs : resourceNameSafeVerbs = resourceNameVerbs := rfl
  rw [shape, sameVerbs]
  constructor
  · by_cases nameable : event.verb ∈ resourceNameVerbs
    · simp [KeyCovers, nameable]
    · simp [KeyCovers, nameable]
  · rintro ⟨apiGroup, resource, verb, scope, resourceName⟩
    rintro ⟨group, kind, action, location, name⟩ covered
    rintro ⟨coveredGroup, coveredKind, coveredVerb, coveredScope, coveredName⟩
    have sameVerb : event.verb = covered.verb :=
      coveredVerb.resolve_left concrete
    refine ⟨?_, ?_, ?_, ?_, ?_⟩
    · rcases group with wildcard | same
      · exact Or.inl wildcard
      · exact same ▸ coveredGroup
    · rcases kind with wildcard | same
      · exact Or.inl wildcard
      · exact same ▸ coveredKind
    · exact sameVerb ▸ action
    · rcases location with wide | same
      · exact Or.inl wide
      · exact same ▸ coveredScope
    · rcases name with unnamed | ⟨nameable, same⟩
      · exact Or.inl unnamed
      · rw [if_pos nameable, same] at coveredName
        exact coveredName

end Kuber.Rules

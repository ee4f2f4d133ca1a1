import Kuber.Runtime.Enforcement

/-!
# Rolling a run back

A run applies growing candidates until one of its commands fails.  At that
point the adapter still remembers the documents of the last candidate, and
these name every candidate object in the cluster.  Restoring deletes them and
writes the original policy out again, which kubectl refuses when the original
policy is empty.
-/

namespace Kuber.Runtime

open Kuber.Library Kuber.Rules

namespace KubernetesEnvironment

/-- The policies that one run of the repair loop applies. -/
structure RunPolicies (environment : KubernetesEnvironment)
    (policies : List Policy) : Prop where
  candidates : ∀ policy ∈ policies, environment.Candidate policy
  growing : policies.Pairwise fun earlier later => earlier.keys ⊆ later.keys

/-- The applications of a run, up to the first one that raises. -/
def applyEach (environment : KubernetesEnvironment) :
    List Policy → Raising PyException KubernetesState Unit
  | [] => pure ()
  | policy :: policies => do
      environment.applyPolicy policy
      environment.applyEach policies

/-- A working kubectl from here on. -/
def repaired (state : KubernetesState) : KubernetesState :=
  { state with outcomes := [] }

/-- A following restoration returns, and leaves the cluster and the adapter as
the original policy demands. -/
def RolledBack (environment : KubernetesEnvironment) (policies : List Policy)
    (interrupted : KubernetesState) : Prop :=
  ∃ after,
    environment.restorePolicy (repaired interrupted) = (.ok (), after) ∧
    getCurrentPolicy after = (.ok environment.originalPolicy, after) ∧
    (∀ event, isAuthorized (after.cluster.policy environment.account) event =
      isAuthorized environment.originalPolicy event) ∧
    ∀ policy ∈ policies, ∀ object ∈ generatedObjects policy,
      after.cluster.get? (objectKey object) = none

variable {environment : KubernetesEnvironment} {policy : Policy}
  {objects : List ParsedObject} {cluster : Cluster}

/-- The objects of the deployed manifest; of several with one key only the
last is there. -/
def deployedObjects (objects : List ParsedObject) : List ParsedObject :=
  (deployed objects).objects.values

theorem mem_deployedObjects_iff {object : ParsedObject} :
    object ∈ deployedObjects objects ↔ (deployed objects).Holds object :=
  Cluster.holds_iff_mem_values.symm

/-- The remembered documents name every candidate object of the cluster. -/
def Tracks (environment : KubernetesEnvironment)
    (objects : List ParsedObject) (last : Policy) (state : KubernetesState) :
    Prop :=
  Enforceable environment.account last ∧ environment.Candidate last ∧
    state.candidateDocuments = policyToDocuments last ∧
    Composed (fun earlier => environment.Candidate earlier ∧
      earlier.keys ⊆ last.keys) (deployedObjects objects) state.cluster

def noCandidate (environment : KubernetesEnvironment) : Policy :=
  Policy.build [] environment.candidateName environment.settings.serviceAccount
    environment.settings.namespace

theorem tracks_opened (environment : KubernetesEnvironment)
    (objects : List ParsedObject) (outcomes : List Outcome) :
    environment.Tracks objects environment.noCandidate
      (environment.opened (deployed objects) outcomes) := by
  refine ⟨⟨?_, ?_, ?_⟩, ⟨rfl, rfl, rfl⟩, rfl, ?_⟩
  · exact fun _ member => absurd member List.not_mem_nil
  · exact fun _ member => absurd member List.not_mem_nil
  · exact fun _ member => absurd member List.not_mem_nil
  · exact fun _ holds => Or.inl (mem_deployedObjects_iff.mpr holds)

/-- After an application the adapter tracks the applied policy, or it has
raised before anything happened. -/
theorem Tracks.applyPolicy {last : Policy} {state : KubernetesState}
    (tracks : environment.Tracks objects last state)
    (candidate : environment.Candidate policy)
    (growing : last.keys ⊆ policy.keys) :
    Raising.Ends
      (fun _ after => environment.Tracks objects policy after)
      (fun _ after => environment.Tracks objects last after ∨
        environment.Tracks objects policy after)
      (environment.applyPolicy policy state) := by
  have composed := tracks.2.2.2
  have larger : Composed (fun earlier => environment.Candidate earlier ∧
      earlier.keys ⊆ policy.keys) (deployedObjects objects) state.cluster := by
    intro object holds
    rcases composed object holds with old | ⟨earlier, ⟨known, fewer⟩, made⟩
    · exact Or.inl old
    · exact Or.inr ⟨earlier, ⟨known, fewer.trans growing⟩, made⟩
  apply (environment.applyPolicy_ends policy state).imp
  · intro _ after ⟨validated, written, documents, _⟩
    refine ⟨enforceable_of_validatePolicy validated, candidate, documents, ?_⟩
    rw [written]
    exact larger.gains ⟨candidate, subset_rfl⟩ gains_enforced
  · intro _ after ends
    rcases ends with unchanged | ⟨validated, documents, gains⟩
    · rw [unchanged]
      exact Or.inl tracks
    · exact Or.inr ⟨enforceable_of_validatePolicy validated, candidate,
        documents, larger.gains ⟨candidate, subset_rfl⟩ gains⟩

/-- Wherever a run stops, the adapter tracks one of its policies. -/
theorem Tracks.applyEach {last : Policy} {state : KubernetesState}
    {policies : List Policy}
    (tracks : environment.Tracks objects last state)
    (run : environment.RunPolicies policies)
    (growing : ∀ policy ∈ policies, last.keys ⊆ policy.keys) :
    ∃ reached, environment.Tracks objects reached
      (environment.applyEach policies state).2 := by
  induction policies generalizing last state with
  | nil => exact ⟨last, tracks⟩
  | cons policy policies induction =>
      obtain ⟨candidates, ordered⟩ := run
      obtain ⟨first, ordered⟩ := List.pairwise_cons.mp ordered
      have ends := tracks.applyPolicy (candidates policy List.mem_cons_self)
        (growing policy List.mem_cons_self)
      cases applied : environment.applyPolicy policy state with
      | mk result after =>
          rw [applied] at ends
          cases result with
          | ok value =>
              have later := induction ends
                ⟨fun other member =>
                  candidates other (List.mem_cons_of_mem policy member),
                  ordered⟩ first
              rw [KubernetesEnvironment.applyEach,
                Raising.bind_run_ok applied]
              exact later
          | error error =>
              rw [KubernetesEnvironment.applyEach,
                Raising.bind_run_error applied]
              rcases ends with before | after
              · exact ⟨last, before⟩
              · exact ⟨policy, after⟩

/-- The cluster after a restoration that tracked `last`. -/
def restored (environment : KubernetesEnvironment) (last : Policy)
    (cluster : Cluster) : Cluster :=
  (cluster.removeAll ((generatedObjects last).map objectKey)).applyAll
    (generatedObjects environment.originalPolicy)

theorem generatedObjects_eq_nil_iff :
    generatedObjects policy = [] ↔ policy.permissions = [] := by
  constructor
  · intro empty
    apply List.eq_nil_iff_forall_not_mem.mpr
    intro permission member
    have grouped := mem_groupedScopes_iff.mpr
      ⟨⟨permission, member, rfl⟩, Eq.refl _⟩
    have generated := mem_generatedObjects_iff.mpr
      ⟨_, grouped, Or.inl (Eq.refl _)⟩
    rw [empty] at generated
    cases generated
  · intro empty
    apply List.eq_nil_iff_forall_not_mem.mpr
    intro object member
    obtain ⟨item, grouped, -⟩ := mem_generatedObjects_iff.mp member
    obtain ⟨permission, inPolicy, -⟩ := hasScope_of_mem_groupedScopes grouped
    rw [empty] at inPolicy
    cases inPolicy

/-- A restoration with a working kubectl fails exactly on an empty original
policy. -/
theorem Tracks.restorePolicy {last : Policy} {state : KubernetesState}
    (tracks : environment.Tracks objects last state)
    (live : environment.dryRun = false)
    (account : environment.ForAccount) :
    environment.restorePolicy (repaired state) =
      if environment.originalPolicy.permissions = [] then
        (.error (environment.exitError
            (.apply (policyInput environment.originalPolicy))),
          ⟨state.cluster.removeAll ((generatedObjects last).map objectKey),
            [], state.currentPolicy, []⟩)
      else
        (.ok (), ⟨environment.restored last state.cluster, [],
          environment.originalPolicy, []⟩) := by
  obtain ⟨enforceable, -, documents, -⟩ := tracks
  have targets := deleteTarget_policyToDocuments enforceable.writable
  rw [← documents] at targets
  have effect := @restorePolicy_working environment (repaired state) live rfl
    account.2.writable _ targets
  simp only [generatedObjects_eq_nil_iff] at effect
  exact effect

section

variable (account : environment.ForAccount)
  (fresh : ∀ object ∈ objects, ¬environment.Generates (objectKey object))

include account in
theorem original_generates {object : ParsedObject}
    (member : object ∈ generatedObjects environment.originalPolicy) :
    NamedFor environment.effectiveName (objectKey object) :=
  account.1 ▸ namedFor_of_mem_generatedObjects member

include fresh in
theorem deployed_not_generates {object : ParsedObject}
    (holds : (deployed objects).Holds object) :
    ¬environment.Generates (objectKey object) :=
  fresh object (holds_deployed holds)

theorem holds_restored_original {last : Policy} {object : ParsedObject}
    (member : object ∈ generatedObjects environment.originalPolicy) :
    (environment.restored last cluster).Holds object :=
  Cluster.holds_applyAll_of_mem (generatedObjects_keysNodup _) member

/-- After a restoration every object is an original one: of the manifest as it
was deployed, or of the restored policy. -/
theorem Tracks.holds_restored {last : Policy} {state : KubernetesState}
    (tracks : environment.Tracks objects last state) {object : ParsedObject}
    (holds : (environment.restored last state.cluster).Holds object) :
    object ∈ generatedObjects environment.originalPolicy ∨
      (deployed objects).Holds object := by
  obtain ⟨-, lastCandidate, -, composed⟩ := tracks
  rcases Cluster.holds_of_holds_applyAll holds with written | kept
  · exact Or.inl written
  · rw [Cluster.Holds, Cluster.get?_removeAll] at kept
    by_cases removed :
        objectKey object ∈ (generatedObjects last).map objectKey
    · simp [removed] at kept
    · rw [if_neg removed] at kept
      rcases composed object kept with original |
        ⟨earlier, ⟨candidate, fewer⟩, made⟩
      · exact Or.inr (mem_deployedObjects_iff.mp original)
      · -- a candidate object would have been deleted
        have sameName := lastCandidate.name.trans candidate.name.symm
        obtain ⟨item, grouped, same⟩ := mem_generatedObjects_iff.mp made
        have occurs := (hasScope_of_mem_groupedScopes grouped).mono fewer
        have key : objectKey object = scopeRoleKey earlier.name item.1 ∨
            objectKey object = scopeBindingKey earlier.name item.1 := by
          rcases same with rfl | rfl
          · exact Or.inl (objectKey_generatedRole item)
          · exact Or.inr (objectKey_generatedBinding item.1)
        exact absurd ((mem_keys_generatedObjects_iff key).mpr
          ⟨sameName, occurs⟩) removed

include account fresh in
theorem Tracks.no_candidate_left {last candidate : Policy}
    {state : KubernetesState}
    (tracks : environment.Tracks objects last state)
    (known : environment.Candidate candidate) {object : ParsedObject}
    (member : object ∈ generatedObjects candidate) :
    (environment.restored last state.cluster).get? (objectKey object) =
      none := by
  have named : NamedFor environment.candidateName (objectKey object) :=
    known.name ▸ namedFor_of_mem_generatedObjects member
  by_contra present
  obtain ⟨found, held⟩ := Option.ne_none_iff_exists'.mp present
  obtain ⟨sameKey, holds⟩ := Cluster.get?_eq_some_iff.mp held
  rw [← sameKey] at named
  rcases tracks.holds_restored holds with written | original
  · exact environment.candidateName_ne_effectiveName
      (named.unique (original_generates account written))
  · exact deployed_not_generates fresh original (Or.inl named)

theorem keyCovers_of_keyInScope {permission : Permission}
    {scope : Option String} {event : KubeEvent}
    (narrower : permission.namespace = none ∨ permission.namespace = scope)
    (covers : KeyCovers (keyInScope scope permission) event) :
    KeyCovers permission.key event := by
  obtain ⟨group, resource, verb, location, name⟩ := covers
  refine ⟨group, resource, verb, ?_, name⟩
  rcases narrower with clusterWide | same
  · exact Or.inl clusterWide
  · exact same ▸ location

private theorem narrower_of_reference {binding : BindingObject}
    {item : Option String × List Permission}
    (wellFormed : binding.WellFormed)
    (reference : referencedKey binding =
      objectKey (.role (generatedRole policy item))) :
    item.1 = none ∨ item.1 = bindingScope binding := by
  rw [objectKey_generatedRole] at reference
  have kinds := congrArg ObjectKey.kind reference
  have scopes : _ = item.1 := congrArg ObjectKey.namespace reference
  by_cases clusterWide : item.1 = none
  · exact Or.inl clusterWide
  · right
    simp only [scopeRoleKey, if_neg clusterWide] at kinds
    cases roleKind : binding.roleKind with
    | clusterRole => simp [referencedKey, roleKind] at kinds
    | role =>
        have namespaced : binding.clusterBinding = false := by
          by_contra clusterBinding
          have impossible := (wellFormed.cluster
            (Bool.eq_true_of_not_eq_false clusterBinding)).2
          rw [roleKind] at impossible
          cases impossible
        simp only [referencedKey, roleKind] at scopes
        rw [← scopes, bindingScope, if_neg (by simp [namespaced])]

section

variable (wellFormed : ∀ object ∈ objects, object.WellFormed)
  {last : Policy} {state : KubernetesState}
  (tracks : environment.Tracks objects last state)

include account fresh wellFormed tracks

/-- What is granted after a restoration was granted by the deployed manifest,
or lies within an original permission. -/
theorem Tracks.granted_restored {key : PermissionKey}
    (granted : key ∈ ((environment.restored last state.cluster).policy
      environment.account).keys) :
    key ∈ ((deployed objects).policy environment.account).keys ∨
      ∃ original ∈ environment.originalPolicy.keys,
        ∀ event, KeyCovers key event → KeyCovers original event := by
  have named := account.2.named
  obtain ⟨binding, held, subject, role, roleHeld, grants⟩ :=
    Cluster.mem_keys_policy_iff.mp granted
  obtain ⟨sameKey, roleHolds⟩ := Cluster.get?_eq_some_iff.mp roleHeld
  rcases tracks.holds_restored held with written | bindingDeployed
  · obtain ⟨item, -, impossible | same⟩ :=
      mem_generatedObjects_iff.mp written
    · cases impossible
    cases same
    rw [referencedKey_generatedBinding] at sameKey
    rw [bindingScope_generatedBinding] at grants
    rcases tracks.holds_restored roleHolds with generated | roleDeployed
    · obtain ⟨roleItem, grouped, same | impossible⟩ :=
        mem_generatedObjects_iff.mp generated
      · cases same
        rw [objectKey_generatedRole, scopeRoleKey_inj] at sameKey
        rw [← sameKey.2] at grants
        exact Or.inr ⟨key, key_mem_of_granted named grouped grants,
          fun _ covers => covers⟩
      · cases impossible
    · have generates : environment.Generates (objectKey (.role role)) := by
        rw [sameKey, account.1]
        exact Or.inr ⟨item.1, Or.inl rfl⟩
      exact absurd generates (deployed_not_generates fresh roleDeployed)
  · rcases tracks.holds_restored roleHolds with generated | roleDeployed
    · obtain ⟨roleItem, grouped, same | impossible⟩ :=
        mem_generatedObjects_iff.mp generated
      · cases same
        have narrower := narrower_of_reference
          (wellFormed _ (holds_deployed bindingDeployed)) sameKey.symm
        rw [generatedRole_grants_iff named grouped] at grants
        obtain ⟨permission, member, scope, rfl⟩ := grants
        rw [← scope] at narrower
        exact Or.inr ⟨permission.key, Policy.mem_keys_of_mem member,
          fun _ => keyCovers_of_keyInScope narrower⟩
      · cases impossible
    · refine Or.inl (Cluster.mem_keys_policy_iff.mpr
        ⟨binding, bindingDeployed, subject, role, ?_, grants⟩)
      exact Cluster.get?_eq_some_iff.mpr ⟨sameKey, roleDeployed⟩

end

include account in
theorem keys_subset_restored {last : Policy} :
    environment.originalPolicy.keys ⊆
      ((environment.restored last cluster).policy environment.account).keys := by
  intro key keyMember
  obtain ⟨permission, member, rfl⟩ := List.mem_map.mp keyMember
  have grouped := mem_groupedScopes_iff.mpr
    ⟨⟨permission, member, rfl⟩, Eq.refl _⟩
  exact mem_keys_of_holds_pair rfl account.2 grouped
    (holds_restored_original
      (mem_generatedObjects_iff.mpr ⟨_, grouped, Or.inl rfl⟩))
    (holds_restored_original
      (mem_generatedObjects_iff.mpr ⟨_, grouped, Or.inr rfl⟩))
    (account.2.subject permission member) member rfl

include account in
/-- A restoration touches generated keys only. -/
theorem get?_restored_of_not_generates {last : Policy} {key : ObjectKey}
    (candidate : environment.Candidate last)
    (other : ¬environment.Generates key) :
    (environment.restored last cluster).get? key = cluster.get? key := by
  have notOriginal : key ∉
      (generatedObjects environment.originalPolicy).map objectKey := by
    intro member
    obtain ⟨object, generated, rfl⟩ := List.mem_map.mp member
    exact other (Or.inr (original_generates account generated))
  have notLast : key ∉ (generatedObjects last).map objectKey := by
    intro member
    obtain ⟨object, generated, rfl⟩ := List.mem_map.mp member
    exact other (Or.inl
      (candidate.name ▸ namedFor_of_mem_generatedObjects generated))
  rw [restored, Cluster.get?_applyAll_of_not_mem notOriginal,
    Cluster.get?_removeAll, if_neg notLast]

include account fresh in
/-- Nothing that the deployed manifest grants is lost without an
application. -/
theorem deployed_subset_restored {last : Policy}
    (candidate : environment.Candidate last) :
    ((deployed objects).policy environment.account).keys ⊆
      ((environment.restored last (deployed objects)).policy
        environment.account).keys := by
  intro key granted
  obtain ⟨binding, held, subject, role, roleHeld, grants⟩ :=
    Cluster.mem_keys_policy_iff.mp granted
  obtain ⟨sameKey, roleHolds⟩ := Cluster.get?_eq_some_iff.mp roleHeld
  refine Cluster.mem_keys_policy_iff.mpr
    ⟨binding, ?_, subject, role, ?_, grants⟩
  · rw [Cluster.Holds, get?_restored_of_not_generates account candidate
      (deployed_not_generates fresh held)]
    exact held
  · rw [get?_restored_of_not_generates account candidate
      (sameKey ▸ deployed_not_generates fresh roleHolds)]
    exact roleHeld

end

theorem deployed_policy_keys (account : ServiceAccountRef)
    (distinct : (objects.map objectKey).Nodup) :
    ((deployed objects).policy account).keys =
      (resolveEffectivePolicy (ParsedRbac.ofObjects objects) account).keys := by
  have sameObjects : ∀ object,
      object ∈ (deployed objects).objects.values ↔ object ∈ objects := by
    intro object
    rw [← Cluster.holds_iff_mem_values]
    exact ⟨holds_deployed, Cluster.holds_applyAll_of_mem distinct⟩
  ext key
  rw [Cluster.policy, mem_keys_resolve_objects_iff
    (deployed objects).values_keysNodup, mem_keys_resolve_objects_iff distinct]
  simp only [sameObjects]

/-- Rollback is complete, from every point at which a run can stop, exactly
when the original policy is not empty and the manifest as deployed grants
nothing that the original policy does not. -/
theorem rollback_is_complete_iff
    {settings : KubernetesSettings} {manifest : List Json}
    {probe : SandboxProbe} {environment : KubernetesEnvironment}
    {objects : List ParsedObject}
    (created : create settings manifest probe = .ok environment)
    (parsed : parseObjects manifest = .ok objects)
    (live : environment.dryRun = false)
    (fresh : ∀ object ∈ objects,
      ¬environment.Generates (objectKey object)) :
    (∀ policies outcomes, environment.RunPolicies policies →
      environment.RolledBack policies (environment.applyEach policies
        (environment.opened (deployed objects) outcomes)).2) ↔
      environment.originalPolicy.permissions ≠ [] ∧
        Within ((deployed objects).policy environment.account)
          environment.originalPolicy := by
  have account := (create_ok created parsed).2
  have wellFormed := parseObjects_wellFormed parsed
  constructor
  · intro complete
    have tracks := tracks_opened environment objects []
    obtain ⟨after, returned, -, same, -⟩ := complete [] []
      ⟨fun _ member => absurd member List.not_mem_nil, List.Pairwise.nil⟩
    have restoration := tracks.restorePolicy live account
    change environment.restorePolicy (repaired
      (environment.opened (deployed objects) [])) = _ at returned
    rw [returned] at restoration
    by_cases empty : environment.originalPolicy.permissions = []
    · rw [if_pos empty] at restoration
      cases restoration
    · rw [if_neg empty] at restoration
      refine ⟨empty, ?_⟩
      intro event authorized
      cases restoration
      rw [← same event]
      exact within_of_keys_subset (deployed_subset_restored account fresh
        tracks.2.1) event authorized
  · intro ⟨nonempty, within⟩ policies outcomes run
    obtain ⟨last, tracks⟩ := (tracks_opened environment objects
      outcomes).applyEach run fun _ _ _ member => by
        simp [noCandidate] at member
    have restoration := tracks.restorePolicy live account
    rw [if_neg nonempty] at restoration
    refine ⟨_, restoration, rfl, ?_, ?_⟩
    · intro event
      rw [Bool.eq_iff_iff]
      constructor
      · intro authorized
        obtain ⟨key, granted, covers⟩ := isAuthorized_iff.mp authorized
        rcases tracks.granted_restored account fresh wellFormed granted with
          deployedKey | ⟨original, originalKey, wider⟩
        · exact within event (isAuthorized_iff.mpr ⟨key, deployedKey, covers⟩)
        · exact isAuthorized_iff.mpr ⟨original, originalKey,
            wider event covers⟩
      · exact within_of_keys_subset (keys_subset_restored account) event
    · intro policy member object generated
      exact tracks.no_candidate_left account fresh
        (run.candidates policy member) generated

/-- An account that exists and has no grants. -/
def idleManifest : List Json :=
  [.mapping
    [("kind", .string "ServiceAccount"),
      ("metadata", .mapping
        [("name", .string "web"), ("namespace", .string "shop")])]]

def idleObjects : List ParsedObject := [.serviceAccount ⟨"web", "shop"⟩]

def idleEnvironment : KubernetesEnvironment :=
  ⟨shopSettings, Policy.build [] "web-effective" "web" "shop", true, false⟩

/-- The rollback of an account without grants raises: kubectl is given no
objects, although the application of the same policy leaves the command out. -/
theorem empty_policy_is_not_rolled_back :
    create shopSettings idleManifest kindSandbox = .ok idleEnvironment ∧
      parseObjects idleManifest = .ok idleObjects ∧
      idleEnvironment.dryRun = false ∧
      (∀ object ∈ idleObjects,
        ¬idleEnvironment.Generates (objectKey object)) ∧
      idleEnvironment.RunPolicies [idleEnvironment.noCandidate] ∧
      (∃ error after, idleEnvironment.restorePolicy
          (repaired (idleEnvironment.applyEach [idleEnvironment.noCandidate]
            (idleEnvironment.opened (deployed idleObjects) [])).2) =
        (.error error, after) ∧ error.kind = .calledProcessError) ∧
      ¬idleEnvironment.RolledBack [idleEnvironment.noCandidate]
        (idleEnvironment.applyEach [idleEnvironment.noCandidate]
          (idleEnvironment.opened (deployed idleObjects) [])).2 := by
  refine ⟨rfl, rfl, rfl, ?_, ⟨?_, List.pairwise_singleton _ _⟩,
    ⟨_, _, rfl, rfl⟩, ?_⟩
  · intro object member
    rw [List.mem_singleton.mp member]
    exact not_generates (by decide) (by decide)
  · intro policy member
    rw [List.mem_singleton.mp member]
    exact ⟨rfl, rfl, rfl⟩
  · intro ⟨after, returned, _⟩
    cases returned

/-- A candidate whose objects landed although kubectl failed is rolled back. -/
theorem rollback_is_complete_iff_listPods :
    shopEnvironment.RolledBack [listPods]
      (shopEnvironment.applyEach [listPods]
        (shopEnvironment.opened (deployed shopObjects)
          [.fails fun _ => true])).2 := by
  have created : create shopSettings shopManifest kindSandbox =
      .ok shopEnvironment := rfl
  have within : Within ((deployed shopObjects).policy shopEnvironment.account)
      shopEnvironment.originalPolicy :=
    within_of_keys_subset (deployed_policy_keys _ (by decide)).subset
  have run : shopEnvironment.RunPolicies [listPods] := by
    refine ⟨?_, List.pairwise_singleton _ _⟩
    intro policy member
    rw [List.mem_singleton.mp member]
    exact listPods_candidate
  exact (rollback_is_complete_iff created rfl rfl
    shopObjects_initial.fresh).mpr ⟨by decide, within⟩ [listPods] _ run

end KubernetesEnvironment

end Kuber.Runtime

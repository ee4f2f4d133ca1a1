import Kuber.Runtime.Rollback

/-!
# The first attempt of a run

With a working kubectl the applications of one attempt return and enforce their
policies one after another, and a restoration at its end gives back what the
manifest granted.
-/

namespace Kuber.Runtime

open Kuber.Library Kuber.Rules

namespace KubernetesEnvironment

variable {environment : KubernetesEnvironment} {policy : Policy}
  {objects : List ParsedObject} {state : KubernetesState}

theorem validatePolicy_ok (candidate : environment.Candidate policy)
    (named : environment.settings.serviceAccount ≠ "")
    (located : environment.settings.namespace ≠ "")
    (expressible : ∀ permission ∈ policy.permissions,
      permission.Expressible) : environment.validatePolicy policy = .ok () := by
  have addressed : ∀ permission ∈ policy.permissions,
      policy.serviceAccount ≠ "" ∧ policy.serviceAccountNamespace ≠ "" := by
    intro _ _
    rw [candidate.serviceAccount, candidate.namespace]
    exact ⟨named, located⟩
  obtain ⟨parsed, accepted, same⟩ := (regenerates_iff addressed).mpr expressible
  have account : (⟨policy.serviceAccount, policy.serviceAccountNamespace⟩ :
      ServiceAccountRef) = environment.account := by
    rw [candidate.serviceAccount, candidate.namespace, account]
  rw [account, ← sameKeys_iff] at same
  have compared : requireSameKeys
      (resolveEffectivePolicy parsed environment.account) policy = .ok () := by
    rw [requireSameKeys, same]
    rfl
  exact bind_eq_ok_iff.mpr ⟨parsed, accepted, compared⟩

theorem kubectl_working {command : KubectlCommand}
    (working : state.outcomes = []) (accepted : command.accepted = true) :
    environment.kubectl command true state = (.ok (), { state with
      cluster := command.effect (fun _ => true) state.cluster }) := by
  simp [kubectl, working, commandResult, accepted, Outcome.landed]

theorem applyCandidate_working (working : state.outcomes = [])
    (writable : policy.Writable) :
    environment.applyCandidate policy state = (.ok (), { state with
      cluster := state.cluster.applyAll (generatedObjects policy) }) := by
  have parsed : parseObjects (policyInput policy) =
      .ok (generatedObjects policy) :=
    parseObjects_policyToDocuments_iff.mpr ⟨rfl, writable⟩
  unfold applyCandidate
  by_cases empty : policyToDocuments policy = []
  · rw [if_pos empty, policyToDocuments_eq_nil_iff.mp empty]
    rfl
  · have accepted : (KubectlCommand.apply (policyInput policy)).accepted =
        true := by
      rw [KubectlCommand.accepted, parsed]
      exact decide_eq_true fun none =>
        empty (policyToDocuments_eq_nil_iff.mpr none)
    rw [if_neg empty, kubectl_working working accepted,
      KubectlCommand.effect, parsed]
    simp

/-- `apply_policy` of a valid policy with a working kubectl. -/
theorem applyPolicy_working (live : environment.dryRun = false)
    (working : state.outcomes = [])
    (validated : environment.validatePolicy policy = .ok ()) :
    environment.applyPolicy policy state = (.ok (),
      ⟨environment.enforced policy state.cluster, [], policy,
        policyToDocuments policy⟩) := by
  obtain ⟨cluster, outcomes, current, documents⟩ := state
  obtain rfl : outcomes = [] := working
  have valid : Raising.ofExcept (environment.validatePolicy policy)
      (⟨cluster, [], current, documents⟩ : KubernetesState) =
        (.ok (), ⟨cluster, [], current, documents⟩) := by
    rw [validated, Raising.ofExcept_run]
  have isLive : Raising.ofExcept environment.requireLive
      (⟨cluster, [], current, documents⟩ : KubernetesState) =
        (.ok (), ⟨cluster, [], current, documents⟩) := by
    rw [requireLive, if_neg (by simp [live]), Raising.ofExcept_run]
  have written : environment.applyCandidate policy
      ⟨cluster, [], current, policyToDocuments policy⟩ =
        (.ok (), ⟨cluster.applyAll (generatedObjects policy), [], current,
          policyToDocuments policy⟩) :=
    applyCandidate_working rfl
      (enforceable_of_validatePolicy validated).writable
  have deleted : ∀ (key : ObjectKey) (reached : Cluster),
      environment.kubectl (.delete key) true
        ⟨reached, [], current, policyToDocuments policy⟩ =
          (.ok (), ⟨reached.remove key, [], current,
            policyToDocuments policy⟩) :=
    fun key reached => kubectl_working rfl rfl
  rw [applyPolicy, Raising.bind_run_ok valid, Raising.bind_run_ok isLive,
    Raising.bind_run_ok (Raising.modify_run _ _),
    Raising.bind_run_ok written, Raising.bind_run_ok (deleted _ _),
    Raising.bind_run_ok (deleted _ _), Raising.modify_run]
  rfl

/-- Where an attempt is after some applications, of which `last` was the last
one. -/
structure Underway (environment : KubernetesEnvironment)
    (objects : List ParsedObject) (last : Policy) (state : KubernetesState) :
    Prop where
  working : state.outcomes = []
  tracks : environment.Tracks objects last state
  history : ∃ policies : List Policy,
    (∀ earlier ∈ policies, environment.Candidate earlier ∧
      earlier.keys ⊆ last.keys) ∧
    state = environment.afterCalls
      (environment.opened (deployed objects) []) (policies.map .apply)

theorem underway_opened (environment : KubernetesEnvironment)
    (objects : List ParsedObject) :
    environment.Underway objects environment.noCandidate
      (environment.opened (deployed objects) []) :=
  ⟨rfl, environment.tracks_opened objects [], [], by simp, rfl⟩

/-- A manifest of which an adapter was made, for a live attempt. -/
structure Deploys (environment : KubernetesEnvironment)
    (objects : List ParsedObject) : Prop where
  created : ∃ settings manifest probe,
    create settings manifest probe = .ok environment ∧
      parseObjects manifest = .ok objects
  initial : environment.InitialManifest objects
  distinct : (objects.map objectKey).Nodup
  live : environment.dryRun = false

variable {last : Policy}

theorem afterCalls_concat (calls : List AdapterCall) (call : AdapterCall) :
    environment.afterCalls state (calls ++ [call]) =
      environment.afterCall (environment.afterCalls state calls) call := by
  simp [afterCalls]

theorem Underway.applyPolicy
    (underway : environment.Underway objects last state)
    (deploys : environment.Deploys objects)
    (candidate : environment.Candidate policy)
    (growing : last.keys ⊆ policy.keys)
    (validated : environment.validatePolicy policy = .ok ()) :
    ∃ after, environment.applyPolicy policy state = (.ok (), after) ∧
      environment.Underway objects policy after ∧
      (after.cluster.policy environment.account).keys = policy.keys := by
  obtain ⟨working, tracks, policies, candidates, rfl⟩ := underway
  obtain ⟨settings, manifest, probe, created, parsed⟩ := deploys.created
  have applied := applyPolicy_working deploys.live working validated
  have tracked := tracks.applyPolicy candidate growing
  rw [applied] at tracked
  refine ⟨_, applied, ⟨rfl, tracked, policies ++ [policy], ?_, ?_⟩, ?_⟩
  · intro earlier member
    rcases List.mem_append.mp member with before | now
    · exact ⟨(candidates earlier before).1,
        (candidates earlier before).2.trans growing⟩
    · rw [List.mem_singleton.mp now]
      exact ⟨candidate, subset_rfl⟩
  · rw [List.map_append, List.map_singleton, afterCalls_concat]
    exact (congrArg Prod.snd applied).symm
  · exact first_attempt_is_enforced created parsed deploys.initial
      (fun earlier member => (candidates earlier member).1) candidate
      (fun earlier member => (candidates earlier member).2.trans growing)
      applied

theorem Underway.restorePolicy
    (underway : environment.Underway objects last state)
    (deploys : environment.Deploys objects)
    (granted : environment.originalPolicy.permissions ≠ []) :
    ∃ after, environment.restorePolicy state = (.ok (), after) ∧
      ∀ event, isAuthorized (after.cluster.policy environment.account) event =
        isAuthorized environment.originalPolicy event := by
  obtain ⟨settings, manifest, probe, created, parsed⟩ := deploys.created
  obtain ⟨original, account⟩ := create_ok created parsed
  have tracks := underway.tracks
  have restoration := tracks.restorePolicy deploys.live account
  rw [if_neg granted] at restoration
  have unrepaired : repaired state = state := by
    rw [repaired, ← underway.working]
  rw [unrepaired] at restoration
  refine ⟨_, restoration, fun event => ?_⟩
  rw [Bool.eq_iff_iff]
  constructor
  · intro authorized
    obtain ⟨key, isGranted, covers⟩ := isAuthorized_iff.mp authorized
    rcases tracks.granted_restored account deploys.initial.fresh
      (parseObjects_wellFormed parsed) isGranted with
      deployedKey | ⟨wide, originalKey, wider⟩
    · rw [deployed_policy_keys _ deploys.distinct, ← original] at deployedKey
      exact isAuthorized_iff.mpr ⟨key, deployedKey, covers⟩
    · exact isAuthorized_iff.mpr ⟨wide, originalKey, wider event covers⟩
  · exact within_of_keys_subset (keys_subset_restored account) event

end KubernetesEnvironment

end Kuber.Runtime

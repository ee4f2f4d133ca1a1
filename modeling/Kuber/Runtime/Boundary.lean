import Kuber.Agent.CandidateGate
import Kuber.Runtime.Enforcement
import Kuber.Runtime.Sandbox

/-!
# The boundary of the sandbox

An adapter that was created without the unsafe option changes a cluster only
when the context and the namespace were recognized.  The objects that its
commands name are those of the policies and of the manifest, wherever these
are: the commands stay in the recognized namespace exactly when the policies
that are applied or restored, and the manifest when the sandbox is prepared,
reach no other namespace.
-/

namespace Kuber.Runtime

open Kuber.Library Kuber.Rules Kuber.Agent

/-- One call of the adapter during a workload run. -/
inductive SandboxCall where
  | getObservedUsage (readings : Except PyException (List CompletedProcess))
  | applyPolicy (policy : Policy)
  | verifyWorkload (smoke : Except PyException CompletedProcess)
      (readings : Except PyException (List CompletedProcess))
  | restorePolicy
  | prepareSandbox (pod : String)

/-- A placement inside a namespace, or of an object without one. -/
def Placement.Inside (scope : String) : Placement → Prop
  | .cluster => True
  | .inNamespace name => name = scope
  | .contextNamespace => False

/-- A policy that reaches one namespace only, or all of them. -/
def ConfinedTo (scope : String) (policy : Policy) : Prop :=
  ∀ permission ∈ policy.permissions,
    permission.namespace = none ∨ permission.namespace = some scope

section Candidates

variable {scope : String} {original candidate : Policy}

theorem exists_event_of_mem {events : List KubeEvent} {permission : Permission}
    (sameKeys : candidate.keys = eventKeys events)
    (member : permission ∈ candidate.permissions) :
    ∃ event ∈ events, permission.namespace = event.namespace := by
  have made := Policy.mem_keys_of_mem member
  rw [sameKeys] at made
  obtain ⟨event, eventMember, keyMade⟩ := made
  obtain ⟨other, accepted, sameKey⟩ := eventKey?_eq_some_iff.mp keyMade
  obtain ⟨-, -, shape⟩ := eventPermission_ok accepted
  exact ⟨event, eventMember,
    congrArg (fun key => key.2.2.2.1) (sameKey.symm.trans shape)⟩

theorem confinedTo_iff_of_eventKeys {events : List KubeEvent}
    (supported : AllSupported events)
    (sameKeys : candidate.keys = eventKeys events) :
    ConfinedTo scope candidate ↔ ∀ event ∈ events,
      event.namespace = none ∨ event.namespace = some scope := by
  constructor
  · intro confined event member
    obtain ⟨made, accepted⟩ := supported event member
    obtain ⟨-, -, shape⟩ := eventPermission_ok accepted
    have inPolicy : made.key ∈ candidate.keys := by
      rw [sameKeys]
      exact ⟨event, member, eventKey?_eq_some_iff.mpr ⟨made, accepted, rfl⟩⟩
    obtain ⟨permission, permissionMember, sameKey⟩ := List.mem_map.mp inPolicy
    have sameScope : permission.namespace = event.namespace :=
      congrArg (fun key => key.2.2.2.1) (sameKey.trans shape)
    rw [← sameScope]
    exact confined permission permissionMember
  · intro inScope permission member
    obtain ⟨event, eventMember, sameScope⟩ :=
      exists_event_of_mem sameKeys member
    rw [sameScope]
    exact inScope event eventMember

theorem confinedTo_observedOnlyPolicy_iff {observed : List KubeEvent}
    (returned : observedOnlyPolicy original observed = .ok candidate) :
    ConfinedTo scope candidate ↔ ∀ event ∈ observed,
      event.namespace = none ∨ event.namespace = some scope := by
  obtain ⟨-, supported, sameKeys, -⟩ := observedOnlyPolicy_ok returned
  exact confinedTo_iff_of_eventKeys supported sameKeys

theorem confinedTo_of_candidate
    (namespaced : ∀ permission ∈ original.permissions,
      permission.namespace = some scope)
    (built : Candidate original candidate) : ConfinedTo scope candidate := by
  have inScope : ∀ event, isAuthorized original event = true →
      event.namespace = some scope := by
    intro event authorized
    obtain ⟨key, member, covers⟩ := isAuthorized_iff.mp authorized
    obtain ⟨permission, permissionMember, rfl⟩ := List.mem_map.mp member
    obtain ⟨-, -, -, location, -⟩ := covers
    have only := namespaced permission permissionMember
    rcases location with wide | same
    · rw [only] at wide
      cases wide
    · rw [← same, only]
  obtain ⟨events, sameKeys, authorized⟩ := built.built
  intro permission member
  obtain ⟨event, eventMember, sameScope⟩ := exists_event_of_mem sameKeys member
  rw [sameScope]
  exact Or.inr (inScope event (authorized event eventMember))

end Candidates

namespace SandboxAdapter

section Tracking

variable (adapter : SandboxAdapter)

theorem issue_tracks (command : KubectlCommand) (check : Bool) :
    Raising.Tracks SandboxState.kubernetes
      (adapter.issue (.rbac command) check)
      (adapter.environment.kubectl command check) :=
  fun _ => rfl

theorem setKubernetes_tracks (change : KubernetesState → KubernetesState) :
    Raising.Tracks SandboxState.kubernetes (setKubernetes change)
      (Raising.modify change) :=
  Raising.tracks_modify fun _ => rfl

theorem applyPolicy_tracks (policy : Policy) :
    Raising.Tracks SandboxState.kubernetes (adapter.applyPolicy policy)
      (adapter.environment.applyPolicy policy) := by
  have candidate : Raising.Tracks SandboxState.kubernetes
      (adapter.applyCandidate policy)
      (adapter.environment.applyCandidate policy) := by
    rw [applyCandidate, KubernetesEnvironment.applyCandidate]
    by_cases empty : policyToDocuments policy = []
    · rw [if_pos empty, if_pos empty]
      exact Raising.tracks_pure ()
    · rw [if_neg empty, if_neg empty]
      exact adapter.issue_tracks _ true
  apply Raising.tracks_bind (Raising.tracks_ofExcept _)
  intro _
  apply Raising.tracks_bind (Raising.tracks_ofExcept _)
  intro _
  apply Raising.tracks_bind (setKubernetes_tracks _)
  intro _
  apply Raising.tracks_bind candidate
  intro _
  apply Raising.tracks_bind (adapter.issue_tracks _ true)
  intro _
  apply Raising.tracks_bind (adapter.issue_tracks _ true)
  intro _
  exact setKubernetes_tracks _

theorem deleteEach_tracks (documents : List Document) :
    Raising.Tracks SandboxState.kubernetes (adapter.deleteEach documents)
      (adapter.environment.deleteEach documents) := by
  induction documents with
  | nil => exact Raising.tracks_pure ()
  | cons document documents induction =>
      apply Raising.tracks_bind (Raising.tracks_ofExcept _)
      intro _
      apply Raising.tracks_bind (adapter.issue_tracks _ false)
      intro _
      exact induction

theorem deleteCandidates_tracks :
    Raising.Tracks SandboxState.kubernetes adapter.deleteCandidates
      adapter.environment.deleteCandidates := by
  intro state
  have body := Raising.tracks_bind
    (adapter.deleteEach_tracks state.kubernetes.candidateDocuments)
    fun _ : Unit => setKubernetes_tracks fun state =>
      { state with candidateDocuments := [] }
  exact body state

theorem restorePolicy_tracks :
    Raising.Tracks SandboxState.kubernetes adapter.restorePolicy
      adapter.environment.restorePolicy := by
  rw [restorePolicy, KubernetesEnvironment.restorePolicy]
  by_cases dryRun : adapter.environment.dryRun = true
  · rw [if_pos dryRun, if_pos dryRun]
    exact setKubernetes_tracks _
  · rw [if_neg dryRun, if_neg dryRun]
    apply Raising.tracks_bind adapter.deleteCandidates_tracks
    intro _
    apply Raising.tracks_bind (adapter.issue_tracks _ true)
    intro _
    exact setKubernetes_tracks _

end Tracking

section Runs

variable (adapter : SandboxAdapter) (reader : TextReader)

/-- A call without its result. -/
def answer : SandboxCall → Raising PyException SandboxState Unit
  | .getObservedUsage readings => do
      let _ ← getObservedUsage reader readings
  | .applyPolicy policy => adapter.applyPolicy policy
  | .verifyWorkload smoke readings => do
      let _ ← verifyWorkload reader smoke readings
  | .restorePolicy => adapter.restorePolicy
  | .prepareSandbox pod => adapter.prepareSandbox pod

/-- A new adapter in front of a cluster. -/
def opened (cluster : Cluster) (outcomes : List Outcome) : SandboxState :=
  ⟨adapter.environment.opened cluster outcomes, none, 0, []⟩

def afterCall (state : SandboxState) (call : SandboxCall) : SandboxState :=
  (adapter.answer reader call state).2

/-- The state after calls, whether they returned or raised. -/
def afterCalls (state : SandboxState) (calls : List SandboxCall) :
    SandboxState :=
  calls.foldl (adapter.afterCall reader) state

/-- A command all of whose namespaced objects are in the sandbox. -/
def Inside (command : AdapterCommand) : Prop :=
  ∀ placement ∈ adapter.placements command,
    placement.Inside adapter.account.namespace

/-- A call of a live adapter that reaches no other namespace: a policy that it
applies is confined when it is valid. -/
def Confined : SandboxCall → Prop
  | .applyPolicy policy => adapter.environment.dryRun = false →
      adapter.environment.validatePolicy policy = .ok () →
        ConfinedTo adapter.account.namespace policy
  | .restorePolicy => adapter.environment.dryRun = false →
      ConfinedTo adapter.account.namespace adapter.environment.originalPolicy
  | .prepareSandbox _ => adapter.environment.dryRun = false →
      adapter.Inside .applyManifest
  | _ => True

end Runs

section Confinement

variable {adapter : SandboxAdapter} {reader : TextReader} {scope : String}
  {policy : Policy}

theorem inside_scopeRoleKey {policyName : String} {target : Option String}
    (confined : target = none ∨ target = some scope) :
    (placementOf (scopeRoleKey policyName target)).Inside scope := by
  rcases confined with rfl | rfl
  · trivial
  · rfl

theorem inside_scopeBindingKey {policyName : String} {target : Option String}
    (confined : target = none ∨ target = some scope) :
    (placementOf (scopeBindingKey policyName target)).Inside scope := by
  rcases confined with rfl | rfl
  · trivial
  · rfl

theorem inside_of_mem_generatedObjects (confined : ConfinedTo scope policy)
    {object : ParsedObject} (member : object ∈ generatedObjects policy) :
    (placementOf (objectKey object)).Inside scope := by
  obtain ⟨⟨target, permissions⟩, grouped, pair⟩ :=
    mem_generatedObjects_iff.mp member
  obtain ⟨⟨permission, inPolicy, rfl⟩, -⟩ := mem_groupedScopes_iff.mp grouped
  rcases pair with rfl | rfl
  · rw [objectKey_generatedRole]
    exact inside_scopeRoleKey (confined permission inPolicy)
  · rw [objectKey_generatedBinding]
    exact inside_scopeBindingKey (confined permission inPolicy)

theorem inside_apply
    (confined : ConfinedTo adapter.account.namespace policy) :
    adapter.Inside
      (.rbac (.apply (KubernetesEnvironment.policyInput policy))) := by
  intro placement member
  rw [placements] at member
  cases parsed : parseObjects (KubernetesEnvironment.policyInput policy) with
  | error error =>
      rw [parsed] at member
      cases member
  | ok objects =>
      rw [parsed] at member
      obtain ⟨object, generated, rfl⟩ := List.mem_map.mp member
      rw [KubernetesEnvironment.parseObjects_policyInput parsed] at generated
      exact inside_of_mem_generatedObjects confined generated

theorem inside_apply_of_empty (empty : generatedObjects policy = []) :
    adapter.Inside
      (.rbac (.apply (KubernetesEnvironment.policyInput policy))) := by
  intro placement member
  rw [placements] at member
  cases parsed : parseObjects (KubernetesEnvironment.policyInput policy) with
  | error error =>
      rw [parsed] at member
      cases member
  | ok objects =>
      rw [parsed, KubernetesEnvironment.parseObjects_policyInput parsed, empty]
        at member
      cases member

theorem confinedTo_of_inside (writable : policy.Writable)
    (inside : adapter.Inside
      (.rbac (.apply (KubernetesEnvironment.policyInput policy)))) :
    ConfinedTo adapter.account.namespace policy := by
  have parsed : parseObjects (KubernetesEnvironment.policyInput policy) =
      .ok (generatedObjects policy) :=
    parseObjects_policyToDocuments_iff.mpr ⟨rfl, writable⟩
  intro permission member
  have grouped := mem_groupedScopes_iff.mpr
    ⟨⟨permission, member, rfl⟩, Eq.refl _⟩
  have generated := mem_generatedObjects_iff.mpr ⟨_, grouped, Or.inl rfl⟩
  have placed := inside (placementOf (scopeRoleKey policy.name
    permission.namespace)) (by
      rw [placements, parsed]
      apply List.mem_map.mpr
      exact ⟨_, generated, by rw [objectKey_generatedRole]⟩)
  cases target : permission.namespace with
  | none => exact Or.inl rfl
  | some name =>
      rw [target] at placed
      exact Or.inr (congrArg some placed)

/-- The commands so far are inside, and so are the documents that the adapter
would delete. -/
structure Bounded (adapter : SandboxAdapter) (state : SandboxState) :
    Prop where
  issued : ∀ command ∈ state.issued, adapter.Inside command
  remembered : ∀ document ∈ state.kubernetes.candidateDocuments,
    ∃ key, KubernetesEnvironment.deleteTarget document = .ok key ∧
      (placementOf key).Inside adapter.account.namespace

theorem perform_candidateDocuments (command : AdapterCommand) (check : Bool)
    (state : KubernetesState) :
    (adapter.perform command check state).2.candidateDocuments =
      state.candidateDocuments := by
  cases command <;> rfl

theorem preserves_issue {command : AdapterCommand} {check : Bool}
    (inside : adapter.Inside command) :
    Raising.Preserves adapter.Bounded (adapter.issue command check) := by
  intro state bounded
  constructor
  · intro issued member
    rcases List.mem_append.mp member with earlier | new
    · exact bounded.issued issued earlier
    · rw [List.mem_singleton.mp new]
      exact inside
  · intro document member
    rw [issue, perform_candidateDocuments] at member
    exact bounded.remembered document member

theorem preserves_setKubernetes {change : KubernetesState → KubernetesState}
    (keeps : ∀ state, (change state).candidateDocuments =
      state.candidateDocuments) :
    Raising.Preserves adapter.Bounded (setKubernetes change) := by
  apply Raising.preserves_modify
  intro state bounded
  refine ⟨bounded.issued, ?_⟩
  rw [keeps]
  exact bounded.remembered

theorem preserves_deleteEach {documents : List Document}
    (targets : ∀ document ∈ documents,
      ∃ key, KubernetesEnvironment.deleteTarget document = .ok key ∧
        (placementOf key).Inside adapter.account.namespace) :
    Raising.Preserves adapter.Bounded (adapter.deleteEach documents) := by
  induction documents with
  | nil => exact Raising.preserves_pure ()
  | cons document documents induction =>
      rw [List.forall_mem_cons] at targets
      obtain ⟨⟨key, target, inside⟩, later⟩ := targets
      have run : adapter.deleteEach (document :: documents) =
          (adapter.issue (.rbac (.delete key)) false >>= fun _ =>
            adapter.deleteEach documents) := by
        rw [deleteEach, target]
        rfl
      rw [run]
      apply Raising.preserves_bind
      · apply preserves_issue
        intro placement member
        rw [placements, List.mem_singleton] at member
        exact member ▸ inside
      · intro _
        exact induction later

theorem preserves_deleteCandidates :
    Raising.Preserves adapter.Bounded adapter.deleteCandidates := by
  intro state bounded
  have body : Raising.Preserves adapter.Bounded
      (adapter.deleteEach state.kubernetes.candidateDocuments >>= fun _ =>
        setKubernetes fun state => { state with candidateDocuments := [] }) := by
    apply Raising.preserves_bind (preserves_deleteEach bounded.remembered)
    intro _
    apply Raising.preserves_modify
    intro after kept
    exact ⟨kept.issued, fun document member => by cases member⟩
  exact body state bounded

theorem preserves_resetCurrentPolicy :
    Raising.Preserves adapter.Bounded adapter.resetCurrentPolicy :=
  preserves_setKubernetes fun _ => rfl

theorem preserves_inquire {arguments : List String} {check : Bool}
    {timeout : Nat} :
    Raising.Preserves adapter.Bounded
      (adapter.inquire arguments check timeout) :=
  fun _ bounded => ⟨bounded.issued, bounded.remembered⟩

theorem remembered_of_confined {document : Document}
    (writable : policy.Writable)
    (confined : ConfinedTo adapter.account.namespace policy)
    (member : document ∈ policyToDocuments policy) :
    ∃ key, KubernetesEnvironment.deleteTarget document = .ok key ∧
      (placementOf key).Inside adapter.account.namespace := by
  obtain ⟨key, keyMember, target⟩ := forall₂_mem_left
    (KubernetesEnvironment.deleteTarget_policyToDocuments writable) member
  obtain ⟨object, generated, rfl⟩ := List.mem_map.mp keyMember
  exact ⟨_, target, inside_of_mem_generatedObjects confined generated⟩

theorem inside_originalRoleBinding : adapter.Inside
    (.rbac (.delete adapter.environment.originalRoleBindingKey)) := by
  intro placement member
  rw [placements, List.mem_singleton] at member
  rw [member]
  rfl

theorem inside_originalClusterRoleBinding : adapter.Inside
    (.rbac (.delete adapter.environment.originalClusterRoleBindingKey)) := by
  intro placement member
  rw [placements, List.mem_singleton] at member
  rw [member]
  trivial

theorem preserves_applyCandidate
    (confined : ConfinedTo adapter.account.namespace policy) :
    Raising.Preserves adapter.Bounded (adapter.applyCandidate policy) := by
  rw [applyCandidate]
  by_cases empty : policyToDocuments policy = []
  · rw [if_pos empty]
    exact Raising.preserves_pure ()
  · rw [if_neg empty]
    exact preserves_issue (inside_apply confined)

theorem preserves_applyPolicy
    (confined : adapter.Confined (.applyPolicy policy)) :
    Raising.Preserves adapter.Bounded (adapter.applyPolicy policy) := by
  cases validated : adapter.environment.validatePolicy policy with
  | error error =>
      have run : ∀ state, adapter.applyPolicy policy state =
          (.error error, state) := by
        intro state
        rw [applyPolicy, validated]
        rfl
      intro state bounded
      rw [run]
      exact bounded
  | ok _ =>
      have writable := (KubernetesEnvironment.enforceable_of_validatePolicy
        validated).writable
      cases live : adapter.environment.dryRun with
      | true =>
          intro state bounded
          rw [applyPolicy, validated, KubernetesEnvironment.requireLive, live]
          exact bounded
      | false =>
          have inside := confined live validated
          refine Raising.preserves_bind (Raising.preserves_ofExcept _) fun _ => ?_
          refine Raising.preserves_bind (Raising.preserves_ofExcept _) fun _ => ?_
          apply Raising.preserves_bind
          · apply Raising.preserves_modify
            intro state bounded
            exact ⟨bounded.issued, fun document member =>
              remembered_of_confined writable inside member⟩
          intro _
          apply Raising.preserves_bind (preserves_applyCandidate inside)
          intro _
          apply Raising.preserves_bind
            (preserves_issue inside_originalRoleBinding)
          intro _
          apply Raising.preserves_bind
            (preserves_issue inside_originalClusterRoleBinding)
          intro _
          exact preserves_setKubernetes fun _ => rfl

theorem preserves_restorePolicy
    (confined : adapter.Confined .restorePolicy) :
    Raising.Preserves adapter.Bounded adapter.restorePolicy := by
  rw [restorePolicy]
  by_cases dryRun : adapter.environment.dryRun = true
  · rw [if_pos dryRun]
    exact preserves_resetCurrentPolicy
  · rw [if_neg dryRun]
    have inside := confined (Bool.eq_false_of_not_eq_true dryRun)
    apply Raising.preserves_bind preserves_deleteCandidates
    intro _
    apply Raising.preserves_bind (preserves_issue (inside_apply inside))
    intro _
    exact preserves_resetCurrentPolicy

theorem inside_knownResources :
    ∀ command ∈ adapter.knownResources, adapter.Inside command := by
  simp [knownResources, Inside, placements, placementOf, Placement.Inside]

theorem preserves_issueAll {commands : List AdapterCommand}
    (inside : ∀ command ∈ commands, adapter.Inside command) :
    Raising.Preserves adapter.Bounded (adapter.issueAll commands) := by
  induction commands with
  | nil => exact Raising.preserves_pure ()
  | cons command commands induction =>
      rw [List.forall_mem_cons] at inside
      apply Raising.preserves_bind (preserves_issue inside.1)
      intro _
      exact induction inside.2

theorem inside_restart : adapter.Inside .restart := by
  intro placement member
  rw [placements, List.mem_singleton] at member
  rw [member]
  rfl

theorem preserves_prepareSandbox {pod : String}
    (confined : adapter.Confined (.prepareSandbox pod)) :
    Raising.Preserves adapter.Bounded (adapter.prepareSandbox pod) := by
  cases live : adapter.environment.dryRun with
  | true =>
      intro state bounded
      rw [prepareSandbox, requireSandbox, live]
      exact bounded
  | false =>
      refine Raising.preserves_bind (Raising.preserves_ofExcept _) fun _ => ?_
      apply Raising.preserves_bind preserves_deleteCandidates
      intro _
      apply Raising.preserves_bind (preserves_issueAll inside_knownResources)
      intro _
      apply Raising.preserves_bind (preserves_issue (confined live))
      intro _
      apply Raising.preserves_bind (preserves_issue inside_restart)
      intro _
      apply Raising.preserves_bind preserves_inquire
      intro _
      apply Raising.preserves_bind preserves_inquire
      intro _
      apply Raising.preserves_bind
      · exact Raising.preserves_modify fun _ bounded =>
          ⟨bounded.issued, bounded.remembered⟩
      intro _
      apply Raising.preserves_bind preserves_resetCurrentPolicy
      intro _
      exact Raising.preserves_modify fun _ bounded =>
        ⟨bounded.issued, bounded.remembered⟩

theorem bounded_opened (cluster : Cluster) (outcomes : List Outcome) :
    adapter.Bounded (adapter.opened cluster outcomes) where
  issued command member := by cases member
  remembered document member := by cases member

theorem Bounded.afterCall {state : SandboxState} {call : SandboxCall}
    (bounded : adapter.Bounded state) (confined : adapter.Confined call) :
    adapter.Bounded (adapter.afterCall reader state call) := by
  cases call with
  | applyPolicy policy => exact preserves_applyPolicy confined state bounded
  | restorePolicy => exact preserves_restorePolicy confined state bounded
  | prepareSandbox pod =>
      exact preserves_prepareSandbox confined state bounded
  | getObservedUsage readings =>
      cases readings with
      | error error => exact bounded
      | ok outputs => exact ⟨bounded.issued, bounded.remembered⟩
  | verifyWorkload smoke readings =>
      cases smoke with
      | error error => exact bounded
      | ok result =>
          cases readings with
          | error error => exact bounded
          | ok outputs => exact ⟨bounded.issued, bounded.remembered⟩

theorem Bounded.afterCalls {state : SandboxState} {calls : List SandboxCall}
    (bounded : adapter.Bounded state)
    (confined : ∀ call ∈ calls, adapter.Confined call) :
    adapter.Bounded (adapter.afterCalls reader state calls) := by
  induction calls generalizing state with
  | nil => exact bounded
  | cons call calls induction =>
      rw [List.forall_mem_cons] at confined
      exact induction (bounded.afterCall confined.1) confined.2

end Confinement

section Guard

variable {adapter : SandboxAdapter} {reader : TextReader}

theorem issued_afterCall_of_dryRun (dryRun : adapter.environment.dryRun = true)
    (state : SandboxState) (call : SandboxCall) :
    (adapter.afterCall reader state call).issued = state.issued := by
  cases call with
  | applyPolicy policy =>
      rw [afterCall, answer, applyPolicy, KubernetesEnvironment.requireLive,
        if_pos dryRun]
      cases adapter.environment.validatePolicy policy <;> rfl
  | restorePolicy =>
      rw [afterCall, answer, restorePolicy, if_pos dryRun]
      rfl
  | prepareSandbox pod =>
      rw [afterCall, answer, prepareSandbox, requireSandbox, if_pos dryRun]
      rfl
  | getObservedUsage readings => cases readings <;> rfl
  | verifyWorkload smoke readings =>
      cases smoke with
      | error error => rfl
      | ok result => cases readings <;> rfl

theorem issued_afterCalls_of_dryRun
    (dryRun : adapter.environment.dryRun = true) (state : SandboxState)
    (calls : List SandboxCall) :
    (adapter.afterCalls reader state calls).issued = state.issued := by
  induction calls generalizing state with
  | nil => rfl
  | cons call calls induction =>
      exact (induction (adapter.afterCall reader state call)).trans
        (issued_afterCall_of_dryRun dryRun state call)

/-- Without the unsafe option only a recognized sandbox is live. -/
theorem recognized_of_live {settings : KubernetesSettings}
    {manifest : List Json} {probe : SandboxProbe}
    {environment : KubernetesEnvironment}
    (created : KubernetesEnvironment.create settings manifest probe =
      .ok environment)
    (guarded : settings.allowUnsafeContext = false)
    (live : environment.dryRun = false) :
    isRecognizedSandbox settings probe = true := by
  simp only [KubernetesEnvironment.create, bind_eq_ok_iff,
    pure_eq_ok_iff] at created
  obtain ⟨parsed, -, _, allowed, rfl⟩ := created
  by_contra unrecognized
  have safe := Bool.eq_false_of_not_eq_true unrecognized
  rw [KubernetesEnvironment.refuseUnsafe, if_pos ⟨safe, live, guarded⟩]
    at allowed
  cases allowed

end Guard

section Exactness

variable {adapter : SandboxAdapter} {reader : TextReader} {policy : Policy}

/-- With a working kubectl the computation returns, and issues these
commands. -/
def Issues (body : Raising PyException SandboxState Unit)
    (commands : List AdapterCommand) : Prop :=
  ∀ state, state.kubernetes.outcomes = [] →
    ∃ after, body state = (.ok (), after) ∧
      after.issued = state.issued ++ commands ∧
        after.kubernetes.outcomes = []

theorem issues_nothing {change : SandboxState → SandboxState}
    (issued : ∀ state, (change state).issued = state.issued)
    (outcomes : ∀ state, (change state).kubernetes.outcomes =
      state.kubernetes.outcomes) :
    Issues (Raising.modify change) [] := by
  intro state working
  refine ⟨change state, rfl, ?_, ?_⟩
  · rw [issued, List.append_nil]
  · rw [outcomes, working]

theorem issues_setKubernetes {change : KubernetesState → KubernetesState}
    (outcomes : ∀ state, (change state).outcomes = state.outcomes) :
    Issues (setKubernetes change) [] :=
  issues_nothing (fun _ => rfl) fun state => outcomes state.kubernetes

theorem issues_bind {first : Raising PyException SandboxState Unit}
    {next : Unit → Raising PyException SandboxState Unit}
    {earlier later : List AdapterCommand} (left : Issues first earlier)
    (right : Issues (next ()) later) :
    Issues (first >>= next) (earlier ++ later) := by
  intro state working
  obtain ⟨middle, run, issued, outcomes⟩ := left state working
  obtain ⟨after, runLater, issuedLater, outcomesLater⟩ :=
    right middle outcomes
  refine ⟨after, ?_, ?_, outcomesLater⟩
  · rw [Raising.bind_run_ok run, runLater]
  · rw [issuedLater, issued, List.append_assoc]

theorem issues_issue {command : AdapterCommand} {check : Bool}
    (works : ∀ state : KubernetesState, state.outcomes = [] →
      (adapter.perform command check state).1 = .ok () ∧
        (adapter.perform command check state).2.outcomes = []) :
    Issues (adapter.issue command check) [command] := by
  intro state working
  obtain ⟨returned, outcomes⟩ := works state.kubernetes working
  exact ⟨_, congrArg (fun result => (result, (adapter.issue command check
    state).2)) returned, rfl, outcomes⟩

theorem issues_delete (key : ObjectKey) (check : Bool) :
    Issues (adapter.issue (.rbac (.delete key)) check)
      [.rbac (.delete key)] := by
  apply issues_issue
  intro state working
  simp [perform, KubernetesEnvironment.kubectl, working,
    KubernetesEnvironment.commandResult, KubectlCommand.accepted]

theorem issues_deleteEach {documents : List Document}
    (targets : ∀ document ∈ documents,
      ∃ key, KubernetesEnvironment.deleteTarget document = .ok key) :
    ∃ commands, Issues (adapter.deleteEach documents) commands := by
  induction documents with
  | nil =>
      exact ⟨[], fun state working => ⟨state, rfl, by simp, working⟩⟩
  | cons document documents induction =>
      rw [List.forall_mem_cons] at targets
      obtain ⟨key, target⟩ := targets.1
      obtain ⟨commands, later⟩ := induction targets.2
      refine ⟨[.rbac (.delete key)] ++ commands, ?_⟩
      have run : adapter.deleteEach (document :: documents) =
          (adapter.issue (.rbac (.delete key)) false >>= fun _ =>
            adapter.deleteEach documents) := by
        rw [deleteEach, target]
        rfl
      rw [run]
      exact issues_bind (issues_delete key false) later

theorem issues_apply (writable : policy.Writable)
    (nonempty : generatedObjects policy ≠ []) :
    Issues (adapter.issue (.rbac (.apply
        (KubernetesEnvironment.policyInput policy))) true)
      [.rbac (.apply (KubernetesEnvironment.policyInput policy))] := by
  have parsed : parseObjects (KubernetesEnvironment.policyInput policy) =
      .ok (generatedObjects policy) :=
    parseObjects_policyToDocuments_iff.mpr ⟨rfl, writable⟩
  apply issues_issue
  intro state working
  simp [perform, KubernetesEnvironment.kubectl, working, parsed, nonempty,
    KubernetesEnvironment.commandResult, KubectlCommand.accepted]

theorem issues_applyManifest {objects : List ParsedObject}
    (parsed : parseObjects adapter.manifest = .ok objects)
    (nonempty : objects ≠ []) :
    Issues (adapter.issue .applyManifest true) [.applyManifest] := by
  apply issues_issue
  intro state working
  simp [perform, process, processResult, working, parsed, nonempty,
    KubectlCommand.accepted]

theorem issues_restart : Issues (adapter.issue .restart true) [.restart] := by
  apply issues_issue
  intro state working
  simp [perform, process, processResult, working]

theorem issues_inquire {arguments : List String} {check : Bool}
    {timeout : Nat} :
    Issues (adapter.inquire arguments check timeout) [] := by
  intro state working
  refine ⟨(adapter.inquire arguments check timeout state).2, ?_, ?_, ?_⟩
  · simp [inquire, process, processResult, working]
  · simp [inquire]
  · simp [inquire, process, working]

theorem issues_knownResources :
    Issues (adapter.issueAll adapter.knownResources)
      adapter.knownResources := by
  have plain : ∀ kind name, Issues (adapter.issue (.deleteNamed kind name)
      false) [.deleteNamed kind name] := by
    intro kind name
    apply issues_issue
    intro state working
    simp [perform, process, processResult, working]
  have all : ∀ commands, (∀ command ∈ commands,
      Issues (adapter.issue command false) [command]) →
        Issues (adapter.issueAll commands) commands := by
    intro commands each
    induction commands with
    | nil => exact fun state working => ⟨state, rfl, by simp, working⟩
    | cons command commands induction =>
        rw [List.forall_mem_cons] at each
        exact issues_bind each.1 (induction each.2)
  apply all
  simp only [knownResources, List.forall_mem_cons]
  exact ⟨issues_delete _ _, issues_delete _ _, issues_delete _ _,
    issues_delete _ _, plain _ _, plain _ _, plain _ _, plain _ _, by simp⟩

theorem deleteCandidates_returns {state : SandboxState}
    (bounded : adapter.Bounded state)
    (working : state.kubernetes.outcomes = []) :
    ∃ after, adapter.deleteCandidates state = (.ok (), after) ∧
      after.kubernetes.outcomes = [] := by
  have targets : ∀ document ∈ state.kubernetes.candidateDocuments,
      ∃ key, KubernetesEnvironment.deleteTarget document = .ok key := by
    intro document member
    obtain ⟨key, target, -⟩ := bounded.remembered document member
    exact ⟨key, target⟩
  obtain ⟨commands, deleted⟩ := @issues_deleteEach adapter _ targets
  have body : Issues (do
      adapter.deleteEach state.kubernetes.candidateDocuments
      setKubernetes fun state => { state with candidateDocuments := [] })
      (commands ++ []) :=
    issues_bind deleted (issues_setKubernetes fun _ => rfl)
  obtain ⟨after, run, -, outcomes⟩ := body state working
  exact ⟨after, run, outcomes⟩

theorem mem_issued_bind {first : Raising PyException SandboxState Unit}
    {next : Unit → Raising PyException SandboxState Unit}
    {state middle : SandboxState} {commands : List AdapterCommand}
    {command : AdapterCommand} (run : first state = (.ok (), middle))
    (outcomes : middle.kubernetes.outcomes = [])
    (rest : Issues (next ()) commands) (member : command ∈ commands) :
    command ∈ ((first >>= next) state).2.issued := by
  obtain ⟨after, runRest, issued, -⟩ := rest middle outcomes
  rw [Raising.bind_run_ok run, runRest, issued]
  exact List.mem_append_right _ member

theorem mem_issued_applyPolicy {state : SandboxState}
    (working : state.kubernetes.outcomes = [])
    (live : adapter.environment.dryRun = false)
    (validated : adapter.environment.validatePolicy policy = .ok ())
    (nonempty : generatedObjects policy ≠ []) :
    .rbac (.apply (KubernetesEnvironment.policyInput policy)) ∈
      (adapter.applyPolicy policy state).2.issued := by
  have writable := (KubernetesEnvironment.enforceable_of_validatePolicy
    validated).writable
  have candidate : Issues (adapter.applyCandidate policy)
      [.rbac (.apply (KubernetesEnvironment.policyInput policy))] := by
    rw [applyCandidate, if_neg fun empty => nonempty
      (KubernetesEnvironment.policyToDocuments_eq_nil_iff.mp empty)]
    exact issues_apply writable nonempty
  have remember : Issues (setKubernetes fun state =>
      { state with candidateDocuments := policyToDocuments policy }) [] :=
    issues_setKubernetes fun _ => rfl
  have record : Issues (setKubernetes fun state =>
      { state with currentPolicy := policy }) [] :=
    issues_setKubernetes fun _ => rfl
  have body : Issues (do
      setKubernetes fun state =>
        { state with candidateDocuments := policyToDocuments policy }
      adapter.applyCandidate policy
      adapter.issue
        (.rbac (.delete adapter.environment.originalRoleBindingKey)) true
      adapter.issue
        (.rbac (.delete adapter.environment.originalClusterRoleBindingKey)) true
      setKubernetes fun state => { state with currentPolicy := policy })
      [.rbac (.apply (KubernetesEnvironment.policyInput policy)),
        .rbac (.delete adapter.environment.originalRoleBindingKey),
        .rbac (.delete adapter.environment.originalClusterRoleBindingKey)] :=
    issues_bind remember (issues_bind candidate
      (issues_bind (issues_delete _ true)
        (issues_bind (issues_delete _ true) record)))
  obtain ⟨after, run, issued, -⟩ := body state working
  have returned : adapter.applyPolicy policy state = (.ok (), after) := by
    rw [applyPolicy, validated, KubernetesEnvironment.requireLive, live]
    exact run
  rw [returned, issued]
  exact List.mem_append_right _ List.mem_cons_self

theorem mem_issued_restorePolicy {state : SandboxState}
    (bounded : adapter.Bounded state)
    (working : state.kubernetes.outcomes = [])
    (live : adapter.environment.dryRun = false)
    (writable : adapter.environment.originalPolicy.Writable)
    (nonempty : generatedObjects adapter.environment.originalPolicy ≠ []) :
    .rbac (.apply (KubernetesEnvironment.policyInput
        adapter.environment.originalPolicy)) ∈
      (adapter.restorePolicy state).2.issued := by
  obtain ⟨middle, deleted, outcomes⟩ :=
    deleteCandidates_returns bounded working
  rw [restorePolicy, if_neg (by simp [live])]
  apply mem_issued_bind deleted outcomes
  · exact issues_bind (issues_apply writable nonempty)
      (issues_setKubernetes fun _ => rfl)
  · exact List.mem_cons_self

theorem mem_issued_prepareSandbox {state : SandboxState} {pod : String}
    {objects : List ParsedObject} (bounded : adapter.Bounded state)
    (working : state.kubernetes.outcomes = [])
    (live : adapter.environment.dryRun = false)
    (parsed : parseObjects adapter.manifest = .ok objects)
    (nonempty : objects ≠ []) :
    .applyManifest ∈ (adapter.prepareSandbox pod state).2.issued := by
  obtain ⟨middle, deleted, outcomes⟩ :=
    deleteCandidates_returns bounded working
  have body : adapter.prepareSandbox pod state =
      (adapter.deleteCandidates >>= fun _ => do
        adapter.issueAll adapter.knownResources
        adapter.issue .applyManifest true
        adapter.issue .restart true
        adapter.inquire adapter.rolloutStatus true 130
        adapter.inquire adapter.newestPod false 90
        Raising.modify fun state =>
          { state with podName := if pod = "" then none else some pod }
        adapter.resetCurrentPolicy
        Raising.modify fun state => { state with logLineCursor := 0 })
        state := by
    rw [prepareSandbox, requireSandbox, live]
    rfl
  rw [body]
  apply mem_issued_bind deleted outcomes
  · exact issues_bind issues_knownResources
      (issues_bind (issues_applyManifest parsed nonempty)
        (issues_bind issues_restart (issues_bind issues_inquire
          (issues_bind issues_inquire
            (issues_bind (issues_nothing (fun _ => rfl) fun _ => rfl)
              (issues_bind (issues_setKubernetes fun _ => rfl)
                (issues_nothing (fun _ => rfl) fun _ => rfl)))))))
  · simp

theorem manifest_parsed {settings : KubernetesSettings}
    {probe : SandboxProbe} (created : KubernetesEnvironment.create settings
      adapter.manifest probe = .ok adapter.environment) :
    ∃ objects, parseObjects adapter.manifest = .ok objects := by
  simp only [KubernetesEnvironment.create, bind_eq_ok_iff] at created
  obtain ⟨rbac, accepted, -⟩ := created
  obtain ⟨objects, parsed, -⟩ := parseRbac_eq_ok_iff.mp accepted
  exact ⟨objects, parsed⟩

/-- With a working kubectl a call of a bounded adapter stays inside exactly when
it is confined. -/
theorem confined_iff_inside {settings : KubernetesSettings}
    {probe : SandboxProbe} {state : SandboxState} {call : SandboxCall}
    (created : KubernetesEnvironment.create settings adapter.manifest probe =
      .ok adapter.environment)
    (bounded : adapter.Bounded state)
    (working : state.kubernetes.outcomes = []) :
    adapter.Confined call ↔
      ∀ command ∈ (adapter.afterCall reader state call).issued,
        adapter.Inside command := by
  constructor
  · intro confined
    exact (bounded.afterCall confined).issued
  · intro inside
    cases call with
    | getObservedUsage readings => trivial
    | verifyWorkload smoke readings => trivial
    | applyPolicy policy =>
        intro live validated
        have writable := (KubernetesEnvironment.enforceable_of_validatePolicy
          validated).writable
        apply confinedTo_of_inside writable
        by_cases empty : generatedObjects policy = []
        · exact inside_apply_of_empty empty
        · exact inside _
            (mem_issued_applyPolicy working live validated empty)
    | restorePolicy =>
        intro live
        obtain ⟨parsed, accepted⟩ := manifest_parsed created
        have writable := (KubernetesEnvironment.create_ok created
          accepted).2.2.writable
        apply confinedTo_of_inside writable
        by_cases empty :
            generatedObjects adapter.environment.originalPolicy = []
        · exact inside_apply_of_empty empty
        · exact inside _
            (mem_issued_restorePolicy bounded working live writable empty)
    | prepareSandbox pod =>
        intro live
        obtain ⟨objects, parsed⟩ := manifest_parsed created
        by_cases empty : objects = []
        · intro placement member
          rw [placements, parsed, empty] at member
          cases member
        · exact inside _
            (mem_issued_prepareSandbox bounded working live parsed empty)

end Exactness

/-- Every mutating command of a guarded adapter is issued in a recognized
sandbox, and when all calls are confined its objects are in there. -/
theorem mutation_stays_in_sandbox {settings : KubernetesSettings}
    {probe : SandboxProbe} (adapter : SandboxAdapter) (reader : TextReader)
    (created : KubernetesEnvironment.create settings adapter.manifest probe =
      .ok adapter.environment)
    (guarded : settings.allowUnsafeContext = false) (cluster : Cluster)
    (outcomes : List Outcome) (calls : List SandboxCall) :
    (∀ command ∈ (adapter.afterCalls reader (adapter.opened cluster outcomes)
        calls).issued, isRecognizedSandbox settings probe = true) ∧
      ((∀ call ∈ calls, adapter.Confined call) →
        ∀ command ∈ (adapter.afterCalls reader
            (adapter.opened cluster outcomes) calls).issued,
          adapter.Inside command) := by
  constructor
  · intro command member
    cases live : adapter.environment.dryRun with
    | true =>
        rw [issued_afterCalls_of_dryRun live] at member
        cases member
    | false => exact recognized_of_live created guarded live
  · intro confined
    exact ((bounded_opened cluster outcomes).afterCalls confined).issued

end SandboxAdapter

section Shop

open KubernetesEnvironment

/-- A reader of texts without JSON. -/
def plainReader : TextReader where
  loads _ := none
  decimal character :=
    if character.isDigit = true then some (character.toNat - '0'.toNat)
    else none

def shopAdapter : SandboxAdapter where
  environment := shopEnvironment
  manifest := shopManifest

/-- The calls of one workload run, with its sandbox prepared before. -/
def workloadCalls : List SandboxCall :=
  [.prepareSandbox "web-1", .getObservedUsage (.ok [⟨0, "", ""⟩]),
    .applyPolicy listPods,
    .verifyWorkload (.ok ⟨1, "", ""⟩) (.ok [⟨0, "", ""⟩]), .restorePolicy]

theorem workloadCalls_confined :
    ∀ call ∈ workloadCalls, shopAdapter.Confined call := by
  have manifest : shopAdapter.placements .applyManifest =
      [.inNamespace "shop", .inNamespace "shop"] := rfl
  simp only [workloadCalls, List.forall_mem_cons]
  refine ⟨fun _ => ?_, trivial, fun _ _ => ?_, trivial, fun _ => ?_, by simp⟩
  · rw [SandboxAdapter.Inside, manifest]
    simp only [List.forall_mem_cons, List.not_mem_nil, false_implies,
      implies_true, and_true]
    exact ⟨rfl, rfl⟩
  · intro permission member
    rw [List.mem_singleton.mp member]
    exact Or.inr rfl
  · unfold ConfinedTo
    decide

theorem mutation_stays_in_sandbox_shop :
    (∀ command ∈ (shopAdapter.afterCalls plainReader (shopAdapter.opened
        (deployed shopObjects) []) workloadCalls).issued,
      isRecognizedSandbox shopSettings kindSandbox = true) ∧
      ∀ command ∈ (shopAdapter.afterCalls plainReader (shopAdapter.opened
          (deployed shopObjects) []) workloadCalls).issued,
        shopAdapter.Inside command := by
  have stays := shopAdapter.mutation_stays_in_sandbox plainReader
    (show KubernetesEnvironment.create shopSettings shopAdapter.manifest
      kindSandbox = .ok shopAdapter.environment from rfl) rfl
    (deployed shopObjects) [] workloadCalls
  exact ⟨stays.1, stays.2 workloadCalls_confined⟩

/-- The account `web` may get pods in all namespaces. -/
def clusterManifest : List Json :=
  [.mapping
    [("kind", .string "ClusterRole"),
      ("metadata", .mapping [("name", .string "reader")]),
      ("rules", .list [.mapping
        [("resources", .list [.string "pods"]),
          ("verbs", .list [.string "get"])]])],
    .mapping
      [("kind", .string "ClusterRoleBinding"),
        ("metadata", .mapping [("name", .string "overprivileged")]),
        ("roleRef", .mapping
          [("apiGroup", .string "rbac.authorization.k8s.io"),
            ("kind", .string "ClusterRole"), ("name", .string "reader")]),
        ("subjects", .list [.mapping
          [("kind", .string "ServiceAccount"), ("name", .string "web"),
            ("namespace", .string "shop")]])]]

def clusterObjects : List ParsedObject :=
  [.role ⟨"reader", none, [⟨[""], ["pods"], ["get"], []⟩], true⟩,
    .binding ⟨"overprivileged", none, "reader", .clusterRole,
      [⟨"web", "shop"⟩], true⟩]

def clusterAdapter : SandboxAdapter where
  environment := ⟨shopSettings, resolveEffectivePolicy
    (ParsedRbac.ofObjects clusterObjects) ⟨"web", "shop"⟩, true, false⟩
  manifest := clusterManifest

/-- What the workload does in a namespace that is no sandbox. -/
def getPodElsewhere : KubeEvent :=
  ⟨"", "pods", "get", some "billing", none, none⟩

/-- The candidate for it is accepted and applied, with a role outside. -/
theorem observed_namespace_is_written :
    KubernetesEnvironment.create shopSettings clusterAdapter.manifest
        kindSandbox = .ok clusterAdapter.environment ∧
      ∃ candidate,
        observedOnlyPolicy clusterAdapter.environment.originalPolicy
          [getPodElsewhere] = .ok candidate ∧
        checkCandidate candidate clusterAdapter.environment.originalPolicy =
          .ok () ∧
        ∃ command ∈ (clusterAdapter.afterCalls plainReader
            (clusterAdapter.opened (deployed clusterObjects) [])
            [.applyPolicy candidate]).issued,
          ¬ clusterAdapter.Inside command := by
  refine ⟨rfl, _, rfl, by decide, _, List.mem_cons_self, fun inside => ?_⟩
  have same : "billing" = "shop" := inside _ List.mem_cons_self
  exact absurd same (by decide)

end Shop

end Kuber.Runtime

import Kuber.Runtime.KubernetesEnvironment

/-!
# What the adapter's methods do to the cluster

One statement for every method, for any outcomes of its commands: a call only
adds generated objects, and one that returns has done all of its work.  The
statements about runs use these and never unfold a method.
-/

namespace Kuber.Runtime

open Kuber.Library Kuber.Rules

/-- Every object of the later cluster is one of `objects` or was there. -/
def Gains (objects : List ParsedObject) (before after : Cluster) : Prop :=
  ∀ object, after.Holds object → object ∈ objects ∨ before.Holds object

namespace Gains

variable {objects : List ParsedObject} {first second third : Cluster}

theorem refl (objects : List ParsedObject) (cluster : Cluster) :
    Gains objects cluster cluster :=
  fun _ holds => Or.inr holds

theorem trans (earlier : Gains objects first second)
    (later : Gains objects second third) : Gains objects first third := by
  intro object holds
  rcases later object holds with new | old
  · exact Or.inl new
  · exact earlier object old

theorem remove (key : ObjectKey) : Gains objects first (first.remove key) :=
  fun _ holds => Or.inr (Cluster.holds_remove_iff.mp holds).2

theorem delete (landed : ObjectKey → Bool) (key : ObjectKey) :
    Gains objects first ((KubectlCommand.delete key).effect landed first) := by
  simp only [KubectlCommand.effect]
  split
  · exact remove key
  · exact refl objects first

theorem apply (landed : ObjectKey → Bool) {documents : List Json}
    (parsed : ∀ found, parseObjects documents = .ok found → found = objects) :
    Gains objects first
      ((KubectlCommand.apply documents).effect landed first) := by
  simp only [KubectlCommand.effect]
  split
  · rename_i found accepted
    intro object holds
    rcases Cluster.holds_of_holds_applyAll holds with applied | before
    · rw [← parsed found accepted]
      exact Or.inl (List.mem_of_mem_filter applied)
    · exact Or.inr before
  · exact refl objects first

end Gains

variable {environment : KubernetesEnvironment} {policy : Policy}
  {state : KubernetesState}

namespace KubernetesEnvironment

theorem sameKeys_iff {left right : Policy} :
    sameKeys left right = true ↔ left.keys = right.keys := by
  simp only [sameKeys, Bool.and_eq_true, List.all_eq_true, decide_eq_true_eq]
  constructor
  · intro ⟨forward, backward⟩
    ext key
    constructor
    · intro member
      obtain ⟨permission, inLeft, rfl⟩ := List.mem_map.mp member
      exact forward permission inLeft
    · intro member
      obtain ⟨permission, inRight, rfl⟩ := List.mem_map.mp member
      exact backward permission inRight
  · intro same
    constructor
    · intro permission inLeft
      exact Policy.mem_keys.mp (same ▸ Policy.mem_keys_of_mem inLeft)
    · intro permission inRight
      exact Policy.mem_keys.mp (same.symm ▸ Policy.mem_keys_of_mem inRight)

theorem enforceable_of_validatePolicy
    (validated : environment.validatePolicy policy = .ok ()) :
    Enforceable environment.account policy := by
  simp only [validatePolicy, bind_eq_ok_iff] at validated
  obtain ⟨parsed, accepted, compared⟩ := validated
  obtain ⟨rfl, writable⟩ := parseRbac_policyToDocuments_iff.mp accepted
  have same : (resolveEffectivePolicy (generatedRbac policy)
      environment.account).keys = policy.keys := by
    unfold requireSameKeys at compared
    split at compared
    · cases compared
    · rename_i same
      exact sameKeys_iff.mp (Bool.eq_true_of_not_eq_false same)
  refine ⟨writable, fun permission member => (expressible_of_sameKeys
    (parseRbac_wellFormed accepted) same member).name, ?_⟩
  intro permission member
  obtain ⟨binding, bound, subject, role, -, rule, -, granted⟩ :=
    mem_keys_resolve_iff.mp (same.symm ▸ Policy.mem_keys_of_mem member)
  obtain ⟨item, -, rfl⟩ := List.mem_map.mp bound
  have scope : permission.namespace =
      bindingScope (generatedBinding policy item.1) := granted.2.2.2.1
  rw [bindingScope_generatedBinding] at scope
  rw [scope]
  exact subject

/-- A checked command that returns has worked. -/
theorem kubectl_ends {command : KubectlCommand}
    {returned : Unit → KubernetesState → Prop}
    {raised : PyException → KubernetesState → Prop}
    (worked : command.accepted = true → ∀ outcomes, returned ()
      { state with
        cluster := command.effect (fun _ => true) state.cluster
        outcomes := outcomes })
    (failed : ∀ error landed outcomes, raised error
      { state with
        cluster := command.effect landed state.cluster
        outcomes := outcomes }) :
    Raising.Ends returned raised (environment.kubectl command true state) := by
  unfold kubectl
  cases outcome : state.outcomes.head?.getD .works with
  | works =>
      by_cases accepted : command.accepted = true
      · simp only [commandResult, accepted]
        exact worked accepted _
      · simp only [commandResult, accepted]
        exact failed _ _ _
  | fails landed => exact failed _ landed _
  | timesOut landed => exact failed _ landed _

/-- A successful application: the objects of the policy are written and the
overprivileged binding is gone, whatever its kind. -/
def enforced (environment : KubernetesEnvironment) (policy : Policy)
    (cluster : Cluster) : Cluster :=
  ((cluster.applyAll (generatedObjects policy)).remove
    environment.originalRoleBindingKey).remove
      environment.originalClusterRoleBindingKey

theorem parseObjects_policyInput {found : List ParsedObject}
    (accepted : parseObjects (policyInput policy) = .ok found) :
    found = generatedObjects policy :=
  (parseObjects_policyToDocuments_iff.mp accepted).1

theorem policyToDocuments_eq_nil_iff :
    policyToDocuments policy = [] ↔ generatedObjects policy = [] := by
  simp [policyToDocuments, generatedObjects, List.flatMap_eq_nil_iff]

private theorem applyCandidate_ends
    {returned : Unit → KubernetesState → Prop}
    {raised : PyException → KubernetesState → Prop}
    (worked : ∀ outcomes, returned ()
      { state with
        cluster := state.cluster.applyAll (generatedObjects policy)
        outcomes := outcomes })
    (failed : ∀ error cluster outcomes,
      Gains (generatedObjects policy) state.cluster cluster →
        raised error { state with cluster := cluster, outcomes := outcomes }) :
    Raising.Ends returned raised (environment.applyCandidate policy state) := by
  unfold applyCandidate
  by_cases empty : policyToDocuments policy = []
  · have nothing := policyToDocuments_eq_nil_iff.mp empty
    have unchanged := worked state.outcomes
    rw [nothing] at unchanged
    rw [if_pos empty]
    exact unchanged
  · rw [if_neg empty]
    apply kubectl_ends
    · intro accepted outcomes
      cases parsed : parseObjects (policyInput policy) with
      | error error => simp [KubectlCommand.accepted, parsed] at accepted
      | ok found =>
          have written := worked outcomes
          rw [← parseObjects_policyInput parsed] at written
          simpa [KubectlCommand.effect, parsed] using written
    · intro error landed outcomes
      exact failed _ _ _ (Gains.apply landed fun _ => parseObjects_policyInput)

/-- `apply_policy`: a call that raises has done nothing, or has written some
objects of a valid policy. -/
theorem applyPolicy_ends (environment : KubernetesEnvironment)
    (policy : Policy) (state : KubernetesState) :
    Raising.Ends
      (fun _ after => environment.validatePolicy policy = .ok () ∧
        after.cluster = environment.enforced policy state.cluster ∧
        after.candidateDocuments = policyToDocuments policy ∧
        after.currentPolicy = policy)
      (fun _ after => after = state ∨
        environment.validatePolicy policy = .ok () ∧
          after.candidateDocuments = policyToDocuments policy ∧
          Gains (generatedObjects policy) state.cluster after.cluster)
      (environment.applyPolicy policy state) := by
  apply Raising.ends_bind
  apply Raising.ends_ofExcept
  · intro _ validated
    apply Raising.ends_bind
    apply Raising.ends_ofExcept
    · intro _ _
      apply Raising.ends_bind
      apply Raising.ends_bind
      apply applyCandidate_ends
      · intro _
        have written : Gains (generatedObjects policy) state.cluster
            (state.cluster.applyAll (generatedObjects policy)) :=
          fun _ => Cluster.holds_of_holds_applyAll
        apply Raising.ends_bind
        apply kubectl_ends
        · intro _ _
          apply Raising.ends_bind
          apply kubectl_ends
          · intro _ _
            exact ⟨validated, rfl, rfl, rfl⟩
          · intro _ landed _
            refine Or.inr ⟨validated, rfl, ?_⟩
            exact (written.trans (Gains.remove _)).trans
              (Gains.delete landed _)
        · intro _ landed _
          exact Or.inr ⟨validated, rfl, written.trans (Gains.delete landed _)⟩
      · intro _ _ _ gains
        exact Or.inr ⟨validated, rfl, gains⟩
    · intro _ _
      exact Or.inl rfl
  · intro _ _
    exact Or.inl rfl

private theorem deleteEach_ends (documents : List Document)
    (objects : List ParsedObject) :
    Raising.Ends (fun _ after => Gains objects state.cluster after.cluster)
      (fun _ after => Gains objects state.cluster after.cluster)
      (environment.deleteEach documents state) := by
  induction documents generalizing state with
  | nil => exact Gains.refl _ _
  | cons document documents induction =>
      apply Raising.ends_bind
      apply Raising.ends_ofExcept
      · intro key _
        apply Raising.ends_bind
        have deleted : Raising.Ends
            (fun _ after => Gains objects state.cluster after.cluster)
            (fun _ after => Gains objects state.cluster after.cluster)
            (environment.kubectl (.delete key) false state) :=
          Raising.ends_anyhow_iff.mpr (Gains.delete _ key)
        apply deleted.imp
        · intro _ middle gains
          apply induction.imp
          · exact fun _ _ later => gains.trans later
          · exact fun _ _ later => gains.trans later
        · exact fun _ _ gains => gains
      · intro _ _
        exact Gains.refl _ _

/-- `restore_policy`, however it ends: only objects of the original policy are
new. -/
theorem restorePolicy_gains (environment : KubernetesEnvironment)
    (state : KubernetesState) :
    Gains (generatedObjects environment.originalPolicy) state.cluster
      (environment.restorePolicy state).2.cluster := by
  have anyhow : Raising.Ends
      (fun _ after => Gains (generatedObjects environment.originalPolicy)
        state.cluster after.cluster)
      (fun _ after => Gains (generatedObjects environment.originalPolicy)
        state.cluster after.cluster)
      (environment.restorePolicy state) := by
    unfold restorePolicy
    split
    · exact Gains.refl _ _
    · apply Raising.ends_bind
      apply Raising.ends_bind
      apply Raising.ends_bind
      apply (deleteEach_ends state.candidateDocuments _).imp
      · intro _ middle deleted
        apply Raising.ends_bind
        apply kubectl_ends
        · intro _ _
          exact deleted.trans
            (Gains.apply _ fun _ => parseObjects_policyInput)
        · intro _ _ _
          exact deleted.trans
            (Gains.apply _ fun _ => parseObjects_policyInput)
      · exact fun _ _ deleted => deleted
  exact Raising.ends_anyhow_iff.mp anyhow

private theorem deleteTarget_ok {document : Document} {text name : String}
    {kind : ObjectKind} {scope : Option String}
    (kindField : document.field "kind" = .string text)
    (known : ObjectKind.ofText? text = some kind)
    (metadata : document.field "metadata" = metadataDocument name scope)
    (located : scope ≠ some "") :
    deleteTarget document = .ok ⟨kind, scope, name⟩ := by
  have nameField (rest : Document) :
      Document.field (("name", .string name) :: rest) "name" =
        .string name := rfl
  have scopeField (value : Json) (rest : Document) :
      Document.field (("name", value) :: rest) "namespace" =
        Document.field rest "namespace" := rfl
  cases scope with
  | none =>
      simp only [deleteTarget, metadata, metadataDocument, kindField,
        nameField, scopeField, known]
      rfl
  | some scopeText =>
      have present : scopeText ≠ "" := fun empty => located (by rw [empty])
      have written : presentText (some scopeText) = [scopeText] := by
        simp [presentText, present]
      simp only [deleteTarget, metadata, metadataDocument, kindField,
        nameField, scopeField, known, written]
      simp [Document.field, Json.asText?, Option.filter, present]

theorem deleteTarget_policyToDocuments (writable : policy.Writable) :
    List.Forall₂ (fun document key => deleteTarget document = .ok key)
      (policyToDocuments policy)
      ((generatedObjects policy).map objectKey) := by
  have located : ∀ item ∈ groupedScopes policy, item.1 ≠ some "" := by
    rintro ⟨scope, permissions⟩ member
    obtain ⟨⟨permission, inPolicy, rfl⟩, -⟩ := mem_groupedScopes_iff.mp member
    exact (writable permission inPolicy).1.scope
  simp only [policyToDocuments, generatedObjects]
  generalize groupedScopes policy = items at located
  induction items with
  | nil => exact .nil
  | cons item items induction =>
      have here := located item List.mem_cons_self
      have later := induction fun other member =>
        located other (List.mem_cons_of_mem _ member)
      simp only [List.flatMap_cons, List.cons_append, List.nil_append,
        List.map_cons, objectKey_generatedRole, objectKey_generatedBinding]
      obtain ⟨scope, permissions⟩ := item
      refine .cons ?_ (.cons ?_ later)
      · cases scope with
        | none => exact deleteTarget_ok rfl rfl rfl here
        | some text => exact deleteTarget_ok rfl rfl rfl here
      · cases scope with
        | none => exact deleteTarget_ok rfl rfl rfl here
        | some text => exact deleteTarget_ok rfl rfl rfl here

private theorem deleteEach_working {documents : List Document}
    {keys : List ObjectKey} (working : state.outcomes = [])
    (targets : List.Forall₂
      (fun document key => deleteTarget document = .ok key) documents keys) :
    environment.deleteEach documents state =
      (.ok (), { state with cluster := state.cluster.removeAll keys }) := by
  induction targets generalizing state with
  | nil => rfl
  | @cons document key documents keys target _ induction =>
      have deleted : environment.kubectl (.delete key) false state =
          (.ok (), { state with cluster := state.cluster.remove key }) := by
        simp [kubectl, working, commandResult, KubectlCommand.effect,
          Outcome.landed]
      have rest := @induction
        { state with cluster := state.cluster.remove key } working
      rw [deleteEach, target, Raising.bind_run_ok (Raising.ofExcept_run _ _),
        Raising.bind_run_ok deleted]
      exact rest

/-- `restore_policy` with a working kubectl: the candidates it remembers are
deleted, and the original policy is written unless it is empty. -/
theorem restorePolicy_working (live : environment.dryRun = false)
    (working : state.outcomes = [])
    (writable : environment.originalPolicy.Writable)
    {keys : List ObjectKey}
    (targets : List.Forall₂
      (fun document key => deleteTarget document = .ok key)
      state.candidateDocuments keys) :
    environment.restorePolicy state =
      if generatedObjects environment.originalPolicy = [] then
        (.error (environment.exitError
            (.apply (policyInput environment.originalPolicy))),
          ⟨state.cluster.removeAll keys, [], state.currentPolicy, []⟩)
      else
        (.ok (), ⟨(state.cluster.removeAll keys).applyAll
          (generatedObjects environment.originalPolicy), [],
          environment.originalPolicy, []⟩) := by
  have deleted : environment.deleteCandidates state =
      (.ok (), ⟨state.cluster.removeAll keys, [], state.currentPolicy, []⟩) := by
    rw [deleteCandidates, Raising.bind_run_ok (Raising.get_run _),
      Raising.bind_run_ok (deleteEach_working working targets),
      Raising.modify_run, working]
  have parsed : parseObjects (policyInput environment.originalPolicy) =
      .ok (generatedObjects environment.originalPolicy) :=
    parseObjects_policyToDocuments_iff.mpr ⟨rfl, writable⟩
  rw [restorePolicy, if_neg (by simp [live]), Raising.bind_run_ok deleted]
  by_cases empty : generatedObjects environment.originalPolicy = []
  · simp [Raising.bind_run, kubectl, commandResult, KubectlCommand.accepted,
      KubectlCommand.effect, parsed, empty, Cluster.applyAll]
  · simp [Raising.bind_run, kubectl, commandResult, KubectlCommand.accepted,
      KubectlCommand.effect, parsed, empty, resetCurrentPolicy,
      Outcome.landed]

/-- The cluster to which a manifest was deployed. -/
def deployed (objects : List ParsedObject) : Cluster :=
  Cluster.empty.applyAll objects

theorem holds_deployed {objects : List ParsedObject} {object : ParsedObject}
    (holds : (deployed objects).Holds object) : object ∈ objects := by
  rcases Cluster.holds_of_holds_applyAll holds with written | before
  · exact written
  · cases before

theorem gains_enforced {cluster : Cluster} :
    Gains (generatedObjects policy) cluster
      (environment.enforced policy cluster) := by
  have written : Gains (generatedObjects policy) cluster
      (cluster.applyAll (generatedObjects policy)) :=
    fun _ => Cluster.holds_of_holds_applyAll
  exact (written.trans (Gains.remove _)).trans (Gains.remove _)

/-- Every object of the cluster is one of `objects` or was generated for one
of the policies. -/
def Composed (policies : Policy → Prop) (objects : List ParsedObject)
    (cluster : Cluster) : Prop :=
  ∀ object, cluster.Holds object →
    object ∈ objects ∨
      ∃ policy, policies policy ∧ object ∈ generatedObjects policy

section

variable {policies : Policy → Prop} {objects : List ParsedObject}

theorem composed_deployed : Composed policies objects (deployed objects) :=
  fun _ holds => Or.inl (holds_deployed holds)

theorem Composed.gains {before after : Cluster}
    (composed : Composed policies objects before)
    (known : policies policy)
    (gains : Gains (generatedObjects policy) before after) :
    Composed policies objects after := by
  intro object holds
  rcases gains object holds with written | earlier
  · exact Or.inr ⟨policy, known, written⟩
  · exact composed object earlier

theorem Composed.applyPolicy
    (composed : Composed policies objects state.cluster)
    (known : environment.validatePolicy policy = .ok () → policies policy) :
    Composed policies objects
      (environment.applyPolicy policy state).2.cluster := by
  have anyhow : Raising.Ends
      (fun _ after => Composed policies objects after.cluster)
      (fun _ after => Composed policies objects after.cluster)
      (environment.applyPolicy policy state) := by
    apply (environment.applyPolicy_ends policy state).imp
    · intro _ after ⟨validated, written, _⟩
      rw [written]
      exact composed.gains (known validated) gains_enforced
    · intro _ after ends
      rcases ends with unchanged | ⟨validated, -, gains⟩
      · rw [unchanged]
        exact composed
      · exact composed.gains (known validated) gains
  exact Raising.ends_anyhow_iff.mp anyhow

end

end KubernetesEnvironment

end Kuber.Runtime

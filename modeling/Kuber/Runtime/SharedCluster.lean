import Kuber.Runtime.Rollback

/-!
# Adapters on one cluster

The adapters of several accounts work on one cluster at the same time, so their
single writes reach it in any order.  What a call writes, and how it ends, does
not depend on the cluster, and the writes for one account touch nothing that
decides about another one.  So every account is granted what it would be
granted if the calls of its own adapter were the only ones.
-/

namespace Kuber.Runtime

open Kuber.Library Kuber.Rules

/-- One write to the API server. -/
inductive ClusterWrite where
  | upsert (object : ParsedObject)
  | remove (key : ObjectKey)

namespace ClusterWrite

def key : ClusterWrite → ObjectKey
  | upsert object => objectKey object
  | remove key => key

def perform (cluster : Cluster) : ClusterWrite → Cluster
  | upsert object => cluster.upsert object
  | remove key => cluster.remove key

theorem get?_perform_of_ne {write : ClusterWrite} {key : ObjectKey}
    (other : key ≠ write.key) (cluster : Cluster) :
    (write.perform cluster).get? key = cluster.get? key := by
  cases write with
  | upsert object => exact Cluster.get?_upsert.trans (if_neg other)
  | remove removed => exact Cluster.get?_remove.trans (if_neg other)

theorem get?_perform_congr {write : ClusterWrite} {key : ObjectKey}
    {left right : Cluster} (same : left.get? key = right.get? key) :
    (write.perform left).get? key = (write.perform right).get? key := by
  cases write with
  | upsert object =>
      simp only [perform, Cluster.get?_upsert, same]
  | remove removed =>
      simp only [perform, Cluster.get?_remove, same]

theorem holds_of_holds_perform {write : ClusterWrite} {cluster : Cluster}
    {object : ParsedObject} (holds : (write.perform cluster).Holds object) :
    write = .upsert object ∨ cluster.Holds object := by
  cases write with
  | upsert written =>
      rcases Cluster.holds_upsert_iff.mp holds with rfl | ⟨-, before⟩
      · exact Or.inl rfl
      · exact Or.inr before
  | remove removed => exact Or.inr (Cluster.holds_remove_iff.mp holds).2

end ClusterWrite

def Cluster.afterWrites (cluster : Cluster) (writes : List ClusterWrite) :
    Cluster :=
  writes.foldl ClusterWrite.perform cluster

theorem Cluster.afterWrites_append (cluster : Cluster)
    (earlier later : List ClusterWrite) :
    cluster.afterWrites (earlier ++ later) =
      (cluster.afterWrites earlier).afterWrites later :=
  List.foldl_append

namespace KubectlCommand

/-- The writes of a command that have landed. -/
def writes (landed : ObjectKey → Bool) :
    KubectlCommand → List ClusterWrite
  | .apply documents =>
      match parseObjects documents with
      | .ok objects =>
          (objects.filter fun object => landed (objectKey object)).map .upsert
      | .error _ => []
  | .delete key => if landed key then [.remove key] else []

theorem effect_eq_afterWrites (command : KubectlCommand)
    (landed : ObjectKey → Bool) (cluster : Cluster) :
    command.effect landed cluster =
      cluster.afterWrites (command.writes landed) := by
  cases command with
  | apply documents =>
      cases parsed : parseObjects documents with
      | ok objects =>
          simp only [effect, writes, parsed, Cluster.applyAll,
            Cluster.afterWrites, List.foldl_map]
          rfl
      | error error =>
          simp only [effect, writes, parsed]
          rfl
  | delete key =>
      simp only [effect, writes]
      split
      · rfl
      · rfl

end KubectlCommand

/-- The same adapter in front of another cluster. -/
def KubernetesState.on (state : KubernetesState) (cluster : Cluster) :
    KubernetesState :=
  { state with cluster := cluster }

namespace KubernetesEnvironment

/-- A key that the adapter of an account may write or delete. -/
def Touches (environment : KubernetesEnvironment) (key : ObjectKey) : Prop :=
  environment.Generates key ∨ key = environment.originalRoleBindingKey ∨
    key = environment.originalClusterRoleBindingKey

/-- A write that the adapter of an account may make. -/
inductive Own (environment : KubernetesEnvironment) : ClusterWrite → Prop where
  | upsert {policy : Policy} {object : ParsedObject} :
      environment.Writes policy → object ∈ generatedObjects policy →
      Own environment (.upsert object)
  | remove {key : ObjectKey} :
      environment.Touches key → Own environment (.remove key)

/-- Documents that the adapter may have to delete again. -/
def Remembers (environment : KubernetesEnvironment)
    (documents : List Document) : Prop :=
  ∃ policy, environment.Candidate policy ∧ policy.Writable ∧
    documents = policyToDocuments policy

/-- In front of every cluster the computation ends in the same way, after the
same writes. -/
def Uniform {α : Type} (environment : KubernetesEnvironment)
    (state : KubernetesState) (body : Raising PyException KubernetesState α) :
    Prop :=
  ∃ (result : Except PyException α) (after : KubernetesState)
      (writes : List ClusterWrite),
    environment.Remembers after.candidateDocuments ∧
    (∀ write ∈ writes, environment.Own write) ∧
    ∀ cluster, body (state.on cluster) =
      (result, after.on (cluster.afterWrites writes))

section Uniform

variable {environment : KubernetesEnvironment} {state : KubernetesState}
  {policy : Policy} {α β : Type}

theorem remembers_nil (environment : KubernetesEnvironment) :
    environment.Remembers [] :=
  ⟨environment.noCandidate, ⟨rfl, rfl, rfl⟩,
    fun _ member => absurd member List.not_mem_nil, rfl⟩

theorem Uniform.bind {body : Raising PyException KubernetesState α}
    {next : α → Raising PyException KubernetesState β}
    (first : environment.Uniform state body)
    (later : ∀ value after, environment.Remembers after.candidateDocuments →
      environment.Uniform after (next value)) :
    environment.Uniform state (body >>= next) := by
  obtain ⟨result, middle, writes, remembers, own, ends⟩ := first
  cases result with
  | error error =>
      exact ⟨.error error, middle, writes, remembers, own,
        fun cluster => Raising.bind_run_error (ends cluster)⟩
  | ok value =>
      obtain ⟨last, after, more, remembersLater, ownLater, endsLater⟩ :=
        later value middle remembers
      refine ⟨last, after, writes ++ more, remembersLater,
        List.forall_mem_append.mpr ⟨own, ownLater⟩, fun cluster => ?_⟩
      rw [Raising.bind_run_ok (ends cluster), Cluster.afterWrites_append]
      exact endsLater _

theorem uniform_ofExcept_bind {result : Except PyException α}
    {next : α → Raising PyException KubernetesState β}
    (remembers : environment.Remembers state.candidateDocuments)
    (later : ∀ value, result = .ok value →
      environment.Uniform state (next value)) :
    environment.Uniform state (Raising.ofExcept result >>= next) := by
  cases result with
  | error error =>
      exact ⟨.error error, state, [], remembers, by simp, fun _ => rfl⟩
  | ok value => exact later value rfl

theorem uniform_modify {change : KubernetesState → KubernetesState}
    (apart : ∀ cluster, change (state.on cluster) = (change state).on cluster)
    (remembers : environment.Remembers (change state).candidateDocuments) :
    environment.Uniform state (Raising.modify change) := by
  refine ⟨.ok (), change state, [], remembers, by simp, fun cluster => ?_⟩
  rw [Raising.modify_run, apart]
  rfl

theorem uniform_kubectl {command : KubectlCommand}
    (remembers : environment.Remembers state.candidateDocuments)
    (own : ∀ landed, ∀ write ∈ command.writes landed, environment.Own write)
    (check : Bool) :
    environment.Uniform state (environment.kubectl command check) := by
  refine ⟨environment.commandResult command check
      (state.outcomes.head?.getD .works),
    { state with outcomes := state.outcomes.tail },
    command.writes (state.outcomes.head?.getD .works).landed, remembers,
    own _, fun cluster => ?_⟩
  rw [← command.effect_eq_afterWrites]
  rfl

theorem own_apply (writes : environment.Writes policy)
    (landed : ObjectKey → Bool) :
    ∀ write ∈ (KubectlCommand.apply (policyInput policy)).writes landed,
      environment.Own write := by
  intro write member
  cases parsed : parseObjects (policyInput policy) with
  | error error =>
      simp only [KubectlCommand.writes, parsed] at member
      cases member
  | ok objects =>
      simp only [KubectlCommand.writes, parsed] at member
      obtain ⟨object, landed, rfl⟩ := List.mem_map.mp member
      have written := List.mem_of_mem_filter landed
      rw [parseObjects_policyInput parsed] at written
      exact .upsert writes written

theorem own_delete {key : ObjectKey} (touches : environment.Touches key)
    (landed : ObjectKey → Bool) :
    ∀ write ∈ (KubectlCommand.delete key).writes landed,
      environment.Own write := by
  intro write member
  simp only [KubectlCommand.writes] at member
  split at member
  · rw [List.mem_singleton.mp member]
    exact .remove touches
  · cases member

theorem uniform_applyPolicy (candidate : environment.Candidate policy)
    (remembers : environment.Remembers state.candidateDocuments) :
    environment.Uniform state (environment.applyPolicy policy) := by
  refine uniform_ofExcept_bind remembers fun _ validated => ?_
  have enforceable := enforceable_of_validatePolicy validated
  have remembered :
      environment.Remembers (policyToDocuments policy) :=
    ⟨policy, candidate, enforceable.writable, rfl⟩
  refine uniform_ofExcept_bind remembers fun _ _ => ?_
  refine (uniform_modify (fun _ => rfl) remembered).bind
    fun _ _ remembers => ?_
  refine Uniform.bind ?_ fun _ _ remembers => ?_
  · unfold applyCandidate
    split_ifs
    · exact ⟨.ok (), _, [], remembers, by simp, fun _ => rfl⟩
    · exact uniform_kubectl remembers
        (own_apply ⟨enforceable, Or.inl candidate⟩) true
  · refine (uniform_kubectl remembers
      (own_delete (Or.inr (Or.inl rfl))) true).bind fun _ _ remembers => ?_
    refine (uniform_kubectl remembers
      (own_delete (Or.inr (Or.inr rfl))) true).bind fun _ _ remembers => ?_
    exact uniform_modify (fun _ => rfl) remembers

theorem uniform_deleteEach {documents : List Document}
    {keys : List ObjectKey}
    (targets : List.Forall₂
      (fun document key => deleteTarget document = .ok key) documents keys)
    (touches : ∀ key ∈ keys, environment.Touches key)
    (remembers : environment.Remembers state.candidateDocuments) :
    environment.Uniform state (environment.deleteEach documents) := by
  induction targets generalizing state with
  | nil => exact ⟨.ok (), state, [], remembers, by simp, fun _ => rfl⟩
  | @cons document key documents keys target _ induction =>
      refine uniform_ofExcept_bind remembers fun found isFound => ?_
      obtain rfl : found = key := Except.ok.inj (isFound.symm.trans target)
      have own := own_delete (touches found List.mem_cons_self)
      refine (uniform_kubectl remembers own false).bind
        fun _ _ remembers => ?_
      exact induction
        (fun key later => touches key (List.mem_cons_of_mem _ later)) remembers

theorem uniform_deleteCandidates
    (remembers : environment.Remembers state.candidateDocuments) :
    environment.Uniform state environment.deleteCandidates := by
  obtain ⟨policy, candidate, writable, documents⟩ := remembers
  have targets := deleteTarget_policyToDocuments writable
  rw [← documents] at targets
  have touches : ∀ key ∈ (generatedObjects policy).map objectKey,
      environment.Touches key := by
    intro key member
    obtain ⟨object, generated, rfl⟩ := List.mem_map.mp member
    have named := namedFor_of_mem_generatedObjects generated
    rw [candidate.name] at named
    exact Or.inl (Or.inl named)
  have deleted : environment.Uniform state
      (environment.deleteEach state.candidateDocuments >>= fun _ =>
        Raising.modify fun state => { state with candidateDocuments := [] }) :=
    (uniform_deleteEach targets touches
      ⟨policy, candidate, writable, documents⟩).bind fun _ _ _ =>
        uniform_modify (fun _ => rfl) (remembers_nil environment)
  exact deleted

theorem uniform_restorePolicy (account : environment.ForAccount)
    (remembers : environment.Remembers state.candidateDocuments) :
    environment.Uniform state environment.restorePolicy := by
  unfold restorePolicy
  split_ifs
  · exact uniform_modify (fun _ => rfl) remembers
  · refine (uniform_deleteCandidates remembers).bind fun _ _ remembers => ?_
    refine (uniform_kubectl remembers
      (own_apply ⟨account.2, Or.inr rfl⟩) true).bind fun _ _ remembers => ?_
    exact uniform_modify (fun _ => rfl) remembers

/-- Whatever an adapter is asked for, the cluster does not matter for what it
writes. -/
theorem afterCalls_uniform (account : environment.ForAccount)
    {calls : List AdapterCall}
    (candidates : ∀ policy, .apply policy ∈ calls →
      environment.Candidate policy)
    (remembers : environment.Remembers state.candidateDocuments) :
    ∃ (after : KubernetesState) (writes : List ClusterWrite),
      (∀ write ∈ writes, environment.Own write) ∧
      ∀ cluster, environment.afterCalls (state.on cluster) calls =
        after.on (cluster.afterWrites writes) := by
  induction calls generalizing state with
  | nil => exact ⟨state, [], by simp, fun _ => rfl⟩
  | cons call calls induction =>
      have here : ∃ (middle : KubernetesState) (writes : List ClusterWrite),
          environment.Remembers middle.candidateDocuments ∧
          (∀ write ∈ writes, environment.Own write) ∧
          ∀ cluster, environment.afterCall (state.on cluster) call =
            middle.on (cluster.afterWrites writes) := by
        cases call with
        | create =>
            exact ⟨environment.opened state.cluster state.outcomes, [],
              remembers_nil environment, by simp, fun _ => rfl⟩
        | apply policy =>
            obtain ⟨result, middle, writes, remembersNow, own, ends⟩ :=
              uniform_applyPolicy (candidates policy List.mem_cons_self)
                remembers
            exact ⟨middle, writes, remembersNow, own,
              fun cluster => congrArg Prod.snd (ends cluster)⟩
        | restore =>
            obtain ⟨result, middle, writes, remembersNow, own, ends⟩ :=
              uniform_restorePolicy account remembers
            exact ⟨middle, writes, remembersNow, own,
              fun cluster => congrArg Prod.snd (ends cluster)⟩
      obtain ⟨middle, writes, remembersNow, own, ends⟩ := here
      obtain ⟨after, more, ownLater, endsLater⟩ := induction
        (fun policy later => candidates policy (List.mem_cons_of_mem _ later))
        remembersNow
      refine ⟨after, writes ++ more,
        List.forall_mem_append.mpr ⟨own, ownLater⟩, fun cluster => ?_⟩
      rw [Cluster.afterWrites_append, ← endsLater, ← ends]
      rfl

end Uniform

section Sight

variable (environment : KubernetesEnvironment) (objects : List ParsedObject)

/-- What the account is granted is decided under this key. -/
def Decisive (key : ObjectKey) : Prop :=
  environment.Touches key ∨ ∃ binding, .binding binding ∈ objects ∧
    environment.account ∈ binding.subjects ∧ referencedKey binding = key

/-- A binding of the account, and the role that it refers to, are under such
keys. -/
def Guarded (object : ParsedObject) : Prop :=
  ∀ binding, object = .binding binding →
    environment.account ∈ binding.subjects →
      environment.Decisive objects (objectKey object) ∧
        environment.Decisive objects (referencedKey binding)

/-- A write that is about other accounts. -/
structure Foreign (write : ClusterWrite) : Prop where
  outside : ¬ environment.Decisive objects write.key
  guarded : ∀ object, write = .upsert object →
    environment.Guarded objects object

/-- Two clusters between which the account cannot tell. -/
structure SeenAlike (shared alone : Cluster) : Prop where
  same : ∀ key, environment.Decisive objects key →
    shared.get? key = alone.get? key
  shared : ∀ object, shared.Holds object → environment.Guarded objects object
  alone : ∀ object, alone.Holds object → environment.Guarded objects object

variable {environment objects} {shared alone : Cluster}
  {write : ClusterWrite}

namespace SeenAlike

theorem symm (alike : environment.SeenAlike objects shared alone) :
    environment.SeenAlike objects alone shared :=
  ⟨fun key decisive => (alike.same key decisive).symm, alike.alone,
    alike.shared⟩

private theorem keys_subset
    (alike : environment.SeenAlike objects shared alone) :
    (shared.policy environment.account).keys ⊆
      (alone.policy environment.account).keys := by
  intro key member
  obtain ⟨binding, holds, subject, role, found, granted⟩ :=
    Cluster.mem_keys_policy_iff.mp member
  obtain ⟨own, reference⟩ := alike.shared _ holds binding rfl subject
  refine Cluster.mem_keys_policy_iff.mpr
    ⟨binding, ?_, subject, role, ?_, granted⟩
  · exact (alike.same _ own).symm.trans holds
  · exact (alike.same _ reference).symm.trans found

theorem policy_keys (alike : environment.SeenAlike objects shared alone) :
    (shared.policy environment.account).keys =
      (alone.policy environment.account).keys :=
  Set.Subset.antisymm alike.keys_subset alike.symm.keys_subset

private theorem guarded_perform {cluster : Cluster}
    (before : ∀ object, cluster.Holds object →
      environment.Guarded objects object)
    (guarded : ∀ object, write = .upsert object →
      environment.Guarded objects object) (object : ParsedObject)
    (holds : (write.perform cluster).Holds object) :
    environment.Guarded objects object :=
  (ClusterWrite.holds_of_holds_perform holds).elim (guarded object)
    (before object)

theorem perform (alike : environment.SeenAlike objects shared alone)
    (guarded : ∀ object, write = .upsert object →
      environment.Guarded objects object) :
    environment.SeenAlike objects (write.perform shared)
      (write.perform alone) where
  same key decisive := ClusterWrite.get?_perform_congr (alike.same key decisive)
  shared := guarded_perform alike.shared guarded
  alone := guarded_perform alike.alone guarded

theorem foreign (alike : environment.SeenAlike objects shared alone)
    (foreign : environment.Foreign objects write) :
    environment.SeenAlike objects (write.perform shared) alone where
  same key decisive := by
    have other : key ≠ write.key :=
      fun same => foreign.outside (same ▸ decisive)
    rw [ClusterWrite.get?_perform_of_ne other]
    exact alike.same key decisive
  shared := guarded_perform alike.shared foreign.guarded
  alone := alike.alone

end SeenAlike

theorem Own.guarded (own : environment.Own write)
    (account : environment.ForAccount) (object : ParsedObject)
    (written : write = .upsert object) :
    environment.Guarded objects object := by
  cases own with
  | remove => cases written
  | @upsert policy generated writes member =>
      obtain rfl : generated = object := ClusterWrite.upsert.inj written
      intro binding isBinding _
      obtain ⟨item, -, isRole | isBindingOf⟩ :=
        mem_generatedObjects_iff.mp member
      · rw [isRole] at isBinding
        cases isBinding
      · obtain rfl : generatedBinding policy item.1 = binding :=
          ParsedObject.binding.inj (isBindingOf.symm.trans isBinding)
        constructor
        · exact Or.inl (Or.inl (writes.generates account
            (namedFor_of_mem_generatedObjects member)))
        · exact Or.inl (Or.inl (writes.generates account
            ⟨item.1, Or.inl (referencedKey_generatedBinding item.1)⟩))

theorem seenAlike_deployed (initial : environment.InitialManifest objects) :
    environment.SeenAlike objects (deployed objects) (deployed objects) := by
  have guarded : ∀ object, (deployed objects).Holds object →
      environment.Guarded objects object := by
    intro object holds binding isBinding subject
    have member := holds_deployed holds
    rw [isBinding] at member ⊢
    exact ⟨Or.inl (Or.inr (initial.bound binding member subject)),
      Or.inr ⟨binding, member, subject, rfl⟩⟩
  exact ⟨fun _ _ => rfl, guarded, guarded⟩

end Sight

section Family

variable {ι : Type}

/-- The adapters of a manifest whose accounts have different names and
different bindings, none of which is named like a generated one. -/
structure Apart (environments : ι → KubernetesEnvironment)
    (objects : List ParsedObject) : Prop where
  created : ∀ one, ∃ settings manifest probe,
    create settings manifest probe = .ok (environments one) ∧
      parseObjects manifest = .ok objects
  initial : ∀ one, (environments one).InitialManifest objects
  accounts : ∀ one other, one ≠ other →
    (environments one).settings.serviceAccount ≠
      (environments other).settings.serviceAccount
  bindings : ∀ one other, one ≠ other →
    (environments one).settings.originalBindingName ≠
      (environments other).settings.originalBindingName
  fresh : ∀ one other, one ≠ other →
    ¬(environments one).Generates (environments other).originalRoleBindingKey ∧
      ¬(environments one).Generates
        (environments other).originalClusterRoleBindingKey
  references : ∀ one other, one ≠ other →
    ∀ binding, .binding binding ∈ objects →
      (environments one).account ∈ binding.subjects →
        ¬(environments other).Generates (referencedKey binding)

/-- The writes of one adapter among those of all. -/
def writesOf [DecidableEq ι] (one : ι) (merged : List (ι × ClusterWrite)) :
    List ClusterWrite :=
  (merged.filter fun tagged => decide (tagged.1 = one)).map Prod.snd

theorem candidate_ne_effective (left right : String) :
    left ++ "-kuber" ≠ right ++ "-effective" := by
  intro same
  have ends := congrArg (fun text => text.toList.getLast?) same
  simp at ends

theorem not_generates_both {first second : KubernetesEnvironment}
    (different :
      first.settings.serviceAccount ≠ second.settings.serviceAccount)
    {key : ObjectKey} (own : first.Generates key) : ¬second.Generates key := by
  rintro (candidate | effective)
  · rcases own with ownCandidate | ownEffective
    · have same := ownCandidate.unique candidate
      exact different (String.append_left_inj _ |>.mp same)
    · exact candidate_ne_effective _ _ (candidate.unique ownEffective)
  · rcases own with ownCandidate | ownEffective
    · exact candidate_ne_effective _ _ (ownCandidate.unique effective)
    · have same := ownEffective.unique effective
      exact different (String.append_left_inj _ |>.mp same)

namespace Apart

variable {environments : ι → KubernetesEnvironment}
  {objects : List ParsedObject} {one other : ι}
  (apart : Apart environments objects)

include apart

theorem forAccount (one : ι) : (environments one).ForAccount := by
  obtain ⟨settings, manifest, probe, created, parsed⟩ := apart.created one
  exact (create_ok created parsed).2

/-- What another adapter touches decides nothing about the account. -/
theorem not_decisive (different : one ≠ other) {key : ObjectKey}
    (touches : (environments other).Touches key) :
    ¬(environments one).Decisive objects key := by
  have names := apart.accounts one other different
  have bindings := apart.bindings one other different
  rintro (own | ⟨binding, member, subject, rfl⟩)
  · rcases own with generated | rfl | rfl
    · rcases touches with generatedToo | rfl | rfl
      · exact not_generates_both names generated generatedToo
      · exact (apart.fresh one other different).1 generated
      · exact (apart.fresh one other different).2 generated
    · rcases touches with generated | same | same
      · exact (apart.fresh other one different.symm).1 generated
      · exact bindings (congrArg ObjectKey.name same)
      · cases congrArg ObjectKey.kind same
    · rcases touches with generated | same | same
      · exact (apart.fresh other one different.symm).2 generated
      · cases congrArg ObjectKey.kind same
      · exact bindings (congrArg ObjectKey.name same)
  · rcases touches with generated | same | same
    · exact apart.references one other different binding member subject
        generated
    · have kinds := congrArg ObjectKey.kind same
      cases kind : binding.roleKind <;>
        simp [referencedKey, kind, originalRoleBindingKey] at kinds
    · have kinds := congrArg ObjectKey.kind same
      cases kind : binding.roleKind <;>
        simp [referencedKey, kind, originalClusterRoleBindingKey] at kinds

theorem foreign (different : one ≠ other) {write : ClusterWrite}
    (own : (environments other).Own write) :
    (environments one).Foreign objects write := by
  cases own with
  | remove touches =>
      exact ⟨apart.not_decisive different touches,
        fun object written => by cases written⟩
  | @upsert policy object writes member =>
      have named := writes.generates (apart.forAccount other)
        (namedFor_of_mem_generatedObjects member)
      refine ⟨apart.not_decisive different (Or.inl named), ?_⟩
      intro written isWritten binding isBinding subject
      obtain rfl : object = written := ClusterWrite.upsert.inj isWritten
      obtain ⟨item, grouped, isRole | isBindingOf⟩ :=
        mem_generatedObjects_iff.mp member
      · rw [isRole] at isBinding
        cases isBinding
      · obtain rfl : generatedBinding policy item.1 = binding :=
          ParsedObject.binding.inj (isBindingOf.symm.trans isBinding)
        obtain ⟨permission, isPermission, scope⟩ :=
          hasScope_of_mem_groupedScopes grouped
        have theirs := writes.enforceable.subject permission isPermission
        rw [scope] at theirs
        have same : (environments one).account =
            (environments other).account :=
          (List.mem_singleton.mp subject).trans
            (List.mem_singleton.mp theirs).symm
        exact absurd (congrArg ServiceAccountRef.name same)
          (apart.accounts one other different)

/-- One account sees the merged writes as those of its own adapter. -/
theorem seenAlike_merged [DecidableEq ι] (one : ι)
    {merged : List (ι × ClusterWrite)}
    (own : ∀ tagged ∈ merged, (environments tagged.1).Own tagged.2)
    {shared alone : Cluster}
    (alike : (environments one).SeenAlike objects shared alone) :
    (environments one).SeenAlike objects
      (shared.afterWrites (merged.map Prod.snd))
      (alone.afterWrites (writesOf one merged)) := by
  induction merged generalizing shared alone with
  | nil => exact alike
  | cons tagged merged induction =>
      obtain ⟨writer, write⟩ := tagged
      have here := own (writer, write) List.mem_cons_self
      have later := fun tagged member =>
        own tagged (List.mem_cons_of_mem (writer, write) member)
      by_cases mine : writer = one
      · subst mine
        have split : writesOf writer ((writer, write) :: merged) =
            write :: writesOf writer merged := by
          simp [writesOf]
        rw [split]
        exact induction later
          (alike.perform (here.guarded (apart.forAccount writer)))
      · have split : writesOf one ((writer, write) :: merged) =
            writesOf one merged := by
          simp [writesOf, mine]
        rw [split]
        exact induction later
          (alike.foreign (apart.foreign (Ne.symm mine) here))

end Apart

/-- A manifest of two accounts of one namespace. -/
def pairManifest : List Json :=
  let manifest (account resource : String) : List Json :=
    [.mapping
      [("kind", .string "Role"),
        ("metadata", .mapping
          [("name", .string (account ++ "-role")),
            ("namespace", .string "shop")]),
        ("rules", .list [.mapping
          [("resources", .list [.string resource]),
            ("verbs", .list [.string "get", .string "list"])]])],
      .mapping
        [("kind", .string "RoleBinding"),
          ("metadata", .mapping
            [("name", .string (account ++ "-overprivileged")),
              ("namespace", .string "shop")]),
          ("roleRef", .mapping
            [("apiGroup", .string "rbac.authorization.k8s.io"),
              ("kind", .string "Role"),
              ("name", .string (account ++ "-role"))]),
          ("subjects", .list [.mapping
            [("kind", .string "ServiceAccount"), ("name", .string account),
              ("namespace", .string "shop")]])]]
  manifest "web" "pods" ++ manifest "db" "secrets"

def pairObjects : List ParsedObject :=
  [.role ⟨"web-role", some "shop", [⟨[""], ["pods"], ["get", "list"], []⟩],
      false⟩,
    .binding ⟨"web-overprivileged", some "shop", "web-role", .role,
      [⟨"web", "shop"⟩], false⟩,
    .role ⟨"db-role", some "shop", [⟨[""], ["secrets"], ["get", "list"], []⟩],
      false⟩,
    .binding ⟨"db-overprivileged", some "shop", "db-role", .role,
      [⟨"db", "shop"⟩], false⟩]

def pairName (web : Bool) : String :=
  if web then "web" else "db"

def pairEnvironment (web : Bool) : KubernetesEnvironment where
  settings := {
    «namespace» := "shop"
    serviceAccount := pairName web
    workloadId := pairName web
    originalBindingName := pairName web ++ "-overprivileged" }
  originalPolicy := resolveEffectivePolicy (ParsedRbac.ofObjects pairObjects)
    ⟨pairName web, "shop"⟩
  safe := true
  dryRun := false

private theorem binding_mem_pairObjects {binding : BindingObject}
    (member : .binding binding ∈ pairObjects) :
    ∃ web : Bool, binding =
      ⟨pairName web ++ "-overprivileged", some "shop", pairName web ++ "-role",
        .role, [⟨pairName web, "shop"⟩], false⟩ := by
  simp only [pairObjects, List.mem_cons, reduceCtorEq,
    ParsedObject.binding.injEq, List.not_mem_nil, or_false, false_or] at member
  rcases member with same | same
  · exact ⟨true, same⟩
  · exact ⟨false, same⟩

theorem pairEnvironment_apart : Apart pairEnvironment pairObjects := by
  have names : ∀ web : Bool, ∀ object ∈ pairObjects,
      ¬(pairEnvironment web).candidateName.toList <+:
          (objectKey object).name.toList ∧
        ¬(pairEnvironment web).effectiveName.toList <+:
          (objectKey object).name.toList := by
    intro web
    cases web <;> decide
  have fresh : ∀ web other : Bool,
      ¬(pairEnvironment web).Generates
          (pairEnvironment other).originalRoleBindingKey ∧
        ¬(pairEnvironment web).Generates
          (pairEnvironment other).originalClusterRoleBindingKey := by
    intro web other
    cases web <;> cases other <;>
      exact ⟨not_generates (by decide) (by decide),
        not_generates (by decide) (by decide)⟩
  have bound : ∀ web binding, .binding binding ∈ pairObjects →
      (pairEnvironment web).account ∈ binding.subjects →
        binding = ⟨pairName web ++ "-overprivileged", some "shop",
          pairName web ++ "-role", .role, [⟨pairName web, "shop"⟩], false⟩ := by
    intro web binding member subject
    obtain ⟨bound, rfl⟩ := binding_mem_pairObjects member
    have same : pairName web = pairName bound :=
      congrArg ServiceAccountRef.name (List.mem_singleton.mp subject)
    rw [same]
  constructor
  case created =>
    intro web
    refine ⟨(pairEnvironment web).settings, pairManifest, kindSandbox, ?_, ?_⟩
    · cases web <;> rfl
    · rfl
  case initial =>
    intro web
    refine ⟨?_, ?_, (fresh web web).1, (fresh web web).2⟩
    · intro binding member subject
      rw [bound web binding member subject]
      exact Or.inl rfl
    · intro object member
      exact not_generates (names web object member).1
        (names web object member).2
  case accounts =>
    intro web other different
    cases web <;> cases other <;> simp_all [pairEnvironment, pairName]
  case bindings =>
    intro web other different
    cases web <;> cases other <;> simp_all [pairEnvironment, pairName]
  case fresh => exact fun web other _ => fresh web other
  case references =>
    intro web other _ binding member subject
    rw [bound web binding member subject]
    cases web <;> cases other <;> exact not_generates (by decide) (by decide)

def pairCandidate (web : Bool) : Policy :=
  if web then listPods
  else Policy.build [⟨"", "secrets", "get", some "shop", some "tls", none⟩]
    "db-kuber" "db" "shop"

/-- Any number of adapters make their calls on one cluster, and their commands
end in any way.  Each adapter only makes writes of its own, and neither these
nor its later state depend on the cluster; and in whatever order the single
writes of all adapters reach the cluster, every account is granted afterwards
what it is granted after the calls of its own adapter alone. -/
theorem shared_cluster_isolates [DecidableEq ι]
    {environments : ι → KubernetesEnvironment} {objects : List ParsedObject}
    (apart : Apart environments objects) (calls : ι → List AdapterCall)
    (candidates : ∀ one policy, .apply policy ∈ calls one →
      (environments one).Candidate policy) (outcomes : ι → List Outcome) :
    ∃ writes : ι → List ClusterWrite,
      (∀ one, ∀ write ∈ writes one, (environments one).Own write) ∧
      (∀ one cluster,
        (environments one).afterCalls
            ((environments one).opened cluster (outcomes one)) (calls one) =
          ((environments one).afterCalls ((environments one).opened
            (deployed objects) (outcomes one)) (calls one)).on
              (cluster.afterWrites (writes one))) ∧
      ∀ merged, (∀ one, writesOf one merged = writes one) →
        ∀ one,
          (((deployed objects).afterWrites (merged.map Prod.snd)).policy
              (environments one).account).keys =
            (((environments one).afterCalls ((environments one).opened
              (deployed objects) (outcomes one)) (calls one)).cluster.policy
                (environments one).account).keys := by
  have uniform : ∀ one, ∃ (after : KubernetesState)
      (writes : List ClusterWrite),
      (∀ write ∈ writes, (environments one).Own write) ∧
      ∀ cluster, (environments one).afterCalls
          ((environments one).opened cluster (outcomes one)) (calls one) =
        after.on (cluster.afterWrites writes) := by
    intro one
    exact @afterCalls_uniform (environments one)
      ((environments one).opened (deployed objects) (outcomes one))
      (apart.forAccount one) (calls one) (candidates one)
      (remembers_nil (environments one))
  choose after writes own ends using uniform
  refine ⟨writes, own, fun one cluster => ?_, fun merged split one => ?_⟩
  · rw [ends, ends]
    rfl
  · have owned : ∀ tagged ∈ merged, (environments tagged.1).Own tagged.2 := by
      intro tagged member
      apply own tagged.1
      rw [← split tagged.1]
      exact List.mem_map_of_mem (List.mem_filter.mpr
        ⟨member, decide_eq_true rfl⟩)
    have alike := apart.seenAlike_merged one owned
      (seenAlike_deployed (apart.initial one))
    rw [split one] at alike
    rw [alike.policy_keys, ends]
    rfl

/-- Each of two accounts keeps its own candidate. -/
theorem shared_cluster_isolates_pair :
    ∃ writes : Bool → List ClusterWrite,
      ∀ merged, (∀ web, writesOf web merged = writes web) → ∀ web,
        (((deployed pairObjects).afterWrites (merged.map Prod.snd)).policy
          (pairEnvironment web).account).keys = (pairCandidate web).keys := by
  have candidates : ∀ web policy,
      .apply policy ∈ [AdapterCall.create, .apply (pairCandidate web)] →
        (pairEnvironment web).Candidate policy := by
    intro web policy member
    simp only [List.mem_cons, reduceCtorEq, AdapterCall.apply.injEq,
      List.not_mem_nil, or_false, false_or] at member
    rw [member]
    cases web <;> exact ⟨rfl, rfl, rfl⟩
  obtain ⟨writes, -, -, isolated⟩ :=
    shared_cluster_isolates pairEnvironment_apart
      (fun web => [.create, .apply (pairCandidate web)]) candidates
      (fun _ => [])
  refine ⟨writes, fun merged split web => ?_⟩
  have enforced :
      (((pairEnvironment web).afterCalls
        ((pairEnvironment web).opened (deployed pairObjects) [])
          [.create, .apply (pairCandidate web)]).cluster.policy
            (pairEnvironment web).account).permissions.map Permission.key =
        (pairCandidate web).permissions.map Permission.key := by
    cases web <;> decide +kernel
  exact (isolated merged split web).trans
    (congrArg (fun keys => {key | key ∈ keys}) enforced)

end Family

end KubernetesEnvironment

end Kuber.Runtime

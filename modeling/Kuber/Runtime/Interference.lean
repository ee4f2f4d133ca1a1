import Kuber.Runtime.Enforcement

/-!
# Candidates of different accounts

Generated objects are named after the account and a scope, but not after the
namespace of the account.  Two accounts share an object exactly when they have
the same name and a scope in common.  Applying a candidate moreover deletes the
binding of a configured name, which may be one that is generated for another
account.
-/

namespace Kuber.Runtime

open Kuber.Library Kuber.Rules KubernetesEnvironment

/-- Policies that the reducer and the repair build for an account. -/
inductive BuiltFor (parsed : ParsedRbac) (account : ServiceAccountRef) :
    Policy → Prop where
  | observed {events : List KubeEvent} {candidate : Policy}
      (made : observedOnlyPolicy (resolveEffectivePolicy parsed account)
        events = .ok candidate) : BuiltFor parsed account candidate
  | repaired {candidate repaired : Policy} {missing : List KubeEvent}
      (built : BuiltFor parsed account candidate)
      (made : repairPolicy candidate missing
        (resolveEffectivePolicy parsed account) = .ok repaired) :
      BuiltFor parsed account repaired

theorem BuiltFor.name {parsed : ParsedRbac} {account : ServiceAccountRef}
    {policy : Policy} (built : BuiltFor parsed account policy) :
    policy.name = account.name ++ "-kuber" := by
  induction built with
  | observed made => exact (observedOnlyPolicy_ok made).2.2.2.1
  | repaired _ made induction =>
      simp only [repairPolicy, bind_eq_ok_iff, pure_eq_ok_iff] at made
      obtain ⟨additions, -, rfl⟩ := made
      exact induction

/-- Kind, namespace and name of a document. -/
def documentIdentity (document : Document) : Json × Json × Json :=
  let metadata : Document :=
    match document.field "metadata" with
    | .mapping fields => fields
    | _ => []
  (document.field "kind", Document.field metadata "namespace",
    Document.field metadata "name")

def documentIdentities (policy : Policy) : Set (Json × Json × Json) :=
  {identity | identity ∈ (policyToDocuments policy).map documentIdentity}

def kindText : ObjectKind → String
  | .serviceAccount => "ServiceAccount"
  | .role => "Role"
  | .clusterRole => "ClusterRole"
  | .roleBinding => "RoleBinding"
  | .clusterRoleBinding => "ClusterRoleBinding"

/-- The namespace as a document says it; an empty one is left out. -/
def writtenNamespace (scope : Option String) : Json :=
  Json.ofOptionText (presentText scope).head?

def keyIdentity (key : ObjectKey) : Json × Json × Json :=
  (.string (kindText key.kind), writtenNamespace key.namespace,
    .string key.name)

private theorem documentIdentity_eq {document : Document} {kind name : String}
    {scope : Option String} (kindField : document.field "kind" = .string kind)
    (written : document.field "metadata" = metadataDocument name scope) :
    documentIdentity document =
      (.string kind, writtenNamespace scope, .string name) := by
  obtain ⟨fields, shape, nameField, scopeField⟩ :=
    metadataDocument_fields name scope
  simp only [documentIdentity, kindField, written, shape, nameField,
    scopeField, writtenNamespace]

theorem documentIdentity_roleDocument (policy : Policy)
    (item : Option String × List Permission) :
    documentIdentity (roleDocument policy item) =
      keyIdentity (scopeRoleKey policy.name item.1) := by
  obtain ⟨scope, permissions⟩ := item
  cases scope with
  | none => exact documentIdentity_eq rfl rfl
  | some text => exact documentIdentity_eq rfl rfl

theorem documentIdentity_bindingDocument (policy : Policy)
    (scope : Option String) :
    documentIdentity (bindingDocument policy scope) =
      keyIdentity (scopeBindingKey policy.name scope) := by
  cases scope with
  | none => exact documentIdentity_eq rfl rfl
  | some text => exact documentIdentity_eq rfl rfl

theorem identities_policyToDocuments (policy : Policy) :
    (policyToDocuments policy).map documentIdentity =
      ((generatedObjects policy).map objectKey).map keyIdentity := by
  simp only [policyToDocuments, generatedObjects, List.map_flatMap,
    List.map_cons, List.map_nil, documentIdentity_roleDocument,
    documentIdentity_bindingDocument, objectKey_generatedRole,
    objectKey_generatedBinding]

theorem kindText_inj {left right : ObjectKind} :
    kindText left = kindText right ↔ left = right := by
  cases left <;> cases right <;> simp [kindText]

private theorem NamedFor.namespace_none_iff {name : String} {key : ObjectKey}
    (named : NamedFor name key) : key.namespace = none ↔
      key.kind = .clusterRole ∨ key.kind = .clusterRoleBinding := by
  obtain ⟨scope, rfl | rfl⟩ := named
  · cases scope <;> simp [scopeRoleKey]
  · cases scope <;> simp [scopeBindingKey]

private theorem writtenNamespace_inj {left right : Option String}
    (sameNone : left = none ↔ right = none)
    (same : writtenNamespace left = writtenNamespace right) :
    left = right := by
  cases left with
  | none => exact (sameNone.mp rfl).symm
  | some leftText =>
      cases right with
      | none => exact sameNone.mpr rfl
      | some rightText =>
          by_cases leftEmpty : leftText = "" <;>
            by_cases rightEmpty : rightText = "" <;>
              simp_all [writtenNamespace, presentText, Json.ofOptionText]

/-- Generated keys are told apart by what their documents say. -/
theorem keyIdentity_inj {first second : String} {left right : ObjectKey}
    (leftNamed : NamedFor first left) (rightNamed : NamedFor second right)
    (same : keyIdentity left = keyIdentity right) : left = right := by
  simp only [keyIdentity, Prod.mk.injEq, Json.string.injEq] at same
  obtain ⟨kinds, scopes, names⟩ := same
  have sameKind := kindText_inj.mp kinds
  have sameNone : left.namespace = none ↔ right.namespace = none := by
    rw [leftNamed.namespace_none_iff, rightNamed.namespace_none_iff, sameKind]
  have sameScope := writtenNamespace_inj sameNone scopes
  obtain ⟨leftKind, leftScope, leftName⟩ := left
  cases sameKind
  cases sameScope
  cases names
  rfl

theorem namedFor_of_mem_keys {policy : Policy} {key : ObjectKey}
    (member : key ∈ (generatedObjects policy).map objectKey) :
    NamedFor policy.name key := by
  obtain ⟨object, generated, rfl⟩ := List.mem_map.mp member
  exact namedFor_of_mem_generatedObjects generated

/-- The objects two policies have in common are those of the scopes they have
in common, if they have the same name. -/
theorem mem_both_keys_iff {left right : Policy} :
    (∃ key, key ∈ (generatedObjects left).map objectKey ∧
        key ∈ (generatedObjects right).map objectKey) ↔
      left.name = right.name ∧ ∃ scope, HasScope left scope ∧
        HasScope right scope := by
  constructor
  · intro ⟨key, inLeft, inRight⟩
    obtain ⟨scope, named⟩ := namedFor_of_mem_keys inLeft
    obtain ⟨-, leftScope⟩ := (mem_keys_generatedObjects_iff named).mp inLeft
    obtain ⟨sameName, rightScope⟩ :=
      (mem_keys_generatedObjects_iff named).mp inRight
    exact ⟨sameName.symm, scope, leftScope, rightScope⟩
  · intro ⟨sameName, scope, leftScope, rightScope⟩
    exact ⟨scopeRoleKey left.name scope,
      (mem_keys_generatedObjects_iff (Or.inl rfl)).mpr ⟨rfl, leftScope⟩,
      (mem_keys_generatedObjects_iff (Or.inl rfl)).mpr
        ⟨sameName.symm, rightScope⟩⟩

/-- Documents of two policies are told apart exactly when their objects are
stored under different keys. -/
theorem disjoint_documentIdentities_iff {left right : Policy} :
    Disjoint (documentIdentities left) (documentIdentities right) ↔
      ¬∃ key, key ∈ (generatedObjects left).map objectKey ∧
        key ∈ (generatedObjects right).map objectKey := by
  rw [Set.disjoint_left]
  simp only [documentIdentities, identities_policyToDocuments,
    Set.mem_ofPred_eq]
  constructor
  · intro apart ⟨key, inLeft, inRight⟩
    exact apart (List.mem_map_of_mem inLeft) (List.mem_map_of_mem inRight)
  · intro apart identity inLeft inRight
    obtain ⟨leftKey, leftMember, rfl⟩ := List.mem_map.mp inLeft
    obtain ⟨rightKey, rightMember, same⟩ := List.mem_map.mp inRight
    have sameKey := keyIdentity_inj (namedFor_of_mem_keys rightMember)
      (namedFor_of_mem_keys leftMember) same
    exact apart ⟨leftKey, leftMember, sameKey ▸ rightMember⟩

/-- What the cluster holds of a policy's objects means for an account. -/
def storedPolicy (cluster : Cluster) (policy : Policy)
    (account : ServiceAccountRef) : Policy :=
  resolveEffectivePolicy (ParsedRbac.ofObjects
    (((generatedObjects policy).map objectKey).filterMap cluster.get?)) account

/-- The keys that the adapter deletes with every application of a candidate. -/
def originalKeys (adapter : KubernetesEnvironment) : List ObjectKey :=
  [adapter.originalRoleBindingKey, adapter.originalClusterRoleBindingKey]

/-- The commands by which an adapter applies, repairs or deletes a
candidate. -/
def OnBehalfOf (adapter : KubernetesEnvironment) (policy : Policy)
    (command : KubectlCommand) : Prop :=
  command = .apply (policyInput policy) ∨
    ∃ key ∈ (generatedObjects policy).map objectKey ++ originalKeys adapter,
      command = .delete key

/-- The binding that the adapter deletes is none of a scope of the policy. -/
def Spares (adapter : KubernetesEnvironment) (policy : Policy) : Prop :=
  ∀ scope, HasScope policy scope →
    scope = none ∨ scope = some adapter.settings.namespace →
      adapter.settings.originalBindingName ≠
        policy.name ++ "-" ++ scopeSuffix scope ++ "-binding"

theorem Spares.not_mem {adapter : KubernetesEnvironment} {policy : Policy}
    (spares : Spares adapter policy) {key : ObjectKey}
    (deleted : key ∈ originalKeys adapter) :
    key ∉ (generatedObjects policy).map objectKey := by
  intro member
  simp only [originalKeys, List.mem_cons, List.not_mem_nil, or_false]
    at deleted
  obtain ⟨scope, rfl | rfl⟩ := namedFor_of_mem_keys member
  · rcases deleted with same | same
    · have kinds := congrArg ObjectKey.kind same
      cases scope <;> cases kinds
    · have kinds := congrArg ObjectKey.kind same
      cases scope <;> cases kinds
  · have occurs := ((mem_keys_generatedObjects_iff (Or.inr rfl)).mp member).2
    rcases deleted with same | same
    · exact spares scope occurs (Or.inr (congrArg ObjectKey.namespace same))
        (congrArg ObjectKey.name same).symm
    · exact spares scope occurs (Or.inl (congrArg ObjectKey.namespace same))
        (congrArg ObjectKey.name same).symm

theorem scopeBindingKey_mem_originalKeys {adapter : KubernetesEnvironment}
    {name : String} {scope : Option String}
    (place : scope = none ∨ scope = some adapter.settings.namespace)
    (same : adapter.settings.originalBindingName =
      name ++ "-" ++ scopeSuffix scope ++ "-binding") :
    scopeBindingKey name scope ∈ originalKeys adapter := by
  simp only [originalKeys, List.mem_cons, List.not_mem_nil, or_false]
  rcases place with rfl | rfl
  · right
    rw [originalClusterRoleBindingKey, same]
    rfl
  · left
    rw [originalRoleBindingKey, same]
    rfl

/-- Such a command only touches the objects of its policy, and the bindings of
the configured name. -/
theorem get?_effect_of_not_mem {adapter : KubernetesEnvironment}
    {policy : Policy} {command : KubectlCommand}
    (behalf : OnBehalfOf adapter policy command) {key : ObjectKey}
    (other : key ∉ (generatedObjects policy).map objectKey ++
      originalKeys adapter)
    (landed : ObjectKey → Bool) (cluster : Cluster) :
    (command.effect landed cluster).get? key = cluster.get? key := by
  obtain rfl | ⟨deleted, member, rfl⟩ := behalf
  · cases parsed : parseObjects (policyInput policy) with
    | error error => simp only [KubectlCommand.effect, parsed]
    | ok objects =>
        obtain ⟨rfl, -⟩ := parseObjects_policyToDocuments_iff.mp parsed
        simp only [KubectlCommand.effect, parsed]
        apply Cluster.get?_applyAll_of_not_mem
        intro written
        obtain ⟨object, kept, rfl⟩ := List.mem_map.mp written
        exact other (List.mem_append_left _
          (List.mem_map_of_mem (List.mem_of_mem_filter kept)))
  · simp only [KubectlCommand.effect]
    split
    · rw [Cluster.get?_remove, if_neg fun (same : key = deleted) =>
        other (same ▸ member)]
    · rfl

section

variable {cluster : Cluster} {policy : Policy}

theorem mem_stored_iff {keys : List ObjectKey} {object : ParsedObject} :
    object ∈ keys.filterMap cluster.get? ↔
      objectKey object ∈ keys ∧ cluster.Holds object := by
  rw [List.mem_filterMap]
  constructor
  · intro ⟨key, member, present⟩
    obtain ⟨rfl, holds⟩ := Cluster.get?_eq_some_iff.mp present
    exact ⟨member, holds⟩
  · intro ⟨member, holds⟩
    exact ⟨objectKey object, member, holds⟩

theorem stored_keysNodup {keys : List ObjectKey} (distinct : keys.Nodup) :
    ((keys.filterMap cluster.get?).map objectKey).Nodup := by
  have sublist : ((keys.filterMap cluster.get?).map objectKey).Sublist
      keys := by
    clear distinct
    induction keys with
    | nil => exact .slnil
    | cons key keys induction =>
        cases present : cluster.get? key with
        | none =>
            rw [List.filterMap_cons_none present]
            exact induction.cons key
        | some object =>
            obtain ⟨rfl, -⟩ := Cluster.get?_eq_some_iff.mp present
            rw [List.filterMap_cons_some present, List.map_cons]
            exact induction.cons_cons _
  exact sublist.nodup distinct

theorem exists_storedPolicy_remove {scope : Option String}
    (occurs : HasScope policy scope) (account : ServiceAccountRef) :
    ∃ cluster : Cluster,
      storedPolicy (cluster.remove (scopeBindingKey policy.name scope)) policy
        account ≠ storedPolicy cluster policy account := by
  let role : RoleObject := { generatedRole policy (scope, []) with
    rules := [⟨["*"], ["*"], ["*"], []⟩] }
  let binding : BindingObject := { generatedBinding policy scope with
    subjects := [account] }
  have roleKey : objectKey (.role role) = scopeRoleKey policy.name scope :=
    objectKey_generatedRole (scope, [])
  have bindingKey : objectKey (.binding binding) =
      scopeBindingKey policy.name scope := objectKey_generatedBinding scope
  have reference : referencedKey binding = scopeRoleKey policy.name scope :=
    referencedKey_generatedBinding scope
  have distinct : ([.role role, .binding binding].map objectKey).Nodup := by
    simp [roleKey, bindingKey, scopeRoleKey_ne_scopeBindingKey]
  have written (object : ParsedObject)
      (member : object ∈ [.role role, .binding binding]) :
      (Cluster.empty.applyAll [.role role, .binding binding]).Holds object :=
    Cluster.holds_applyAll_of_mem distinct member
  have keys := generatedObjects_keysNodup policy
  refine ⟨Cluster.empty.applyAll [.role role, .binding binding], ?_⟩
  intro same
  have granted : ("*", "*", "*", scope, none) ∈ (storedPolicy
      (Cluster.empty.applyAll [.role role, .binding binding]) policy
        account).keys := by
    rw [storedPolicy, mem_keys_resolve_objects_iff (stored_keysNodup keys)]
    refine ⟨binding, mem_stored_iff.mpr ⟨?_, written _ (by simp)⟩,
      List.mem_singleton_self account, role,
      ⟨mem_stored_iff.mpr ⟨?_, written _ (by simp)⟩,
        roleKey.trans reference.symm⟩,
      _, List.mem_singleton_self _, ?_⟩
    · rw [bindingKey]
      exact (mem_keys_generatedObjects_iff (Or.inr rfl)).mpr ⟨rfl, occurs⟩
    · rw [roleKey]
      exact (mem_keys_generatedObjects_iff (Or.inl rfl)).mpr ⟨rfl, occurs⟩
    · have located : bindingScope binding = scope :=
        bindingScope_generatedBinding policy scope
      rw [located]
      simp [RuleGrants, ruleNames]
  rw [← same, storedPolicy,
    mem_keys_resolve_objects_iff (stored_keysNodup keys)] at granted
  obtain ⟨other, member, -⟩ := granted
  obtain ⟨different, before⟩ :=
    Cluster.holds_remove_iff.mp (mem_stored_iff.mp member).2
  rcases Cluster.holds_of_holds_applyAll before with among | nothing
  · simp only [List.mem_cons, reduceCtorEq, ParsedObject.binding.injEq,
      List.not_mem_nil, or_false, false_or] at among
    rw [among] at different
    exact different bindingKey
  · cases nothing

end

/-- The documents of two accounts are disjoint, and the commands of the one
account's adapter do not change what the other's documents mean, exactly when
the accounts have different names or their policies have no scope in common,
and the binding that the adapter deletes is not a generated one. -/
theorem accounts_do_not_interfere_iff {leftRbac rightRbac : ParsedRbac}
    {adapter : KubernetesEnvironment} {right : ServiceAccountRef}
    {leftPolicy rightPolicy : Policy}
    (leftBuilt : BuiltFor leftRbac adapter.account leftPolicy)
    (rightBuilt : BuiltFor rightRbac right rightPolicy) :
    (Disjoint (documentIdentities leftPolicy)
        (documentIdentities rightPolicy) ∧
      ∀ command, OnBehalfOf adapter leftPolicy command → ∀ landed cluster,
        storedPolicy (command.effect landed cluster) rightPolicy right =
          storedPolicy cluster rightPolicy right) ↔
      (adapter.account.name ≠ right.name ∨
        ∀ scope, ¬(HasScope leftPolicy scope ∧ HasScope rightPolicy scope)) ∧
      Spares adapter rightPolicy := by
  have sameName_iff : leftPolicy.name = rightPolicy.name ↔
      adapter.account.name = right.name := by
    rw [leftBuilt.name, rightBuilt.name, String.append_left_inj]
  rw [disjoint_documentIdentities_iff, mem_both_keys_iff, sameName_iff]
  constructor
  · intro ⟨apart, keeps⟩
    constructor
    · by_cases sameName : adapter.account.name = right.name
      · exact Or.inr fun scope both => apart ⟨sameName, scope, both⟩
      · exact Or.inl sameName
    · intro scope occurs place same
      obtain ⟨cluster, changes⟩ := exists_storedPolicy_remove occurs right
      have deleted := scopeBindingKey_mem_originalKeys place same
      exact changes (keeps _ (Or.inr ⟨_, List.mem_append_right _ deleted,
        rfl⟩) (fun _ => true) cluster)
  · intro ⟨separate, spares⟩
    have apart : ¬(adapter.account.name = right.name ∧ ∃ scope,
        HasScope leftPolicy scope ∧ HasScope rightPolicy scope) := by
      intro ⟨sameName, scope, both⟩
      rcases separate with different | disjoint
      · exact different sameName
      · exact disjoint scope both
    refine ⟨apart, ?_⟩
    intro command behalf landed cluster
    have unchanged : ((generatedObjects rightPolicy).map objectKey).filterMap
        (command.effect landed cluster).get? =
        ((generatedObjects rightPolicy).map objectKey).filterMap
          cluster.get? := by
      apply List.filterMap_congr
      intro key inRight
      apply get?_effect_of_not_mem behalf
      intro touched
      rcases List.mem_append.mp touched with inLeft | deleted
      · have shared := mem_both_keys_iff.mp ⟨key, inLeft, inRight⟩
        exact apart ⟨sameName_iff.mp shared.1, shared.2⟩
      · exact spares.not_mem deleted inRight
    rw [storedPolicy, unchanged, storedPolicy]

/-- Accounts of one name in two namespaces, with cluster-wide grants. -/
def sharedManifest : List Json :=
  [.mapping [("kind", .string "ClusterRole"),
    ("metadata", .mapping [("name", .string "wide")]),
    ("rules", .list [.mapping [("apiGroups", .list [.string "*"]),
      ("resources", .list [.string "*"]),
      ("verbs", .list [.string "*"])]])],
  .mapping [("kind", .string "ClusterRoleBinding"),
    ("metadata", .mapping [("name", .string "overprivileged")]),
    ("roleRef", .mapping [
      ("apiGroup", .string "rbac.authorization.k8s.io"),
      ("kind", .string "ClusterRole"), ("name", .string "wide")]),
    ("subjects", .list [
      .mapping [("kind", .string "ServiceAccount"),
        ("name", .string "web"), ("namespace", .string "shop")],
      .mapping [("kind", .string "ServiceAccount"),
        ("name", .string "web"), ("namespace", .string "bank")]])]]

def shopAccount : ServiceAccountRef := ⟨"web", "shop"⟩

def bankAccount : ServiceAccountRef := ⟨"web", "bank"⟩

def sharedRbac : ParsedRbac where
  roles := [⟨"wide", none, [⟨["*"], ["*"], ["*"], []⟩], true⟩]
  bindings := [⟨"overprivileged", none, "wide", .clusterRole,
    [shopAccount, bankAccount], true⟩]

def shopCandidate : Policy :=
  Policy.build [⟨"", "pods", "get", none, none, some "Kuber/verified"⟩]
    "web-kuber" "web" "shop"

def bankCandidate : Policy :=
  Policy.build [⟨"", "pods", "list", none, none, some "Kuber/verified"⟩]
    "web-kuber" "web" "bank"

theorem shopCandidate_built :
    BuiltFor sharedRbac shopAccount shopCandidate :=
  @BuiltFor.observed _ _ [⟨"", "pods", "get", none, none, none⟩] _ rfl

theorem bankCandidate_built :
    BuiltFor sharedRbac bankAccount bankCandidate :=
  @BuiltFor.observed _ _ [⟨"", "pods", "list", none, none, none⟩] _ rfl

/-- The cluster after the candidate of the bank was applied. -/
def bankCluster : Cluster :=
  (deployed []).applyAll (generatedObjects bankCandidate)

/-- Two accounts that differ only in their namespace write the same objects:
applying one candidate revokes what the other has. -/
theorem same_name_accounts_interfere :
    shopAccount ≠ bankAccount ∧
    parseRbac sharedManifest = .ok sharedRbac ∧
    BuiltFor sharedRbac shopAccount shopCandidate ∧
    BuiltFor sharedRbac bankAccount bankCandidate ∧
    ¬Disjoint (documentIdentities shopCandidate)
      (documentIdentities bankCandidate) ∧
    (storedPolicy bankCluster bankCandidate bankAccount).permissions.length =
      1 ∧
    (storedPolicy ((KubectlCommand.apply (policyInput shopCandidate)).effect
        (fun _ => true) bankCluster) bankCandidate
          bankAccount).permissions.length = 0 := by
  refine ⟨by decide, rfl, shopCandidate_built, bankCandidate_built, ?_, rfl,
    rfl⟩
  rw [disjoint_documentIdentities_iff, not_not, mem_both_keys_iff]
  exact ⟨rfl, none, ⟨_, List.mem_singleton_self _, rfl⟩,
    ⟨_, List.mem_singleton_self _, rfl⟩⟩

def scopedCandidate : Policy :=
  Policy.build [⟨"", "pods", "list", some "bank", none,
    some "Kuber/verified"⟩] "web-kuber" "web" "bank"

/-- Candidates in different scopes do not meet, whatever their names. -/
theorem accounts_do_not_interfere_iff_scoped :
    Disjoint (documentIdentities shopCandidate)
        (documentIdentities scopedCandidate) ∧
      ∀ command, OnBehalfOf shopEnvironment shopCandidate command →
        ∀ landed cluster,
          storedPolicy (command.effect landed cluster) scopedCandidate
              bankAccount =
            storedPolicy cluster scopedCandidate bankAccount := by
  have ofBank : ∀ scope, HasScope scopedCandidate scope →
      scope = some "bank" := by
    intro scope ⟨permission, member, located⟩
    rw [List.mem_singleton.mp member] at located
    exact located.symm
  apply (@accounts_do_not_interfere_iff _ _ shopEnvironment _ _ _
    shopCandidate_built (@BuiltFor.observed sharedRbac _
      [⟨"", "pods", "list", some "bank", none, none⟩] _ rfl)).mpr
  constructor
  · right
    intro scope ⟨⟨shop, shopMember, shopScope⟩, inBank⟩
    rw [List.mem_singleton.mp shopMember, ofBank scope inBank] at shopScope
    cases shopScope
  · intro scope inBank place
    rw [ofBank scope inBank] at place
    rcases place with place | place
    · cases place
    · exact absurd place (by decide)

end Kuber.Runtime

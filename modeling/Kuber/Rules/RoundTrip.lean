import Kuber.Rules.Generator
import Kuber.Rules.Resolver
import Kuber.Rules.WellFormed

/-!
# Generating, parsing and resolving

The documents of a policy parse exactly when the policy is expressible, and
then to one explicit manifest; resolving that manifest returns the keys of the
policy.
-/

namespace Kuber.Rules

open Kuber.Library

/-- The groups of `_rules`: an occurring rule key with its verbs. -/
theorem mem_groupedRules_iff {permissions : List Permission} {key : RuleKey}
    {verbs : List String} :
    (key, verbs) ∈ groupedRules permissions ↔
      (∃ permission ∈ permissions, ruleKey permission = key) ∧
        verbs = (permissions.filter
          (fun permission => decide (ruleKey permission = key))).foldl
            (fun verbs permission => verbs.insert permission.verb) [] := by
  rw [groupedRules, mem_sortBy, OrderedDict.mem_entries_groupFold]

private theorem mem_foldl_insert {permissions : List Permission}
    {initial : List String} {verb : String} :
    verb ∈ permissions.foldl
        (fun verbs permission => verbs.insert permission.verb) initial ↔
      verb ∈ initial ∨ ∃ permission ∈ permissions, permission.verb = verb := by
  induction permissions generalizing initial with
  | nil => simp
  | cons permission permissions induction =>
      rw [List.foldl_cons, induction, List.mem_insert_iff]
      simp only [List.exists_mem_cons_iff]
      tauto

theorem mem_verbs_iff {permissions : List Permission} {key : RuleKey}
    {verbs : List String} (group : (key, verbs) ∈ groupedRules permissions)
    {verb : String} :
    verb ∈ verbs ↔ ∃ permission ∈ permissions,
      ruleKey permission = key ∧ permission.verb = verb := by
  obtain ⟨-, rfl⟩ := mem_groupedRules_iff.mp group
  rw [mem_foldl_insert]
  simp [and_assoc]

theorem exists_group {permissions : List Permission} {permission : Permission}
    (member : permission ∈ permissions) :
    ∃ verbs, (ruleKey permission, verbs) ∈ groupedRules permissions ∧
      permission.verb ∈ verbs := by
  have group := mem_groupedRules_iff.mpr
    ⟨⟨permission, member, rfl⟩, Eq.refl _⟩
  exact ⟨_, group, (mem_verbs_iff group).mpr ⟨permission, member, rfl, rfl⟩⟩

theorem verbs_ne_nil {permissions : List Permission}
    {item : RuleKey × List String} (group : item ∈ groupedRules permissions) :
    item.2 ≠ [] := by
  obtain ⟨key, verbs⟩ := item
  obtain ⟨permission, member, sameKey⟩ := (mem_groupedRules_iff.mp group).1
  have verbMember := (mem_verbs_iff group).mpr
    ⟨permission, member, sameKey, rfl⟩
  exact List.ne_nil_of_mem verbMember

/-- The groups of `policy_to_documents`: an occurring scope with its
permissions. -/
theorem mem_groupedScopes_iff {policy : Policy} {scope : Option String}
    {permissions : List Permission} :
    (scope, permissions) ∈ groupedScopes policy ↔
      (∃ permission ∈ policy.permissions, permission.namespace = scope) ∧
        permissions = policy.permissions.filter
          (fun permission => decide (permission.namespace = scope)) := by
  rw [groupedScopes, mem_sortBy, OrderedDict.mem_entries_groupFold,
    List.foldl_append_eq_append, ← List.flatMap_def, List.flatMap_singleton',
    List.nil_append]

/-- A rule the parser reads back. -/
def generatedRule (item : RuleKey × List String) : PolicyRule :=
  ⟨[item.1.1], [item.1.2.1], sortBy id item.2, presentText item.1.2.2⟩

def generatedRole (policy : Policy)
    (item : Option String × List Permission) : RoleObject :=
  ⟨generatedRoleName policy item.1, item.1,
    (groupedRules item.2).map generatedRule, decide (item.1 = none)⟩

/-- A subject without a namespace is read in the namespace of its binding. -/
def generatedSubject (policy : Policy) (scope : Option String) :
    ServiceAccountRef :=
  ⟨policy.serviceAccount,
    orElse policy.serviceAccountNamespace (scope.getD "")⟩

def generatedBinding (policy : Policy) (scope : Option String) :
    BindingObject :=
  ⟨generatedBindingName policy scope, scope, generatedRoleName policy scope,
    generatedRoleKind scope, [generatedSubject policy scope],
    decide (scope = none)⟩

/-- The manifest that the documents of a policy are parsed to. -/
def generatedRbac (policy : Policy) : ParsedRbac where
  roles := (groupedScopes policy).map (generatedRole policy)
  bindings := (groupedScopes policy).map fun item =>
    generatedBinding policy item.1

/-- What the parser demands of one permission of a generated manifest. -/
structure Permission.Writable (permission : Permission) : Prop where
  resource :
    isSupportedResource permission.apiGroup permission.resource = true
  verb : permission.verb = "*" ∨ permission.verb ∈ supportedVerbs
  scope : permission.namespace ≠ some ""

/-- What the parser demands of the account in one scope. -/
def Addressed (policy : Policy) (scope : Option String) : Prop :=
  policy.serviceAccount ≠ "" ∧ (generatedSubject policy scope).namespace ≠ ""

/-- A policy whose documents the parser accepts. -/
def Policy.Writable (policy : Policy) : Prop :=
  ∀ permission ∈ policy.permissions,
    permission.Writable ∧ Addressed policy permission.namespace

private theorem mapM_asText? (texts : List String) :
    (texts.map Json.string).mapM Json.asText? = some texts := by
  induction texts with
  | nil => rfl
  | cons text texts induction => simp [induction, Json.asText?]

private theorem parseStrings_texts_iff {texts : List String} {field : String}
    {allowEmpty : Bool} {result : List String} :
    parseStrings (.list (texts.map .string)) field allowEmpty = .ok result ↔
      result = texts ∧ texts ≠ [] ∧ (allowEmpty = false → "" ∉ texts) := by
  cases texts with
  | nil => simp [parseStrings, parseError]
  | cons text texts =>
      have read := mapM_asText? (text :: texts)
      rw [List.map_cons] at read
      simp only [parseStrings, List.map_cons, read]
      by_cases refused : allowEmpty = false ∧ "" ∈ text :: texts
      · simp only [if_pos refused, parseError, reduceCtorEq, false_iff]
        tauto
      · simp only [if_neg refused, Except.ok.injEq, ne_eq, reduceCtorEq,
          not_false_eq_true, true_and]
        constructor
        · rintro rfl
          exact ⟨rfl, by tauto⟩
        · rintro ⟨rfl, -⟩
          rfl

private theorem parseResourceNames_texts_iff {texts result : List String} :
    parseResourceNames (.list (texts.map .string)) = .ok result ↔
      result = texts ∧ "" ∉ texts := by
  simp only [parseResourceNames, mapM_asText?]
  by_cases refused : "" ∈ texts
  · simp [refused, parseError]
  · simp [refused, eq_comm]

private theorem presentText_cases (text : Option String) :
    (presentText text = [] ∧ (text = none ∨ text = some "")) ∨
      ∃ present, present ≠ "" ∧ text = some present ∧
        presentText text = [present] := by
  cases text with
  | none => exact Or.inl ⟨rfl, Or.inl rfl⟩
  | some present =>
      by_cases empty : present = ""
      · subst empty
        exact Or.inl ⟨rfl, Or.inr rfl⟩
      · exact Or.inr ⟨present, empty, rfl, by simp [presentText, empty]⟩

private theorem ruleDocument_fields (item : RuleKey × List String) :
    ∃ fields, ruleDocument item = .mapping fields ∧
      Document.fieldD fields "apiGroups" (.list [.string ""]) =
        .list ([item.1.1].map .string) ∧
      Document.field fields "resources" = .list ([item.1.2.1].map .string) ∧
      Document.field fields "verbs" =
        .list ((sortBy id item.2).map .string) ∧
      Document.fieldD fields "resourceNames" (.list []) =
        .list ((presentText item.1.2.2).map .string) := by
  refine ⟨_, rfl, rfl, rfl, rfl, ?_⟩
  rcases presentText_cases item.1.2.2 with ⟨absent, -⟩ | ⟨name, -, -, present⟩
  · rw [absent]
    rfl
  · rw [present]
    rfl

/-- What the parser demands of one generated rule. -/
structure Readable (item : RuleKey × List String) : Prop where
  resource : isSupportedResource item.1.1 item.1.2.1 = true
  verbs : ∀ verb ∈ item.2, verb = "*" ∨ verb ∈ supportedVerbs

theorem parseRule_ruleDocument_iff {item : RuleKey × List String}
    {rule : PolicyRule} (nonempty : item.2 ≠ []) :
    parseRule (ruleDocument item) = .ok rule ↔
      rule = generatedRule item ∧ Readable item := by
  obtain ⟨fields, written, groups, resources, verbs, names⟩ :=
    ruleDocument_fields item
  rw [written]
  simp only [parseRule, bind_eq_ok_iff, pure_eq_ok_iff, groups, resources,
    verbs, names, parseStrings_texts_iff, parseResourceNames_texts_iff]
  constructor
  · rintro ⟨_, ⟨rfl, -, -⟩, _, ⟨rfl, -, -⟩, _, ⟨rfl, -, -⟩, _, ⟨rfl, -⟩,
      ⟨⟩, verbsOk, ⟨⟩, resourcesOk, rfl⟩
    refine ⟨rfl, ?_, ?_⟩
    · exact checkResources_ok resourcesOk (item.1.1, item.1.2.1) (by simp)
    · intro verb member
      exact checkVerbs_ok verbsOk verb (mem_sortBy.mpr member)
  · rintro ⟨rfl, supported, known⟩
    have sortedKnown : ∀ verb ∈ sortBy id item.2,
        verb = "*" ∨ verb ∈ supportedVerbs := by
      intro verb member
      exact known verb (mem_sortBy.mp member)
    have sortedNonempty : sortBy id item.2 ≠ [] := by
      intro empty
      have length := (sortBy_perm id item.2).length_eq
      simp only [empty, List.length_nil] at length
      exact nonempty (List.length_eq_zero_iff.mp length.symm)
    have noEmptyVerb : "" ∉ sortBy id item.2 := by
      intro member
      exact supportedVerb_ne_empty (sortedKnown "" member) rfl
    have noEmptyResource : "" ∉ [item.1.2.1] := by
      simpa using (supportedResource_ne_empty supported).symm
    have noEmptyName : "" ∉ presentText item.1.2.2 := by simp [presentText]
    refine ⟨_, ⟨rfl, by simp⟩, _, ⟨rfl, by simp, fun _ => noEmptyResource⟩, _,
      ⟨rfl, sortedNonempty, fun _ => noEmptyVerb⟩, _, ⟨rfl, noEmptyName⟩,
      (), checkVerbs_accepts sortedKnown, (), ?_, rfl⟩
    exact checkResources_accepts (by simpa using supported)

/-- The rules of one scope are read back as they were grouped. -/
theorem parseRules_generateRules_iff {permissions : List Permission}
    {rules : List PolicyRule} :
    parseRules (.list (generateRules permissions)) = .ok rules ↔
      rules = (groupedRules permissions).map generatedRule ∧
        ∀ item ∈ groupedRules permissions, Readable item := by
  have each : ∀ item ∈ groupedRules permissions, ∀ result,
      [ruleDocument item].mapM parseRule = .ok result ↔
        result = [generatedRule item] ∧ Readable item := by
    intro item member result
    simp only [List.mapM_cons, List.mapM_nil, bind_eq_ok_iff, pure_eq_ok_iff,
      parseRule_ruleDocument_iff (verbs_ne_nil member)]
    constructor
    · rintro ⟨_, ⟨rfl, readable⟩, _, rfl, rfl⟩
      exact ⟨rfl, readable⟩
    · rintro ⟨rfl, readable⟩
      exact ⟨_, ⟨rfl, readable⟩, _, rfl, rfl⟩
  have whole : ((groupedRules permissions).flatMap
      fun item => [ruleDocument item]).mapM parseRule = .ok rules ↔ _ :=
    mapM_flatMap_eq_ok_iff each
  simp only [← List.map_eq_flatMap] at whole
  exact whole

theorem metadataDocument_fields (name : String)
    (scope : Option String) :
    ∃ fields, metadataDocument name scope = .mapping fields ∧
      Document.field fields "name" = .string name ∧
      Document.field fields "namespace" =
        Json.ofOptionText (presentText scope).head? := by
  refine ⟨_, rfl, rfl, ?_⟩
  rcases presentText_cases scope with ⟨absent, -⟩ | ⟨text, -, -, present⟩
  · rw [absent]
    rfl
  · rw [present]
    rfl

private theorem parseMetadata_ok {document : Document} {name : String}
    {scope : Option String}
    (written : document.field "metadata" = metadataDocument name scope)
    (nonempty : name ≠ "") :
    parseMetadata document = .ok (name, (presentText scope).head?) := by
  obtain ⟨fields, shape, nameField, scopeField⟩ :=
    metadataDocument_fields name scope
  simp only [parseMetadata, written, shape, nameField, if_neg nonempty,
    scopeField]
  cases (presentText scope).head? with
  | none => rfl
  | some text => rfl

theorem generatedRoleName_ne_empty (policy : Policy)
    (scope : Option String) : generatedRoleName policy scope ≠ "" := by
  simp [generatedRoleName]

theorem generatedBindingName_ne_empty (policy : Policy)
    (scope : Option String) : generatedBindingName policy scope ≠ "" := by
  simp [generatedBindingName]

private theorem parseObject_role {document : Document} {name : String}
    {scope : Option String} (cluster : Bool)
    (kind : parseKind document =
      .ok (if cluster then .clusterRole else .role))
    (metadata : parseMetadata document = .ok (name, scope)) :
    parseObject document = parseRoleObject document name scope cluster := by
  unfold parseObject
  rw [kind, metadata]
  cases cluster <;> rfl

private theorem parseObject_binding {document : Document} {name : String}
    {scope : Option String} (cluster : Bool)
    (kind : parseKind document =
      .ok (if cluster then .clusterRoleBinding else .roleBinding))
    (metadata : parseMetadata document = .ok (name, scope)) :
    parseObject document = parseBindingObject document name scope cluster := by
  unfold parseObject
  rw [kind, metadata]
  cases cluster <;> rfl

/-- The written scope passes the parser's check unless it is the empty
namespace, and is then read back unchanged. -/
private theorem writtenScope_iff {kind : String} {scope : Option String} :
    checkScope kind (presentText scope).head? (decide (scope = none)) =
        .ok () ↔ scope ≠ some "" := by
  rw [checkScope_eq_ok_iff]
  rcases presentText_cases scope with
    ⟨absent, rfl | rfl⟩ | ⟨text, nonempty, rfl, present⟩
  · simp
  · simp [absent]
  · simp [present, nonempty]

private theorem readScope_eq {scope : Option String}
    (writable : scope ≠ some "") :
    (if decide (scope = none) then none else (presentText scope).head?) =
      scope := by
  rcases presentText_cases scope with
    ⟨absent, rfl | rfl⟩ | ⟨text, nonempty, rfl, present⟩
  · rfl
  · exact absurd rfl writable
  · simp [present]

theorem parseObject_roleDocument_iff {policy : Policy}
    {item : Option String × List Permission} {object : ParsedObject} :
    parseObject (roleDocument policy item) = .ok object ↔
      object = .role (generatedRole policy item) ∧ item.1 ≠ some "" ∧
        ∀ group ∈ groupedRules item.2, Readable group := by
  obtain ⟨scope, permissions⟩ := item
  have metadata : parseMetadata (roleDocument policy (scope, permissions)) =
      .ok (generatedRoleName policy scope, (presentText scope).head?) :=
    parseMetadata_ok rfl (generatedRoleName_ne_empty policy scope)
  have kind : parseKind (roleDocument policy (scope, permissions)) =
      .ok (if decide (scope = none) then .clusterRole else .role) := by
    cases scope <;> rfl
  have rulesField : Document.fieldD (roleDocument policy (scope, permissions))
      "rules" (.list []) = .list (generateRules permissions) := rfl
  rw [parseObject_role _ kind metadata]
  simp only [parseRoleObject, rulesField, bind_eq_ok_iff, pure_eq_ok_iff,
    parseRules_generateRules_iff]
  constructor
  · rintro ⟨_, located, _, ⟨rfl, readable⟩, rfl⟩
    have writable := writtenScope_iff.mp located
    refine ⟨?_, writable, readable⟩
    rw [readScope_eq writable]
    rfl
  · rintro ⟨rfl, writable, readable⟩
    refine ⟨(), writtenScope_iff.mpr writable, _, ⟨rfl, readable⟩, ?_⟩
    rw [readScope_eq writable]
    rfl

private theorem parseRoleRef_bindingDocument (policy : Policy)
    (scope : Option String) :
    parseRoleRef (bindingDocument policy scope) =
      .ok (generatedRoleKind scope, generatedRoleName policy scope) := by
  have nonempty := generatedRoleName_ne_empty policy scope
  cases scope with
  | none =>
      change (if generatedRoleName policy none = "" then invalidRoleRef
        else .ok (RoleKind.clusterRole, generatedRoleName policy none)) = _
      rw [if_neg nonempty]
      rfl
  | some text =>
      change (if generatedRoleName policy (some text) = "" then invalidRoleRef
        else .ok (RoleKind.role, generatedRoleName policy (some text))) = _
      rw [if_neg nonempty]
      rfl

private theorem parseSubject_generated_iff {policy : Policy}
    {scope : Option String} {result : Option ServiceAccountRef} :
    parseSubject (presentText scope).head? (.mapping [
        ("kind", .string "ServiceAccount"),
        ("name", .string policy.serviceAccount),
        ("namespace", .string policy.serviceAccountNamespace)]) = .ok result ↔
      result = some (generatedSubject policy scope) ∧
        Addressed policy scope := by
  have kindField : (Json.string "ServiceAccount").isText "ServiceAccount" =
      true := rfl
  simp only [parseSubject, Document.field, List.lookup_cons, String.reduceBEq,
    Option.getD_some, kindField, Addressed, generatedSubject, orElse]
  by_cases declared : policy.serviceAccountNamespace = ""
  · rcases presentText_cases scope with
      ⟨absent, rfl | rfl⟩ | ⟨text, nonempty, rfl, present⟩
    · simp [declared, absent, Json.truthy, Json.ofOptionText, parseError]
    · simp [declared, absent, Json.truthy, Json.ofOptionText, parseError]
    · by_cases unnamed : policy.serviceAccount = ""
      · simp [declared, present, nonempty, unnamed, Json.truthy,
          Json.ofOptionText, parseError]
      · simp [declared, present, nonempty, unnamed, Json.truthy,
          Json.ofOptionText, eq_comm]
  · by_cases unnamed : policy.serviceAccount = ""
    · simp [declared, unnamed, Json.truthy, parseError]
    · simp [declared, unnamed, Json.truthy, eq_comm]

private theorem parseSubjects_bindingDocument_iff {policy : Policy}
    {scope : Option String} {subjects : List ServiceAccountRef} :
    parseSubjects (presentText scope).head?
        (Document.fieldD (bindingDocument policy scope) "subjects"
          (.list [])) = .ok subjects ↔
      subjects = [generatedSubject policy scope] ∧ Addressed policy scope := by
  change (do
    let parsed ← [Json.mapping [
        ("kind", .string "ServiceAccount"),
        ("name", .string policy.serviceAccount),
        ("namespace", .string policy.serviceAccountNamespace)]].mapM
      (parseSubject (presentText scope).head?)
    return parsed.filterMap id) = .ok subjects ↔ _
  simp only [List.mapM_cons, List.mapM_nil, bind_eq_ok_iff, pure_eq_ok_iff,
    parseSubject_generated_iff]
  constructor
  · rintro ⟨_, ⟨_, ⟨rfl, addressed⟩, _, rfl, rfl⟩, rfl⟩
    exact ⟨rfl, addressed⟩
  · rintro ⟨rfl, addressed⟩
    exact ⟨_, ⟨_, ⟨rfl, addressed⟩, _, rfl, rfl⟩, rfl⟩

theorem parseObject_bindingDocument_iff {policy : Policy}
    {scope : Option String} {object : ParsedObject} :
    parseObject (bindingDocument policy scope) = .ok object ↔
      object = .binding (generatedBinding policy scope) ∧
        scope ≠ some "" ∧ Addressed policy scope := by
  have metadata : parseMetadata (bindingDocument policy scope) =
      .ok (generatedBindingName policy scope, (presentText scope).head?) :=
    parseMetadata_ok rfl (generatedBindingName_ne_empty policy scope)
  have kind : parseKind (bindingDocument policy scope) =
      .ok (if decide (scope = none) then .clusterRoleBinding
        else .roleBinding) := by
    cases scope <;> rfl
  have kindAllowed : checkRoleKind (generatedRoleKind scope)
      (decide (scope = none)) = .ok () := by
    rw [checkRoleKind_eq_ok_iff]
    intro cluster
    exact if_pos (of_decide_eq_true cluster)
  rw [parseObject_binding _ kind metadata]
  simp only [parseBindingObject, bind_eq_ok_iff, pure_eq_ok_iff,
    parseRoleRef_bindingDocument]
  constructor
  · rintro ⟨_, located, ⟨_, _⟩, ⟨⟩, _, -, _, subjectsOk, rfl⟩
    have writable := writtenScope_iff.mp located
    obtain ⟨rfl, addressed⟩ :=
      parseSubjects_bindingDocument_iff.mp subjectsOk
    refine ⟨?_, writable, addressed⟩
    rw [readScope_eq writable]
    rfl
  · rintro ⟨rfl, writable, addressed⟩
    refine ⟨(), writtenScope_iff.mpr writable, _, rfl, (), kindAllowed, _,
      parseSubjects_bindingDocument_iff.mpr ⟨rfl, addressed⟩, ?_⟩
    rw [readScope_eq writable]
    rfl

theorem flattenDocuments_eq {documents : List Document}
    (plain : ∀ document ∈ documents,
      (document.field "kind").isText "List" = false) :
    flattenDocuments (documents.map .mapping) = .ok documents := by
  induction documents with
  | nil => rfl
  | cons document documents induction =>
      have first : flattenDocument (.mapping document) = .ok [document] := by
        simp [flattenDocument, plain document List.mem_cons_self]
      have others := induction fun other member =>
        plain other (List.mem_cons_of_mem _ member)
      simp only [List.map_cons, flattenDocuments, first, others]
      rfl

private theorem policyToDocuments_plain (policy : Policy) :
    ∀ document ∈ policyToDocuments policy,
      (document.field "kind").isText "List" = false := by
  intro document member
  obtain ⟨⟨scope, permissions⟩, -, generated⟩ := List.mem_flatMap.mp member
  rcases List.mem_pair.mp generated with rfl | rfl
  · cases scope <;> rfl
  · cases scope <;> rfl

private theorem roles_ofObjects_pairs {α : Type} (items : List α)
    (role : α → RoleObject) (binding : α → BindingObject) :
    ParsedRbac.ofObjects (items.flatMap fun item =>
        [.role (role item), .binding (binding item)]) =
      { roles := items.map role, bindings := items.map binding } := by
  simp only [ParsedRbac.ofObjects, ParsedRbac.mk.injEq]
  induction items with
  | nil => exact ⟨rfl, rfl, rfl⟩
  | cons item items induction =>
      obtain ⟨accounts, roles, bindings⟩ := induction
      refine ⟨?_, ?_, ?_⟩
      · simpa using accounts
      · simpa using roles
      · simpa using bindings

private theorem scopes_readable_iff {policy : Policy} :
    (∀ item ∈ groupedScopes policy,
        (item.1 ≠ some "" ∧ ∀ group ∈ groupedRules item.2, Readable group) ∧
          item.1 ≠ some "" ∧ Addressed policy item.1) ↔
      policy.Writable := by
  constructor
  · intro readable permission member
    have scopeMember := mem_groupedScopes_iff.mpr
      ⟨⟨permission, member, rfl⟩, Eq.refl _⟩
    obtain ⟨⟨scope, rules⟩, -, addressed⟩ := readable _ scopeMember
    have inScope : permission ∈ policy.permissions.filter (fun other =>
        decide (other.namespace = permission.namespace)) := by
      simp [member]
    obtain ⟨verbs, group, verb⟩ := exists_group inScope
    have rule := rules _ group
    exact ⟨⟨rule.resource, rule.verbs _ verb, scope⟩, addressed⟩
  · rintro writable ⟨scope, permissions⟩ scopeMember
    obtain ⟨⟨permission, member, rfl⟩, rfl⟩ :=
      mem_groupedScopes_iff.mp scopeMember
    have inScope := (writable permission member).1.scope
    refine ⟨⟨inScope, ?_⟩, inScope, (writable permission member).2⟩
    rintro ⟨key, verbs⟩ group
    constructor
    · obtain ⟨grouped, groupedMember, rfl⟩ :=
        (mem_groupedRules_iff.mp group).1
      exact (writable grouped (List.mem_of_mem_filter groupedMember)).1.resource
    · intro verb verbMember
      obtain ⟨grouped, groupedMember, -, rfl⟩ :=
        (mem_verbs_iff group).mp verbMember
      exact (writable grouped (List.mem_of_mem_filter groupedMember)).1.verb

/-- The objects that the documents of a policy are parsed to. -/
def generatedObjects (policy : Policy) : List ParsedObject :=
  (groupedScopes policy).flatMap fun item =>
    [.role (generatedRole policy item),
      .binding (generatedBinding policy item.1)]

/-- The documents of a policy parse exactly when it is writable, and then to
its generated objects. -/
theorem parseObjects_policyToDocuments_iff {policy : Policy}
    {objects : List ParsedObject} :
    parseObjects ((policyToDocuments policy).map .mapping) = .ok objects ↔
      objects = generatedObjects policy ∧ policy.Writable := by
  have each : ∀ item ∈ groupedScopes policy, ∀ result,
      [roleDocument policy item, bindingDocument policy item.1].mapM
          parseObject = .ok result ↔
        result = [.role (generatedRole policy item),
            .binding (generatedBinding policy item.1)] ∧
          ((item.1 ≠ some "" ∧
            ∀ group ∈ groupedRules item.2, Readable group) ∧
            item.1 ≠ some "" ∧ Addressed policy item.1) := by
    intro item _ result
    simp only [List.mapM_cons, List.mapM_nil, bind_eq_ok_iff, pure_eq_ok_iff,
      parseObject_roleDocument_iff, parseObject_bindingDocument_iff]
    constructor
    · rintro ⟨_, ⟨rfl, role⟩, _, ⟨_, ⟨rfl, binding⟩, _, rfl, rfl⟩, rfl⟩
      exact ⟨rfl, role, binding⟩
    · rintro ⟨rfl, role, binding⟩
      exact ⟨_, ⟨rfl, role⟩, _, ⟨_, ⟨rfl, binding⟩, _, rfl, rfl⟩, rfl⟩
  have whole : (policyToDocuments policy).mapM parseObject = .ok objects ↔ _ :=
    mapM_flatMap_eq_ok_iff each
  rw [scopes_readable_iff] at whole
  simp only [parseObjects, flattenDocuments_eq (policyToDocuments_plain policy),
    bind_eq_ok_iff, Except.ok.injEq, exists_eq_left', whole, generatedObjects]

theorem parseRbac_policyToDocuments_iff {policy : Policy}
    {parsed : ParsedRbac} :
    parseRbac ((policyToDocuments policy).map .mapping) = .ok parsed ↔
      parsed = generatedRbac policy ∧ policy.Writable := by
  have collected : ParsedRbac.ofObjects (generatedObjects policy) =
      generatedRbac policy := roles_ofObjects_pairs _ _ _
  simp only [parseRbac_eq_ok_iff, parseObjects_policyToDocuments_iff]
  constructor
  · rintro ⟨_, ⟨rfl, writable⟩, rfl⟩
    exact ⟨collected, writable⟩
  · rintro ⟨rfl, writable⟩
    exact ⟨_, ⟨rfl, writable⟩, collected.symm⟩

theorem roleMatches_generated_iff {policy : Policy}
    {scope : Option String} {item : Option String × List Permission} :
    roleMatches (generatedBinding policy scope) (generatedRole policy item) =
      true ↔ item.1 = scope := by
  obtain ⟨itemScope, permissions⟩ := item
  simp only [roleMatches, generatedBinding, generatedRole, generatedRoleKind,
    decide_eq_true_eq]
  constructor
  · rintro ⟨-, ⟨cluster, rfl⟩ | ⟨-, -, same⟩⟩
    · by_contra other
      rw [if_neg fun equality => other equality.symm] at cluster
      cases cluster
    · exact same
  · rintro rfl
    cases itemScope <;> simp

/-- The reference of a generated binding selects the role of its scope. -/
theorem find?_generatedRole {policy : Policy}
    {item : Option String × List Permission}
    (member : item ∈ groupedScopes policy) :
    (generatedRbac policy).roles.find?
        (roleMatches (generatedBinding policy item.1)) =
      some (generatedRole policy item) := by
  have unique : ∀ other ∈ groupedScopes policy, other.1 = item.1 →
      other = item := by
    rintro ⟨otherScope, otherPermissions⟩ otherMember rfl
    obtain ⟨scope, permissions⟩ := item
    rw [(mem_groupedScopes_iff.mp otherMember).2,
      (mem_groupedScopes_iff.mp member).2]
  have present : generatedRole policy item ∈ (generatedRbac policy).roles :=
    List.mem_map_of_mem member
  cases found : (generatedRbac policy).roles.find?
      (roleMatches (generatedBinding policy item.1)) with
  | none =>
      have unmatched := List.find?_eq_none.mp found _ present
      exact absurd (roleMatches_generated_iff.mpr rfl) unmatched
  | some role =>
      obtain ⟨other, otherMember, rfl⟩ :=
        List.mem_map.mp (List.mem_of_find?_eq_some found)
      have matched := List.find?_some found
      rw [unique other otherMember (roleMatches_generated_iff.mp matched)]

private theorem mem_ruleNames_generatedRule_iff {item : RuleKey × List String}
    (nonempty : item.1.2.2 ≠ some "") {resourceName : Option String} :
    resourceName ∈ ruleNames (generatedRule item) ↔
      resourceName = item.1.2.2 := by
  have names : (generatedRule item).resourceNames =
      presentText item.1.2.2 := rfl
  rcases presentText_cases item.1.2.2 with
    ⟨absent, unnamed | empty⟩ | ⟨text, -, named, present⟩
  · rw [ruleNames, names, absent, unnamed]
    simp
  · exact absurd empty nonempty
  · rw [ruleNames, names, present, named]
    simp

/-- The key of a permission that is granted in another scope. -/
def keyInScope (scope : Option String) (permission : Permission) :
    PermissionKey :=
  (permission.apiGroup, permission.resource, permission.verb, scope,
    permission.resourceName)

/-- The rules generated for permissions grant exactly these, in the scope of
the binding that refers to them. -/
theorem generatedRules_grant_iff {permissions : List Permission}
    {scope : Option String}
    (named : ∀ permission ∈ permissions, permission.resourceName ≠ some "")
    {key : PermissionKey} :
    (∃ rule ∈ (groupedRules permissions).map generatedRule,
        RuleGrants scope rule key) ↔
      ∃ permission ∈ permissions, keyInScope scope permission = key := by
  obtain ⟨apiGroup, resource, verb, keyScope, resourceName⟩ := key
  constructor
  · rintro ⟨_, ruleMember, granted⟩
    obtain ⟨⟨written, verbs⟩, group, rfl⟩ := List.mem_map.mp ruleMember
    obtain ⟨inGroup, inResource, inVerbs, rfl, inNames⟩ := granted
    obtain ⟨permission, member, rfl, rfl⟩ :=
      (mem_verbs_iff group).mp (mem_sortBy.mp inVerbs)
    have sameName := (mem_ruleNames_generatedRule_iff
      (named permission member)).mp inNames
    refine ⟨permission, member, ?_⟩
    simp only [keyInScope, Prod.mk.injEq]
    exact ⟨(List.mem_singleton.mp inGroup).symm,
      (List.mem_singleton.mp inResource).symm, trivial, trivial,
      sameName.symm⟩
  · rintro ⟨permission, member, sameKey⟩
    simp only [keyInScope, Prod.mk.injEq] at sameKey
    obtain ⟨rfl, rfl, rfl, rfl, rfl⟩ := sameKey
    obtain ⟨verbs, group, verb⟩ := exists_group member
    refine ⟨_, List.mem_map_of_mem group, List.mem_singleton.mpr rfl,
      List.mem_singleton.mpr rfl, mem_sortBy.mpr verb, rfl, ?_⟩
    exact (mem_ruleNames_generatedRule_iff (named permission member)).mpr rfl

theorem mem_subjects_generatedBinding {policy : Policy}
    (located : policy.serviceAccountNamespace ≠ "")
    (scope : Option String) :
    ⟨policy.serviceAccount, policy.serviceAccountNamespace⟩ ∈
      (generatedBinding policy scope).subjects := by
  simp [generatedBinding, generatedSubject, orElse, located]

theorem bindingScope_generatedBinding (policy : Policy)
    (scope : Option String) :
    bindingScope (generatedBinding policy scope) = scope := by
  cases scope <;> simp [bindingScope, generatedBinding]

/-- A generated role grants, through a binding in any scope, the permissions
it was generated for. -/
theorem generatedRole_grants_iff {policy : Policy}
    (named : ∀ permission ∈ policy.permissions,
      permission.resourceName ≠ some "")
    {item : Option String × List Permission}
    (member : item ∈ groupedScopes policy) {scope : Option String}
    {key : PermissionKey} :
    (∃ rule ∈ (generatedRole policy item).rules,
        RuleGrants scope rule key) ↔
      ∃ permission ∈ policy.permissions, permission.namespace = item.1 ∧
        keyInScope scope permission = key := by
  obtain ⟨itemScope, permissions⟩ := item
  obtain ⟨-, rfl⟩ := mem_groupedScopes_iff.mp member
  have namedHere : ∀ permission ∈ policy.permissions.filter
      (fun permission => decide (permission.namespace = itemScope)),
      permission.resourceName ≠ some "" := by
    intro permission inScope
    exact named permission (List.mem_of_mem_filter inScope)
  simp only [generatedRole, generatedRules_grant_iff namedHere,
    List.mem_filter, decide_eq_true_eq, and_assoc]

theorem keys_resolve_generatedRbac {policy : Policy}
    (located : ∀ permission ∈ policy.permissions,
      policy.serviceAccountNamespace ≠ "")
    (named : ∀ permission ∈ policy.permissions,
      permission.resourceName ≠ some "") :
    (resolveEffectivePolicy (generatedRbac policy)
      ⟨policy.serviceAccount, policy.serviceAccountNamespace⟩).keys =
        policy.keys := by
  ext key
  rw [mem_keys_resolve_iff]
  constructor
  · rintro ⟨_, bindingMember, -, role, found, granted⟩
    obtain ⟨item, scopeMember, rfl⟩ := List.mem_map.mp bindingMember
    rw [find?_generatedRole scopeMember] at found
    cases found
    rw [bindingScope_generatedBinding,
      generatedRole_grants_iff named scopeMember] at granted
    obtain ⟨permission, member, sameScope, rfl⟩ := granted
    rw [← sameScope]
    exact Policy.mem_keys_of_mem member
  · intro keyMember
    obtain ⟨permission, member, rfl⟩ := List.mem_map.mp keyMember
    have scopeMember := mem_groupedScopes_iff.mpr
      ⟨⟨permission, member, rfl⟩, Eq.refl _⟩
    refine ⟨_, List.mem_map_of_mem scopeMember,
      mem_subjects_generatedBinding (located permission member) _, _,
      find?_generatedRole scopeMember, ?_⟩
    rw [bindingScope_generatedBinding,
      generatedRole_grants_iff named scopeMember]
    exact ⟨permission, member, rfl, rfl⟩

/-- A loader that reads generated texts back: the documents of a dumped
policy, which span several lines, and nothing from a comment. -/
structure PyYaml.RoundTrips (yaml : PyYaml) (policy : Policy) : Prop where
  dumped : policyToDocuments policy ≠ [] →
    '\n' ∈ (yaml.safeDumpAll (policyToDocuments policy)).toList ∧
    yaml.safeLoadAll (yaml.safeDumpAll (policyToDocuments policy)) =
      .ok ((policyToDocuments policy).map .mapping)
  comment : policyToDocuments policy = [] →
    yaml.safeLoadAll emptyPolicyText = .ok []

theorem loadDocuments_policyToYaml {yaml : PyYaml} {readPath : ReadPath}
    {policy : Policy} (loads : yaml.RoundTrips policy) :
    loadDocuments yaml readPath (policyToYaml yaml policy) =
      .ok ((policyToDocuments policy).map .mapping) := by
  cases documents : policyToDocuments policy with
  | nil =>
      have multiline : '\n' ∈ emptyPolicyText.toList := by decide
      simp [loadDocuments, policyToYaml, documents, multiline, loadText,
        loads.comment documents]
  | cons document later =>
      obtain ⟨multiline, loaded⟩ := loads.dumped (by simp [documents])
      rw [documents] at multiline loaded
      simp [loadDocuments, policyToYaml, documents, multiline, loadText,
        loaded]

/-- Generating, parsing and resolving a policy returns its keys, from its
documents as from its text. -/
theorem generated_policy_round_trips {policy : Policy}
    (named : policy.serviceAccount ≠ "")
    (located : policy.serviceAccountNamespace ≠ "")
    (expressible : ∀ permission ∈ policy.permissions,
      isSupportedResource permission.apiGroup permission.resource = true ∧
        (permission.verb = "*" ∨ permission.verb ∈ supportedVerbs) ∧
        permission.namespace ≠ some "" ∧ permission.resourceName ≠ some "") :
    ∃ parsed,
      parseRbac ((policyToDocuments policy).map .mapping) = .ok parsed ∧
      (∀ yaml : PyYaml, yaml.RoundTrips policy → ∀ readPath,
        parseRbacText yaml readPath (policyToYaml yaml policy) =
          .ok parsed) ∧
      ∀ key,
        key ∈ (resolveEffectivePolicy parsed
            ⟨policy.serviceAccount,
              policy.serviceAccountNamespace⟩).permissions.map
              Permission.key ↔
          key ∈ policy.permissions.map Permission.key := by
  have writable : policy.Writable := by
    intro permission member
    obtain ⟨resource, verb, scope, -⟩ := expressible permission member
    refine ⟨⟨resource, verb, scope⟩, named, ?_⟩
    simp [generatedSubject, orElse, located]
  have parsed := parseRbac_policyToDocuments_iff.mpr ⟨rfl, writable⟩
  refine ⟨_, parsed, ?_, ?_⟩
  · intro yaml loads readPath
    rw [parseRbacText, loadDocuments_policyToYaml loads]
    exact parsed
  · intro key
    have sameKeys := keys_resolve_generatedRbac (fun _ _ => located)
      fun permission member => (expressible permission member).2.2.2
    rw [← Policy.mem_keys, sameKeys, Policy.mem_keys]

def configReader : Policy :=
  Policy.build [⟨"", "configmaps", "get", some "shop", some "flags", none⟩]
    "web" "web" "shop"

/-- The dumped documents, up to the last line break. -/
private def configReaderLines : String :=
  "\n".intercalate
    ["apiVersion: rbac.authorization.k8s.io/v1", "kind: Role", "metadata:",
      "  name: web-shop", "  namespace: shop", "rules:", "- apiGroups:",
      "  - ''", "  resources:", "  - configmaps", "  verbs:", "  - get",
      "  resourceNames:", "  - flags", "---",
      "apiVersion: rbac.authorization.k8s.io/v1", "kind: RoleBinding",
      "metadata:", "  name: web-shop-binding", "  namespace: shop",
      "roleRef:", "  apiGroup: rbac.authorization.k8s.io", "  kind: Role",
      "  name: web-shop", "subjects:", "- kind: ServiceAccount",
      "  name: web", "  namespace: shop"]

def configReaderText : String := configReaderLines ++ "\n"

/-- The YAML library on the documents of `configReader`. -/
def configReaderYaml : PyYaml where
  safeDumpAll := fun _ => configReaderText
  safeLoadAll := fun _ => .ok ((policyToDocuments configReader).map .mapping)

/-- A named read in one namespace survives the round trip through text. -/
theorem generated_policy_round_trips_configReader :
    ∃ parsed,
      parseRbacText configReaderYaml (fun _ => .ok none)
          (policyToYaml configReaderYaml configReader) = .ok parsed ∧
        ∀ key,
          key ∈ (resolveEffectivePolicy parsed
              ⟨"web", "shop"⟩).permissions.map Permission.key ↔
            key ∈ configReader.permissions.map Permission.key := by
  have multiline : '\n' ∈ configReaderText.toList := by
    simp [configReaderText]
  have loads : configReaderYaml.RoundTrips configReader :=
    ⟨fun _ => ⟨multiline, rfl⟩, fun absent => by cases absent⟩
  obtain ⟨parsed, -, fromText, sameKeys⟩ :=
    @generated_policy_round_trips configReader (by decide) (by decide)
      (by decide)
  exact ⟨parsed, fromText configReaderYaml loads _, sameKeys⟩

end Kuber.Rules

import Kuber.Library.ExceptResult
import Kuber.Rules.Parser

/-!
# What the parser accepts

The checks of the parser, read back as properties of the objects it returns.
Everything later proved about a parsed manifest starts from these properties,
never from the parsing functions.
-/

namespace Kuber.Rules

open Kuber.Library

/-- A verb, resource pair and resource names the parser lets through. -/
structure PolicyRule.WellFormed (rule : PolicyRule) : Prop where
  verbs : ∀ verb ∈ rule.verbs, verb = "*" ∨ verb ∈ supportedVerbs
  resources : ∀ group ∈ rule.apiGroups, ∀ resource ∈ rule.resources,
    isSupportedResource group resource = true
  resourceNames : "" ∉ rule.resourceNames

/-- A namespaced role has a namespace, a cluster role has none. -/
structure RoleObject.WellFormed (role : RoleObject) : Prop where
  cluster : role.clusterRole = true → role.namespace = none
  namespaced : role.clusterRole = false →
    ∃ scope, role.namespace = some scope ∧ scope ≠ ""
  rules : ∀ rule ∈ role.rules, rule.WellFormed

/-- A namespaced binding has a namespace; a cluster binding has none and
references a cluster role. -/
structure BindingObject.WellFormed (binding : BindingObject) : Prop where
  cluster : binding.clusterBinding = true →
    binding.namespace = none ∧ binding.roleKind = .clusterRole
  namespaced : binding.clusterBinding = false →
    ∃ scope, binding.namespace = some scope ∧ scope ≠ ""
  subjects : ∀ subject ∈ binding.subjects,
    subject.name ≠ "" ∧ subject.namespace ≠ ""

structure ParsedRbac.WellFormed (parsed : ParsedRbac) : Prop where
  roles : ∀ role ∈ parsed.roles, role.WellFormed
  bindings : ∀ binding ∈ parsed.bindings, binding.WellFormed

def ParsedObject.WellFormed : ParsedObject → Prop
  | .serviceAccount _ => True
  | .role object => object.WellFormed
  | .binding object => object.WellFormed

theorem checkVerbs_ok {verbs : List String}
    (accepted : checkVerbs verbs = .ok ()) :
    ∀ verb ∈ verbs, verb = "*" ∨ verb ∈ supportedVerbs := by
  induction verbs with
  | nil => simp
  | cons verb verbs induction =>
      simp only [checkVerbs] at accepted
      split at accepted
      · cases accepted
      · rename_i known
        intro other member
        rcases List.mem_cons.mp member with rfl | later
        · tauto
        · exact induction accepted other later

theorem checkVerbs_accepts {verbs : List String}
    (known : ∀ verb ∈ verbs, verb = "*" ∨ verb ∈ supportedVerbs) :
    checkVerbs verbs = .ok () := by
  induction verbs with
  | nil => rfl
  | cons verb verbs induction =>
      have first := known verb List.mem_cons_self
      have passes : ¬(verb ≠ "*" ∧ verb ∉ supportedVerbs) := by tauto
      simp only [checkVerbs, if_neg passes]
      exact induction fun other member =>
        known other (List.mem_cons_of_mem _ member)

theorem checkResources_ok {pairs : List (String × String)}
    (accepted : checkResources pairs = .ok ()) :
    ∀ pair ∈ pairs, isSupportedResource pair.1 pair.2 = true := by
  induction pairs with
  | nil => simp
  | cons pair pairs induction =>
      obtain ⟨group, resource⟩ := pair
      simp only [checkResources] at accepted
      split at accepted
      · cases accepted
      · rename_i supported
        intro other member
        rcases List.mem_cons.mp member with rfl | later
        · exact Bool.eq_true_of_not_eq_false supported
        · exact induction accepted other later

theorem checkResources_accepts {pairs : List (String × String)}
    (supported : ∀ pair ∈ pairs, isSupportedResource pair.1 pair.2 = true) :
    checkResources pairs = .ok () := by
  induction pairs with
  | nil => rfl
  | cons pair pairs induction =>
      obtain ⟨group, resource⟩ := pair
      have first : isSupportedResource group resource = true :=
        supported (group, resource) List.mem_cons_self
      have passes : ¬isSupportedResource group resource = false := by
        simp [first]
      simp only [checkResources, if_neg passes]
      exact induction fun other member =>
        supported other (List.mem_cons_of_mem _ member)

private theorem parseResourceNames_ok {value : Json} {names : List String}
    (accepted : parseResourceNames value = .ok names) : "" ∉ names := by
  unfold parseResourceNames at accepted
  split at accepted
  · split at accepted
    · cases accepted
    · split at accepted
      · cases accepted
      · rename_i absent
        cases accepted
        exact absent
  · cases accepted

theorem parseRule_ok {raw : Json} {rule : PolicyRule}
    (accepted : parseRule raw = .ok rule) : rule.WellFormed := by
  unfold parseRule at accepted
  split at accepted
  · simp only [bind_eq_ok_iff, pure_eq_ok_iff] at accepted
    obtain ⟨apiGroups, -, resources, -, verbs, -, names, namesOk,
      _, verbsOk, _, resourcesOk, rfl⟩ := accepted
    refine ⟨checkVerbs_ok verbsOk, ?_, parseResourceNames_ok namesOk⟩
    intro group groupMember resource resourceMember
    apply checkResources_ok resourcesOk (group, resource)
    simp only [List.mem_flatMap, List.mem_map]
    exact ⟨group, groupMember, resource, resourceMember, rfl⟩
  · cases accepted

theorem parseRules_ok {value : Json} {rules : List PolicyRule}
    (accepted : parseRules value = .ok rules) :
    ∀ rule ∈ rules, rule.WellFormed := by
  unfold parseRules at accepted
  split at accepted
  · intro rule member
    obtain ⟨raw, -, parsed⟩ :=
      forall₂_mem_right (mapM_eq_ok_iff.mp accepted) member
    exact parseRule_ok parsed
  · cases accepted

theorem checkScope_eq_ok_iff {kind : String} {scope : Option String}
    {cluster : Bool} :
    checkScope kind scope cluster = .ok () ↔
      (cluster = false → ∃ text, scope = some text ∧ text ≠ "") := by
  unfold checkScope
  cases cluster with
  | true => simp
  | false =>
      cases scope with
      | none => simp [missingText, parseError]
      | some text =>
          by_cases empty : text = ""
          · simp [missingText, parseError, empty]
          · simp [missingText, empty]

theorem checkRoleKind_eq_ok_iff {roleKind : RoleKind} {cluster : Bool} :
    checkRoleKind roleKind cluster = .ok () ↔
      (cluster = true → roleKind = .clusterRole) := by
  unfold checkRoleKind
  cases cluster <;> cases roleKind <;> simp [parseError]

private theorem parseSubject_ok {bindingNamespace : Option String}
    {subject : Json} {account : ServiceAccountRef}
    (accepted : parseSubject bindingNamespace subject = .ok (some account)) :
    account.name ≠ "" ∧ account.namespace ≠ "" := by
  unfold parseSubject at accepted
  split at accepted
  · split at accepted
    · cases accepted
    · simp only at accepted
      split at accepted
      · split at accepted
        · cases accepted
        · rename_i nonempty
          cases accepted
          tauto
      · cases accepted
  · cases accepted

private theorem parseSubjects_ok {bindingNamespace : Option String}
    {value : Json} {subjects : List ServiceAccountRef}
    (accepted : parseSubjects bindingNamespace value = .ok subjects) :
    ∀ subject ∈ subjects, subject.name ≠ "" ∧ subject.namespace ≠ "" := by
  unfold parseSubjects at accepted
  split at accepted
  · simp only [bind_eq_ok_iff, pure_eq_ok_iff] at accepted
    obtain ⟨parsed, parsedOk, rfl⟩ := accepted
    intro subject member
    simp only [List.mem_filterMap, id_eq, exists_eq_right] at member
    obtain ⟨raw, -, rawOk⟩ :=
      forall₂_mem_right (mapM_eq_ok_iff.mp parsedOk) member
    exact parseSubject_ok rawOk
  · cases accepted

theorem parseRoleObject_ok {document : Document} {name : String}
    {scope : Option String} {cluster : Bool} {object : ParsedObject}
    (accepted : parseRoleObject document name scope cluster = .ok object) :
    object.WellFormed := by
  simp only [parseRoleObject, bind_eq_ok_iff, pure_eq_ok_iff] at accepted
  obtain ⟨_, located, rules, rulesOk, rfl⟩ := accepted
  refine ⟨?_, ?_, parseRules_ok rulesOk⟩
  · intro isCluster
    exact if_pos isCluster
  · intro namespaced
    obtain ⟨text, rfl, nonempty⟩ := checkScope_eq_ok_iff.mp located namespaced
    exact ⟨text, if_neg (ne_true_of_eq_false namespaced), nonempty⟩

theorem parseBindingObject_ok {document : Document} {name : String}
    {scope : Option String} {cluster : Bool} {object : ParsedObject}
    (accepted : parseBindingObject document name scope cluster = .ok object) :
    object.WellFormed := by
  simp only [parseBindingObject, bind_eq_ok_iff, pure_eq_ok_iff] at accepted
  obtain ⟨_, located, ⟨roleKind, roleName⟩, -, _, kindAllowed, subjects,
    subjectsOk, rfl⟩ := accepted
  refine ⟨?_, ?_, parseSubjects_ok subjectsOk⟩
  · intro isCluster
    exact ⟨if_pos isCluster, checkRoleKind_eq_ok_iff.mp kindAllowed isCluster⟩
  · intro namespaced
    obtain ⟨text, rfl, nonempty⟩ := checkScope_eq_ok_iff.mp located namespaced
    exact ⟨text, if_neg (ne_true_of_eq_false namespaced), nonempty⟩

theorem parseObject_ok {document : Document} {object : ParsedObject}
    (accepted : parseObject document = .ok object) : object.WellFormed := by
  simp only [parseObject, bind_eq_ok_iff] at accepted
  obtain ⟨kind, -, ⟨name, scope⟩, -, rest⟩ := accepted
  cases kind with
  | serviceAccount =>
      cases object with
      | serviceAccount account => trivial
      | role role =>
          simp only at rest
          split at rest
          · split at rest <;> cases rest
          · cases rest
      | binding binding =>
          simp only at rest
          split at rest
          · split at rest <;> cases rest
          · cases rest
  | role => exact parseRoleObject_ok rest
  | clusterRole => exact parseRoleObject_ok rest
  | roleBinding => exact parseBindingObject_ok rest
  | clusterRoleBinding => exact parseBindingObject_ok rest

theorem parseObjects_wellFormed {documents : List Json}
    {objects : List ParsedObject}
    (accepted : parseObjects documents = .ok objects) :
    ∀ object ∈ objects, object.WellFormed := by
  simp only [parseObjects, bind_eq_ok_iff] at accepted
  obtain ⟨flattened, -, objectsOk⟩ := accepted
  intro object member
  obtain ⟨document, -, documentOk⟩ :=
    forall₂_mem_right (mapM_eq_ok_iff.mp objectsOk) member
  exact parseObject_ok documentOk

theorem parseRbac_eq_ok_iff {documents : List Json} {parsed : ParsedRbac} :
    parseRbac documents = .ok parsed ↔
      ∃ objects, parseObjects documents = .ok objects ∧
        parsed = ParsedRbac.ofObjects objects := by
  simp only [parseRbac, bind_eq_ok_iff, pure_eq_ok_iff, @eq_comm _ parsed]

theorem parseRbac_wellFormed {documents : List Json} {parsed : ParsedRbac}
    (accepted : parseRbac documents = .ok parsed) : parsed.WellFormed := by
  obtain ⟨objects, objectsOk, rfl⟩ := parseRbac_eq_ok_iff.mp accepted
  have wellFormed := parseObjects_wellFormed objectsOk
  constructor
  · intro role member
    exact wellFormed _ (ParsedRbac.mem_roles_ofObjects.mp member)
  · intro binding member
    exact wellFormed _ (ParsedRbac.mem_bindings_ofObjects.mp member)

end Kuber.Rules

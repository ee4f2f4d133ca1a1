import Kuber.Rules.WellFormed

/-!
# What the parser raises

Every check of the parser raises the declared error, except the two that look
a value up in a set of texts before knowing that it is a text.  A list or a
mapping there is unhashable, and the lookup raises a `TypeError` instead.
-/

namespace Kuber.Rules

open Kuber.Library

/-- `RbacParseError` and its subclass. -/
def Declared (error : PyException) : Prop :=
  error.kind = .rbacParseError ∨ error.kind = .unsupportedResourceError

/-- Values that cannot be looked up in a set. -/
def Json.isUnhashable : Json → Bool
  | .list _ | .mapping _ => true
  | _ => false

@[simp] theorem raisesOnly_parseError {α : Type} {message : String} :
    RaisesOnly Declared (parseError message : Except PyException α) :=
  raisesOnly_error.mpr (Or.inl rfl)

@[simp] theorem not_raisesOnly_unhashable {α : Type} {typeName : String} :
    ¬ RaisesOnly Declared (unhashable typeName : Except PyException α) := by
  intro only
  have declared := raisesOnly_error.mp only
  cases declared with
  | inl impossible => cases impossible
  | inr impossible => cases impossible

/-! ### Checks that raise the declared error only -/

theorem parseStrings_declared {value : Json} {field : String}
    {allowEmptyString : Bool} :
    RaisesOnly Declared (parseStrings value field allowEmptyString) := by
  unfold parseStrings
  split
  · split
    · exact raisesOnly_parseError
    · split
      · exact raisesOnly_parseError
      · exact raisesOnly_ok
  · exact raisesOnly_parseError

theorem parseMetadata_declared {document : Document} :
    RaisesOnly Declared (parseMetadata document) := by
  unfold parseMetadata
  split
  · split
    · split
      · exact raisesOnly_parseError
      · split
        · exact raisesOnly_ok
        · exact raisesOnly_ok
        · exact raisesOnly_parseError
    · exact raisesOnly_parseError
  · exact raisesOnly_parseError

theorem checkVerbs_declared {verbs : List String} :
    RaisesOnly Declared (checkVerbs verbs) := by
  induction verbs with
  | nil => exact raisesOnly_ok
  | cons verb verbs induction =>
      unfold checkVerbs
      split
      · exact raisesOnly_parseError
      · exact induction

theorem checkResources_declared {pairs : List (String × String)} :
    RaisesOnly Declared (checkResources pairs) := by
  induction pairs with
  | nil => exact raisesOnly_ok
  | cons pair pairs induction =>
      unfold checkResources
      split
      · exact raisesOnly_error.mpr (Or.inr rfl)
      · exact induction

theorem parseResourceNames_declared {value : Json} :
    RaisesOnly Declared (parseResourceNames value) := by
  unfold parseResourceNames
  split
  · split
    · exact raisesOnly_parseError
    · split
      · exact raisesOnly_parseError
      · exact raisesOnly_ok
  · exact raisesOnly_parseError

theorem parseRule_declared {raw : Json} :
    RaisesOnly Declared (parseRule raw) := by
  unfold parseRule
  split
  · simp only [raisesOnly_bind, parseStrings_declared,
      parseResourceNames_declared, checkVerbs_declared,
      checkResources_declared, raisesOnly_pure, implies_true, and_self]
  · exact raisesOnly_parseError

theorem parseRules_declared {value : Json} :
    RaisesOnly Declared (parseRules value) := by
  unfold parseRules
  split
  · exact raisesOnly_mapM_of_forall fun _ => parseRule_declared
  · exact raisesOnly_parseError

theorem parseSubject_declared {bindingNamespace : Option String}
    {subject : Json} :
    RaisesOnly Declared (parseSubject bindingNamespace subject) := by
  unfold parseSubject
  split
  · split
    · exact raisesOnly_ok
    · simp only
      split
      · split
        · exact raisesOnly_parseError
        · exact raisesOnly_ok
      · exact raisesOnly_parseError
  · exact raisesOnly_parseError

theorem parseSubjects_declared {bindingNamespace : Option String}
    {value : Json} :
    RaisesOnly Declared (parseSubjects bindingNamespace value) := by
  unfold parseSubjects
  split
  · refine raisesOnly_bind.mpr ⟨?_, fun _ _ => raisesOnly_pure⟩
    exact raisesOnly_mapM_of_forall fun _ => parseSubject_declared
  · exact raisesOnly_parseError

theorem checkScope_declared {kind : String} {scope : Option String}
    {cluster : Bool} : RaisesOnly Declared (checkScope kind scope cluster) := by
  unfold checkScope
  split
  · exact raisesOnly_parseError
  · exact raisesOnly_ok

theorem checkRoleKind_declared {roleKind : RoleKind} {cluster : Bool} :
    RaisesOnly Declared (checkRoleKind roleKind cluster) := by
  unfold checkRoleKind
  split
  · exact raisesOnly_parseError
  · exact raisesOnly_ok

theorem parseRoleObject_declared {document : Document} {name : String}
    {scope : Option String} {cluster : Bool} :
    RaisesOnly Declared (parseRoleObject document name scope cluster) := by
  simp only [parseRoleObject, raisesOnly_bind, checkScope_declared,
    parseRules_declared, raisesOnly_pure, implies_true, and_self]

mutual

theorem flattenDocument_declared :
    ∀ document : Json, RaisesOnly Declared (flattenDocument document)
  | .null => raisesOnly_ok
  | .mapping fields => by
      unfold flattenDocument
      split
      · exact flattenItems_declared fields
      · exact raisesOnly_ok
  | .bool _ => raisesOnly_parseError
  | .int _ => raisesOnly_parseError
  | .float _ => raisesOnly_parseError
  | .string _ => raisesOnly_parseError
  | .list _ => raisesOnly_parseError

theorem flattenItems_declared :
    ∀ fields : Document, RaisesOnly Declared (flattenItems fields)
  | [] => raisesOnly_parseError
  | (name, value) :: rest => by
      unfold flattenItems
      split
      · cases value with
        | list items => exact flattenDocuments_declared items
        | null => exact raisesOnly_parseError
        | bool _ => exact raisesOnly_parseError
        | int _ => exact raisesOnly_parseError
        | float _ => exact raisesOnly_parseError
        | string _ => exact raisesOnly_parseError
        | mapping _ => exact raisesOnly_parseError
      · exact flattenItems_declared rest

theorem flattenDocuments_declared :
    ∀ documents : List Json,
      RaisesOnly Declared (flattenDocuments documents)
  | [] => raisesOnly_ok
  | document :: documents => by
      have first := flattenDocument_declared document
      have others := flattenDocuments_declared documents
      unfold flattenDocuments
      simp only [raisesOnly_bind, first, others, raisesOnly_pure,
        implies_true, and_self]

end

/-! ### The two lookups -/

/-- The value looked up as the kind of the referenced role. -/
def roleKindLookup (document : Document) : Option Json :=
  match document.field "roleRef" with
  | .mapping roleRef =>
      if (Document.field roleRef "apiGroup").isText
          "rbac.authorization.k8s.io" = true then
        some (Document.field roleRef "kind")
      else none
  | _ => none

/-- A binding that passes the checks made before its role reference. -/
def ReachesRoleRef (document : Document) : Prop :=
  ∃ name scope, parseMetadata document = .ok (name, scope) ∧
    (parseKind document = .ok .clusterRoleBinding ∨
      parseKind document = .ok .roleBinding ∧ scope.getD "" ≠ "")

/-- A document in which an unhashable value is looked up. -/
def LooksUpUnhashable (document : Document) : Prop :=
  (document.field "kind").isUnhashable = true ∨
    ReachesRoleRef document ∧
      ∃ kind, roleKindLookup document = some kind ∧ kind.isUnhashable = true

theorem parseKind_declared_iff {document : Document} :
    RaisesOnly Declared (parseKind document) ↔
      (document.field "kind").isUnhashable = false := by
  unfold parseKind
  cases document.field "kind" with
  | list items => simp [Json.isUnhashable]
  | mapping fields => simp [Json.isUnhashable]
  | string text =>
      simp only [Json.isUnhashable, iff_true]
      split
      · exact raisesOnly_ok
      · exact raisesOnly_parseError
  | null => simp [Json.isUnhashable]
  | bool value => simp [Json.isUnhashable]
  | int value => simp [Json.isUnhashable]
  | float text => simp [Json.isUnhashable]

theorem parseRoleRef_declared_iff {document : Document} :
    RaisesOnly Declared (parseRoleRef document) ↔
      ¬ ∃ kind, roleKindLookup document = some kind ∧
        kind.isUnhashable = true := by
  unfold parseRoleRef roleKindLookup
  cases document.field "roleRef" with
  | mapping roleRef =>
      simp only
      cases (Document.field roleRef "apiGroup").isText
          "rbac.authorization.k8s.io" with
      | false => simp [invalidRoleRef]
      | true =>
          simp only [Bool.true_eq_false, if_false, if_true, Option.some.injEq,
            exists_eq_left']
          cases Document.field roleRef "kind" with
          | list items => simp [Json.isUnhashable]
          | mapping fields => simp [Json.isUnhashable]
          | string text =>
              simp only [Json.isUnhashable, Bool.false_eq_true,
                not_false_eq_true, iff_true]
              split
              · split
                · exact raisesOnly_parseError
                · exact raisesOnly_ok
              · exact raisesOnly_parseError
          | null => simp [Json.isUnhashable, invalidRoleRef]
          | bool value => simp [Json.isUnhashable, invalidRoleRef]
          | int value => simp [Json.isUnhashable, invalidRoleRef]
          | float text => simp [Json.isUnhashable, invalidRoleRef]
  | null => simp [invalidRoleRef]
  | bool value => simp [invalidRoleRef]
  | int value => simp [invalidRoleRef]
  | float text => simp [invalidRoleRef]
  | string text => simp [invalidRoleRef]
  | list items => simp [invalidRoleRef]

theorem parseBindingObject_declared_iff {document : Document} {name : String}
    {scope : Option String} {cluster : Bool} :
    RaisesOnly Declared (parseBindingObject document name scope cluster) ↔
      ¬ ((cluster = true ∨ scope.getD "" ≠ "") ∧
        ∃ kind, roleKindLookup document = some kind ∧
          kind.isUnhashable = true) := by
  have located : checkScope "RoleBinding" scope cluster = .ok () ↔
      (cluster = true ∨ scope.getD "" ≠ "") := by
    rw [checkScope_eq_ok_iff]
    cases cluster <;> cases scope <;> simp
  simp only [parseBindingObject, raisesOnly_bind, checkScope_declared,
    checkRoleKind_declared, parseSubjects_declared, raisesOnly_pure,
    implies_true, and_true, true_and, parseRoleRef_declared_iff,
    not_and]
  constructor
  · intro reached passes
    exact reached () (located.mpr passes)
  · intro reached _ passes
    exact reached (located.mp passes)

/-- A document raises an undeclared error exactly when an unhashable value is
looked up in it. -/
theorem parseObject_declared_iff {document : Document} :
    RaisesOnly Declared (parseObject document) ↔
      ¬ LooksUpUnhashable document := by
  simp only [parseObject, raisesOnly_bind, parseKind_declared_iff,
    parseMetadata_declared, true_and, LooksUpUnhashable, not_or,
    Bool.not_eq_true]
  apply and_congr_right
  intro _
  constructor
  · rintro bodies ⟨⟨name, scope, metadata, reached⟩, unhashableKind⟩
    cases reached with
    | inl kind =>
        have body := bodies _ kind (name, scope) metadata
        exact parseBindingObject_declared_iff.mp body
          ⟨Or.inl rfl, unhashableKind⟩
    | inr namespaced =>
        have body := bodies _ namespaced.1 (name, scope) metadata
        exact parseBindingObject_declared_iff.mp body
          ⟨Or.inr namespaced.2, unhashableKind⟩
  · rintro absent kind parsed ⟨name, scope⟩ metadata
    cases kind with
    | serviceAccount =>
        simp only
        split
        · split
          · exact raisesOnly_parseError
          · exact raisesOnly_pure
        · exact raisesOnly_parseError
    | role => exact parseRoleObject_declared
    | clusterRole => exact parseRoleObject_declared
    | roleBinding =>
        apply parseBindingObject_declared_iff.mpr
        rintro ⟨passes, unhashableKind⟩
        have located : scope.getD "" ≠ "" :=
          passes.resolve_left Bool.false_ne_true
        exact absent ⟨⟨name, scope, metadata, Or.inr ⟨parsed, located⟩⟩,
          unhashableKind⟩
    | clusterRoleBinding =>
        apply parseBindingObject_declared_iff.mpr
        rintro ⟨_, unhashableKind⟩
        exact absent ⟨⟨name, scope, metadata, Or.inl parsed⟩, unhashableKind⟩

/-- No unhashable value is looked up in the first document that is not
parsed. -/
def HashableLookups (documents : List Json) : Prop :=
  ∀ flattened, flattenDocuments documents = .ok flattened →
    ∀ before document after, flattened = before ++ document :: after →
      (∀ earlier ∈ before, ∃ object, parseObject earlier = .ok object) →
        ¬ LooksUpUnhashable document

/-- The parser fails with its declared error only, exactly on documents whose
lookups are of hashable values. -/
theorem parseRbac_declared_iff (documents : List Json) :
    (∀ error, parseRbac documents = .error error → Declared error) ↔
      HashableLookups documents := by
  change RaisesOnly Declared (parseRbac documents) ↔ _
  simp only [parseRbac, parseObjects, raisesOnly_bind,
    flattenDocuments_declared, raisesOnly_mapM, parseObject_declared_iff,
    raisesOnly_pure, implies_true, and_true, true_and]
  rfl

/-- A kind that is a list escapes as a `TypeError`. -/
theorem parseRbac_raises_typeError :
    ¬ ∀ (documents : List Json) (error : PyException),
      parseRbac documents = .error error → Declared error := by
  intro declared
  have raised : parseRbac [.mapping [("kind", .list [.string "Role"])]] =
      .error ⟨.typeError, "unhashable type: 'list'"⟩ := by rfl
  cases declared _ _ raised with
  | inl impossible => cases impossible
  | inr impossible => cases impossible

end Kuber.Rules

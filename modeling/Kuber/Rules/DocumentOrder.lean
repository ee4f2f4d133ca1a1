import Kuber.Library.FirstMatch
import Kuber.Rules.Resolver
import Kuber.Rules.WellFormed

/-!
# The order of the documents

A binding takes the first role of its reference, and the parser accepts
several roles of one name.  A manifest means the same in every order exactly
when no order hides a permission behind another role of that name.
-/

namespace Kuber.Rules

open Kuber.Library

theorem parseObjects_cons_iff {document : Json} {documents : List Json}
    {objects : List ParsedObject} :
    parseObjects (document :: documents) = .ok objects ↔
      ∃ first rest, parseObjects [document] = .ok first ∧
        parseObjects documents = .ok rest ∧ objects = first ++ rest := by
  simp only [parseObjects, flattenDocuments, bind_eq_ok_iff, pure_eq_ok_iff,
    Except.ok.injEq]
  constructor
  · rintro ⟨_, ⟨head, flattened, others, othersFlattened, rfl⟩, parsed⟩
    simp only [List.mapM_append, bind_eq_ok_iff, pure_eq_ok_iff] at parsed
    obtain ⟨first, firstParsed, rest, restParsed, rfl⟩ := parsed
    refine ⟨first, rest, ⟨head, ⟨head, flattened, [], rfl, ?_⟩, firstParsed⟩,
      ⟨others, othersFlattened, restParsed⟩, rfl⟩
    exact List.append_nil head
  · rintro ⟨first, rest, ⟨_, ⟨head, flattened, _, rfl, rfl⟩, firstParsed⟩,
      ⟨others, othersFlattened, restParsed⟩, rfl⟩
    rw [List.append_nil] at firstParsed
    refine ⟨_, ⟨head, flattened, others, othersFlattened, rfl⟩, ?_⟩
    simp only [List.mapM_append, bind_eq_ok_iff, pure_eq_ok_iff]
    exact ⟨first, firstParsed, rest, restParsed, rfl⟩

theorem parseObjects_perm {documents permuted : List Json}
    (permutation : permuted.Perm documents) :
    ∀ objects, parseObjects documents = .ok objects →
      ∃ others, parseObjects permuted = .ok others ∧ others.Perm objects := by
  induction permutation with
  | nil => exact fun objects accepted => ⟨objects, accepted, List.Perm.refl _⟩
  | cons document _ induction =>
      intro objects accepted
      obtain ⟨first, rest, firstParsed, restParsed, rfl⟩ :=
        parseObjects_cons_iff.mp accepted
      obtain ⟨others, othersParsed, same⟩ := induction rest restParsed
      exact ⟨first ++ others, parseObjects_cons_iff.mpr
        ⟨first, others, firstParsed, othersParsed, rfl⟩, same.append_left first⟩
  | swap left right documents =>
      intro objects accepted
      obtain ⟨first, _, firstParsed, others, rfl⟩ :=
        parseObjects_cons_iff.mp accepted
      obtain ⟨second, rest, secondParsed, restParsed, rfl⟩ :=
        parseObjects_cons_iff.mp others
      refine ⟨second ++ (first ++ rest), parseObjects_cons_iff.mpr
        ⟨second, first ++ rest, secondParsed, parseObjects_cons_iff.mpr
          ⟨first, rest, firstParsed, restParsed, rfl⟩, rfl⟩, ?_⟩
      rw [← List.append_assoc, ← List.append_assoc]
      exact List.perm_append_comm.append_right rest
  | trans _ _ earlier later =>
      intro objects accepted
      obtain ⟨middle, middleParsed, middleSame⟩ := later objects accepted
      obtain ⟨others, othersParsed, same⟩ := earlier middle middleParsed
      exact ⟨others, othersParsed, same.trans middleSame⟩

/-- The first role of a document that a binding refers to. -/
def documentRole (binding : BindingObject) (document : Json) :
    Option RoleObject :=
  match parseObjects [document] with
  | .ok objects =>
      (ParsedRbac.ofObjects objects).roles.find? (roleMatches binding)
  | .error _ => none

/-- The role of a binding is the first that a document offers it. -/
theorem find?_roleMatches_eq_findSome? {documents : List Json}
    {objects : List ParsedObject} (binding : BindingObject)
    (accepted : parseObjects documents = .ok objects) :
    (ParsedRbac.ofObjects objects).roles.find? (roleMatches binding) =
      documents.findSome? (documentRole binding) := by
  induction documents generalizing objects with
  | nil =>
      cases accepted
      rfl
  | cons document documents induction =>
      obtain ⟨first, rest, firstParsed, restParsed, rfl⟩ :=
        parseObjects_cons_iff.mp accepted
      have roles : (ParsedRbac.ofObjects (first ++ rest)).roles =
          (ParsedRbac.ofObjects first).roles ++
            (ParsedRbac.ofObjects rest).roles := List.filterMap_append
      have offered : documentRole binding document =
          (ParsedRbac.ofObjects first).roles.find? (roleMatches binding) := by
        simp only [documentRole, firstParsed]
      rw [roles, List.find?_append, induction restParsed,
        List.findSome?_cons, ← offered]
      cases documentRole binding document with
      | none => rfl
      | some role => rfl

/-- The role grants the key through the binding. -/
def RoleGrants (key : PermissionKey) (binding : BindingObject)
    (role : RoleObject) : Prop :=
  ∃ rule ∈ role.rules, RuleGrants (bindingScope binding) rule key

/-- The bindings of an account. -/
def bindingsOf (parsed : ParsedRbac) (account : ServiceAccountRef) :
    Set BindingObject :=
  {binding | binding ∈ parsed.bindings ∧ account ∈ binding.subjects}

/-- An account has a key when one of its bindings is lucky with the first role
that a document offers. -/
theorem mem_keys_resolve_documents_iff {documents : List Json}
    {parsed : ParsedRbac} (accepted : parseRbac documents = .ok parsed)
    {account : ServiceAccountRef} {key : PermissionKey} :
    key ∈ (resolveEffectivePolicy parsed account).keys ↔
      Granted documentRole (RoleGrants key) (bindingsOf parsed account)
        documents := by
  obtain ⟨objects, objectsParsed, rfl⟩ := parseRbac_eq_ok_iff.mp accepted
  rw [mem_keys_resolve_iff]
  constructor
  · intro ⟨binding, bound, subject, role, found, granted⟩
    rw [find?_roleMatches_eq_findSome? binding objectsParsed] at found
    exact ⟨binding, ⟨bound, subject⟩, role, found, granted⟩
  · intro ⟨binding, ⟨bound, subject⟩, role, found, granted⟩
    rw [← find?_roleMatches_eq_findSome? binding objectsParsed] at found
    exact ⟨binding, bound, subject, role, found, granted⟩

theorem parseRbac_perm {documents permuted : List Json} {parsed : ParsedRbac}
    (accepted : parseRbac documents = .ok parsed)
    (permutation : permuted.Perm documents) :
    ∃ reparsed, parseRbac permuted = .ok reparsed ∧
      ∀ account, bindingsOf reparsed account = bindingsOf parsed account := by
  obtain ⟨objects, objectsParsed, rfl⟩ := parseRbac_eq_ok_iff.mp accepted
  obtain ⟨others, othersParsed, same⟩ :=
    parseObjects_perm permutation objects objectsParsed
  refine ⟨_, parseRbac_eq_ok_iff.mpr ⟨others, othersParsed, rfl⟩, ?_⟩
  intro account
  ext binding
  simp only [bindingsOf, Set.mem_ofPred_eq, ParsedRbac.mem_bindings_ofObjects,
    same.mem_iff]

/-- No order hides a permission: whenever some document would grant a key to an
account first, the account has bindings among which every document that offers
one of them a role lets one of them grant the key. -/
def Unhidden (documents : List Json) (parsed : ParsedRbac) : Prop :=
  ∀ account key,
    (∃ binding ∈ bindingsOf parsed account, ∃ document ∈ documents,
      Favours documentRole (RoleGrants key) binding document) →
    ∃ family ⊆ bindingsOf parsed account,
      Unavoidable documentRole (RoleGrants key) family documents

/-- A manifest means the same in every order of its documents exactly when no
order hides a permission behind a role of the same name. -/
theorem manifest_order_irrelevant_iff {documents : List Json}
    {parsed : ParsedRbac} (accepted : parseRbac documents = .ok parsed) :
    (∀ permuted, permuted.Perm documents →
      ∃ reparsed, parseRbac permuted = .ok reparsed ∧
        ∀ account, (resolveEffectivePolicy reparsed account).keys =
          (resolveEffectivePolicy parsed account).keys) ↔
      Unhidden documents parsed := by
  have sameKeys_iff : ∀ {permuted : List Json} {reparsed : ParsedRbac},
      parseRbac permuted = .ok reparsed →
      (∀ account, bindingsOf reparsed account = bindingsOf parsed account) →
      ∀ account key,
        (key ∈ (resolveEffectivePolicy reparsed account).keys ↔
          Granted documentRole (RoleGrants key) (bindingsOf parsed account)
            permuted) := by
    intro permuted reparsed reparsedOk sameBindings account key
    rw [mem_keys_resolve_documents_iff reparsedOk, sameBindings account]
  have original := sameKeys_iff accepted fun _ => rfl
  constructor
  · intro same account key
    apply granted_perm_iff.mp
    intro permuted permutation
    obtain ⟨_, reparsedOk, sameKeys⟩ := same permuted permutation
    obtain ⟨reparsed, again, sameBindings⟩ :=
      parseRbac_perm accepted permutation
    rw [reparsedOk] at again
    cases again
    rw [← sameKeys_iff reparsedOk sameBindings account key,
      ← original account key, sameKeys account]
  · intro unhidden permuted permutation
    obtain ⟨reparsed, reparsedOk, sameBindings⟩ :=
      parseRbac_perm accepted permutation
    refine ⟨reparsed, reparsedOk, ?_⟩
    intro account
    ext key
    rw [sameKeys_iff reparsedOk sameBindings account key, original account key]
    exact granted_perm_iff.mpr (unhidden account key) permuted permutation

/-- Roles of one name may be repeated as long as they grant the same. -/
theorem unhidden_of_sameGrants {documents : List Json} {parsed : ParsedRbac}
    (same : ∀ binding ∈ parsed.bindings,
      ∀ left ∈ documents, ∀ right ∈ documents, ∀ first second,
        documentRole binding left = some first →
        documentRole binding right = some second →
        ∀ key, RoleGrants key binding first → RoleGrants key binding second) :
    Unhidden documents parsed := by
  intro account key ⟨binding, bound, document, present, role, offered, granted⟩
  refine ⟨{binding}, fun _ member => member ▸ bound, ?_, ?_⟩
  · refine ⟨binding, rfl, document, present, ?_⟩
    rw [offered]
    exact Option.some_ne_none role
  · rintro _ rfl other otherPresent otherOffered
    obtain ⟨second, found⟩ := Option.ne_none_iff_exists'.mp otherOffered
    exact ⟨_, rfl, second, found,
      same _ bound.1 document present other otherPresent role second offered
        found key granted⟩

def readerRole (verb : String) : Json :=
  .mapping [("kind", .string "Role"),
    ("metadata", .mapping [("name", .string "reader"),
      ("namespace", .string "shop")]),
    ("rules", .list [.mapping [("apiGroups", .list [.string ""]),
      ("resources", .list [.string "pods"]),
      ("verbs", .list [.string verb])]])]

def readerBinding : Json :=
  .mapping [("kind", .string "RoleBinding"),
    ("metadata", .mapping [("name", .string "readers"),
      ("namespace", .string "shop")]),
    ("roleRef", .mapping [
      ("apiGroup", .string "rbac.authorization.k8s.io"),
      ("kind", .string "Role"), ("name", .string "reader")]),
    ("subjects", .list [.mapping [("kind", .string "ServiceAccount"),
      ("name", .string "web")]])]

def readersRbac (verbs : List String) : ParsedRbac where
  roles := verbs.map fun verb =>
    ⟨"reader", some "shop", [⟨[""], ["pods"], [verb], []⟩], false⟩
  bindings :=
    [⟨"readers", some "shop", "reader", .role, [⟨"web", "shop"⟩], false⟩]

/-- Two roles of one name: the order decides which one counts. -/
theorem repeated_role_depends_on_order :
    ∃ parsed reparsed account,
      parseRbac [readerRole "get", readerRole "list", readerBinding] =
        .ok parsed ∧
      parseRbac [readerRole "list", readerRole "get", readerBinding] =
        .ok reparsed ∧
      (resolveEffectivePolicy reparsed account).keys ≠
        (resolveEffectivePolicy parsed account).keys := by
  refine ⟨readersRbac ["get", "list"], readersRbac ["list", "get"],
    ⟨"web", "shop"⟩, rfl, rfl, ?_⟩
  intro same
  have listed : ("", "pods", "list", some "shop", none) ∈
      (resolveEffectivePolicy (readersRbac ["get", "list"])
        ⟨"web", "shop"⟩).keys := by
    rw [← same, Policy.mem_keys]
    decide
  rw [Policy.mem_keys] at listed
  revert listed
  decide

/-- A manifest that names its role once may be reordered. -/
theorem manifest_order_irrelevant_reader :
    ∃ parsed, parseRbac [readerRole "get", readerBinding] = .ok parsed ∧
      ∀ permuted, permuted.Perm [readerRole "get", readerBinding] →
        ∃ reparsed, parseRbac permuted = .ok reparsed ∧
          ∀ account, (resolveEffectivePolicy reparsed account).keys =
            (resolveEffectivePolicy parsed account).keys := by
  refine ⟨_, rfl, (manifest_order_irrelevant_iff rfl).mpr
    (unhidden_of_sameGrants ?_)⟩
  intro binding _ left leftPresent right rightPresent first second
    leftOffered rightOffered key granted
  have once : ∀ document ∈ [readerRole "get", readerBinding], ∀ role,
      documentRole binding document = some role →
        document = readerRole "get" := by
    intro document present role offered
    rcases List.mem_cons.mp present with same | later
    · exact same
    · rw [List.mem_singleton.mp later] at offered
      cases offered
  rw [once left leftPresent first leftOffered] at leftOffered
  rw [once right rightPresent second rightOffered, leftOffered] at rightOffered
  cases rightOffered
  exact granted

end Kuber.Rules

import Kuber.Library.Canonical
import Kuber.Rules.Document

/-!
# Documents up to the order of their names

Dictionaries are equal when they have the same entries, in whatever order.
Sorting the names at every depth, as `json.dumps` does on request, gives a
canonical form of this equality.
-/

namespace Kuber.Rules

open Kuber.Library

namespace Json

mutual

/-- The value with the names of every mapping in it sorted. -/
def sortKeys : Json → Json
  | .list items => .list (sortItems items)
  | .mapping fields => .mapping (sortBy Prod.fst (sortFields fields))
  | value => value

def sortItems : List Json → List Json
  | [] => []
  | item :: items => sortKeys item :: sortItems items

def sortFields : List (String × Json) → List (String × Json)
  | [] => []
  | (name, value) :: fields => (name, sortKeys value) :: sortFields fields

end

theorem sortItems_eq_map (items : List Json) :
    sortItems items = items.map sortKeys := by
  induction items with
  | nil => rfl
  | cons item items induction => rw [sortItems, induction, List.map_cons]

theorem sortFields_eq_map (fields : List (String × Json)) :
    sortFields fields =
      fields.map fun field => (field.1, sortKeys field.2) := by
  induction fields with
  | nil => rfl
  | cons field fields induction =>
      obtain ⟨name, value⟩ := field
      rw [sortFields, induction, List.map_cons]

/-- Equality of the values that a loader returns. -/
def Same (left right : Json) : Prop := left.sortKeys = right.sortKeys

theorem Same.refl (value : Json) : value.Same value := rfl

theorem Same.symm {left right : Json} (same : left.Same right) :
    right.Same left := Eq.symm same

theorem Same.trans {left middle right : Json} (first : left.Same middle)
    (second : middle.Same right) : left.Same right := Eq.trans first second

/-- A value that has no names to sort. -/
def Scalar : Json → Prop
  | list _ => False
  | mapping _ => False
  | _ => True

theorem Same.eq_of_scalar {value scalar : Json} (same : value.Same scalar)
    (plain : scalar.Scalar) : value = scalar := by
  rw [Same] at same
  cases scalar with
  | list => cases plain
  | mapping => cases plain
  | _ => cases value <;> simp_all [sortKeys]

end Json

/-- The entries of a mapping, sorted at every depth. -/
def Document.sorted (document : Document) : Document :=
  sortBy Prod.fst (Json.sortFields document)

namespace Document

theorem lookup_sorted (document : Document) (name : String) :
    List.lookup name document.sorted =
      (List.lookup name document).map Json.sortKeys := by
  rw [sorted, lookup_sortBy, Json.sortFields_eq_map]
  induction document with
  | nil => rfl
  | cons field document induction =>
      obtain ⟨fieldName, value⟩ := field
      rw [List.map_cons, List.lookup_cons, List.lookup_cons, induction]
      cases name == fieldName with
      | true => rfl
      | false => rfl

theorem field_sorted (document : Document) (name : String) :
    document.sorted.field name = (document.field name).sortKeys := by
  rw [field, field, lookup_sorted]
  cases List.lookup name document with
  | none => rfl
  | some value => rfl

theorem fieldD_sorted (document : Document) (name : String) (default : Json) :
    document.sorted.fieldD name default.sortKeys =
      (document.fieldD name default).sortKeys := by
  rw [fieldD, fieldD, lookup_sorted]
  cases List.lookup name document with
  | none => rfl
  | some value => rfl

/-- Equality of dictionaries. -/
def Same (left right : Document) : Prop := left.sorted = right.sorted

theorem Same.refl (document : Document) : document.Same document := rfl

theorem Same.symm {left right : Document} (same : left.Same right) :
    right.Same left := Eq.symm same

theorem Same.trans {left middle right : Document} (first : left.Same middle)
    (second : middle.Same right) : left.Same right := Eq.trans first second

theorem same_mapping_iff {left right : Document} :
    (Json.mapping left).Same (.mapping right) ↔ left.Same right := by
  rw [Json.Same, Json.sortKeys, Json.sortKeys, Json.mapping.injEq]
  rfl

theorem mapping_of_same {value : Json} {fields : Document}
    (same : value.Same (.mapping fields)) :
    ∃ entries : Document, value = .mapping entries ∧ entries.Same fields := by
  cases value with
  | mapping entries => exact ⟨entries, rfl, same_mapping_iff.mp same⟩
  | _ => simp [Json.Same, Json.sortKeys] at same

theorem Same.lookup {left right : Document} (same : left.Same right)
    (name : String) :
    (List.lookup name left).map Json.sortKeys =
      (List.lookup name right).map Json.sortKeys := by
  rw [← lookup_sorted, ← lookup_sorted, same]

theorem Same.lookup_scalar {left right : Document} {value : Json}
    (same : left.Same right) (name : String)
    (found : List.lookup name right = some value) (plain : value.Scalar) :
    List.lookup name left = some value := by
  have values := same.lookup name
  rw [found] at values
  obtain ⟨other, here, sameValue⟩ := Option.map_eq_some_iff.mp values
  rw [here, Json.Same.eq_of_scalar sameValue plain]

theorem Same.field_scalar {left right : Document} (same : left.Same right)
    (name : String) (plain : (right.field name).Scalar) :
    left.field name = right.field name := by
  apply Json.Same.eq_of_scalar _ plain
  rw [Json.Same, ← field_sorted, ← field_sorted, same]

theorem Same.lookup_mapping {left right fields : Document}
    (same : left.Same right) (name : String)
    (found : List.lookup name right = some (.mapping fields)) :
    ∃ entries : Document, List.lookup name left = some (.mapping entries) ∧
      entries.Same fields := by
  have values := same.lookup name
  rw [found] at values
  obtain ⟨other, here, sameValue⟩ := Option.map_eq_some_iff.mp values
  obtain ⟨entries, rfl, sameFields⟩ := mapping_of_same sameValue
  exact ⟨entries, here, sameFields⟩

theorem same_iff_lookup {left right : Document}
    (leftDistinct : (left.map Prod.fst).Nodup)
    (rightDistinct : (right.map Prod.fst).Nodup) :
    left.Same right ↔ ∀ name,
      (List.lookup name left).map Json.sortKeys =
        (List.lookup name right).map Json.sortKeys := by
  refine ⟨Same.lookup, fun sameValues => ?_⟩
  have names : ∀ document : Document,
      (Json.sortFields document).map Prod.fst = document.map Prod.fst := by
    intro document
    rw [Json.sortFields_eq_map, List.map_map]
    rfl
  have entries : ∀ {document : Document}, (document.map Prod.fst).Nodup →
      ∀ entry, entry ∈ Json.sortFields document ↔
        (List.lookup entry.1 document).map Json.sortKeys = some entry.2 := by
    intro document distinct ⟨name, value⟩
    rw [← lookup_sorted, sorted, lookup_sortBy]
    have unique := names document ▸ distinct
    constructor
    · intro member
      obtain ⟨before, after, split⟩ := List.append_of_mem member
      apply List.lookup_eq_some_iff.mpr
      refine ⟨before, after, split, ?_⟩
      intro other earlier
      rw [split, List.map_append, List.nodup_append] at unique
      have different := unique.2.2 other.1 (List.mem_map_of_mem earlier) name
        (by simp)
      simpa using Ne.symm different
    · intro found
      obtain ⟨before, after, split, -⟩ := List.lookup_eq_some_iff.mp found
      rw [split]
      simp
  have permuted : (Json.sortFields left).Perm (Json.sortFields right) := by
    apply (List.perm_ext_iff_of_nodup
      (List.Nodup.of_map Prod.fst (names left ▸ leftDistinct))
      (List.Nodup.of_map Prod.fst (names right ▸ rightDistinct))).mpr
    intro entry
    rw [entries leftDistinct, entries rightDistinct, sameValues]
  exact sortBy_eq_of_perm permuted (names left ▸ leftDistinct)

end Document

end Kuber.Rules

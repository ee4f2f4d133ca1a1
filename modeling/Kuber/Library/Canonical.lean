import Mathlib.Data.List.Sort
import Kuber.Library.OrderedDict

/-!
# Sorting and deduplicating by a key

`uniqueBy` keeps, for every key, the last item carrying it at the position of
the first; `sortBy` is a stable sort.  Only membership, distinctness and
order are exposed: later results never look at the algorithms.
-/

namespace Kuber.Library

variable {α κ : Type}

/-- Stable sort by a key. -/
def sortBy [LinearOrder κ] (key : α → κ) (items : List α) : List α :=
  items.insertionSort (fun left right => key left ≤ key right)

theorem sortBy_perm [LinearOrder κ] (key : α → κ) (items : List α) :
    (sortBy key items).Perm items :=
  List.perm_insertionSort _ items

@[simp] theorem mem_sortBy [LinearOrder κ] {key : α → κ} {items : List α}
    {item : α} : item ∈ sortBy key items ↔ item ∈ items :=
  (sortBy_perm key items).mem_iff

theorem sortBy_ordered [LinearOrder κ] (key : α → κ) (items : List α) :
    (sortBy key items).Pairwise (fun left right => key left ≤ key right) :=
  haveI : Std.Total (fun left right : α => key left ≤ key right) :=
    ⟨fun left right => le_total (key left) (key right)⟩
  haveI : IsTrans α (fun left right => key left ≤ key right) :=
    ⟨fun _ _ _ => le_trans⟩
  List.pairwise_insertionSort _ items

theorem sortBy_eq_self [LinearOrder κ] {key : α → κ} {items : List α}
    (ordered : items.Pairwise (fun left right => key left ≤ key right)) :
    sortBy key items = items :=
  ordered.insertionSort_eq

/-- Sorting depends on the items only, where they have different keys. -/
theorem sortBy_eq_of_perm [LinearOrder κ] {key : α → κ} {left right : List α}
    (permuted : left.Perm right) (distinct : (left.map key).Nodup) :
    sortBy key left = sortBy key right := by
  have sameItems : (sortBy key left).Perm (sortBy key right) :=
    ((sortBy_perm key left).trans permuted).trans (sortBy_perm key right).symm
  refine sameItems.eq_of_pairwise ?_ (sortBy_ordered key left)
    (sortBy_ordered key right)
  intro first second firstMember secondMember below above
  exact List.inj_on_of_nodup_map distinct (mem_sortBy.mp firstMember)
    (permuted.mem_iff.mpr (mem_sortBy.mp secondMember))
    (le_antisymm below above)

theorem sortBy_map [LinearOrder κ] {β : Type} {key : β → κ}
    {function : α → β} {items : List α} :
    sortBy key (items.map function) =
      (sortBy (key ∘ function) items).map function := by
  exact (List.map_insertionSort _ _ function items
    fun _ _ _ _ => Iff.rfl).symm

theorem lookup_sortBy [LinearOrder κ] {ν : Type} (entries : List (κ × ν))
    (name : κ) :
    (sortBy Prod.fst entries).lookup name = entries.lookup name := by
  let order := fun left right : κ × ν => left.1 ≤ right.1
  have inserted : ∀ (entry : κ × ν) (others : List (κ × ν)),
      (List.orderedInsert order entry others).lookup name =
        (entry :: others).lookup name := by
    intro ⟨entryName, value⟩ others
    induction others with
    | nil => rfl
    | cons first others induction =>
        obtain ⟨firstName, firstValue⟩ := first
        rw [List.orderedInsert_cons order]
        by_cases before : order (entryName, value) (firstName, firstValue)
        · rw [if_pos before]
        · rw [if_neg before, List.lookup_cons, induction]
          have different : entryName ≠ firstName :=
            fun same => before (le_of_eq same)
          by_cases here : name = firstName
          · have other : (firstName == entryName) = false :=
              beq_false_of_ne (Ne.symm different)
            simp only [List.lookup_cons, here, beq_self_eq_true, other]
          · have absent : (name == firstName) = false := beq_false_of_ne here
            simp only [List.lookup_cons, absent]
  induction entries with
  | nil => rfl
  | cons entry entries induction =>
      change (List.orderedInsert order entry
        (sortBy Prod.fst entries)).lookup name = _
      rw [inserted, List.lookup_cons, List.lookup_cons, induction]

/-- One item for every key occurring in the list. -/
def uniqueBy [DecidableEq κ] (key : α → κ) (items : List α) : List α :=
  (OrderedDict.ofList (items.map (fun item => (key item, item)))).values

private theorem uniqueBy_get?_eq_some [DecidableEq κ] {key : α → κ}
    {items : List α} {wanted : κ} {item : α}
    (found : (OrderedDict.ofList
      (items.map (fun item => (key item, item)))).get? wanted = some item) :
    item ∈ items ∧ key item = wanted := by
  simp only [OrderedDict.ofList, OrderedDict.get?_setAll,
    OrderedDict.get?_empty, Option.or_none, Option.map_eq_some_iff] at found
  obtain ⟨⟨entryKey, entryItem⟩, search, rfl⟩ := found
  have sameKey : entryKey = wanted := by
    simpa using List.find?_some search
  have member := List.mem_of_find?_eq_some search
  simp only [List.mem_reverse, List.mem_map, Prod.mk.injEq] at member
  obtain ⟨original, originalMember, keyEquality, rfl⟩ := member
  exact ⟨originalMember, keyEquality.trans sameKey⟩

theorem mem_of_mem_uniqueBy [DecidableEq κ] {key : α → κ} {items : List α}
    {item : α} (member : item ∈ uniqueBy key items) : item ∈ items := by
  obtain ⟨_, found⟩ := OrderedDict.mem_values_iff.mp member
  exact (uniqueBy_get?_eq_some found).1

theorem mem_map_uniqueBy_iff [DecidableEq κ] {key : α → κ} {items : List α}
    {wanted : κ} :
    wanted ∈ (uniqueBy key items).map key ↔ wanted ∈ items.map key := by
  constructor
  · intro member
    obtain ⟨item, itemMember, rfl⟩ := List.mem_map.mp member
    exact List.mem_map_of_mem (mem_of_mem_uniqueBy itemMember)
  · intro member
    obtain ⟨item, itemMember, rfl⟩ := List.mem_map.mp member
    cases found : (OrderedDict.ofList
        (items.map (fun item => (key item, item)))).get? (key item) with
    | some kept =>
        have sameKey := (uniqueBy_get?_eq_some found).2
        rw [← sameKey]
        exact List.mem_map_of_mem (OrderedDict.mem_values_iff.mpr ⟨_, found⟩)
    | none =>
        simp only [OrderedDict.ofList, OrderedDict.get?_setAll,
          OrderedDict.get?_empty, Option.or_none, Option.map_eq_none_iff,
          List.find?_eq_none, List.mem_reverse, List.mem_map,
          decide_eq_true_eq] at found
        exact absurd rfl (found (key item, item) ⟨item, itemMember, rfl⟩)

/-- Deduplication keeps the last item of every key. -/
theorem mem_uniqueBy_iff [DecidableEq κ] {key : α → κ} {items : List α}
    {item : α} : item ∈ uniqueBy key items ↔
      items.reverse.find? (fun other => decide (key other = key item)) =
        some item := by
  have lookup : (OrderedDict.ofList
      (items.map (fun item => (key item, item)))).get? (key item) =
        items.reverse.find? (fun other => decide (key other = key item)) := by
    rw [OrderedDict.ofList, OrderedDict.get?_setAll, OrderedDict.get?_empty,
      Option.or_none, ← List.map_reverse, List.find?_map, Option.map_map]
    exact Option.map_id'
  rw [← lookup]
  constructor
  · intro member
    obtain ⟨wanted, found⟩ := OrderedDict.mem_values_iff.mp member
    rw [(uniqueBy_get?_eq_some found).2]
    exact found
  · intro found
    exact OrderedDict.mem_values_iff.mpr ⟨key item, found⟩

theorem mem_uniqueBy_append [DecidableEq κ] {key : α → κ}
    {earlier later : List α} {item : α} :
    item ∈ uniqueBy key (earlier ++ later) ↔
      item ∈ uniqueBy key later ∨
        item ∈ uniqueBy key earlier ∧ key item ∉ later.map key := by
  rw [mem_uniqueBy_iff, mem_uniqueBy_iff, mem_uniqueBy_iff,
    List.reverse_append, List.find?_append]
  cases found : later.reverse.find?
      (fun other => decide (key other = key item)) with
  | some kept =>
      have member := List.mem_reverse.mp (List.mem_of_find?_eq_some found)
      have sameKey : key kept = key item := by
        simpa using List.find?_some found
      have present : key item ∈ later.map key :=
        sameKey ▸ List.mem_map_of_mem member
      simp [present]
  | none =>
      have absent : key item ∉ later.map key := by
        intro present
        obtain ⟨other, member, sameKey⟩ := List.mem_map.mp present
        have different := List.find?_eq_none.mp found other
          (List.mem_reverse.mpr member)
        simp [sameKey] at different
      simp [absent]

theorem mem_uniqueBy_of_functional [DecidableEq κ] {key : α → κ}
    {items : List α} {item : α}
    (functional : ∀ left ∈ items, ∀ right ∈ items,
      key left = key right → left = right) :
    item ∈ uniqueBy key items ↔ item ∈ items := by
  refine ⟨mem_of_mem_uniqueBy, fun member => ?_⟩
  have keyKept : key item ∈ (uniqueBy key items).map key :=
    mem_map_uniqueBy_iff.mpr (List.mem_map_of_mem member)
  obtain ⟨kept, keptMember, sameKey⟩ := List.mem_map.mp keyKept
  have same := functional kept (mem_of_mem_uniqueBy keptMember) item member
    sameKey
  exact same ▸ keptMember

theorem map_uniqueBy_eq_keys [DecidableEq κ] (key : α → κ) (items : List α) :
    (uniqueBy key items).map key =
      (OrderedDict.ofList (items.map (fun item => (key item, item)))).keys := by
  simp only [uniqueBy, OrderedDict.values, OrderedDict.keys, List.map_map]
  apply List.map_congr_left
  intro entry member
  exact (uniqueBy_get?_eq_some (OrderedDict.get?_eq_some_iff.mpr member)).2

theorem uniqueBy_keysNodup [DecidableEq κ] (key : α → κ) (items : List α) :
    ((uniqueBy key items).map key).Nodup := by
  rw [map_uniqueBy_eq_keys]
  exact OrderedDict.keysNodup _

theorem uniqueBy_eq_self [DecidableEq κ] {key : α → κ} {items : List α}
    (distinct : (items.map key).Nodup) : uniqueBy key items = items := by
  have sameKeys : (items.map (fun item => (key item, item))).map Prod.fst =
      items.map key := by
    rw [List.map_map]
    rfl
  rw [uniqueBy, OrderedDict.values,
    OrderedDict.entries_ofList (sameKeys ▸ distinct), List.map_map]
  exact List.map_id items

/-- `tuple(sorted(set(items)))`. -/
def sortedSet [LinearOrder α] (items : List α) : List α :=
  sortBy id (uniqueBy id items)

theorem mem_sortedSet [LinearOrder α] {items : List α} {item : α} :
    item ∈ sortedSet items ↔ item ∈ items := by
  have kept := @mem_map_uniqueBy_iff α α _ id items item
  rwa [List.map_id, List.map_id, ← @mem_sortBy α α _ id] at kept

theorem sortedSet_eq_iff [LinearOrder α] {left right : List α} :
    sortedSet left = sortedSet right ↔
      ∀ item, item ∈ left ↔ item ∈ right := by
  constructor
  · intro same item
    rw [← mem_sortedSet, same, mem_sortedSet]
  · intro same
    have distinct : ∀ items : List α, (sortedSet items).Nodup := by
      intro items
      have unique := uniqueBy_keysNodup id items
      rw [List.map_id] at unique
      exact (sortBy_perm id (uniqueBy id items)).nodup_iff.mpr unique
    have permuted : (sortedSet left).Perm (sortedSet right) := by
      rw [List.perm_ext_iff_of_nodup (distinct left) (distinct right)]
      intro item
      rw [mem_sortedSet, mem_sortedSet]
      exact same item
    exact permuted.eq_of_pairwise (fun _ _ _ _ => le_antisymm)
      (sortBy_ordered id (uniqueBy id left))
      (sortBy_ordered id (uniqueBy id right))

end Kuber.Library

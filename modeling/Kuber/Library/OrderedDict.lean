import Mathlib.Algebra.GroupWithZero.Nat
import Mathlib.Data.List.Induction
import Mathlib.Data.List.Nodup

/-!
# Insertion-ordered dictionaries

A dictionary keeps its entries in the order in which their keys were first
inserted; writing to a present key replaces the value in place.  The absence
of repeated keys is a field, so every operation returns a dictionary.
-/

namespace Kuber.Library

variable {κ ν : Type}

/-- Write one entry: replace the value of a present key, or append. -/
def setEntry [DecidableEq κ] (key : κ) (value : ν) :
    List (κ × ν) → List (κ × ν)
  | [] => [(key, value)]
  | entry :: rest =>
      if entry.1 = key then (key, value) :: rest
      else entry :: setEntry key value rest

theorem mem_setEntry_iff [DecidableEq κ] {key : κ} {value : ν}
    {entries : List (κ × ν)} (distinct : (entries.map Prod.fst).Nodup)
    {entry : κ × ν} :
    entry ∈ setEntry key value entries ↔
      entry = (key, value) ∨ (entry ∈ entries ∧ entry.1 ≠ key) := by
  induction entries with
  | nil => simp [setEntry]
  | cons head tail induction =>
      simp only [List.map_cons, List.nodup_cons] at distinct
      obtain ⟨headFresh, tailDistinct⟩ := distinct
      by_cases same : head.1 = key
      · have tailOther : ∀ item ∈ tail, item.1 ≠ key := by
          intro item member equality
          apply headFresh
          rw [same, ← equality]
          exact List.mem_map_of_mem member
        simp only [setEntry, if_pos same, List.mem_cons]
        constructor
        · rintro (first | later)
          · exact Or.inl first
          · exact Or.inr ⟨Or.inr later, tailOther entry later⟩
        · rintro (first | ⟨first | later, other⟩)
          · exact Or.inl first
          · exact absurd (first ▸ same) other
          · exact Or.inr later
      · simp only [setEntry, if_neg same, List.mem_cons,
          induction tailDistinct]
        constructor
        · rintro (first | written | ⟨later, other⟩)
          · exact Or.inr ⟨Or.inl first, first ▸ same⟩
          · exact Or.inl written
          · exact Or.inr ⟨Or.inr later, other⟩
        · rintro (written | ⟨first | later, other⟩)
          · exact Or.inr (Or.inl written)
          · exact Or.inl first
          · exact Or.inr (Or.inr ⟨later, other⟩)

private theorem mem_keys_setEntry [DecidableEq κ] {key other : κ} {value : ν}
    {entries : List (κ × ν)} :
    other ∈ (setEntry key value entries).map Prod.fst ↔
      other = key ∨ other ∈ entries.map Prod.fst := by
  induction entries with
  | nil => simp [setEntry]
  | cons head tail induction =>
      by_cases same : head.1 = key
      · simp [setEntry, same]
      · simp only [setEntry, if_neg same, List.map_cons, List.mem_cons,
          induction]
        tauto

private theorem setEntry_keysNodup [DecidableEq κ] {key : κ} {value : ν}
    {entries : List (κ × ν)} (distinct : (entries.map Prod.fst).Nodup) :
    ((setEntry key value entries).map Prod.fst).Nodup := by
  induction entries with
  | nil => simp [setEntry]
  | cons head tail induction =>
      simp only [List.map_cons, List.nodup_cons] at distinct
      obtain ⟨headFresh, tailDistinct⟩ := distinct
      by_cases same : head.1 = key
      · simp only [setEntry, if_pos same, List.map_cons, List.nodup_cons]
        exact ⟨same ▸ headFresh, tailDistinct⟩
      · simp only [setEntry, if_neg same, List.map_cons, List.nodup_cons]
        refine ⟨?_, induction tailDistinct⟩
        intro member
        rcases mem_keys_setEntry.mp member with equality | older
        · exact same equality
        · exact headFresh older

private theorem setEntry_of_fresh [DecidableEq κ] {key : κ} {value : ν}
    {entries : List (κ × ν)} (fresh : key ∉ entries.map Prod.fst) :
    setEntry key value entries = entries ++ [(key, value)] := by
  induction entries with
  | nil => rfl
  | cons head tail induction =>
      simp only [List.map_cons, List.mem_cons, not_or] at fresh
      have other : ¬head.1 = key := fun same => fresh.1 same.symm
      rw [setEntry, if_neg other, induction fresh.2, List.cons_append]

/-- Entries in insertion order, no key twice. -/
structure OrderedDict (κ ν : Type) where
  entries : List (κ × ν)
  keysNodup : (entries.map Prod.fst).Nodup

namespace OrderedDict

def empty : OrderedDict κ ν := ⟨[], List.nodup_nil⟩

def keys (dict : OrderedDict κ ν) : List κ := dict.entries.map Prod.fst

def values (dict : OrderedDict κ ν) : List ν := dict.entries.map Prod.snd

/-- Change every value, in place. -/
def mapValues (function : κ → ν → ν) (dict : OrderedDict κ ν) :
    OrderedDict κ ν where
  entries := dict.entries.map fun entry =>
    (entry.1, function entry.1 entry.2)
  keysNodup := by
    rw [List.map_map]
    exact dict.keysNodup

variable [DecidableEq κ]

def get? (dict : OrderedDict κ ν) (key : κ) : Option ν :=
  (dict.entries.find? (fun entry => decide (entry.1 = key))).map Prod.snd

def set (dict : OrderedDict κ ν) (key : κ) (value : ν) : OrderedDict κ ν :=
  ⟨setEntry key value dict.entries, setEntry_keysNodup dict.keysNodup⟩

def erase (dict : OrderedDict κ ν) (key : κ) : OrderedDict κ ν :=
  ⟨dict.entries.filter (fun entry => decide (entry.1 ≠ key)),
    (List.filter_sublist.map Prod.fst).nodup dict.keysNodup⟩

/-- Insert a list of entries from left to right; later values win. -/
def setAll (dict : OrderedDict κ ν) (entries : List (κ × ν)) :
    OrderedDict κ ν :=
  entries.foldl (fun current entry => current.set entry.1 entry.2) dict

def ofList (entries : List (κ × ν)) : OrderedDict κ ν := empty.setAll entries

theorem get?_eq_some_iff {dict : OrderedDict κ ν} {key : κ} {value : ν} :
    dict.get? key = some value ↔ (key, value) ∈ dict.entries := by
  obtain ⟨entries, distinct⟩ := dict
  simp only [get?, Option.map_eq_some_iff]
  constructor
  · rintro ⟨⟨foundKey, foundValue⟩, found, rfl⟩
    have sameKey : foundKey = key := by
      simpa using List.find?_some found
    exact sameKey ▸ List.mem_of_find?_eq_some found
  · intro member
    cases found : entries.find? (fun entry => decide (entry.1 = key)) with
    | none =>
        have absent := List.find?_eq_none.mp found (key, value) member
        simp at absent
    | some entry =>
        have sameKey : entry.1 = key := by simpa using List.find?_some found
        have entryMember := List.mem_of_find?_eq_some found
        refine ⟨entry, rfl, ?_⟩
        have equality :=
          List.inj_on_of_nodup_map distinct entryMember member sameKey
        simp [equality]

theorem mem_values_iff {dict : OrderedDict κ ν} {value : ν} :
    value ∈ dict.values ↔ ∃ key, dict.get? key = some value := by
  simp [values, get?_eq_some_iff]

@[simp] theorem get?_empty (key : κ) :
    (empty : OrderedDict κ ν).get? key = none := rfl

@[simp] theorem get?_set_self (dict : OrderedDict κ ν) (key : κ)
    (value : ν) : (dict.set key value).get? key = some value := by
  rw [get?_eq_some_iff]
  exact (mem_setEntry_iff dict.keysNodup).mpr (Or.inl rfl)

theorem get?_set_of_ne (dict : OrderedDict κ ν) {key other : κ}
    (value : ν) (different : other ≠ key) :
    (dict.set key value).get? other = dict.get? other := by
  ext found
  rw [get?_eq_some_iff, get?_eq_some_iff]
  constructor
  · intro member
    rcases (mem_setEntry_iff dict.keysNodup).mp member with written | older
    · exact absurd (congrArg Prod.fst written) different
    · exact older.1
  · intro member
    exact (mem_setEntry_iff dict.keysNodup).mpr (Or.inr ⟨member, different⟩)

theorem get?_set (dict : OrderedDict κ ν) (key other : κ) (value : ν) :
    (dict.set key value).get? other =
      if other = key then some value else dict.get? other := by
  by_cases same : other = key
  · subst same
    simp
  · simp [same, get?_set_of_ne dict value same]

theorem get?_mapValues (dict : OrderedDict κ ν) (function : κ → ν → ν)
    (key : κ) :
    (dict.mapValues function).get? key =
      (dict.get? key).map (function key) := by
  ext found
  rw [get?_eq_some_iff, Option.map_eq_some_iff]
  constructor
  · intro member
    obtain ⟨⟨other, value⟩, among, same⟩ := List.mem_map.mp member
    cases same
    exact ⟨value, get?_eq_some_iff.mpr among, rfl⟩
  · rintro ⟨value, present, rfl⟩
    exact List.mem_map.mpr ⟨(key, value), get?_eq_some_iff.mp present, rfl⟩

theorem get?_erase (dict : OrderedDict κ ν) (key other : κ) :
    (dict.erase key).get? other =
      if other = key then none else dict.get? other := by
  ext found
  rw [get?_eq_some_iff]
  by_cases same : other = key
  · simp [erase, same]
  · simp [erase, same, get?_eq_some_iff]

theorem get?_setAll (dict : OrderedDict κ ν) (entries : List (κ × ν))
    (key : κ) :
    (dict.setAll entries).get? key =
      ((entries.reverse.find? (fun entry => decide (entry.1 = key))).map
        Prod.snd).or (dict.get? key) := by
  induction entries generalizing dict with
  | nil => simp [setAll]
  | cons entry entries induction =>
      have unfolded : dict.setAll (entry :: entries) =
          (dict.set entry.1 entry.2).setAll entries := rfl
      rw [unfolded, induction, List.reverse_cons, List.find?_append,
        get?_set]
      cases entries.reverse.find? (fun item => decide (item.1 = key)) with
      | some found => simp
      | none =>
          by_cases same : key = entry.1
          · simp [same]
          · have reversed : entry.1 ≠ key := fun equality => same equality.symm
            simp [same, reversed]

theorem mem_of_get?_ofList {entries : List (κ × ν)} {key : κ} {value : ν}
    (found : (ofList entries).get? key = some value) :
    (key, value) ∈ entries := by
  rw [ofList, get?_setAll, get?_empty, Option.or_none,
    Option.map_eq_some_iff] at found
  obtain ⟨⟨name, entry⟩, search, rfl⟩ := found
  have sameKey : name = key := by
    simpa using List.find?_some search
  exact sameKey ▸ List.mem_reverse.mp (List.mem_of_find?_eq_some search)

theorem get?_ofList_of_mem {entries : List (κ × ν)} {key : κ} {value : ν}
    (member : (key, value) ∈ entries) :
    ∃ found, (ofList entries).get? key = some found := by
  rw [ofList, get?_setAll, get?_empty, Option.or_none]
  cases search : entries.reverse.find?
      (fun entry => decide (entry.1 = key)) with
  | some entry => exact ⟨entry.2, rfl⟩
  | none =>
      have absent := List.find?_eq_none.mp search (key, value)
        (List.mem_reverse.mpr member)
      exact absurd (decide_eq_true rfl) absent

private theorem entries_setAll_of_fresh {dict : OrderedDict κ ν}
    {entries : List (κ × ν)}
    (distinct : (dict.keys ++ entries.map Prod.fst).Nodup) :
    (dict.setAll entries).entries = dict.entries ++ entries := by
  induction entries generalizing dict with
  | nil => simp [setAll]
  | cons entry entries induction =>
      have fresh : entry.1 ∉ dict.entries.map Prod.fst := by
        intro member
        exact List.disjoint_of_nodup_append distinct member
          List.mem_cons_self
      have written : (dict.set entry.1 entry.2).entries =
          dict.entries ++ [entry] := setEntry_of_fresh fresh
      have later : ((dict.set entry.1 entry.2).keys ++
          entries.map Prod.fst).Nodup := by
        rw [keys, written, List.map_append, List.append_assoc]
        exact distinct
      have unfolded : dict.setAll (entry :: entries) =
          (dict.set entry.1 entry.2).setAll entries := rfl
      rw [unfolded, induction later, written, List.append_assoc]
      rfl

theorem entries_ofList {entries : List (κ × ν)}
    (distinct : (entries.map Prod.fst).Nodup) :
    (ofList entries).entries = entries :=
  entries_setAll_of_fresh distinct

/-- Collect items under their keys, starting each key from `initial`. -/
def groupFold {α : Type} (key : α → κ) (initial : ν) (add : ν → α → ν)
    (items : List α) : OrderedDict κ ν :=
  items.foldl
    (fun groups item =>
      groups.set (key item) (add ((groups.get? (key item)).getD initial) item))
    empty

/-- A group holds the fold of exactly the items with its key. -/
theorem get?_groupFold {α : Type} (key : α → κ) (initial : ν)
    (add : ν → α → ν) (items : List α) (wanted : κ) :
    (groupFold key initial add items).get? wanted =
      if ∃ item ∈ items, key item = wanted then
        some ((items.filter (fun item => decide (key item = wanted))).foldl
          add initial)
      else none := by
  induction items using List.reverseRecOn with
  | nil => simp [groupFold]
  | append_singleton items item induction =>
      have unfolded : groupFold key initial add (items ++ [item]) =
          (groupFold key initial add items).set (key item)
            (add (((groupFold key initial add items).get?
              (key item)).getD initial) item) := by
        simp [groupFold, List.foldl_append]
      rw [unfolded, get?_set]
      by_cases same : wanted = key item
      · subst same
        have present : ∃ other ∈ items ++ [item], key other = key item :=
          ⟨item, by simp, rfl⟩
        rw [if_pos rfl, if_pos present, induction, List.filter_append]
        by_cases earlier : ∃ other ∈ items, key other = key item
        · simp [if_pos earlier]
        · have noneEarlier :
              items.filter (fun other => decide (key other = key item)) =
                [] := by
            simpa [List.filter_eq_nil_iff] using earlier
          simp [if_neg earlier, noneEarlier]
      · have reversed : key item ≠ wanted := fun equality =>
          same equality.symm
        simp only [if_neg same, induction, List.mem_append,
          List.mem_singleton, List.filter_append]
        simp [reversed, or_and_right, exists_or]

theorem mem_entries_groupFold {α : Type} {key : α → κ} {initial : ν}
    {add : ν → α → ν} {items : List α} {wanted : κ} {group : ν} :
    (wanted, group) ∈ (groupFold key initial add items).entries ↔
      (∃ item ∈ items, key item = wanted) ∧
        group = (items.filter (fun item => decide (key item = wanted))).foldl
          add initial := by
  rw [← get?_eq_some_iff, get?_groupFold]
  by_cases occurs : ∃ item ∈ items, key item = wanted
  · rw [if_pos occurs, Option.some.injEq, eq_comm]
    exact (and_iff_right occurs).symm
  · rw [if_neg occurs]
    simp [occurs]

theorem sum_values_set (measure : ν → Nat) (dict : OrderedDict κ ν) (key : κ)
    (value : ν) :
    ((dict.set key value).values.map measure).sum +
        ((dict.get? key).map measure).getD 0 =
      (dict.values.map measure).sum + measure value := by
  obtain ⟨entries, distinct⟩ := dict
  simp only [values, set, get?]
  clear distinct
  induction entries with
  | nil => simp [setEntry]
  | cons entry entries induction =>
      by_cases same : entry.1 = key
      · simp [setEntry, same]
        omega
      · simp only [setEntry, if_neg same, List.map_cons, List.sum_cons,
          List.find?_cons, decide_eq_false same]
        omega

/-- The sum over the groups is the sum over the items. -/
theorem sum_values_groupFold {α : Type} {key : α → κ} {initial : ν}
    {add : ν → α → ν} (measure : ν → Nat) (weight : α → Nat)
    (start : measure initial = 0)
    (adds : ∀ value item, measure (add value item) =
      measure value + weight item) (items : List α) :
    ((groupFold key initial add items).values.map measure).sum =
      (items.map weight).sum := by
  induction items using List.reverseRecOn with
  | nil => rfl
  | append_singleton items item induction =>
      have unfolded : groupFold key initial add (items ++ [item]) =
          (groupFold key initial add items).set (key item)
            (add (((groupFold key initial add items).get?
              (key item)).getD initial) item) := by
        simp [groupFold, List.foldl_append]
      have written := sum_values_set measure (groupFold key initial add items)
        (key item) (add (((groupFold key initial add items).get?
          (key item)).getD initial) item)
      rw [← unfolded, adds, induction] at written
      rw [List.map_append, List.sum_append, List.map_singleton,
        List.sum_singleton]
      cases found : (groupFold key initial add items).get? (key item) with
      | none =>
          simp only [found, Option.map_none, Option.getD_none, start]
            at written
          omega
      | some value =>
          simp only [found, Option.map_some, Option.getD_some] at written
          omega

end OrderedDict

end Kuber.Library

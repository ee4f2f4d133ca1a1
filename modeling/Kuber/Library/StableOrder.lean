import Kuber.Library.Canonical

/-!
# First occurrences and stable sorting

Deduplication keeps keys in the order of their first occurrences, and a stable
sort keeps the order of items with one key.  Together they decide when two
lists of items have one sorted form.
-/

namespace Kuber.Library

variable {α κ : Type}

/-- `first` is found in the list before `second`. -/
def FirstBefore [DecidableEq α] (items : List α) (first second : α) : Prop :=
  items.idxOf first < items.idxOf second

section FirstOccurrences

variable [DecidableEq α]

theorem not_firstBefore_self (items : List α) (item : α) :
    ¬ FirstBefore items item item :=
  Nat.lt_irrefl _

theorem eraseDups_append_singleton (items : List α) (item : α) :
    (items ++ [item]).eraseDups =
      if item ∈ items then items.eraseDups
      else items.eraseDups ++ [item] := by
  have single : [item].eraseDups = [item] := by simp [List.eraseDups_cons]
  rw [List.eraseDups_append]
  by_cases present : item ∈ items
  · simp [List.removeAll, present]
  · simp [List.removeAll, present, single]

theorem nodup_eraseDups (items : List α) : items.eraseDups.Nodup := by
  induction items using List.reverseRecOn with
  | nil => exact List.nodup_nil
  | append_singleton items item induction =>
      rw [eraseDups_append_singleton]
      by_cases present : item ∈ items
      · rw [if_pos present]
        exact induction
      · rw [if_neg present]
        refine List.nodup_append.mpr ⟨induction, List.nodup_singleton item, ?_⟩
        intro other member last lastMember same
        rw [List.mem_singleton] at lastMember
        exact present (lastMember ▸ same ▸ List.mem_eraseDups.mp member)

theorem firstBefore_append_fresh_iff {items : List α} {item first second : α}
    (fresh : item ∉ items) (firstMember : first ∈ items ++ [item])
    (secondMember : second ∈ items ++ [item]) :
    FirstBefore (items ++ [item]) first second ↔
      first ∈ items ∧
        (second ∈ items → FirstBefore items first second) := by
  simp only [FirstBefore]
  rw [List.mem_append, List.mem_singleton] at firstMember secondMember
  rw [List.idxOf_append, List.idxOf_append]
  rcases firstMember with firstMember | rfl
  · have below := List.idxOf_lt_length_of_mem firstMember
    rcases secondMember with secondMember | rfl
    · simp [firstMember, secondMember]
    · simp [firstMember, fresh, below]
  · rcases secondMember with secondMember | rfl
    · have below := List.idxOf_lt_length_of_mem secondMember
      simp [fresh, secondMember]
      omega
    · simp [fresh]

theorem firstBefore_eraseDups_iff {items : List α} {first second : α}
    (firstMember : first ∈ items) (secondMember : second ∈ items) :
    FirstBefore items.eraseDups first second ↔
      FirstBefore items first second := by
  induction items using List.reverseRecOn with
  | nil => simp at firstMember
  | append_singleton items item induction =>
      rw [eraseDups_append_singleton]
      by_cases present : item ∈ items
      · have inside : ∀ {other}, other ∈ items ++ [item] → other ∈ items := by
          intro other member
          rcases List.mem_append.mp member with member | last
          · exact member
          · rwa [List.mem_singleton.mp last]
        have unmoved : FirstBefore (items ++ [item]) first second ↔
            FirstBefore items first second := by
          rw [FirstBefore, List.idxOf_append, List.idxOf_append,
            if_pos (inside firstMember), if_pos (inside secondMember)]
          exact Iff.rfl
        rw [if_pos present, unmoved]
        exact induction (inside firstMember) (inside secondMember)
      · have absent : item ∉ items.eraseDups :=
          fun member => present (List.mem_eraseDups.mp member)
        have kept : ∀ {other}, other ∈ items ++ [item] →
            other ∈ items.eraseDups ++ [item] := by
          intro other member
          rwa [List.mem_append, List.mem_eraseDups, ← List.mem_append]
        rw [if_neg present,
          firstBefore_append_fresh_iff present firstMember secondMember,
          firstBefore_append_fresh_iff absent (kept firstMember)
            (kept secondMember), List.mem_eraseDups, List.mem_eraseDups]
        exact and_congr_right fun earlier => imp_congr_right fun later =>
          induction earlier later

end FirstOccurrences

section FirstBy

variable [DecidableEq κ] (key : α → κ)

/-- An item whose key is there already is left out. -/
def insertFirst (kept : List α) (item : α) : List α :=
  if key item ∈ kept.map key then kept else kept ++ [item]

/-- The first item of each key, in the order of the list. -/
def firstBy (items : List α) : List α :=
  items.foldl (insertFirst key) []

theorem firstBy_append_singleton (items : List α) (item : α) :
    firstBy key (items ++ [item]) =
      insertFirst key (firstBy key items) item := by
  rw [firstBy, List.foldl_append]
  rfl

theorem mem_map_insertFirst {kept : List α} {item : α} {value : κ} :
    value ∈ (insertFirst key kept item).map key ↔
      value ∈ kept.map key ∨ value = key item := by
  by_cases present : key item ∈ kept.map key
  · rw [insertFirst, if_pos present]
    exact ⟨Or.inl, fun either => either.elim id fun same => same ▸ present⟩
  · rw [insertFirst, if_neg present, List.map_append, List.mem_append]
    exact or_congr_right List.mem_singleton

theorem mem_map_firstBy {items : List α} {value : κ} :
    value ∈ (firstBy key items).map key ↔ value ∈ items.map key := by
  induction items using List.reverseRecOn with
  | nil => exact Iff.rfl
  | append_singleton items item induction =>
      rw [firstBy_append_singleton, mem_map_insertFirst, induction,
        List.map_append, List.mem_append]
      exact or_congr_right List.mem_singleton.symm

theorem firstBy_firstBy (items : List α) :
    firstBy key (firstBy key items) = firstBy key items := by
  induction items using List.reverseRecOn with
  | nil => rfl
  | append_singleton items item induction =>
      rw [firstBy_append_singleton]
      by_cases present : key item ∈ (firstBy key items).map key
      · rw [insertFirst, if_pos present, induction]
      · rw [insertFirst, if_neg present, firstBy_append_singleton, induction,
          insertFirst, if_neg present]

/-- Items that are left out may be left out before more items are added. -/
theorem firstBy_append_firstBy (first second : List α) :
    firstBy key (firstBy key first ++ firstBy key second) =
      firstBy key (first ++ second) := by
  induction second using List.reverseRecOn with
  | nil =>
      rw [List.append_nil]
      exact (congrArg (firstBy key) (List.append_nil _)).trans
        (firstBy_firstBy key first)
  | append_singleton second item induction =>
      rw [← List.append_assoc, firstBy_append_singleton key (first ++ second),
        firstBy_append_singleton key second, ← induction]
      by_cases present : key item ∈ (firstBy key second).map key
      · have among : key item ∈ (firstBy key
            (firstBy key first ++ firstBy key second)).map key := by
          rw [mem_map_firstBy, List.map_append]
          exact List.mem_append_right _ present
        rw [insertFirst, if_pos present, insertFirst, if_pos among]
      · rw [insertFirst, if_neg present, ← List.append_assoc,
          firstBy_append_singleton]

/-- Where no two items share a key, only repeated items are left out. -/
theorem firstBy_map_of_injective {β : Type} [DecidableEq β] {embed : β → α}
    (injective : Function.Injective fun item => key (embed item))
    (items : List β) :
    firstBy key (items.map embed) = items.eraseDups.map embed := by
  induction items using List.reverseRecOn with
  | nil => rfl
  | append_singleton items item induction =>
      have present_iff :
          key (embed item) ∈ (items.eraseDups.map embed).map key ↔
            item ∈ items := by
        rw [List.map_map, List.mem_map]
        constructor
        · rintro ⟨other, member, same⟩
          exact injective same ▸ List.mem_eraseDups.mp member
        · exact fun member => ⟨item, List.mem_eraseDups.mpr member, rfl⟩
      rw [List.map_append, List.map_cons, List.map_nil,
        firstBy_append_singleton, induction, eraseDups_append_singleton]
      by_cases present : item ∈ items
      · rw [insertFirst, if_pos (present_iff.mpr present), if_pos present]
      · rw [insertFirst, if_neg (mt present_iff.mp present), if_neg present,
          List.map_append]
        rfl

end FirstBy

theorem map_fst_setEntry {ν : Type} [DecidableEq κ] (key : κ) (value : ν)
    (entries : List (κ × ν)) :
    (setEntry key value entries).map Prod.fst =
      if key ∈ entries.map Prod.fst then entries.map Prod.fst
      else entries.map Prod.fst ++ [key] := by
  induction entries with
  | nil => rfl
  | cons entry entries induction =>
      by_cases same : entry.1 = key
      · simp [setEntry, same]
      · have other : ¬key = entry.1 := fun equality => same equality.symm
        rw [setEntry, if_neg same, List.map_cons, List.map_cons, induction]
        by_cases present : key ∈ entries.map Prod.fst
        · rw [if_pos present, if_pos (List.mem_cons_of_mem _ present)]
        · have absent : key ∉ entry.1 :: entries.map Prod.fst := by
            rw [List.mem_cons, not_or]
            exact ⟨other, present⟩
          rw [if_neg present, if_neg absent, List.cons_append]

theorem OrderedDict.keys_set {ν : Type} [DecidableEq κ]
    (dict : OrderedDict κ ν) (key : κ) (value : ν) :
    (dict.set key value).keys =
      if key ∈ dict.keys then dict.keys else dict.keys ++ [key] :=
  map_fst_setEntry key value dict.entries

theorem OrderedDict.keys_ofList {ν : Type} [DecidableEq κ]
    (entries : List (κ × ν)) :
    (OrderedDict.ofList entries).keys = (entries.map Prod.fst).eraseDups := by
  induction entries using List.reverseRecOn with
  | nil => rfl
  | append_singleton entries entry induction =>
      have written : OrderedDict.ofList (entries ++ [entry]) =
          (OrderedDict.ofList entries).set entry.1 entry.2 := by
        simp [OrderedDict.ofList, OrderedDict.setAll]
      rw [written, OrderedDict.keys_set, List.map_append, List.map_singleton,
        eraseDups_append_singleton, induction]
      simp only [List.mem_eraseDups]

theorem map_uniqueBy [DecidableEq κ] (key : α → κ) (items : List α) :
    (uniqueBy key items).map key = (items.map key).eraseDups := by
  rw [map_uniqueBy_eq_keys, OrderedDict.keys_ofList, List.map_map]
  rfl

theorem uniqueBy_id [DecidableEq α] (items : List α) :
    uniqueBy id items = items.eraseDups := by
  have keys := map_uniqueBy id items
  rwa [List.map_id, List.map_id] at keys

section StableSort

variable [DecidableEq α] {items left right : List α} {first second : α}

theorem pair_sublist_of_firstBefore (member : second ∈ items)
    (before : FirstBefore items first second) :
    [first, second].Sublist items := by
  induction items with
  | nil => simp at member
  | cons item items induction =>
      rw [FirstBefore, List.idxOf_cons, List.idxOf_cons] at before
      by_cases last : item = second
      · simp [last] at before
      · have later : second ∈ items :=
          (List.mem_cons.mp member).resolve_left (Ne.symm last)
        by_cases here : item = first
        · rw [here]
          exact (List.singleton_sublist.mpr later).cons_cons first
        · rw [beq_false_of_ne here, beq_false_of_ne last, cond_false,
            cond_false] at before
          exact (induction later (Nat.lt_of_add_lt_add_right before)).cons item

theorem pair_sublist_iff (distinct : items.Nodup) :
    [first, second].Sublist items ↔
      second ∈ items ∧ FirstBefore items first second := by
  constructor
  · intro pair
    have placed : items.Pairwise (FirstBefore items) := by
      rw [List.pairwise_iff_getElem]
      intro one other oneBound otherBound before
      rwa [FirstBefore, distinct.idxOf_getElem, distinct.idxOf_getElem]
    exact ⟨pair.subset (by simp),
      List.pairwise_iff_forall_sublist.mp placed pair⟩
  · intro ⟨member, before⟩
    exact pair_sublist_of_firstBefore member before

variable [LinearOrder κ] {key : α → κ}

/-- The sort keeps the order of two items with one key. -/
theorem pair_sublist_sortBy_iff (distinct : items.Nodup)
    (same : key first = key second) :
    [first, second].Sublist (sortBy key items) ↔
      [first, second].Sublist items := by
  have sortedDistinct : (sortBy key items).Nodup :=
    (sortBy_perm key items).nodup_iff.mpr distinct
  have keeps : ∀ {one other : α}, key one = key other →
      [one, other].Sublist items → [one, other].Sublist (sortBy key items) :=
    fun equal pair => List.pair_sublist_insertionSort (le_of_eq equal) pair
  refine ⟨fun pair => ?_, keeps same⟩
  obtain ⟨-, before⟩ := (pair_sublist_iff sortedDistinct).mp pair
  have firstMember : first ∈ items := mem_sortBy.mp (pair.subset (by simp))
  have secondMember : second ∈ items := mem_sortBy.mp (pair.subset (by simp))
  rcases Nat.lt_trichotomy (items.idxOf first) (items.idxOf second) with
    ordered | equal | swapped
  · exact pair_sublist_of_firstBefore secondMember ordered
  · rw [(List.idxOf_inj firstMember).mp equal] at before
    exact absurd before (not_firstBefore_self _ second)
  · have reversed := keeps same.symm
      (pair_sublist_of_firstBefore firstMember swapped)
    obtain ⟨-, after⟩ := (pair_sublist_iff sortedDistinct).mp reversed
    exact absurd before (Nat.lt_asymm after)

/-- Sorted items come in the order of their keys, and of their positions where
the keys are equal. -/
theorem sortBy_pairwise_position (distinct : items.Nodup) :
    (sortBy key items).Pairwise fun one other => key one < key other ∨
      key one = key other ∧ FirstBefore items one other := by
  rw [List.pairwise_iff_forall_sublist]
  intro one other pair
  have ordered := List.pairwise_iff_forall_sublist.mp (sortBy_ordered key items)
    pair
  rcases lt_or_eq_of_le ordered with less | equal
  · exact Or.inl less
  · have inside := (pair_sublist_sortBy_iff distinct equal).mp pair
    exact Or.inr ⟨equal, ((pair_sublist_iff distinct).mp inside).2⟩

/-- Two lists of the same items have one sorted form exactly when items with
one key come in the same order. -/
theorem sortBy_eq_iff (distinct : left.Nodup) (permuted : left.Perm right) :
    sortBy key left = sortBy key right ↔
      ∀ one ∈ left, ∀ other ∈ left, key one = key other →
        (FirstBefore left one other ↔ FirstBefore right one other) := by
  have rightDistinct := permuted.nodup_iff.mp distinct
  constructor
  · intro sorted one oneMember other otherMember same
    have leftPair := pair_sublist_sortBy_iff distinct same
    have rightPair := pair_sublist_sortBy_iff rightDistinct same
    rw [pair_sublist_iff distinct, and_iff_right otherMember] at leftPair
    rw [pair_sublist_iff rightDistinct,
      and_iff_right (permuted.mem_iff.mp otherMember)] at rightPair
    rw [← leftPair, ← rightPair, sorted]
  · intro agree
    have sameItems : (sortBy key left).Perm (sortBy key right) :=
      ((sortBy_perm key left).trans permuted).trans
        (sortBy_perm key right).symm
    have moved : (sortBy key right).Pairwise fun one other =>
        key one < key other ∨ key one = key other ∧
          FirstBefore left one other := by
      apply (sortBy_pairwise_position rightDistinct).imp_of_mem
      intro one other oneMember otherMember placed
      rcases placed with less | ⟨same, before⟩
      · exact Or.inl less
      · have inLeft : ∀ {item}, item ∈ sortBy key right → item ∈ left :=
          fun member => permuted.mem_iff.mpr (mem_sortBy.mp member)
        exact Or.inr ⟨same, (agree one (inLeft oneMember) other
          (inLeft otherMember) same).mpr before⟩
    apply sameItems.eq_of_pairwise _ (sortBy_pairwise_position distinct) moved
    intro one other _ _ forward backward
    rcases forward with less | ⟨same, before⟩
    · rcases backward with greater | ⟨same, _⟩
      · exact absurd greater (lt_asymm less)
      · exact absurd less (not_lt_of_ge (le_of_eq same))
    · rcases backward with greater | ⟨_, after⟩
      · exact absurd greater (not_lt_of_ge (le_of_eq same))
      · exact absurd after (Nat.lt_asymm before)

/-- The same for lists with repeated items, which are sorted by their first
occurrences. -/
theorem sortBy_uniqueBy_eq_iff (same : ∀ item, item ∈ left ↔ item ∈ right) :
    sortBy key (uniqueBy id left) = sortBy key (uniqueBy id right) ↔
      ∀ one ∈ left, ∀ other ∈ left, key one = key other →
        (FirstBefore left one other ↔ FirstBefore right one other) := by
  have permuted : left.eraseDups.Perm right.eraseDups := by
    rw [List.perm_ext_iff_of_nodup (nodup_eraseDups _) (nodup_eraseDups _)]
    intro item
    rw [List.mem_eraseDups, List.mem_eraseDups]
    exact same item
  rw [uniqueBy_id, uniqueBy_id, sortBy_eq_iff (nodup_eraseDups left) permuted]
  simp only [List.mem_eraseDups]
  refine forall₂_congr fun one oneMember => forall₂_congr fun other member =>
    imp_congr_right fun _ => ?_
  rw [firstBefore_eraseDups_iff oneMember member,
    firstBefore_eraseDups_iff ((same one).mp oneMember)
      ((same other).mp member)]

end StableSort

end Kuber.Library

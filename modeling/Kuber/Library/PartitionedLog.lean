import Mathlib.Data.List.Nodup

/-!
# Logs in partitions

Every item of a log belongs to a partition.  An item that is appended gets the
number of earlier items of its partition as its offset, so that the offsets
count every partition through and identify the items.
-/

namespace Kuber.Library

variable {Item Part : Type} [DecidableEq Part]

section

variable (partition : Item → Part) (offset : Item → Nat)

/-- The offset of the next item of a partition. -/
def nextOffset (log : List Item) (part : Part) : Nat :=
  log.countP fun item => decide (partition item = part)

/-- The offsets within every partition are 0, 1, 2 and so on. -/
def Numbered (log : List Item) : Prop :=
  ∀ part, (log.filter fun item => decide (partition item = part)).map offset =
    List.range (nextOffset partition log part)

theorem numbered_nil : Numbered partition offset [] := fun _ => rfl

end

variable {partition : Item → Part} {offset : Item → Nat} {log : List Item}
  {item : Item}

/-- The rule of appending. -/
theorem Numbered.append (numbered : Numbered partition offset log)
    (next : offset item = nextOffset partition log (partition item)) :
    Numbered partition offset (log ++ [item]) := by
  intro part
  by_cases own : partition item = part
  · subst own
    have before := numbered (partition item)
    simp only [List.filter_append, List.map_append, before, nextOffset,
      List.countP_append, List.countP_singleton, decide_true, if_true,
      List.range_succ, List.filter_singleton, cond_true, List.map_singleton]
    rw [next, nextOffset]
  · simp only [nextOffset, List.filter_append, List.countP_append,
      List.countP_singleton, List.filter_singleton, own, decide_false,
      cond_false, List.append_nil, Bool.false_eq_true, if_false, Nat.add_zero]
    exact numbered part

theorem Numbered.nodup (numbered : Numbered partition offset log) :
    (log.map fun item => (partition item, offset item)).Nodup := by
  classical
  rw [List.nodup_iff_count_le_one]
  rintro ⟨part, position⟩
  have counted : (log.map fun item => (partition item, offset item)).count
      (part, position) =
        (List.range (nextOffset partition log part)).count position := by
    rw [← numbered part, List.count, List.count, List.countP_map,
      List.countP_map, List.countP_filter]
    apply List.countP_congr
    intro item _
    simp [and_comm]
  rw [counted]
  exact List.nodup_iff_count_le_one.mp List.nodup_range position

theorem getElem?_of_grows {later : List Item} (grows : log <+: later)
    {position : Nat} (present : log[position]? = some item) :
    later[position]? = some item := by
  obtain ⟨more, rfl⟩ := grows
  obtain ⟨inside, -⟩ := List.getElem?_eq_some_iff.mp present
  rw [List.getElem?_append_left inside, present]

end Kuber.Library

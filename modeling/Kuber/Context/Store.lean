import Kuber.Context.Models

/-!
# The context store

A table of contexts with one row for every reference.  Putting a context
replaces the row with its reference by a new one, which gets the largest row
number and the time of the store's clock; the latest context of a service is
the one of its newest row.
-/

namespace Kuber.Context

open Kuber.Rules Kuber.Event

/-- A row of `service_contexts`; times are counted in seconds. -/
structure ContextRow where
  contextRef : String
  serviceId : String
  createdAt : Nat
  rowid : Nat
  record : Document

/-- A row comes before another in the order `created_at DESC, rowid DESC`. -/
def ContextRow.newer (row other : ContextRow) : Bool :=
  decide (other.createdAt < row.createdAt ∨
    other.createdAt = row.createdAt ∧ other.rowid < row.rowid)

/-- The first row in that order. -/
def newest? : List ContextRow → Option ContextRow
  | [] => none
  | row :: rows =>
      match newest? rows with
      | none => some row
      | some best => if row.newer best = true then some row else some best

/-- The table; `context_ref` is its primary key. -/
structure SQLiteContextStore where
  rows : List ContextRow
  keyed : (rows.map ContextRow.contextRef).Nodup

namespace SQLiteContextStore

def empty : SQLiteContextStore := ⟨[], List.nodup_nil⟩

/-- The row number of the next row. -/
def nextRowid (rows : List ContextRow) : Nat :=
  rows.foldr (fun row last => max row.rowid last) 0 + 1

/-- The rows that stay when a reference is replaced. -/
def others (store : SQLiteContextStore) (contextRef : String) :
    List ContextRow :=
  store.rows.filter fun row => decide (row.contextRef ≠ contextRef)

def newRow (store : SQLiteContextStore) (now : Nat)
    (context : IndexedServiceContext) : ContextRow where
  contextRef := context.contextRef
  serviceId := context.serviceId
  createdAt := now
  rowid := nextRowid (store.others context.contextRef)
  record := context.toDict

/-- `put`, when the clock of the store shows `now`. -/
def put (store : SQLiteContextStore) (now : Nat)
    (context : IndexedServiceContext) : SQLiteContextStore where
  rows := store.others context.contextRef ++ [store.newRow now context]
  keyed := by
    have kept := store.keyed.sublist
      (List.Sublist.map ContextRow.contextRef
        (List.filter_sublist (l := store.rows)
          (p := fun row => decide (row.contextRef ≠ context.contextRef))))
    rw [List.map_append, List.nodup_append]
    refine ⟨kept, by simp, ?_⟩
    intro reference member other single
    obtain ⟨row, stays, rfl⟩ := List.mem_map.mp member
    rw [List.map_singleton, List.mem_singleton] at single
    rw [single]
    exact of_decide_eq_true (List.mem_filter.mp stays).2

def get (loader : Loader) (store : SQLiteContextStore) (contextRef : String) :
    Except PyException (Option IndexedServiceContext) :=
  match store.rows.find? fun row => decide (row.contextRef = contextRef) with
  | none => .ok none
  | some row => (IndexedServiceContext.fromDict loader row.record).map some

def latest (loader : Loader) (store : SQLiteContextStore)
    (serviceId : String) : Except PyException (Option IndexedServiceContext) :=
  match newest? (store.rows.filter fun row =>
      decide (row.serviceId = serviceId)) with
  | none => .ok none
  | some row => (IndexedServiceContext.fromDict loader row.record).map some

end SQLiteContextStore

theorem newest?_append {rows : List ContextRow} {row : ContextRow}
    (newer : ∀ other ∈ rows, row.newer other = true) :
    newest? (rows ++ [row]) = some row := by
  induction rows with
  | nil => rfl
  | cons first rows induction =>
      rw [List.forall_mem_cons] at newer
      have older : ¬ first.newer row = true := by
        have after := newer.1
        simp only [ContextRow.newer, decide_eq_true_eq] at after ⊢
        omega
      rw [List.cons_append, newest?, induction newer.2]
      exact if_neg older

theorem lt_nextRowid {rows : List ContextRow} {row : ContextRow}
    (member : row ∈ rows) : row.rowid < SQLiteContextStore.nextRowid rows := by
  induction rows with
  | nil => cases member
  | cons first rows induction =>
      rw [SQLiteContextStore.nextRowid, List.foldr_cons]
      rcases List.mem_cons.mp member with rfl | later
      · omega
      · have below := induction later
        rw [SQLiteContextStore.nextRowid] at below
        omega

namespace SQLiteContextStore

variable {loader : Loader} {store : SQLiteContextStore} {now : Nat}
  {context : IndexedServiceContext}

@[simp] theorem latest_empty {serviceId : String} :
    latest loader empty serviceId = .ok none := rfl

theorem get_put_self :
    (store.put now context).get loader context.contextRef =
      .ok (some context) := by
  have gone : (store.others context.contextRef).find? (fun row =>
      decide (row.contextRef = context.contextRef)) = none := by
    rw [List.find?_eq_none]
    intro row member
    have kept := (List.mem_filter.mp member).2
    simpa using kept
  rw [get, put, List.find?_append, gone]
  simp [newRow, IndexedServiceContext.fromDict_toDict, Except.map]

theorem latest_put_self (past : ∀ row ∈ store.rows, row.createdAt ≤ now) :
    (store.put now context).latest loader context.serviceId =
      .ok (some context) := by
  have newer : ∀ other ∈ (store.others context.contextRef).filter
      (fun row => decide (row.serviceId = context.serviceId)),
      (store.newRow now context).newer other = true := by
    intro other member
    have stays := (List.mem_filter.mp member).1
    have time := past other (List.mem_filter.mp stays).1
    have number := lt_nextRowid stays
    apply decide_eq_true
    change other.createdAt < now ∨ other.createdAt = now ∧
      other.rowid < nextRowid (store.others context.contextRef)
    omega
  have here : [store.newRow now context].filter
      (fun row => decide (row.serviceId = context.serviceId)) =
        [store.newRow now context] :=
    List.filter_eq_self.mpr (by simp [newRow])
  rw [latest, put, List.filter_append, here, newest?_append newer]
  simp only [newRow, IndexedServiceContext.fromDict_toDict]
  rfl

/-- Putting a context leaves the services alone whose references it does not
take. -/
theorem latest_put_of_ne {serviceId : String}
    (other : serviceId ≠ context.serviceId)
    (own : ∀ row ∈ store.rows, row.contextRef = context.contextRef →
      row.serviceId = context.serviceId) :
    (store.put now context).latest loader serviceId =
      store.latest loader serviceId := by
  have same : (store.put now context).rows.filter
      (fun row => decide (row.serviceId = serviceId)) =
        store.rows.filter fun row => decide (row.serviceId = serviceId) := by
    have gone : [store.newRow now context].filter
        (fun row => decide (row.serviceId = serviceId)) = [] := by
      simp [newRow, Ne.symm other]
    rw [put, List.filter_append, gone, List.append_nil, others,
      List.filter_filter]
    apply List.filter_congr
    intro row member
    by_cases here : row.serviceId = serviceId
    · have kept : row.contextRef ≠ context.contextRef := by
        intro taken
        exact other (here.symm.trans (own row member taken))
      simp [here, kept]
    · simp [here]
  rw [latest, same, latest]

end SQLiteContextStore

end Kuber.Context

import Mathlib.Data.List.Forall2

/-!
# Results that may be errors

Peeling sequenced and mapped computations in `Except` apart: what a successful
result says about the parts it was made of, and conversely.
-/

namespace Kuber.Library

variable {ε α β : Type}

theorem bind_eq_ok_iff {first : Except ε α} {next : α → Except ε β}
    {result : β} :
    (first >>= next) = .ok result ↔
      ∃ value, first = .ok value ∧ next value = .ok result := by
  cases first with
  | error error =>
      constructor
      · intro impossible
        cases impossible
      · rintro ⟨_, impossible, _⟩
        cases impossible
  | ok value =>
      constructor
      · intro returned
        exact ⟨value, rfl, returned⟩
      · rintro ⟨other, equality, returned⟩
        cases equality
        exact returned

theorem bind_eq_error_iff {first : Except ε α} {next : α → Except ε β}
    {failure : ε} :
    (first >>= next) = .error failure ↔
      first = .error failure ∨
        ∃ value, first = .ok value ∧ next value = .error failure := by
  cases first with
  | error error =>
      constructor
      · intro failed
        cases failed
        exact Or.inl rfl
      · rintro (same | ⟨_, impossible, _⟩)
        · cases same
          rfl
        · cases impossible
  | ok value =>
      constructor
      · intro failed
        exact Or.inr ⟨value, rfl, failed⟩
      · rintro (impossible | ⟨other, equality, failed⟩)
        · cases impossible
        · cases equality
          exact failed

theorem pure_eq_ok_iff {value result : α} :
    (pure value : Except ε α) = .ok result ↔ value = result := by
  change (Except.ok value : Except ε α) = .ok result ↔ value = result
  exact Except.ok.injEq value result ▸ Iff.rfl

theorem mapM_eq_ok_iff {function : α → Except ε β} {items : List α}
    {results : List β} :
    items.mapM function = .ok results ↔
      List.Forall₂ (fun item result => function item = .ok result)
        items results := by
  induction items generalizing results with
  | nil =>
      rw [List.mapM_nil, pure_eq_ok_iff, List.forall₂_nil_left_iff, eq_comm]
  | cons item items induction =>
      simp only [List.mapM_cons, bind_eq_ok_iff, pure_eq_ok_iff, induction]
      constructor
      · rintro ⟨first, firstOk, others, othersOk, rfl⟩
        exact .cons firstOk othersOk
      · intro related
        cases related with
        | cons firstOk othersOk => exact ⟨_, firstOk, _, othersOk, rfl⟩

theorem mapM_returns {function : α → Except ε β} {items : List α}
    (each : ∀ item ∈ items, ∃ result, function item = .ok result) :
    ∃ results, items.mapM function = .ok results := by
  induction items with
  | nil => exact ⟨[], rfl⟩
  | cons item items induction =>
      obtain ⟨first, firstOk⟩ := each item List.mem_cons_self
      obtain ⟨others, othersOk⟩ := induction fun other member =>
        each other (List.mem_cons_of_mem _ member)
      exact ⟨first :: others, mapM_eq_ok_iff.mpr
        (.cons firstOk (mapM_eq_ok_iff.mp othersOk))⟩

/-- All errors of a computation have a property; its result may be any. -/
def RaisesOnly (declared : ε → Prop) (outcome : Except ε α) : Prop :=
  ∀ error, outcome = .error error → declared error

@[simp] theorem raisesOnly_ok {declared : ε → Prop} {value : α} :
    RaisesOnly declared (.ok value : Except ε α) := by
  intro error impossible
  cases impossible

@[simp] theorem raisesOnly_pure {declared : ε → Prop} {value : α} :
    RaisesOnly declared (pure value : Except ε α) :=
  raisesOnly_ok

@[simp] theorem raisesOnly_error {declared : ε → Prop} {error : ε} :
    RaisesOnly declared (.error error : Except ε α) ↔ declared error := by
  constructor
  · intro only
    exact only error rfl
  · intro holds other same
    cases same
    exact holds

/-- A sequence raises declared errors only when its parts do, the later part
from the results that the earlier one can return. -/
theorem raisesOnly_bind {declared : ε → Prop} {first : Except ε α}
    {next : α → Except ε β} :
    RaisesOnly declared (first >>= next) ↔
      RaisesOnly declared first ∧
        ∀ value, first = .ok value → RaisesOnly declared (next value) := by
  cases first with
  | error error =>
      constructor
      · intro only
        refine ⟨?_, ?_⟩
        · intro other same
          exact only other (bind_eq_error_iff.mpr (Or.inl same))
        · intro value impossible
          cases impossible
      · intro ⟨only, _⟩ other failed
        cases failed
        exact only error rfl
  | ok value =>
      constructor
      · intro only
        refine ⟨raisesOnly_ok, ?_⟩
        intro other same
        cases same
        exact only
      · intro ⟨_, only⟩
        exact only value rfl

/-- Mapping raises declared errors only when the function does so on every
item that is reached, which is every item after successful ones. -/
theorem raisesOnly_mapM {declared : ε → Prop} {function : α → Except ε β}
    {items : List α} :
    RaisesOnly declared (items.mapM function) ↔
      ∀ before item after, items = before ++ item :: after →
        (∀ earlier ∈ before, ∃ value, function earlier = .ok value) →
          RaisesOnly declared (function item) := by
  induction items with
  | nil => simp
  | cons head tail induction =>
      simp only [List.mapM_cons, raisesOnly_bind, induction, raisesOnly_pure,
        implies_true, and_true]
      constructor
      · intro ⟨first, rest⟩ before item after split succeeded
        cases before with
        | nil =>
            cases split
            exact first
        | cons earlier before =>
            cases split
            obtain ⟨value, returned⟩ := succeeded head List.mem_cons_self
            exact rest value returned before item after rfl
              fun other member =>
                succeeded other (List.mem_cons_of_mem _ member)
      · intro reached
        refine ⟨reached [] head tail rfl (by simp), ?_⟩
        intro value returned before item after split succeeded
        apply reached (head :: before) item after (by rw [split]; rfl)
        intro other member
        cases List.mem_cons.mp member with
        | inl same => exact ⟨value, same ▸ returned⟩
        | inr later => exact succeeded other later

theorem raisesOnly_mapM_of_forall {declared : ε → Prop}
    {function : α → Except ε β} {items : List α}
    (each : ∀ item, RaisesOnly declared (function item)) :
    RaisesOnly declared (items.mapM function) :=
  raisesOnly_mapM.mpr fun _ item _ _ _ => each item

theorem forall₂_mem_left {relation : α → β → Prop} {items : List α}
    {results : List β} (related : List.Forall₂ relation items results)
    {item : α} (member : item ∈ items) :
    ∃ result ∈ results, relation item result := by
  induction related with
  | nil => cases member
  | cons first _ induction =>
      rcases List.mem_cons.mp member with rfl | later
      · exact ⟨_, List.mem_cons_self, first⟩
      · obtain ⟨result, resultMember, holds⟩ := induction later
        exact ⟨result, List.mem_cons_of_mem _ resultMember, holds⟩

theorem forall₂_mem_right {relation : α → β → Prop} {items : List α}
    {results : List β} (related : List.Forall₂ relation items results)
    {result : β} (member : result ∈ results) :
    ∃ item ∈ items, relation item result := by
  induction related with
  | nil => cases member
  | cons first _ induction =>
      rcases List.mem_cons.mp member with rfl | later
      · exact ⟨_, List.mem_cons_self, first⟩
      · obtain ⟨item, itemMember, holds⟩ := induction later
        exact ⟨item, List.mem_cons_of_mem _ itemMember, holds⟩

theorem forall₂_comp {γ : Type} {first : α → β → Prop} {second : β → γ → Prop}
    {both : α → γ → Prop} {items : List α} {middle : List β} {results : List γ}
    (compose : ∀ item between result, first item between →
      second between result → both item result)
    (left : List.Forall₂ first items middle)
    (right : List.Forall₂ second middle results) :
    List.Forall₂ both items results := by
  induction left generalizing results with
  | nil =>
      cases right
      exact .nil
  | cons here _ induction =>
      cases right with
      | cons there later =>
          exact .cons (compose _ _ _ here there) (induction later)

/-- Mapping over a list written by `encode` succeeds with the list decoded by
`decoded`, provided that every piece does so on its own condition. -/
theorem mapM_flatMap_eq_ok_iff {γ : Type} {function : α → Except ε β}
    {encode : γ → List α} {decoded : γ → List β} {condition : γ → Prop}
    {pieces : List γ} {results : List β}
    (each : ∀ piece ∈ pieces, ∀ result,
      (encode piece).mapM function = .ok result ↔
        result = decoded piece ∧ condition piece) :
    (pieces.flatMap encode).mapM function = .ok results ↔
      results = pieces.flatMap decoded ∧ ∀ piece ∈ pieces, condition piece := by
  induction pieces generalizing results with
  | nil =>
      rw [List.flatMap_nil, List.mapM_nil, pure_eq_ok_iff]
      simp [eq_comm]
  | cons piece pieces induction =>
      have others := fun other member =>
        each other (List.mem_cons_of_mem piece member)
      simp only [List.flatMap_cons, List.mapM_append, bind_eq_ok_iff,
        pure_eq_ok_iff, each piece List.mem_cons_self, induction others,
        List.forall_mem_cons]
      constructor
      · rintro ⟨_, ⟨rfl, first⟩, _, ⟨rfl, rest⟩, rfl⟩
        exact ⟨rfl, first, rest⟩
      · rintro ⟨rfl, first, rest⟩
        exact ⟨_, ⟨rfl, first⟩, _, ⟨rfl, rest⟩, rfl⟩

end Kuber.Library

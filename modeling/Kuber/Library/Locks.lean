import Mathlib.Data.List.Nodup

/-!
# Mutual exclusion

A lock manager keeps the keys that are held.  Each party holds one key at
most and may take a free key, give its key back, or forget it without giving
it back.  No key is ever held by two parties.
-/

namespace Kuber.Library

variable {Party Key : Type}

/-- What one party may do: its key before and after, and the held keys before
and after. -/
inductive LockMove [BEq Key] : Option Key → Option Key → List Key →
    List Key → Prop where
  | keeps (mine : Option Key) (held : List Key) : LockMove mine mine held held
  | takes (key : Key) (held : List Key) (free : key ∉ held) :
      LockMove none (some key) held (key :: held)
  | gives (key : Key) (held : List Key) :
      LockMove (some key) none held (held.erase key)
  | forgets (key : Key) (held : List Key) : LockMove (some key) none held held

/-- The parties' keys are among the held ones, and no two are the same. -/
structure Exclusive (holds : Party → Option Key) (held : List Key) :
    Prop where
  recorded : ∀ party key, holds party = some key → key ∈ held
  exclusive : ∀ party other key, holds party = some key →
    holds other = some key → party = other
  distinct : held.Nodup

variable {before after : Party → Option Key} {held heldAfter : List Key}
  {mover : Party}

theorem Exclusive.initial (nobody : ∀ party, before party = none) :
    Exclusive before ([] : List Key) := by
  constructor
  · intro party key holds
    rw [nobody party] at holds
    cases holds
  · intro party other key holds
    rw [nobody party] at holds
    cases holds
  · exact List.nodup_nil

/-- A party that holds nothing after its move leaves what the others hold. -/
private theorem Exclusive.leave (sound : Exclusive before held)
    (others : ∀ other, other ≠ mover → after other = before other)
    (left : after mover = none) (distinct : heldAfter.Nodup)
    (kept : ∀ other, other ≠ mover → ∀ key, before other = some key →
      key ∈ heldAfter) : Exclusive after heldAfter := by
  have earlier : ∀ party key, after party = some key →
      party ≠ mover ∧ before party = some key := by
    intro party key holds
    have different : party ≠ mover := by
      intro same
      rw [same, left] at holds
      cases holds
    exact ⟨different, others party different ▸ holds⟩
  refine ⟨?_, ?_, distinct⟩
  · intro party key holds
    obtain ⟨different, held⟩ := earlier party key holds
    exact kept party different key held
  · intro party other key holds otherHolds
    exact sound.exclusive party other key (earlier party key holds).2
      (earlier other key otherHolds).2

/-- The rule of lock managers: the moves of one party keep keys exclusive. -/
theorem Exclusive.move [DecidableEq Key] (sound : Exclusive before held)
    (move : LockMove (before mover) (after mover) held heldAfter)
    (others : ∀ other, other ≠ mover → after other = before other) :
    Exclusive after heldAfter := by
  generalize mine : before mover = first at move
  generalize later : after mover = last at move
  cases move with
  | keeps =>
      have same : after = before := by
        funext party
        by_cases isMover : party = mover
        · rw [isMover, mine, later]
        · exact others party isMover
      exact same ▸ sound
  | takes key _ free =>
      have fresh : ∀ party, before party ≠ some key :=
        fun party holds => free (sound.recorded party key holds)
      have earlier : ∀ party wanted, after party = some wanted →
          (party = mover ∧ wanted = key) ∨ before party = some wanted := by
        intro party wanted holds
        by_cases isMover : party = mover
        · rw [isMover, later] at holds
          exact Or.inl ⟨isMover, (Option.some.inj holds).symm⟩
        · exact Or.inr (others party isMover ▸ holds)
      refine ⟨?_, ?_, List.nodup_cons.mpr ⟨free, sound.distinct⟩⟩
      · intro party wanted holds
        rcases earlier party wanted holds with ⟨-, rfl⟩ | held
        · exact List.mem_cons_self
        · exact List.mem_cons_of_mem _ (sound.recorded party wanted held)
      · intro party other wanted holds otherHolds
        rcases earlier party wanted holds with ⟨rfl, rfl⟩ | held
        · rcases earlier other wanted otherHolds with ⟨rfl, -⟩ | otherHeld
          · rfl
          · exact absurd otherHeld (fresh other)
        · rcases earlier other wanted otherHolds with ⟨-, rfl⟩ | otherHeld
          · exact absurd held (fresh party)
          · exact sound.exclusive party other wanted held otherHeld
  | gives key _ =>
      apply sound.leave others later (sound.distinct.erase key)
      intro other different wanted holds
      have unequal : wanted ≠ key := by
        rintro rfl
        exact different (sound.exclusive other mover wanted holds mine)
      exact (List.mem_erase_of_ne unequal).mpr
        (sound.recorded other wanted holds)
  | forgets key _ =>
      exact sound.leave others later sound.distinct fun other _ wanted holds =>
        sound.recorded other wanted holds

end Kuber.Library

import Kuber.Library.Locks

/-!
# Tokens that are never copied

A token is issued once.  From then on one party holds it, or it waits to be
taken again, or it is spent.  A party may drop its token, spend it or put it
back.  So no token is spent twice.
-/

namespace Kuber.Library

open scoped List

variable {Party Token : Type}

/-- What a party may do with its token: the token before and after, the
waiting tokens before and after, and the spent ones before and after. -/
inductive TokenMove : Option Token → Option Token → List Token → List Token →
    List Token → List Token → Prop where
  | keeps (mine : Option Token) (waiting spent : List Token) :
      TokenMove mine mine waiting waiting spent spent
  | drops (mine : Option Token) (waiting spent : List Token) :
      TokenMove mine none waiting waiting spent spent
  | returns (token : Token) (waiting spent : List Token) :
      TokenMove (some token) none waiting (waiting ++ [token]) spent spent
  | spends (token : Token) (waiting spent : List Token) :
      TokenMove (some token) none waiting waiting spent (spent ++ [token])

section

variable {mine later : Option Token}
  {waiting waitingAfter spent spentAfter : List Token}

theorem TokenMove.waiting_length
    (move : TokenMove mine later waiting waitingAfter spent spentAfter) :
    waiting.length ≤ waitingAfter.length := by
  cases move with
  | returns token =>
      rw [List.length_append]
      exact Nat.le_add_right _ _
  | _ => exact Nat.le_refl _

theorem TokenMove.spent_getElem?
    (move : TokenMove mine later waiting waitingAfter spent spentAfter)
    {position : Nat} {token : Token} (present : spent[position]? = some token) :
    spentAfter[position]? = some token := by
  cases move with
  | spends =>
      rw [List.getElem?_append_left (List.getElem?_eq_some_iff.mp present).1]
      exact present
  | _ => exact present

end

/-- Every issued token is in one place at most. -/
def Circulates (holds : Party → Option Token)
    (waiting spent issued : List Token) : Prop :=
  ∃ held, Exclusive holds held ∧ (held ++ (waiting ++ spent)).Nodup ∧
    held ++ (waiting ++ spent) ⊆ issued

namespace Circulates

variable {before after : Party → Option Token} {mover : Party}
  {waiting waitingAfter spent spentAfter issued : List Token} {token : Token}

theorem initial (nobody : ∀ party, before party = none)
    (issued : List Token) : Circulates before [] [] issued :=
  ⟨[], Exclusive.initial nobody, List.nodup_nil, List.nil_subset issued⟩

theorem spent_nodup (sound : Circulates before waiting spent issued) :
    spent.Nodup := by
  obtain ⟨held, -, distinct, -⟩ := sound
  exact (List.nodup_append.mp (List.nodup_append.mp distinct).2.1).2.1

variable [DecidableEq Token]

/-- The rule of tokens: a party moves its own. -/
theorem move (sound : Circulates before waiting spent issued)
    (move : TokenMove (before mover) (after mover) waiting waitingAfter spent
      spentAfter)
    (others : ∀ other, other ≠ mover → after other = before other) :
    Circulates after waitingAfter spentAfter issued := by
  obtain ⟨held, exclusive, distinct, known⟩ := sound
  generalize mine : before mover = first at move
  generalize later : after mover = last at move
  have given : ∀ token, first = some token → last = none →
      Exclusive after (held.erase token) ∧ held.Perm
        (token :: held.erase token) := by
    rintro token rfl rfl
    refine ⟨exclusive.move ?_ others, List.perm_cons_erase
      (exclusive.recorded mover token mine)⟩
    rw [mine, later]
    exact .gives token held
  cases move with
  | keeps =>
      refine ⟨held, exclusive.move ?_ others, distinct, known⟩
      rw [mine, later]
      exact .keeps first held
  | drops =>
      cases first with
      | none =>
          refine ⟨held, exclusive.move ?_ others, distinct, known⟩
          rw [mine, later]
          exact .keeps none held
      | some token =>
          refine ⟨held, exclusive.move ?_ others, distinct, known⟩
          rw [mine, later]
          exact .forgets token held
  | returns token =>
      obtain ⟨kept, moved⟩ := given token rfl rfl
      have same : (held ++ (waiting ++ spent)).Perm
          (held.erase token ++ (waiting ++ [token] ++ spent)) := by
        calc held ++ (waiting ++ spent)
          _ ~ token :: held.erase token ++ (waiting ++ spent) :=
            moved.append_right _
          _ ~ held.erase token ++ token :: (waiting ++ spent) :=
            List.perm_middle.symm
          _ ~ held.erase token ++ (waiting ++ [token] ++ spent) := by
            rw [List.append_assoc, List.singleton_append]
            exact List.perm_middle.symm.append_left _
      exact ⟨_, kept, same.nodup_iff.mp distinct,
        fun _ member => known (same.mem_iff.mpr member)⟩
  | spends token =>
      obtain ⟨kept, moved⟩ := given token rfl rfl
      have same : (held ++ (waiting ++ spent)).Perm
          (held.erase token ++ (waiting ++ (spent ++ [token]))) := by
        calc held ++ (waiting ++ spent)
          _ ~ token :: held.erase token ++ (waiting ++ spent) :=
            moved.append_right _
          _ ~ held.erase token ++ token :: (waiting ++ spent) :=
            List.perm_middle.symm
          _ ~ held.erase token ++ (waiting ++ (spent ++ [token])) := by
            rw [← List.append_assoc waiting]
            exact (List.perm_append_singleton _ _).symm.append_left _
      exact ⟨_, kept, same.nodup_iff.mp distinct,
        fun _ member => known (same.mem_iff.mpr member)⟩

/-- A party is given a token that nobody has had. -/
theorem issue (sound : Circulates before waiting spent issued)
    (free : before mover = none) (fresh : token ∉ issued)
    (given : after mover = some token)
    (others : ∀ other, other ≠ mover → after other = before other) :
    Circulates after waiting spent (token :: issued) := by
  obtain ⟨held, exclusive, distinct, known⟩ := sound
  have new : token ∉ held ++ (waiting ++ spent) := fun old => fresh (known old)
  refine ⟨token :: held, exclusive.move ?_ others,
    List.nodup_cons.mpr ⟨new, distinct⟩, List.cons_subset_cons token known⟩
  rw [free, given]
  exact .takes token held fun old => new (List.mem_append_left _ old)

/-- A party takes a token that waits. -/
theorem take (sound : Circulates before waiting spent issued)
    (free : before mover = none) (given : after mover = some token)
    (waits : waiting.Perm (token :: waitingAfter))
    (others : ∀ other, other ≠ mover → after other = before other) :
    Circulates after waitingAfter spent issued := by
  obtain ⟨held, exclusive, distinct, known⟩ := sound
  have same : (held ++ (waiting ++ spent)).Perm
      (token :: held ++ (waitingAfter ++ spent)) := by
    calc held ++ (waiting ++ spent)
      _ ~ held ++ (token :: waitingAfter ++ spent) :=
        (waits.append_right spent).append_left held
      _ ~ token :: held ++ (waitingAfter ++ spent) := List.perm_middle
  have distinctAfter := same.nodup_iff.mp distinct
  refine ⟨token :: held, exclusive.move ?_ others, distinctAfter,
    fun _ member => known (same.mem_iff.mpr member)⟩
  rw [free, given]
  exact .takes token held fun old =>
    (List.nodup_cons.mp distinctAfter).1 (List.mem_append_left _ old)

end Circulates

/-- The entries of a queue at positions that have not been taken. -/
def untaken {α : Type} (taken : List Nat) (queue : List α) : List α :=
  (queue.zipIdx.filter fun entry => decide (entry.2 ∉ taken)).map Prod.fst

section

variable {α : Type} {taken : List Nat} {queue : List α} {entry : α}

theorem untaken_append (fresh : queue.length ∉ taken) (entry : α) :
    untaken taken (queue ++ [entry]) = untaken taken queue ++ [entry] := by
  simp [untaken, List.zipIdx_append, fresh]

/-- Where the positions of the queue begin does not matter. -/
private theorem untaken_take_from {position : Nat} (first : Nat)
    (free : first + position ∉ taken)
    (present : queue[position]? = some entry) :
    ((queue.zipIdx first).filter fun entry => decide (entry.2 ∉ taken)) ~
      (entry, first + position) :: (queue.zipIdx first).filter
        fun entry => decide (entry.2 ∉ (first + position) :: taken) := by
  induction queue generalizing first position with
  | nil => cases present
  | cons head queue induction =>
      rw [List.zipIdx_cons]
      cases position with
      | zero =>
          obtain rfl := Option.some.inj present
          rw [List.filter_cons_of_pos (by simpa using free),
            List.filter_cons_of_neg (by simp)]
          apply List.Perm.of_eq
          congr 1
          apply List.filter_congr
          intro other member
          have behind := List.le_snd_of_mem_zipIdx member
          have different : other.2 ≠ first := by omega
          simp [different]
      | succ position =>
          have later : first + (position + 1) = first + 1 + position := by
            omega
          rw [later] at free ⊢
          have tail := induction (first + 1) free present
          by_cases here : first ∈ taken
          · rw [List.filter_cons_of_neg (by simpa using here),
              List.filter_cons_of_neg (by simp [here])]
            exact tail
          · rw [List.filter_cons_of_pos (by simpa using here),
              List.filter_cons_of_pos (by simp [here]; omega)]
            exact (tail.cons _).trans (.swap _ _ _)

theorem untaken_take {position : Nat} (free : position ∉ taken)
    (present : queue[position]? = some entry) :
    untaken taken queue ~ entry :: untaken (position :: taken) queue := by
  have taking := @untaken_take_from α taken queue entry position 0
    (by rwa [Nat.zero_add]) present
  rw [Nat.zero_add] at taking
  exact taking.map Prod.fst

theorem TokenMove.untaken {mine later : Option α}
    {after spent spentAfter : List α} (fresh : queue.length ∉ taken)
    (move : TokenMove mine later queue after spent spentAfter) :
    TokenMove mine later (untaken taken queue) (untaken taken after) spent
      spentAfter := by
  cases move with
  | keeps => exact .keeps _ _ _
  | drops => exact .drops _ _ _
  | returns token =>
      rw [untaken_append fresh]
      exact .returns token _ _
  | spends token => exact .spends token _ _

end

end Kuber.Library

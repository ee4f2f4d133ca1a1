import Mathlib.Init

/-!
# Single flight

A party that finds no recorded value computes one, records it and answers with
it; a party that finds a value answers with that.  If nobody looks while
another party is between its look and its recording, then the value is
computed once and all answers are the same.
-/

namespace Kuber.Library

variable {Party Value : Type}

/-- How far a party has got. -/
inductive Flight (Value : Type) where
  | away
  | pending
  | computed (value : Value)
  | answering (value : Value)

/-- The party has looked, found nothing and not yet recorded a value. -/
def Flight.Aloft : Flight Value → Prop
  | pending => True
  | computed _ => True
  | _ => False

/-- What the parties share: the recorded value and the answers so far. -/
structure FlightRecord (Value : Type) where
  recorded : Option Value
  answers : List Value

/-- What one party may do.  The flag says whether it computes the value; it
may look only when the others are free. -/
inductive FlightMove (free : Prop) : Bool → Flight Value → Flight Value →
    FlightRecord Value → FlightRecord Value → Prop where
  | stays (flight : Flight Value) (record : FlightRecord Value) :
      FlightMove free false flight flight record record
  | misses (answers : List Value) (turn : free) :
      FlightMove free false .away .pending ⟨none, answers⟩ ⟨none, answers⟩
  | finds (value : Value) (answers : List Value) :
      FlightMove free false .away (.answering value) ⟨some value, answers⟩
        ⟨some value, answers⟩
  | computes (value : Value) (record : FlightRecord Value) :
      FlightMove free true .pending (.computed value) record record
  | records (value : Value) (recorded : Option Value)
      (answers : List Value) :
      FlightMove free false (.computed value) (.answering value)
        ⟨recorded, answers⟩ ⟨some value, answers⟩
  | answers (value : Value) (recorded : Option Value)
      (answers : List Value) :
      FlightMove free false (.answering value) .away ⟨recorded, answers⟩
        ⟨recorded, answers ++ [value]⟩

/-- One party at most is aloft, and only before a value was recorded; every
answer is the recorded value; the value was computed at most once, and then it
is recorded or about to be. -/
structure SingleFlight (flights : Party → Flight Value)
    (record : FlightRecord Value) (computations : Nat) : Prop where
  alone : ∀ party other, (flights party).Aloft → (flights other).Aloft →
    party = other
  unrecorded : ∀ party, (flights party).Aloft → record.recorded = none
  kept : ∀ party value, flights party = .answering value →
    record.recorded = some value
  answered : ∀ value ∈ record.answers, record.recorded = some value
  counted : computations = 0 ∨ computations = 1 ∧
    (record.recorded ≠ none ∨ ∃ party value, flights party = .computed value)

namespace SingleFlight

theorem initial {flights : Party → Flight Value}
    {record : FlightRecord Value} (away : ∀ party, flights party = .away)
    (answered : ∀ value ∈ record.answers, record.recorded = some value) :
    SingleFlight flights record 0 := by
  refine ⟨?_, ?_, ?_, answered, Or.inl rfl⟩
  · intro party other aloft
    rw [away party] at aloft
    exact absurd aloft id
  · intro party aloft
    rw [away party] at aloft
    exact absurd aloft id
  · intro party value answering
    rw [away party] at answering
    cases answering

variable {before after : Party → Flight Value}
  {record recordAfter : FlightRecord Value} {computations : Nat}
  {mover : Party} {computes : Bool}

theorem count_le_one (sound : SingleFlight before record computations) :
    computations ≤ 1 := by
  rcases sound.counted with none | ⟨one, -⟩
  · omega
  · omega

theorem count_eq_zero (sound : SingleFlight before record computations)
    (pending : before mover = .pending) : computations = 0 := by
  have aloft : (before mover).Aloft := pending ▸ trivial
  rcases sound.counted with none | ⟨-, recorded | ⟨other, value, computed⟩⟩
  · exact none
  · exact absurd (sound.unrecorded mover aloft) recorded
  · have same := sound.alone mover other aloft (computed ▸ trivial)
    rw [← same, pending] at computed
    cases computed

/-- What was computed before is counted as long as a value is recorded. -/
private theorem counted_of_recorded
    (sound : SingleFlight before record computations)
    (present : recordAfter.recorded ≠ none) :
    computations = 0 ∨ computations = 1 ∧ (recordAfter.recorded ≠ none ∨
      ∃ party value, after party = .computed value) := by
  rcases sound.counted with zero | ⟨one, -⟩
  · exact Or.inl zero
  · exact Or.inr ⟨one, Or.inl present⟩

private theorem kept_after (sound : SingleFlight before record computations)
    (others : ∀ other, other ≠ mover → after other = before other)
    (mine : ∀ value, after mover = .answering value →
      record.recorded = some value)
    {party : Party} {value : Value}
    (answering : after party = .answering value) :
    record.recorded = some value := by
  by_cases isMover : party = mover
  · rw [isMover] at answering
    exact mine value answering
  · rw [others party isMover] at answering
    exact sound.kept party value answering

/-- A mover that does not take off, and answers with what is recorded, changes
the count and the answers at most. -/
private theorem of_landing (sound : SingleFlight before record computations)
    (others : ∀ other, other ≠ mover → after other = before other)
    (landing : (after mover).Aloft → (before mover).Aloft)
    (mine : ∀ value, after mover = .answering value →
      record.recorded = some value)
    {answers : List Value}
    (answered : ∀ value ∈ answers, record.recorded = some value)
    {computationsAfter : Nat}
    (counted : computationsAfter = 0 ∨ computationsAfter = 1 ∧
      (record.recorded ≠ none ∨
        ∃ party value, after party = .computed value)) :
    SingleFlight after ⟨record.recorded, answers⟩ computationsAfter := by
  have aloft : ∀ party, (after party).Aloft → (before party).Aloft := by
    intro party still
    by_cases isMover : party = mover
    · rw [isMover] at still ⊢
      exact landing still
    · rw [← others party isMover]
      exact still
  refine ⟨?_, ?_, ?_, answered, counted⟩
  · intro party other first second
    exact sound.alone party other (aloft party first) (aloft other second)
  · intro party still
    exact sound.unrecorded party (aloft party still)
  · intro party value answering
    exact sound.kept_after others mine answering

/-- The rule of single flights: the moves of one party keep the value unique,
and count the computations. -/
theorem move (sound : SingleFlight before record computations)
    (move : FlightMove (∀ other, ¬(before other).Aloft) computes
      (before mover) (after mover) record recordAfter)
    (others : ∀ other, other ≠ mover → after other = before other) :
    SingleFlight after recordAfter (computations + computes.toNat) := by
  have earlier : ∀ party, party = mover ∨ after party = before party := by
    intro party
    by_cases isMover : party = mover
    · exact Or.inl isMover
    · exact Or.inr (others party isMover)
  generalize mine : before mover = first at move
  generalize later : after mover = last at move
  cases move with
  | stays =>
      have same : after = before := by
        funext party
        rcases earlier party with rfl | unmoved
        · rw [mine, later]
        · exact unmoved
      exact same ▸ sound
  | misses answers turn =>
      have grounded : ∀ party, (after party).Aloft → party = mover := by
        intro party aloft
        rcases earlier party with isMover | unmoved
        · exact isMover
        · exact absurd (unmoved ▸ aloft) (turn party)
      refine ⟨?_, fun _ _ => rfl, ?_, sound.answered, ?_⟩
      · intro party other aloft otherAloft
        rw [grounded party aloft, grounded other otherAloft]
      · intro party value
        apply sound.kept_after others
        intro value answering
        rw [later] at answering
        cases answering
      · rcases sound.counted with none | ⟨-, recorded | ⟨party, value, done⟩⟩
        · exact Or.inl none
        · exact absurd rfl recorded
        · exact absurd (done ▸ trivial) (turn party)
  | finds value answers =>
      apply sound.of_landing others
      · rw [later]
        exact fun aloft => absurd aloft id
      · intro found answering
        rw [later] at answering
        cases answering
        rfl
      · exact sound.answered
      · exact sound.counted_of_recorded (Option.some_ne_none value)
  | computes value =>
      apply sound.of_landing others
      · rw [mine]
        exact fun _ => trivial
      · intro found answering
        rw [later] at answering
        cases answering
      · exact sound.answered
      · rw [sound.count_eq_zero mine]
        exact Or.inr ⟨rfl, Or.inr ⟨mover, value, later⟩⟩
  | records value recorded answers =>
      have aloft : (before mover).Aloft := mine ▸ trivial
      have nothing : recorded = none := sound.unrecorded mover aloft
      have grounded : ∀ party, ¬(after party).Aloft := by
        intro party still
        rcases earlier party with rfl | unmoved
        · rw [later] at still
          exact still
        · have same := sound.alone party mover (unmoved ▸ still) aloft
          rw [same, later] at still
          exact still
      refine ⟨?_, ?_, ?_, ?_, ?_⟩
      · exact fun party _ still => absurd still (grounded party)
      · exact fun party still => absurd still (grounded party)
      · intro party found answering
        rcases earlier party with rfl | unmoved
        · rw [later] at answering
          cases answering
          rfl
        · have kept := sound.kept party found (unmoved ▸ answering)
          rw [nothing] at kept
          cases kept
      · intro found member
        have kept := sound.answered found member
        rw [nothing] at kept
        cases kept
      · exact sound.counted_of_recorded (Option.some_ne_none value)
  | answers value recorded answers =>
      have kept : recorded = some value := sound.kept mover value mine
      apply sound.of_landing others
      · rw [later]
        exact fun aloft => absurd aloft id
      · intro found answering
        rw [later] at answering
        cases answering
      · intro found member
        rcases List.mem_append.mp member with old | new
        · exact sound.answered found old
        · rw [List.mem_singleton.mp new]
          exact kept
      · apply sound.counted_of_recorded
        rw [kept]
        exact Option.some_ne_none value

end SingleFlight

end Kuber.Library

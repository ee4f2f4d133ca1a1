import Mathlib.Init

/-!
# Stateful computations that may raise

A computation that raises keeps the state it had reached, as an exception in
an imperative program does.  `Satisfies` is the corresponding triple with one
postcondition for a normal return and one for a raise.
-/

namespace Kuber.Library

/-- A computation over states `S` returning a value or raising an error. -/
def Raising (ε S α : Type) : Type := S → Except ε α × S

namespace Raising

variable {ε S α β : Type}

/-- Return a value. -/
protected def pure (value : α) : Raising ε S α :=
  fun state => (.ok value, state)

/-- Sequential composition; a raise skips the continuation. -/
protected def bind (first : Raising ε S α) (next : α → Raising ε S β) :
    Raising ε S β :=
  fun state =>
    match first state with
    | (.ok value, reached) => next value reached
    | (.error error, reached) => (.error error, reached)

instance : Monad (Raising ε S) where
  pure := Raising.pure
  bind := Raising.bind

def raise (error : ε) : Raising ε S α := fun state => (.error error, state)

/-- Read the state. -/
def get : Raising ε S S := fun state => (.ok state, state)

/-- Change the state. -/
def modify (change : S → S) : Raising ε S Unit :=
  fun state => (.ok (), change state)

/-- Lift a pure result that may be an error. -/
def ofExcept (result : Except ε α) : Raising ε S α :=
  fun state => (result, state)

/-- Run a computation and drop the error it may raise. -/
def suppress (body : Raising ε S Unit) : Raising ε S Unit :=
  fun state => (.ok (), (body state).2)

@[simp] theorem pure_run (value : α) (state : S) :
    (pure value : Raising ε S α) state = (.ok value, state) := rfl

theorem bind_run (first : Raising ε S α) (next : α → Raising ε S β)
    (state : S) :
    (first >>= next) state =
      match first state with
      | (.ok value, reached) => next value reached
      | (.error error, reached) => (.error error, reached) := rfl

theorem bind_run_ok {first : Raising ε S α} {next : α → Raising ε S β}
    {state reached : S} {value : α} (run : first state = (.ok value, reached)) :
    (first >>= next) state = next value reached := by
  rw [bind_run, run]

theorem bind_run_error {first : Raising ε S α} {next : α → Raising ε S β}
    {state reached : S} {error : ε}
    (run : first state = (.error error, reached)) :
    (first >>= next) state = (.error error, reached) := by
  rw [bind_run, run]

@[simp] theorem raise_run (error : ε) (state : S) :
    (raise error : Raising ε S α) state = (.error error, state) := rfl

@[simp] theorem get_run (state : S) :
    (get : Raising ε S S) state = (.ok state, state) := rfl

@[simp] theorem modify_run (change : S → S) (state : S) :
    (modify change : Raising ε S Unit) state = (.ok (), change state) := rfl

@[simp] theorem ofExcept_run (result : Except ε α) (state : S) :
    (ofExcept result : Raising ε S α) state = (result, state) := rfl

@[simp] theorem suppress_run (body : Raising ε S Unit) (state : S) :
    suppress body state = (.ok (), (body state).2) := rfl

/-- The postcondition for the way a computation ended. -/
def Ends (returned : α → S → Prop) (raised : ε → S → Prop) :
    Except ε α × S → Prop
  | (.ok value, reached) => returned value reached
  | (.error error, reached) => raised error reached

/-- Triples with a postcondition for each way a computation ends. -/
def Satisfies (precondition : S → Prop) (body : Raising ε S α)
    (returned : α → S → Prop) (raised : ε → S → Prop) : Prop :=
  ∀ state, precondition state → Ends returned raised (body state)

/-- The rule of consequence. -/
theorem Ends.imp {result : Except ε α × S} {returned later : α → S → Prop}
    {raised failed : ε → S → Prop} (ends : Ends returned raised result)
    (onValue : ∀ value reached, returned value reached → later value reached)
    (onError : ∀ error reached, raised error reached → failed error reached) :
    Ends later failed result := by
  obtain ⟨result, reached⟩ := result
  cases result with
  | ok value => exact onValue value reached ends
  | error error => exact onError error reached ends

theorem Ends.and {result : Except ε α × S} {returned other : α → S → Prop}
    {raised failed : ε → S → Prop} (first : Ends returned raised result)
    (second : Ends other failed result) :
    Ends (fun value reached => returned value reached ∧ other value reached)
      (fun error reached => raised error reached ∧ failed error reached)
      result := by
  obtain ⟨result, reached⟩ := result
  cases result with
  | ok value => exact ⟨first, second⟩
  | error error => exact ⟨first, second⟩

/-- A property of the reached state, however the computation ended. -/
theorem ends_anyhow_iff {result : Except ε α × S} {property : S → Prop} :
    Ends (fun _ => property) (fun _ => property) result ↔
      property result.2 := by
  obtain ⟨result, reached⟩ := result
  cases result with
  | ok value => exact Iff.rfl
  | error error => exact Iff.rfl

theorem ends_pure {value : α} {state : S} {returned : α → S → Prop}
    {raised : ε → S → Prop} (holds : returned value state) :
    Ends returned raised ((pure value : Raising ε S α) state) := holds

/-- The rule of sequences: a value is passed on, a raise is final. -/
theorem ends_bind {first : Raising ε S α} {next : α → Raising ε S β}
    {state : S} {returned : β → S → Prop} {raised : ε → S → Prop}
    (ends : Ends (fun value reached => Ends returned raised
      (next value reached)) raised (first state)) :
    Ends returned raised ((first >>= next) state) := by
  cases run : first state with
  | mk result reached =>
      rw [run] at ends
      cases result with
      | ok value =>
          rw [bind_run_ok run]
          exact ends
      | error error =>
          rw [bind_run_error run]
          exact ends

theorem ends_ofExcept {result : Except ε α} {state : S}
    {returned : α → S → Prop} {raised : ε → S → Prop}
    (onValue : ∀ value, result = .ok value → returned value state)
    (onError : ∀ error, result = .error error → raised error state) :
    Ends returned raised (ofExcept result state) := by
  cases result with
  | ok value => exact onValue value rfl
  | error error => exact onError error rfl

theorem ends_ofExcept_ok {result : Except ε α} {value : α} {state : S}
    {returned : α → S → Prop} {raised : ε → S → Prop}
    (ok : result = .ok value) (holds : returned value state) :
    Ends returned raised (ofExcept result state) := by
  rw [ok]
  exact holds

/-- However a computation ends, it keeps a property of the state. -/
def Preserves (property : S → Prop) (body : Raising ε S α) : Prop :=
  ∀ state, property state → property (body state).2

section Preservation

variable {property : S → Prop}

theorem preserves_pure (value : α) :
    Preserves property (pure value : Raising ε S α) :=
  fun _ holds => holds

theorem preserves_ofExcept (result : Except ε α) :
    Preserves property (ofExcept result : Raising ε S α) :=
  fun _ holds => holds

theorem preserves_modify {change : S → S}
    (keeps : ∀ state, property state → property (change state)) :
    Preserves property (modify change : Raising ε S Unit) :=
  fun state holds => keeps state holds

theorem preserves_bind {first : Raising ε S α} {next : α → Raising ε S β}
    (earlier : Preserves property first)
    (later : ∀ value, Preserves property (next value)) :
    Preserves property (first >>= next) := by
  intro state holds
  have reached := earlier state holds
  rw [bind_run]
  cases run : first state with
  | mk result middle =>
      rw [run] at reached
      cases result with
      | ok value => exact later value middle reached
      | error error => exact reached

end Preservation

/-- A computation does what `body` does on a part of the states. -/
def Tracks {T : Type} (part : T → S) (detailed : Raising ε T α)
    (body : Raising ε S α) : Prop :=
  ∀ state, body (part state) =
    ((detailed state).1, part (detailed state).2)

section Tracking

variable {T : Type} {part : T → S}

theorem tracks_pure (value : α) :
    Tracks part (pure value : Raising ε T α) (pure value) :=
  fun _ => rfl

theorem tracks_ofExcept (result : Except ε α) :
    Tracks part (ofExcept result : Raising ε T α) (ofExcept result) :=
  fun _ => rfl

theorem tracks_modify {change : S → S} {detailed : T → T}
    (same : ∀ state, change (part state) = part (detailed state)) :
    Tracks part (modify detailed : Raising ε T Unit) (modify change) :=
  fun state => congrArg (Prod.mk (Except.ok ())) (same state)

theorem tracks_bind {detailed : Raising ε T α} {body : Raising ε S α}
    {detailedNext : α → Raising ε T β} {next : α → Raising ε S β}
    (first : Tracks part detailed body)
    (later : ∀ value, Tracks part (detailedNext value) (next value)) :
    Tracks part (detailed >>= detailedNext) (body >>= next) := by
  intro state
  have same := first state
  rw [bind_run, bind_run, same]
  cases run : detailed state with
  | mk result reached =>
      cases result with
      | ok value => exact later value reached
      | error error => rfl

end Tracking

end Raising

/-- A part of a state that can be read and replaced. -/
structure Part (S T : Type) where
  get : S → T
  set : T → S → S
  get_set : ∀ inner state, get (set inner state) = inner

namespace Raising

/-- Do on a part of the state what `body` does. -/
def onPart {ε S T α : Type} (part : Part S T) (body : Raising ε T α) :
    Raising ε S α :=
  fun state =>
    ((body (part.get state)).1, part.set (body (part.get state)).2 state)

theorem onPart_run {ε S T α : Type} {part : Part S T} {body : Raising ε T α}
    {state : S} {result : Except ε α} {reached : T}
    (run : body (part.get state) = (result, reached)) :
    body.onPart part state = (result, part.set reached state) := by
  rw [onPart, run]

end Raising

end Kuber.Library

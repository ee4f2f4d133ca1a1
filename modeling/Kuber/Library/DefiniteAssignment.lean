import Kuber.Library.StateGraph

/-!
# Definite assignment in state graphs

The state of a graph is read key by key.  A key is assigned at a node when the
input or some node on every path to it sets the key.  If every node reads
assigned keys only, what the state held before the input was written over it
has no influence on a run.
-/

namespace Kuber.Library

/-- What a state holds under each of its keys. -/
structure Keyed (Key State : Type) where
  Value : Key → Type
  value : ∀ key, State → Value key

namespace Keyed

variable {Key State : Type} (keyed : Keyed Key State)

def AgreeOn (keys : List Key) (left right : State) : Prop :=
  ∀ key ∈ keys, keyed.value key left = keyed.value key right

/-- Under every key the new states agree, or both old ones are kept. -/
def SetAlike (left right newLeft newRight : State) : Prop :=
  ∀ key, keyed.value key newLeft = keyed.value key newRight ∨
    keyed.value key newLeft = keyed.value key left ∧
      keyed.value key newRight = keyed.value key right

variable {keyed}

theorem AgreeOn.mono {fewer more : List Key} {left right : State}
    (agree : keyed.AgreeOn more left right) (included : fewer ⊆ more) :
    keyed.AgreeOn fewer left right :=
  fun key member => agree key (included member)

theorem SetAlike.agreeOn {keys : List Key}
    {left right newLeft newRight : State}
    (alike : keyed.SetAlike left right newLeft newRight)
    (agree : keyed.AgreeOn keys left right) :
    keyed.AgreeOn keys newLeft newRight := by
  intro key member
  cases alike key with
  | inl same => exact same
  | inr kept => rw [kept.1, kept.2, agree key member]

theorem AgreeOn.append {first second : List Key} {left right : State}
    (agreeFirst : keyed.AgreeOn first left right)
    (agreeSecond : keyed.AgreeOn second left right) :
    keyed.AgreeOn (first ++ second) left right := by
  intro key member
  cases List.mem_append.mp member with
  | inl here => exact agreeFirst key here
  | inr there => exact agreeSecond key there

end Keyed

namespace Raising

variable {ε S T α β γ : Type} {alike : S → T → Prop}

/-- Two runs end in states that are alike, with the same error or with values
that are related. -/
def EndAlike (alike : S → T → Prop) (related : β → γ → Prop) :
    Except ε β × S → Except ε γ × T → Prop
  | (.ok left, leftReached), (.ok right, rightReached) =>
      related left right ∧ alike leftReached rightReached
  | (.error left, leftReached), (.error right, rightReached) =>
      left = right ∧ alike leftReached rightReached
  | _, _ => False

theorem EndAlike.refl (ended : Except ε α × S) :
    EndAlike Eq Eq ended ended := by
  obtain ⟨result, reached⟩ := ended
  cases result with
  | error error => exact ⟨rfl, rfl⟩
  | ok value => exact ⟨rfl, rfl⟩

/-- The rule of two beginnings that return the same. -/
theorem EndAlike.bind {related : β → γ → Prop}
    {leftFirst : Raising ε S α} {rightFirst : Raising ε T α}
    {left : α → Raising ε S β} {right : α → Raising ε T γ} {leftState : S}
    {rightState : T}
    (first : EndAlike alike Eq (leftFirst leftState) (rightFirst rightState))
    (next : ∀ value leftReached rightReached,
      alike leftReached rightReached →
        EndAlike alike related (left value leftReached)
          (right value rightReached)) :
    EndAlike alike related ((leftFirst >>= left) leftState)
      ((rightFirst >>= right) rightState) := by
  rw [bind_run, bind_run]
  cases leftRun : leftFirst leftState with
  | mk leftResult leftReached =>
  cases rightRun : rightFirst rightState with
  | mk rightResult rightReached =>
  rw [leftRun, rightRun] at first
  cases leftResult with
  | error leftError =>
      cases rightResult with
      | ok => cases first
      | error rightError => exact first
  | ok leftValue =>
      cases rightResult with
      | error => cases first
      | ok rightValue =>
          obtain ⟨rfl, reached⟩ := first
          exact next leftValue leftReached rightReached reached

theorem EndAlike.pure {related : β → γ → Prop} {left : β} {right : γ}
    {leftState : S} {rightState : T} (states : alike leftState rightState)
    (holds : related left right) :
    @EndAlike ε S T β γ alike related
      ((Pure.pure left : Raising ε S β) leftState)
      ((Pure.pure right : Raising ε T γ) rightState) :=
  ⟨holds, states⟩

theorem EndAlike.ofExcept {leftState : S} {rightState : T}
    (states : alike leftState rightState) (result : Except ε α) :
    EndAlike alike Eq (Raising.ofExcept result leftState)
      (Raising.ofExcept result rightState) := by
  cases result with
  | error error => exact ⟨rfl, states⟩
  | ok value => exact ⟨rfl, states⟩

end Raising

namespace StateGraph

variable {ε World Other Node State Key : Type}

theorem trace_succ (graph : StateGraph ε World Node State) (limit : Nat)
    (node : Node) (state : State) (world : World) :
    ∃ rest, graph.trace (limit + 1) node state world = node :: rest ∧
      (rest = [] ∨ ∃ updated next reached,
        graph.route node updated = .ok (some next) ∧
          rest = graph.trace limit next updated reached) := by
  simp only [trace]
  cases executed : graph.execute node state world with
  | mk result reached =>
      cases result with
      | error error => exact ⟨[], rfl, Or.inl rfl⟩
      | ok updated =>
          cases routed : graph.route node updated with
          | error error => exact ⟨[], by simp [routed], Or.inl rfl⟩
          | ok target =>
              cases target with
              | none => exact ⟨[], by simp [routed], Or.inl rfl⟩
              | some next =>
                  exact ⟨_, by simp [routed],
                    Or.inr ⟨updated, next, reached, routed, rfl⟩⟩

/-- On states that agree on these keys, in worlds that are alike, a node of
two graphs does the same: it sets every key alike or leaves it, and the
routers go on alike. -/
def MovesAlike (left : StateGraph ε World Node State)
    (right : StateGraph ε Other Node State) (keyed : Keyed Key State)
    (sets : Node → List Key) (alike : World → Other → Prop)
    (keys : List Key) (node : Node) : Prop :=
  ∀ leftState rightState leftWorld rightWorld,
    keyed.AgreeOn keys leftState rightState → alike leftWorld rightWorld →
      Raising.EndAlike alike
        (fun newLeft newRight =>
          keyed.AgreeOn (sets node) newLeft newRight ∧
            keyed.SetAlike leftState rightState newLeft newRight ∧
            left.route node newLeft = right.route node newRight)
        (left.execute node leftState leftWorld)
        (right.execute node rightState rightWorld)

/-- In any one world, a node and its router depend on these keys only. -/
def ReadsOnly (graph : StateGraph ε World Node State)
    (keyed : Keyed Key State) (sets : Node → List Key) (keys : List Key)
    (node : Node) : Prop :=
  graph.MovesAlike graph keyed sets Eq keys node

variable {graph : StateGraph ε World Node State}
  {other : StateGraph ε Other Node State} {keyed : Keyed Key State}
  {sets : Node → List Key} {alike : World → Other → Prop}

theorem MovesAlike.mono {fewer more : List Key} {node : Node}
    (moves : graph.MovesAlike other keyed sets alike fewer node)
    (included : fewer ⊆ more) :
    graph.MovesAlike other keyed sets alike more node :=
  fun left right leftWorld rightWorld agree =>
    moves left right leftWorld rightWorld (agree.mono included)

/-- Keys for every node that are set on every way to it: the nodes before it
have set them, or had them set already. -/
structure Assigned (graph : StateGraph ε World Node State)
    (sets : Node → List Key) where
  keys : Node → List Key
  atEnd : List Key
  carried : ∀ node state next, graph.route node state = .ok (some next) →
    keys next ⊆ keys node ++ sets node
  carriedToEnd : ∀ node state, graph.route node state = .ok none →
    atEnd ⊆ keys node ++ sets node

namespace Assigned

variable (assigned : Assigned graph sets)

/-- Two ends of a run: the same error, or states that agree on the keys. -/
def SameEnd (keyed : Keyed Key State) (assigned : Assigned graph sets) :
    GraphOutcome ε State → GraphOutcome ε State → Prop
  | .finished left, .finished right => keyed.AgreeOn assigned.atEnd left right
  | .raised left, .raised right => left = right
  | .exhausted, .exhausted => True
  | _, _ => False

/-- The rule of two runs: if every node moves alike on the assigned keys, runs
from states that agree on the assigned keys end alike. -/
theorem invoke_sameEnd
    (moves : ∀ node,
      graph.MovesAlike other keyed sets alike (assigned.keys node) node)
    (limit : Nat) :
    ∀ node left right leftWorld rightWorld,
      keyed.AgreeOn (assigned.keys node) left right →
      alike leftWorld rightWorld →
        SameEnd keyed assigned (graph.invoke limit node left leftWorld).1
            (other.invoke limit node right rightWorld).1 ∧
          alike (graph.invoke limit node left leftWorld).2
            (other.invoke limit node right rightWorld).2 := by
  induction limit with
  | zero =>
      intro node left right leftWorld rightWorld _ worlds
      exact ⟨trivial, worlds⟩
  | succ limit induction =>
      intro node left right leftWorld rightWorld agree worlds
      have stepped := moves node left right leftWorld rightWorld agree worlds
      simp only [invoke]
      cases leftRun : graph.execute node left leftWorld with
      | mk leftResult leftReached =>
      cases rightRun : other.execute node right rightWorld with
      | mk rightResult rightReached =>
      rw [leftRun, rightRun] at stepped
      cases leftResult with
      | error leftError =>
          cases rightResult with
          | ok => cases stepped
          | error rightError => exact stepped
      | ok newLeft =>
          cases rightResult with
          | error => cases stepped
          | ok newRight =>
              obtain ⟨⟨set, setAlike, edges⟩, reached⟩ := stepped
              have known := (setAlike.agreeOn agree).append set
              simp only [← edges]
              cases routed : graph.route node newLeft with
              | error error => exact ⟨rfl, reached⟩
              | ok target =>
                  cases target with
                  | none =>
                      by_cases last : limit = 0
                      · simp only [if_pos last]
                        exact ⟨trivial, reached⟩
                      · simp only [if_neg last]
                        exact ⟨known.mono
                          (assigned.carriedToEnd node newLeft routed), reached⟩
                  | some next =>
                      exact induction next newLeft newRight leftReached
                        rightReached (known.mono
                          (assigned.carried node newLeft next routed)) reached

/-- The rule of one run: where a run comes to a node, the keys that are
assigned there were assigned where it began or were set on the way. -/
theorem keys_subset_of_trace (limit : Nat) :
    ∀ start state world earlier node later,
      graph.trace limit start state world = earlier ++ node :: later →
        assigned.keys node ⊆ assigned.keys start ++ earlier.flatMap sets := by
  induction limit with
  | zero =>
      intro start state world earlier node later passes
      simp [trace] at passes
  | succ limit induction =>
      intro start state world earlier node later passes
      obtain ⟨rest, begins, goesOn⟩ := graph.trace_succ limit start state world
      rw [begins] at passes
      cases earlier with
      | nil =>
          rw [(List.cons.inj passes).1]
          exact List.subset_append_left _ _
      | cons first earlier =>
          obtain ⟨rfl, goesBy⟩ := List.cons.inj passes
          cases goesOn with
          | inl ended => simp [ended] at goesBy
          | inr onward =>
              obtain ⟨updated, next, reached, edge, same⟩ := onward
              have onwards := induction next updated reached earlier node
                later (same ▸ goesBy)
              have carried := assigned.carried start updated next edge
              intro key member
              rw [List.flatMap_cons, ← List.append_assoc]
              cases List.mem_append.mp (onwards member) with
              | inl before => exact List.mem_append_left _ (carried before)
              | inr after => exact List.mem_append_right _ after

end Assigned

end StateGraph

end Kuber.Library

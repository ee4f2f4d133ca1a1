import Mathlib.Data.List.Perm.Basic
import Mathlib.Data.Set.Basic

/-!
# Choosing the first match

Every choice takes its item from the first source that offers one.  Something
is granted when a choice is lucky with its item.  Whether it is granted in any
order of the sources is decided by a family of choices that cannot all be
unlucky at once: whichever of its sources comes first, it makes one of the
family lucky.
-/

namespace Kuber.Library

variable {Source Choice Item : Type} (offer : Choice → Source → Option Item)
  (lucky : Choice → Item → Prop)

/-- Some choice is lucky with the first item it is offered. -/
def Granted (choices : Set Choice) (sources : List Source) : Prop :=
  ∃ choice ∈ choices, ∃ item,
    sources.findSome? (offer choice) = some item ∧ lucky choice item

/-- The source offers this choice an item it is lucky with. -/
def Favours (choice : Choice) (source : Source) : Prop :=
  ∃ item, offer choice source = some item ∧ lucky choice item

/-- A family of choices of which one is lucky in every order. -/
structure Unavoidable (family : Set Choice) (sources : List Source) :
    Prop where
  offered : ∃ choice ∈ family, ∃ source ∈ sources,
    offer choice source ≠ none
  favoured : ∀ choice ∈ family, ∀ source ∈ sources,
    offer choice source ≠ none →
      ∃ other ∈ family, Favours offer lucky other source

variable {offer} {lucky} {choices : Set Choice} {sources ordered : List Source}

/-- A source that comes first decides for every choice it favours. -/
theorem granted_cons_of_favours {source : Source} {choice : Choice}
    (member : choice ∈ choices) (favours : Favours offer lucky choice source) :
    Granted offer lucky choices (source :: sources) := by
  obtain ⟨item, offered, isLucky⟩ := favours
  exact ⟨choice, member, item, by rw [List.findSome?_cons, offered], isLucky⟩

theorem Granted.mono {family : Set Choice} (subset : family ⊆ choices)
    (granted : Granted offer lucky family sources) :
    Granted offer lucky choices sources := by
  obtain ⟨choice, member, found⟩ := granted
  exact ⟨choice, subset member, found⟩

/-- Of an unavoidable family one choice is lucky, in any order. -/
theorem Unavoidable.granted {family : Set Choice}
    (unavoidable : Unavoidable offer lucky family sources)
    (permutation : ordered.Perm sources) :
    Granted offer lucky family ordered := by
  have favoured : ∀ source ∈ ordered, ∀ choice ∈ family,
      offer choice source ≠ none →
        ∃ other ∈ family, Favours offer lucky other source :=
    fun source inOrdered choice member =>
      unavoidable.favoured choice member source
        (permutation.mem_iff.mp inOrdered)
  obtain ⟨choice, member, source, inSources, offered⟩ := unavoidable.offered
  have inOrdered : source ∈ ordered := permutation.mem_iff.mpr inSources
  clear permutation
  -- the first source that offers the family anything favours one of it
  induction ordered with
  | nil => cases inOrdered
  | cons head tail induction =>
      by_cases silent : ∀ other ∈ family, offer other head = none
      · have later : source ∈ tail := by
          rcases List.mem_cons.mp inOrdered with rfl | later
          · exact absurd (silent choice member) offered
          · exact later
        obtain ⟨winner, inFamily, item, found, isLucky⟩ := induction
          (fun following inTail =>
            favoured following (List.mem_cons_of_mem _ inTail)) later
        refine ⟨winner, inFamily, item, ?_, isLucky⟩
        rw [List.findSome?_cons, silent winner inFamily]
        exact found
      · push Not at silent
        obtain ⟨other, inFamily, offeredHead⟩ := silent
        obtain ⟨winner, winnerMember, favours⟩ :=
          favoured head List.mem_cons_self other inFamily offeredHead
        exact granted_cons_of_favours winnerMember favours

/-- A source that favours no choice leaves it to the choices it offers
nothing. -/
private theorem not_granted_cons {source : Source}
    (unlucky : ∀ choice ∈ choices, ¬Favours offer lucky choice source)
    (others : ¬Granted offer lucky
      {choice | choice ∈ choices ∧ offer choice source = none} sources) :
    ¬Granted offer lucky choices (source :: sources) := by
  intro ⟨choice, member, item, found, isLucky⟩
  rw [List.findSome?_cons] at found
  cases offered : offer choice source with
  | none =>
      rw [offered] at found
      exact others ⟨choice, ⟨member, offered⟩, item, found, isLucky⟩
  | some first =>
      rw [offered] at found
      exact unlucky choice member
        ⟨item, offered.trans found, isLucky⟩

private theorem Unavoidable.insert {family : Set Choice} {source : Source}
    {earlier later : List Source}
    (unavoidable : Unavoidable offer lucky family (earlier ++ later))
    (silent : ∀ choice ∈ family, offer choice source = none) :
    Unavoidable offer lucky family (earlier ++ source :: later) := by
  have members : ∀ other, other ∈ earlier ++ source :: later ↔
      other = source ∨ other ∈ earlier ++ later := by
    intro other
    simp only [List.mem_append, List.mem_cons]
    tauto
  constructor
  · obtain ⟨choice, member, other, present, offered⟩ := unavoidable.offered
    exact ⟨choice, member, other, (members other).mpr (Or.inr present),
      offered⟩
  · intro choice member other present offered
    rcases (members other).mp present with rfl | present
    · exact absurd (silent choice member) offered
    · exact unavoidable.favoured choice member other present offered

/-- Without an unavoidable family there is a source that offers something but
favours no choice. -/
private theorem exists_unlucky_source
    (avoidable : ¬Unavoidable offer lucky
      {choice | choice ∈ choices ∧
        ∃ source ∈ sources, offer choice source ≠ none} sources)
    (offered : ∃ choice ∈ choices, ∃ source ∈ sources,
      offer choice source ≠ none) :
    ∃ source ∈ sources, ∀ choice ∈ choices,
      ¬Favours offer lucky choice source := by
  by_contra none
  push Not at none
  apply avoidable
  constructor
  · obtain ⟨choice, member, source, present, offering⟩ := offered
    exact ⟨choice, ⟨member, source, present, offering⟩, source, present,
      offering⟩
  · intro _ _ source present _
    obtain ⟨choice, member, item, found, isLucky⟩ := none source present
    refine ⟨choice, ⟨member, source, present, ?_⟩, item, found, isLucky⟩
    rw [found]
    exact Option.some_ne_none item

/-- Without an unavoidable family, some order makes every choice unlucky: a
source that favours no remaining choice goes first. -/
theorem exists_order_not_granted
    (avoidable : ∀ family ⊆ choices,
      ¬Unavoidable offer lucky family sources) :
    ∃ ordered, ordered.Perm sources ∧
      ¬Granted offer lucky choices ordered := by
  induction length : sources.length generalizing sources choices with
  | zero =>
      rw [List.length_eq_zero_iff.mp length]
      refine ⟨[], List.Perm.refl _, ?_⟩
      intro ⟨choice, _, item, found, _⟩
      cases found
  | succ count induction =>
      by_cases offered : ∃ choice ∈ choices, ∃ source ∈ sources,
          offer choice source ≠ none
      · obtain ⟨source, present, unlucky⟩ := exists_unlucky_source
          (avoidable _ fun _ member => member.1) offered
        obtain ⟨earlier, later, rfl⟩ := List.append_of_mem present
        have shorter : (earlier ++ later).length = count := by
          simp only [List.length_append, List.length_cons] at length ⊢
          omega
        -- the choices that this source leaves open are made unlucky later
        obtain ⟨rest, permutation, restUnlucky⟩ :=
          @induction {choice | choice ∈ choices ∧ offer choice source = none}
            (earlier ++ later)
            (fun family subset unavoidable => avoidable family
              (fun _ member => (subset member).1)
              (unavoidable.insert fun _ member => (subset member).2)) shorter
        exact ⟨source :: rest,
          (permutation.cons source).trans List.perm_middle.symm,
          not_granted_cons unlucky restUnlucky⟩
      · push Not at offered
        refine ⟨sources, List.Perm.refl _, ?_⟩
        intro ⟨choice, member, item, found, _⟩
        rw [List.findSome?_eq_none_iff.mpr (offered choice member)] at found
        cases found

/-- The order of the sources does not matter exactly when what could be
granted at all is granted by an unavoidable family. -/
theorem granted_perm_iff :
    (∀ ordered, ordered.Perm sources →
      (Granted offer lucky choices ordered ↔
        Granted offer lucky choices sources)) ↔
      ((∃ choice ∈ choices, ∃ source ∈ sources,
          Favours offer lucky choice source) →
        ∃ family ⊆ choices, Unavoidable offer lucky family sources) := by
  constructor
  · intro same ⟨choice, member, source, present, favours⟩
    by_contra avoidable
    push Not at avoidable
    obtain ⟨ordered, permutation, notGranted⟩ :=
      exists_order_not_granted avoidable
    obtain ⟨earlier, later, rfl⟩ := List.append_of_mem present
    have granted : Granted offer lucky choices
        (source :: (earlier ++ later)) :=
      granted_cons_of_favours member favours
    have inFront := (same _ List.perm_middle.symm).mp granted
    exact notGranted ((same ordered permutation).mpr inFront)
  · intro decided ordered permutation
    by_cases possible : ∃ choice ∈ choices, ∃ source ∈ sources,
        Favours offer lucky choice source
    · obtain ⟨family, subset, unavoidable⟩ := decided possible
      have everywhere := fun (order : List Source)
          (same : order.Perm sources) =>
        (unavoidable.granted same).mono subset
      exact ⟨fun _ => everywhere sources (List.Perm.refl _),
        fun _ => everywhere ordered permutation⟩
    · have never : ∀ order, order.Perm sources →
          ¬Granted offer lucky choices order := by
        intro order same ⟨choice, member, item, found, isLucky⟩
        obtain ⟨source, present, offered⟩ :=
          List.exists_of_findSome?_eq_some found
        exact possible ⟨choice, member, source, same.mem_iff.mp present, item,
          offered, isLucky⟩
      exact ⟨fun granted => absurd granted (never ordered permutation),
        fun granted => absurd granted (never sources (List.Perm.refl _))⟩

end Kuber.Library

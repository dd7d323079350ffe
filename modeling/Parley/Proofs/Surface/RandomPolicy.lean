import Mathlib.Data.Set.Function
import Parley.Proofs.Random.Even
import Parley.Proofs.Surface.Lawful

/-!
# Random picks

A random policy numbers the options of a page, choices first and then items, and draws one of the
numbers. The numbering is a bijection between the numbers below the count of options and the picks
that the page offers (`pickOf_bijOn`). So a pick that is drawn can always be selected, and each
option has the same chance. `random_picks_cover` puts this together, with what it means for an
automated surface: no draw is wasted on it.
-/

namespace Parley

/-- The picks that a page offers. -/
def Page.offered (p : Page) : Set Pick := {pick | (p.selectionFor pick).isSome}

/-- The number of options of a page. -/
def Page.optionCount (p : Page) : Nat := p.choices.length + p.items.length

namespace Page

variable {p : Page} {index : Nat}

/-- A page offers the choices at its places. -/
lemma choice_mem_offered : .choice index ∈ p.offered ↔ index < p.choices.length := by
  show (p.choices[index]?.map _).isSome ↔ _
  simp

/-- A page offers the items at its places. -/
lemma present_mem_offered : .present index ∈ p.offered ↔ index < p.items.length := by
  constructor
  · intro offered
    obtain ⟨s, offered⟩ := Option.isSome_iff_exists.1 offered
    exact (listed_of_offered offered).2
  · intro inside
    obtain ⟨handle, offered⟩ := offered_of_getElem?_items (List.getElem?_eq_getElem inside)
    exact Option.isSome_of_eq_some offered

/-- A page without options has neither choices nor items. -/
lemma optionCount_eq_zero : p.optionCount = 0 ↔ p.choices = [] ∧ p.items = [] := by
  rw [optionCount, Nat.add_eq_zero_iff, List.length_eq_zero_iff, List.length_eq_zero_iff]

end Page

namespace RandomPolicy

open Parley.Random (Source)

variable {policy : RandomPolicy} {page : Page}

/-! ## Numbers of options -/

/-- Every number below the count of options stands for a pick that is offered. -/
lemma pickOf_mapsTo (page : Page) :
    Set.MapsTo (pickOf page.choices.length) (Set.Iio page.optionCount) page.offered := by
  intro n below
  rw [Set.mem_Iio, Page.optionCount] at below
  rw [pickOf]
  split
  · rename_i first
    exact Page.choice_mem_offered.2 first
  · exact Page.present_mem_offered.2 (by omega)

/-- Different numbers stand for different picks. -/
lemma pickOf_injective (choices : Nat) : Function.Injective (pickOf choices) := by
  intro m n same
  rw [pickOf, pickOf] at same
  split at same
  · split at same
    · exact Pick.choice.inj same
    · cases same
  · split at same
    · cases same
    · have shifted := Pick.present.inj same
      omega

/-- Every pick that is offered has a number below the count of options. -/
lemma pickOf_surjOn (page : Page) :
    Set.SurjOn (pickOf page.choices.length) (Set.Iio page.optionCount) page.offered := by
  intro pick offered
  cases pick with
  | choice index =>
    have inside := Page.choice_mem_offered.1 offered
    exact ⟨index, Nat.lt_add_right _ inside, if_pos inside⟩
  | present index =>
    have inside := Page.present_mem_offered.1 offered
    -- the items are numbered behind the choices
    refine ⟨page.choices.length + index, Nat.add_lt_add_left inside _, ?_⟩
    rw [pickOf, if_neg (by omega), Nat.add_sub_cancel_left]

/-- Each option of a page has one number below their count, and each such number has an option. -/
lemma pickOf_bijOn (page : Page) :
    Set.BijOn (pickOf page.choices.length) (Set.Iio page.optionCount) page.offered :=
  ⟨pickOf_mapsTo page, (pickOf_injective _).injOn, pickOf_surjOn page⟩

/-- The numbers that a draw among the options of a page keeps and that stand for a pick. -/
def wordsFor (page : Page) (pick : Pick) : Finset Nat :=
  {v ∈ Finset.range Random.Width.double.count |
    v * page.optionCount % Random.Width.double.count ≤ Source.zone .double page.optionCount ∧
    pickOf page.choices.length (v * page.optionCount / Random.Width.double.count) = pick}

/-- Every option is stood for by equally many of the numbers that are kept. -/
lemma card_wordsFor (fits : page.optionCount < Random.Width.double.count) {pick : Pick}
    (offered : pick ∈ page.offered) :
    (wordsFor page pick).card = Source.share .double page.optionCount := by
  obtain ⟨n, below, rfl⟩ := pickOf_surjOn page offered
  have same : wordsFor page (pickOf page.choices.length n) =
      Source.keptFor .double page.optionCount n := by
    ext v
    rw [wordsFor, Source.keptFor, Finset.mem_filter, Finset.mem_filter,
      (pickOf_injective _).eq_iff]
  rw [same]
  exact Source.card_keptFor below fits

/-! ## Picks -/

/-- From a page without options nothing is picked, and nothing is drawn for it. -/
lemma pick_nothing (empty : page.optionCount = 0) : Policy.pick policy page = (none, policy) :=
  if_pos empty

/-- From a page with options the pick is the one whose number is drawn. -/
lemma pick_drawn (some_option : page.optionCount ≠ 0) :
    Policy.pick policy page =
      (some (pickOf page.choices.length (policy.source.draw .double page.optionCount).1),
        ⟨(policy.source.draw .double page.optionCount).2⟩) :=
  if_neg some_option

/-- What a random policy picks from a page. -/
structure Covers (policy : RandomPolicy) (page : Page) : Prop where
  none_iff : (Policy.pick policy page).1 = none ↔ page.choices = [] ∧ page.items = []
  /-- Without an option nothing is drawn. -/
  undrawn : (Policy.pick policy page).1 = none → (Policy.pick policy page).2 = policy
  /-- Else one number below the count of options is drawn, and the pick is the one it stands for. -/
  drawn : ∀ pick, (Policy.pick policy page).1 = some pick →
    (policy.source.draw .double page.optionCount).1 < page.optionCount ∧
      pick = pickOf page.choices.length (policy.source.draw .double page.optionCount).1 ∧
      (Policy.pick policy page).2 = ⟨(policy.source.draw .double page.optionCount).2⟩
  selectable : ∀ pick, (Policy.pick policy page).1 = some pick → (page.selectionFor pick).isSome
  offered_iff : ∀ pick, (page.selectionFor pick).isSome ↔
    match pick with
    | .choice index => index < page.choices.length
    | .present index => index < page.items.length
  bijective : Set.BijOn (pickOf page.choices.length) (Set.Iio page.optionCount)
    {pick | (page.selectionFor pick).isSome}
  /-- A page has fewer options than there are numbers to draw from, so no option is favoured. -/
  even : page.optionCount < Random.Width.double.count → ∀ pick, (page.selectionFor pick).isSome →
    (wordsFor page pick).card = Source.share .double page.optionCount

/-- A random policy picks from all that a page offers. -/
lemma covers (policy : RandomPolicy) (page : Page) : policy.Covers page := by
  have picked : (Policy.pick policy page).1 = none ↔ page.optionCount = 0 := by
    by_cases empty : page.optionCount = 0
    · rw [pick_nothing empty]
      exact ⟨fun _ => empty, fun _ => rfl⟩
    · rw [pick_drawn empty]
      exact ⟨nofun, fun absent => absurd absent empty⟩
  have drawn : ∀ pick, (Policy.pick policy page).1 = some pick →
      (policy.source.draw .double page.optionCount).1 < page.optionCount ∧
        pick = pickOf page.choices.length (policy.source.draw .double page.optionCount).1 ∧
        (Policy.pick policy page).2 = ⟨(policy.source.draw .double page.optionCount).2⟩ := by
    intro pick some_pick
    have some_option : page.optionCount ≠ 0 := by
      rw [Ne, ← picked, some_pick]
      exact nofun
    rw [pick_drawn some_option] at some_pick ⊢
    exact ⟨Source.draw_lt (Nat.pos_of_ne_zero some_option) _ _,
      (Option.some.inj some_pick).symm, rfl⟩
  refine ⟨picked.trans Page.optionCount_eq_zero, ?_, drawn, ?_, ?_, pickOf_bijOn page, ?_⟩
  · intro unpicked
    rw [pick_nothing (picked.1 unpicked)]
  · intro pick some_pick
    obtain ⟨below, rfl, _⟩ := drawn pick some_pick
    exact pickOf_mapsTo page below
  · intro pick
    cases pick with
    | choice index => exact Page.choice_mem_offered
    | present index => exact Page.present_mem_offered
  · exact fun fits _ offered => card_wordsFor fits offered

end RandomPolicy

/-- An automated surface with a random policy draws only what it reports: nothing when it reports
nothing, and one number for a report. -/
structure Automated.Thrifty (a : Automated RandomPolicy) : Prop where
  silent_iff : a.respond.1 = none ↔ a.spent = true ∨ a.page.choices = [] ∧ a.page.items = []
  undrawn : a.respond.1 = none → a.respond.2 = a
  drawn : ∀ s, a.respond.1 = some s →
    a.page.selectionFor (RandomPolicy.pickOf a.page.choices.length
      (a.policy.source.draw .double a.page.optionCount).1) = some s ∧
    a.respond.2.policy = ⟨(a.policy.source.draw .double a.page.optionCount).2⟩

/-- A random policy draws a number only for a selection that is then reported. -/
lemma Automated.thrifty (a : Automated RandomPolicy) : a.Thrifty := by
  by_cases spent : a.spent = true
  · have silent := Automated.respond_spent spent
    refine ⟨?_, ?_, ?_⟩
    · rw [silent]
      exact ⟨fun _ => .inl spent, fun _ => rfl⟩
    · rw [silent]
      exact fun _ => rfl
    · rw [silent]
      exact nofun
  have covers := a.policy.covers a.page
  have answer := Automated.respond_inv (Bool.eq_false_iff.2 spent)
  generalize answered : a.respond = r at answer
  cases answer with
  | @declined pick policy picked unselected =>
    have unpicked : (Policy.pick a.policy a.page).1 = none := by
      rw [picked]
      cases pick with
      | none => rfl
      | some pick =>
        have selectable := covers.selectable pick (congrArg Prod.fst picked)
        rw [Option.bind_some] at unselected
        rw [unselected] at selectable
        cases selectable
    have kept : policy = a.policy := (congrArg Prod.snd picked).symm.trans (covers.undrawn unpicked)
    subst kept
    refine ⟨?_, ?_, ?_⟩
    · rw [answered]
      exact ⟨fun _ => .inr (covers.none_iff.1 unpicked), fun _ => rfl⟩
    · rw [answered]
      exact fun _ => rfl
    · rw [answered]
      exact nofun
  | @selected pick policy s picked offered =>
    have some_pick : (Policy.pick a.policy a.page).1 = some pick := congrArg Prod.fst picked
    obtain ⟨_, numbered, after⟩ := covers.drawn pick some_pick
    refine ⟨?_, ?_, ?_⟩
    · rw [answered]
      refine ⟨nofun, ?_⟩
      rintro (refused | empty)
      · exact absurd refused spent
      · rw [covers.none_iff.2 empty] at some_pick
        cases some_pick
    · rw [answered]
      exact nofun
    · rw [answered]
      rintro _ ⟨⟩
      rw [← numbered, ← after, picked]
      exact ⟨offered, rfl⟩

/-- A random policy picks nothing from a page if and only if the page has neither a choice nor an
item, and then it draws no number. Else it draws one number below the count of options. Each of
these numbers stands for another pick that the page offers, every offered pick has its number, and
all of them are equally likely. So an automated surface reports a selection for whatever is drawn
on it. -/
theorem random_picks_cover :
    (∀ (policy : RandomPolicy) (page : Page), policy.Covers page) ∧
      ∀ a : Automated RandomPolicy, a.Thrifty :=
  ⟨RandomPolicy.covers, Automated.thrifty⟩

example : (List.range 5).map (RandomPolicy.pickOf 2) =
    [.choice 0, .choice 1, .present 0, .present 1, .present 2] := rfl

end Parley

import Mathlib.Data.List.Basic
import Parley.Proofs.Conversation.Isolation
import Parley.Proofs.Numeric.Decimal
import Parley.Proofs.Surface.Drawing
import Parley.Proofs.Surface.Gestures
import Parley.Proofs.Surface.Reports

/-!
# The screen of a terminal

A terminal is drawn only when its screen lags behind. Whatever changes page or mode marks it so,
except for a report, after which events mean nothing anyway; so as long as it is not marked and its
last draw did not fail, what was drawn last is what a screen would show now (`Current`). What is
written for the options is what events do (`Tells`): the entry with a number is the option that the
number selects or holds up. The entries can be read off the written text if each of them is one line
of it (`linesBelow_rendering`). `screen_current` says all this for every sequence of uses, with
draws that may fail at any write.
-/

namespace Parley.Terminal

open Decimal (digits)

/-! ## Lines of the screen -/

/-- The line of a list entry. -/
def entryLine (n : Nat) (entry : String) : String := "  [" ++ Decimal.ofNat n ++ "] " ++ entry

/-- The line that names the item that is held up. -/
def heldLine (name : String) : String := "You hold up the " ++ name ++ ". [enter] present, [b] back"

/-- The characters of a list entry. -/
lemma toList_entryLine (n : Nat) (entry : String) :
    (entryLine n entry).toList =
      ' ' :: ' ' :: '[' :: (digits n ++ ']' :: ' ' :: entry.toList) := by
  simp [entryLine, Decimal.ofNat]

/-- What stands before the bracket is the number. -/
lemma takeWhile_digits (n : Nat) (rest : List Char) :
    (digits n ++ ']' :: rest).takeWhile (· ≠ ']') = digits n := by
  have unbracketed : ∀ c ∈ digits n, decide (c ≠ ']') = true := by
    intro c mem
    rw [decide_eq_true_eq]
    rintro rfl
    exact absurd (Decimal.isSome_digitValue?_of_mem mem) (by decide)
  rw [List.takeWhile_append_of_pos unbracketed]
  simp

/-- Number and text can be read off an entry. -/
lemma entryLine_inj {m n : Nat} {entry entry' : String}
    (same : entryLine m entry = entryLine n entry') : m = n ∧ entry = entry' := by
  have chars := congrArg String.toList same
  rw [toList_entryLine, toList_entryLine] at chars
  simp only [List.cons.injEq, true_and] at chars
  have number := congrArg (List.takeWhile (· ≠ ']')) chars
  rw [takeWhile_digits, takeWhile_digits] at number
  rw [number] at chars
  have text := List.append_cancel_left chars
  simp only [List.cons.injEq, true_and] at text
  exact ⟨Decimal.digits_injective number, String.toList_inj.1 text⟩

/-- A line is no entry unless a digit follows the bracket. -/
lemma ne_entryLine {line : String} (n : Nat) (entry : String)
    (other : ∀ c, [' ', ' ', '[', c] <+: line.toList → Decimal.digitValue? c = none) :
    entryLine n entry ≠ line := by
  rintro rfl
  obtain ⟨c, rest, first⟩ := List.exists_cons_of_ne_nil (Decimal.digits_ne_nil n)
  have valued := Decimal.isSome_digitValue?_of_mem (first ▸ List.mem_cons_self : c ∈ digits n)
  rw [other c ⟨rest ++ ']' :: ' ' :: entry.toList, by rw [toList_entryLine, first]; rfl⟩] at valued
  cases valued

/-- The entries of a numbered list are its elements, counting from one. -/
lemma mem_numbered {n : Nat} {entry : String} {entries : List String} :
    entryLine n entry ∈ numbered entries ↔
      ∃ index, n = index + 1 ∧ entries[index]? = some entry := by
  rw [numbered, List.mem_map]
  constructor
  · rintro ⟨⟨entry', index⟩, mem, same⟩
    obtain ⟨rfl, rfl⟩ := entryLine_inj (m := index + 1) same
    exact ⟨index, rfl, List.mem_zipIdx_iff_getElem?.1 mem⟩
  · rintro ⟨index, rfl, found⟩
    exact ⟨(entry, index), List.mem_zipIdx_iff_getElem?.2 found, rfl⟩

/-- The characters of the line that names the item that is held up. -/
lemma toList_heldLine (name : String) :
    (heldLine name).toList =
      "You hold up the ".toList ++ (name.toList ++ ". [enter] present, [b] back".toList) := by
  show ("You hold up the " ++ name ++ ". [enter] present, [b] back").toList = _
  rw [String.toList_append, String.toList_append, List.append_assoc]

/-- The name of the item can be read off that line. -/
lemma heldLine_inj {name name' : String} (same : heldLine name = heldLine name') :
    name = name' := by
  have chars := congrArg String.toList same
  rw [toList_heldLine, toList_heldLine] at chars
  exact String.toList_inj.1 (List.append_cancel_right (List.append_cancel_left chars))

/-! ## What the screen tells -/

/-- An entry with this number is among the lines that are written for the options. -/
def Lists (t : Terminal) (n : Nat) (entry : String) : Prop :=
  entryLine n entry ∈ optionLines t.page t.mode

/-- The event has an effect. -/
def Minds (t : Terminal) (event : InputEvent) : Prop := t.respond event ≠ (none, t)

variable {t : Terminal}

/-- Among the choices, the entries are the labels, counted from one. -/
lemma lists_choosing (choosing : t.mode = .choosing) {n : Nat} {label : String} :
    t.Lists n label ↔
      ∃ index handle, n = index + 1 ∧ t.page.choices[index]? = some (label, handle) := by
  have other : entryLine n label ≠ "  [p] present something" :=
    ne_entryLine n label (by simp; decide)
  rw [Lists, choosing, optionLines, List.mem_append, mem_numbered]
  simp only [Page.labels, List.getElem?_map, Option.map_eq_some_iff]
  constructor
  · rintro (⟨index, rfl, ⟨_, handle⟩, found, rfl⟩ | mem)
    · exact ⟨index, handle, rfl, found⟩
    · split at mem
      · exact absurd (List.mem_singleton.1 mem) other
      · cases mem
  · rintro ⟨index, handle, rfl, found⟩
    exact .inl ⟨index, rfl, _, found, rfl⟩

/-- In the picker, the entries are the names of the items, counted from one. -/
lemma lists_picking (picking : t.mode = .picking) {n : Nat} {name : String} :
    t.Lists n name ↔
      ∃ index item, n = index + 1 ∧ t.page.items[index]? = some item ∧ item.name = name := by
  have above : entryLine n name ≠ "What do you present?" := ne_entryLine n name (by simp)
  have below : entryLine n name ≠ "  [b] back" := ne_entryLine n name (by simp; decide)
  rw [Lists, picking, optionLines, List.mem_append, List.mem_append, mem_numbered]
  simp only [List.mem_singleton, above, below, false_or, or_false, List.getElem?_map,
    Option.map_eq_some_iff]
  constructor
  · rintro ⟨index, rfl, item, found⟩
    exact ⟨index, item, rfl, found⟩
  · rintro ⟨index, item, rfl, found⟩
    exact ⟨index, rfl, item, found⟩

/-- While an item is held up the screen names it and lists nothing. -/
lemma mem_optionLines_confirming {index : Nat} (confirming : t.mode = .confirming index)
    {line : String} :
    line ∈ optionLines t.page t.mode ↔
      ∃ item, t.page.items[index]? = some item ∧ line = heldLine item.name := by
  rw [confirming, optionLines]
  cases found : t.page.items[index]? with
  | none => simp
  | some item =>
    show line ∈ [heldLine item.name] ↔ _
    simp

/-- The screen tells what numbers and confirming do. -/
structure Tells (t : Terminal) : Prop where
  /-- Among the choices, an entry is the label of the choice that its number gets reported. -/
  choices : t.mode = .choosing → ∀ n label, t.Lists n label ↔
    ∃ index handle, n = index + 1 ∧ t.page.choices[index]? = some (label, handle) ∧
      (t.respond (.number n)).1 = some (.choice handle)
  /-- Among the items, an entry is the name of the item that its number holds up. -/
  items : t.mode = .picking → ∀ n name, t.Lists n name ↔
    ∃ index item, n = index + 1 ∧ t.page.items[index]? = some item ∧ item.name = name ∧
      t.respond (.number n) = (none, t.goto (.confirming index))
  /-- The numbers of the entries are those that have an effect, unless an item is held up. -/
  numbers : (∀ index, t.mode ≠ .confirming index) →
    ∀ n, (∃ entry, t.Lists n entry) ↔ t.Minds (.number n)
  /-- While an item is held up nothing is listed, but every item can be held up in its place. -/
  unlisted : ∀ index, t.mode = .confirming index → (∀ n entry, ¬ t.Lists n entry) ∧
    ∀ n, t.Minds (.number n) ↔ ∃ other, n = other + 1 ∧ other < t.page.items.length ∧
      t.respond (.number n) = (none, t.goto (.confirming other))
  /-- The item that is said to be held up is the one that confirming presents. -/
  held : ∀ index, t.mode = .confirming index → ∀ name,
    heldLine name ∈ optionLines t.page t.mode ↔
      ∃ handle item, item.name = name ∧ (t.respond .confirm).1 = some (.present handle item)

/-- Going to another mode has an effect, and so has going anywhere once the screen was drawn. -/
lemma goto_ne {mode : TerminalMode} (moves : t.mode ≠ mode ∨ t.dirty = false) :
    (none, t.goto mode) ≠ ((none, t) : Option Selection × Terminal) := by
  intro same
  have same : t.goto mode = t := congrArg Prod.snd same
  obtain other | clean := moves
  · exact other (congrArg Terminal.mode same).symm
  · have dirty : true = t.dirty := congrArg Terminal.dirty same
    rw [clean] at dirty
    cases dirty

/-- Among the choices, the numbers of the choices have an effect. -/
lemma minds_choosing (choosing : t.mode = .choosing) (n : Nat) :
    t.Minds (.number n) ↔
      ∃ index label handle, n = index + 1 ∧ t.page.choices[index]? = some (label, handle) := by
  constructor
  · intro minds
    have taken := chooses choosing (.number n)
    rw [Minds] at minds
    generalize t.respond (.number n) = r at taken minds
    cases taken with
    | @chosen index s offered =>
      obtain ⟨label, handle, found, _⟩ := Page.selectionFor_choice_iff.1 offered
      exact ⟨index, label, handle, rfl, found⟩
    | ignored _ _ => exact absurd rfl minds
  · rintro ⟨index, label, handle, rfl, found⟩
    have offered := Page.selectionFor_choice_iff.2 ⟨label, handle, found, rfl⟩
    rw [Minds, respond_choice choosing offered]
    exact nofun

/-- In the picker, the numbers of the items have an effect. -/
lemma minds_picking (picking : t.mode = .picking) (n : Nat) :
    t.Minds (.number n) ↔ ∃ index, n = index + 1 ∧ index < t.page.items.length := by
  constructor
  · intro minds
    have taken := picks picking (.number n)
    rw [Minds] at minds
    generalize t.respond (.number n) = r at taken minds
    cases taken with
    | heldUp listed => exact ⟨_, rfl, listed⟩
    | ignored _ _ => exact absurd rfl minds
  · rintro ⟨index, rfl, listed⟩
    rw [Minds, respond_pick picking listed]
    exact goto_ne (.inl (by rw [picking]; exact nofun))

/-- While an item is held up, the numbers of all items still have an effect: that of the same item
has the screen drawn again. -/
lemma minds_confirming {index : Nat} (confirming : t.mode = .confirming index)
    (clean : t.dirty = false) (n : Nat) :
    t.Minds (.number n) ↔ ∃ other, n = other + 1 ∧ other < t.page.items.length ∧
      t.respond (.number n) = (none, t.goto (.confirming other)) := by
  constructor
  · intro minds
    have taken := confirms confirming (.number n)
    rw [Minds] at minds
    generalize t.respond (.number n) = r at taken minds ⊢
    cases taken with
    | heldUp listed => exact ⟨_, rfl, listed, rfl⟩
    | ignored _ _ _ => exact absurd rfl minds
  · rintro ⟨other, rfl, _, moved⟩
    rw [Minds, moved]
    exact goto_ne (.inr clean)

/-- A screen that was drawn tells what numbers and confirming do. -/
lemma tells (clean : t.dirty = false) : t.Tells where
  choices choosing n label := by
    rw [lists_choosing choosing]
    constructor
    · rintro ⟨index, handle, rfl, found⟩
      have offered := Page.selectionFor_choice_iff.2 ⟨label, handle, found, rfl⟩
      exact ⟨index, handle, rfl, found, by rw [respond_choice choosing offered]⟩
    · rintro ⟨index, handle, number, found, _⟩
      exact ⟨index, handle, number, found⟩
  items picking n name := by
    rw [lists_picking picking]
    constructor
    · rintro ⟨index, item, rfl, found, named⟩
      have listed := (List.getElem?_eq_some_iff.1 found).1
      exact ⟨index, item, rfl, found, named, respond_pick picking listed⟩
    · rintro ⟨index, item, number, found, named, _⟩
      exact ⟨index, item, number, found, named⟩
  numbers unheld n := by
    cases mode : t.mode with
    | choosing =>
      simp only [lists_choosing mode, minds_choosing mode]
      constructor
      · rintro ⟨label, index, handle, number, found⟩
        exact ⟨index, label, handle, number, found⟩
      · rintro ⟨index, label, handle, number, found⟩
        exact ⟨label, index, handle, number, found⟩
    | picking =>
      simp only [lists_picking mode, minds_picking mode]
      constructor
      · rintro ⟨name, index, item, number, found, _⟩
        exact ⟨index, number, (List.getElem?_eq_some_iff.1 found).1⟩
      · rintro ⟨index, number, listed⟩
        exact ⟨_, index, _, number, List.getElem?_eq_getElem listed, rfl⟩
    | confirming index => exact absurd mode (unheld index)
    | spent =>
      rw [Minds, respond_spent mode]
      simp [Lists, mode, optionLines]
  unlisted index confirming := by
    refine ⟨fun n entry listed => ?_, minds_confirming confirming clean⟩
    obtain ⟨item, _, same⟩ := (mem_optionLines_confirming confirming).1 listed
    exact ne_entryLine n entry (by simp [toList_heldLine]) same
  held index confirming name := by
    rw [mem_optionLines_confirming confirming]
    constructor
    · rintro ⟨item, found, same⟩
      obtain ⟨handle, offered⟩ := Page.offered_of_getElem?_items found
      exact ⟨handle, item, (heldLine_inj same).symm, by rw [respond_confirm confirming offered]⟩
    · rintro ⟨handle, item, rfl, reported⟩
      have taken := confirms confirming .confirm
      generalize t.respond .confirm = r at taken reported
      cases taken with
      | presented offered =>
        cases reported
        obtain ⟨_, _, found, ⟨⟩⟩ := Page.getElem?_items_of_offered offered
        exact ⟨item, found, rfl⟩
      | ignored _ _ _ => cases reported

/-! ## Lines of the written text -/

/-- No label and no name of an item goes over the end of a line. -/
def SingleLines (p : Page) : Prop :=
  (∀ label ∈ p.labels, '\n' ∉ label.toList) ∧ ∀ item ∈ p.items, '\n' ∉ item.name.toList

/-- What is written above the options: the texts of the page, between empty lines. -/
def heading (p : Page) : String := linesText ([""] ++ p.texts ++ [""])

/-- The lines of a text in which every line has its end. -/
def textLines (cs : List Char) : List String := (cs.splitOn '\n').dropLast.map String.ofList

/-- The lines of a text below the texts of a page. -/
def linesBelow (p : Page) (text : String) : List String :=
  textLines (text.toList.drop (heading p).toList.length)

/-- The text of the screen as it has to be now. -/
def rendering (t : Terminal) : String := linesText (screen t.page t.mode)

/-- The options are written below the heading. -/
lemma rendering_eq (t : Terminal) :
    t.rendering = heading t.page ++ linesText (optionLines t.page t.mode) := by
  rw [rendering, screen, heading, linesText_append]

/-- A line without an end in it is the first part of a text that goes on behind its end. -/
lemma splitOn_line {line : List Char} (single : '\n' ∉ line) (rest : List Char) :
    (line ++ '\n' :: rest).splitOn '\n' = line :: rest.splitOn '\n' := by
  refine List.splitOnP_append_cons_of_forall_mem (p := (· == '\n')) ?_ '\n' rfl rest
  intro c mem
  exact beq_eq_false_iff_ne.2 fun same => single (same ▸ mem)

/-- Lines that do not go over the end of a line are read back from their text. -/
lemma textLines_linesText {lines : List String} (single : ∀ line ∈ lines, '\n' ∉ line.toList) :
    textLines (linesText lines).toList = lines := by
  induction lines with
  | nil => rfl
  | cons line rest ih =>
    obtain ⟨first, others⟩ := List.forall_mem_cons.1 single
    have text : (linesText (line :: rest)).toList =
        line.toList ++ '\n' :: (linesText rest).toList := by
      rw [linesText_cons, String.toList_append, String.toList_append, List.append_assoc]
      rfl
    have later := ih others
    rw [textLines] at later ⊢
    rw [text, splitOn_line first, List.dropLast_cons_of_ne_nil (List.splitOn_ne_nil _ _),
      List.map_cons, later, String.ofList_toList]

/-- The entries of a numbered list are single lines if its elements are. -/
lemma single_numbered {entries : List String} (single : ∀ entry ∈ entries, '\n' ∉ entry.toList) :
    ∀ line ∈ numbered entries, '\n' ∉ line.toList := by
  intro line mem
  obtain ⟨⟨entry, index⟩, listed, rfl⟩ := List.mem_map.1 mem
  have unbroken := single entry (List.fst_mem_of_mem_zipIdx listed)
  have numeral : '\n' ∉ digits (index + 1) := fun mem =>
    absurd (Decimal.isSome_digitValue?_of_mem mem) (by decide)
  show '\n' ∉ (entryLine (index + 1) entry).toList
  rw [toList_entryLine]
  simp [numeral, unbroken]

/-- What is written for an option is one line if its label or name is. -/
lemma single_optionLines {p : Page} (single : SingleLines p) (mode : TerminalMode) :
    ∀ line ∈ optionLines p mode, '\n' ∉ line.toList := by
  obtain ⟨labels, items⟩ := single
  cases mode with
  | choosing =>
    intro line mem
    obtain entry | key := List.mem_append.1 mem
    · exact single_numbered labels line entry
    · split at key
      · obtain rfl := List.mem_singleton.1 key
        decide
      · cases key
  | picking =>
    have names : ∀ name ∈ p.items.map (·.name), '\n' ∉ name.toList :=
      List.forall_mem_map.2 items
    intro line mem
    obtain mem | back := List.mem_append.1 mem
    · obtain above | entry := List.mem_append.1 mem
      · obtain rfl := List.mem_singleton.1 above
        decide
      · exact single_numbered names line entry
    · obtain rfl := List.mem_singleton.1 back
      decide
  | confirming index =>
    intro line mem
    rw [optionLines] at mem
    split at mem
    · next item found =>
      obtain rfl := List.mem_singleton.1 mem
      have unbroken := items item (List.mem_of_getElem? found)
      show '\n' ∉ (heldLine item.name).toList
      rw [toList_heldLine]
      simp [unbroken]
    · cases mem
  | spent => exact List.forall_mem_nil _

/-- Below the texts of the page, the screen has the lines that are written for the options. -/
lemma linesBelow_rendering (single : SingleLines t.page) :
    linesBelow t.page t.rendering = optionLines t.page t.mode := by
  rw [linesBelow, rendering_eq, String.toList_append, List.drop_left,
    textLines_linesText (single_optionLines single t.mode)]

/-! ## What was drawn last -/

/-- What a draw wrote, and how it ended. -/
structure Drawing where
  text : String
  result : Except WriteError Unit

/-- Whether a draw did not write anything, and did not fail in doing so. -/
def Drawing.idle : Drawing → Bool
  | ⟨text, .ok ()⟩ => text = ""
  | ⟨_, .error _⟩ => false

/-- A draw to a fresh output with these answers to its writes. -/
def drawing (t : Terminal) (answers : List WriteAnswer) : Drawing :=
  let (result, out, _) := t.drawTo (.fresh answers)
  ⟨out.text, result⟩

/-- The draw that a use of the terminal is, if it is one. -/
def drawing? (t : Terminal) : Use → Option Drawing
  | .draw answers => some (t.drawing answers)
  | _ => none

/-- All draws among several uses of the terminal, in order. -/
def drawings (t : Terminal) : List Use → List Drawing
  | [] => []
  | u :: rest => (t.drawing? u).toList ++ drawings (Surface.use t u) rest

/-- The last text that is not empty. -/
def lastWritten (ds : List Drawing) : Option String :=
  ((ds.map (·.text)).filter (· ≠ "")).getLast?

/-- Of the draws that wrote something or failed, the last one did not fail. -/
def LastSucceeded (ds : List Drawing) : Prop :=
  ∀ d, (ds.filter (!·.idle)).getLast? = some d → d.result = .ok ()

/-- After these draws the screen shows what it has to show, unless it lags behind, the terminal is
spent, or the last draw failed. -/
def Current (t : Terminal) (ds : List Drawing) : Prop :=
  t.dirty = false → t.mode ≠ .spent → LastSucceeded ds → lastWritten ds = some t.rendering

variable {ds : List Drawing} {d : Drawing}

/-- The screen begins with an empty line, so there is always something to write. -/
lemma rendering_ne_empty (t : Terminal) : t.rendering ≠ "" := by
  intro empty
  have chars := congrArg String.toList empty
  simp [rendering, linesText, screen] at chars

/-- A draw that wrote something is the last one that did. -/
lemma lastWritten_concat (some_text : d.text ≠ "") : lastWritten (ds ++ [d]) = some d.text := by
  have written : decide (d.text ≠ "") = true := decide_eq_true some_text
  rw [lastWritten, List.map_append, List.map_singleton, List.filter_append, List.filter_singleton,
    written]
  exact List.getLast?_concat

/-- An idle draw changes nothing about what was drawn last. -/
lemma concat_idle (ds : List Drawing) (idle : d.idle = true) :
    lastWritten (ds ++ [d]) = lastWritten ds ∧
      (LastSucceeded (ds ++ [d]) ↔ LastSucceeded ds) := by
  have textless : d.text = "" := by
    obtain ⟨text, result⟩ := d
    cases result with
    | error e => cases idle
    | ok => exact of_decide_eq_true idle
  constructor
  · rw [lastWritten, List.map_append, List.map_singleton, List.filter_append, textless]
    exact congrArg List.getLast? (List.append_nil _)
  · have same : (ds ++ [d]).filter (!·.idle) = ds.filter (!·.idle) := by
      rw [List.filter_append, List.filter_singleton, idle]
      exact List.append_nil _
    rw [LastSucceeded, same]
    exact Iff.rfl

/-- If the last draw is not idle, it is the one that did not fail. -/
lemma LastSucceeded.ok (succeeded : LastSucceeded (ds ++ [d])) : d.result = .ok () := by
  cases result : d.result with
  | ok => rfl
  | error e =>
    have busy : d.idle = false := by
      obtain ⟨text, answer⟩ := d
      dsimp only at result
      subst result
      rfl
    have last := succeeded d
    rw [List.filter_append, List.filter_singleton, busy] at last
    rw [← result]
    exact last List.getLast?_concat

/-- A terminal that is marked is not claimed to be current. -/
lemma Current.of_dirty (dirty : t.dirty = true) : t.Current ds := by
  intro clean
  rw [dirty] at clean
  cases clean

/-- Drawing makes the screen current, unless it fails. -/
lemma Current.draw (current : t.Current ds) (answers : List WriteAnswer) :
    (t.drawTo (.fresh answers)).2.2.Current (ds ++ [t.drawing answers]) := by
  cases dirty : t.dirty with
  | false =>
    -- nothing is written, so this draw does not count as the last one
    have idle : (t.drawing answers).idle = true := by
      rw [drawing, drawTo_clean dirty]
      rfl
    obtain ⟨same, succeeded⟩ := concat_idle ds idle
    rw [drawTo_clean dirty, Current, same, succeeded]
    exact current
  | true =>
    intro _ _ succeeded
    have ok : (t.drawTo (.fresh answers)).1 = .ok () := succeeded.ok
    have text : (t.drawing answers).text = t.rendering :=
      (drawTo_ok dirty ok).trans String.empty_append
    have some_text : (t.drawing answers).text ≠ "" := by
      rw [text]
      exact t.rendering_ne_empty
    rw [lastWritten_concat some_text, text, drawTo_terminal]
    rfl

/-- One more use keeps the screen current. -/
lemma Current.use (current : t.Current ds) (u : Use) :
    (Surface.use t u).Current (ds ++ (t.drawing? u).toList) := by
  cases u with
  | respond event =>
    show (t.respond event).2.Current (ds ++ [])
    rw [List.append_nil]
    -- a change of the mode marks the terminal, except for the one that a report leaves it in
    obtain same | ⟨mode, gone⟩ | ⟨s, reported⟩ := t.respond_changes event
    · rwa [same]
    · rw [gone]
      exact .of_dirty rfl
    · rw [reported]
      exact fun _ unspent => absurd rfl unspent
  | draw answers => exact current.draw answers
  | takePick =>
    show t.Current (ds ++ [])
    rwa [List.append_nil]
  | _ => exact .of_dirty rfl

/-- Any number of uses keeps the screen current. -/
lemma Current.after (current : t.Current ds) (uses : List Use) :
    (Surface.after t uses).Current (ds ++ t.drawings uses) := by
  induction uses generalizing t ds with
  | nil =>
    rw [drawings, List.append_nil]
    exact current
  | cons u rest ih =>
    rw [drawings, ← List.append_assoc]
    exact ih (current.use u)

/-- Since the first reset the screen is current. -/
lemma current_of_reset {uses : List Use} (reset : .reset ∈ uses) :
    (Surface.after t uses).Current (t.drawings uses) := by
  suffices ∀ ds, (Surface.after t uses).Current (ds ++ t.drawings uses) from this []
  intro ds
  -- before the reset nothing is known of the screen; the reset marks the terminal
  induction uses generalizing t ds with
  | nil => cases reset
  | cons u rest ih =>
    rw [drawings, ← List.append_assoc]
    obtain rfl | later := List.mem_cons.1 reset
    · exact Current.after (.of_dirty rfl) rest
    · exact ih later _

/-! ## What drawing leaves alone -/

/-- Terminals are parallel with no episodes between them when page and mode are the same. -/
lemma parallel_zero {t t' : Terminal} : Parallel 0 t t' ↔ t.page = t'.page ∧ t.mode = t'.mode := by
  have unshifted (p : Page) : p.shift 0 = p := by
    obtain ⟨texts, choices, present⟩ := p
    cases present with
    | none => simp [Page.shift, ChoiceHandle.shift]
    | some listed => simp [Page.shift, ChoiceHandle.shift, PresentHandle.shift]
  constructor
  · rintro ⟨page, mode⟩
    exact ⟨page.trans (unshifted _), mode⟩
  · rintro ⟨page, mode⟩
    exact ⟨page.trans (unshifted _).symm, mode⟩

/-- A draw leaves page and mode alone, also one that fails. -/
lemma parallel_drawTo (t : Terminal) (out : Output) : Parallel 0 (t.drawTo out).2.2 t := by
  rw [drawTo_terminal]
  exact parallel_zero.2 ⟨rfl, rfl⟩

/-- Terminals that differ in what was drawn report the same, whatever is done with both. -/
lemma Parallel.reports {t t' : Terminal} (par : Parallel 0 t t') (uses : List Use) :
    Surface.reports t uses = Surface.reports t' uses := by
  induction uses generalizing t t' with
  | nil => rfl
  | cons u rest ih =>
    obtain ⟨page, mode⟩ := parallel_zero.1 par
    have next : Surface.report? t u = Surface.report? t' u ∧
        Parallel 0 (Surface.use t u) (Surface.use t' u) := by
      cases u with
      | reset => exact ⟨rfl, parallel_zero.2 ⟨rfl, rfl⟩⟩
      | addText text =>
        exact ⟨rfl, parallel_zero.2 ⟨congrArg (·.addText text) page, mode⟩⟩
      | addChoice label handle =>
        exact ⟨rfl, parallel_zero.2 ⟨congrArg (·.addChoice label handle) page, mode⟩⟩
      | addPresent items handle =>
        exact ⟨rfl, parallel_zero.2 ⟨congrArg (·.setPresent items handle) page, mode⟩⟩
      | respond event =>
        obtain ⟨report, par⟩ := par.respond event
        rw [funext Selection.shift_zero, Option.map_id'] at report
        exact ⟨report, par⟩
      | draw answers =>
        show _ ∧ Parallel 0 (t.drawTo _).2.2 (t'.drawTo _).2.2
        rw [drawTo_terminal, drawTo_terminal]
        exact ⟨rfl, parallel_zero.2 ⟨page, mode⟩⟩
      | takePick => exact ⟨rfl, par⟩
    rw [Surface.reports, Surface.reports, next.1, ih next.2]

/-- A terminal that was drawn is not drawn again before something changes. -/
lemma drawTo_unminded (t : Terminal) (out out' : Output) {events : List InputEvent}
    (unminded : ∀ event ∈ events, ¬ (t.drawTo out).2.2.Minds event) :
    ((t.drawTo out).2.2.heard events).drawTo out' = (.ok (), out', (t.drawTo out).2.2) := by
  have same : (t.drawTo out).2.2.heard events = (t.drawTo out).2.2 := by
    induction events with
    | nil => rfl
    | cons event rest ih =>
      have ignored := Classical.not_not.1 (unminded event List.mem_cons_self)
      rw [heard_cons ignored]
      exact ih fun event mem => unminded event (List.mem_cons_of_mem _ mem)
  have clean : (t.drawTo out).2.2.dirty = false := by rw [drawTo_terminal]
  rw [same, drawTo_clean clean]

/-! ## The screen is current -/

/-- Whatever was done with a terminal that was reset at least once: as long as the screen does not
lag behind and nothing was reported, the lines for its options tell what numbers and confirming do;
and unless the last draw failed, the last text that was written is the screen as it has to be, with
those lines below the texts of the page. Drawing changes nothing about what is reported later, and a
terminal that was drawn writes nothing before an event has an effect. -/
theorem screen_current (t : Terminal) {uses : List Use} (reset : .reset ∈ uses) :
    let now := Surface.after t uses
    (now.dirty = false → now.mode ≠ .spent → now.Tells ∧
      (LastSucceeded (t.drawings uses) → ∃ text, lastWritten (t.drawings uses) = some text ∧
        text = linesText (screen now.page now.mode) ∧
        (SingleLines now.page → linesBelow now.page text = optionLines now.page now.mode))) ∧
    (∀ out later, Surface.reports (now.drawTo out).2.2 later = Surface.reports now later) ∧
    (∀ out out' events, (∀ event ∈ events, ¬ (now.drawTo out).2.2.Minds event) →
      ((now.drawTo out).2.2.heard events).drawTo out' = (.ok (), out', (now.drawTo out).2.2)) := by
  intro now
  refine ⟨fun clean unspent => ⟨tells clean, fun succeeded => ?_⟩, ?_, ?_⟩
  · have current := current_of_reset reset clean unspent succeeded
    exact ⟨now.rendering, current, rfl, linesBelow_rendering⟩
  · exact fun out later => Parallel.reports (now.parallel_drawTo out) later
  · exact fun out out' events unminded => now.drawTo_unminded out out' unminded

/-- Of two items the first is held up, and the screen was drawn. It lists nothing, but the second
number has an effect: it holds up the other item in place of the one that the screen names. -/
theorem held_screen_lists_nothing :
    let uses := [.reset, .addPresent [⟨"goblet"⟩, ⟨"pants"⟩] ⟨1⟩, .respond (.key 'p'),
      .respond (.number 1), .draw []]
    let now := Surface.after blank uses
    now.dirty = false ∧ now.mode ≠ .spent ∧
      ¬ ((∃ entry, now.Lists 2 entry) ↔ now.Minds (.number 2)) := by
  intro uses now
  have clean : now.dirty = false := rfl
  have held : now.mode = .confirming 0 := rfl
  obtain ⟨unlisted, minds⟩ := (tells clean).unlisted 0 held
  refine ⟨clean, nofun, fun same => ?_⟩
  obtain ⟨entry, listed⟩ := same.2 ((minds 2).2 ⟨1, rfl, by decide, rfl⟩)
  exact unlisted 2 entry listed

/-- The first draw of a page fails after three characters, a choice is added, and two events that
mean nothing come between two more draws. The last draw writes nothing, and what the second one
wrote tells what the numbers do. -/
theorem screen_current_choices :
    let uses := [.addText "Before.", .reset, .addText "Well?", .addChoice "Yes" ⟨1, 0⟩,
      .draw [.taken, .failed 3 ⟨"no space"⟩], .addChoice "No" ⟨1, 1⟩, .draw [], .respond .confirm,
      .respond (.number 3), .draw []]
    let now := Surface.after blank uses
    .reset ∈ uses ∧ now.dirty = false ∧ now.mode = .choosing ∧
      (blank.drawings uses).map (·.text) =
        ["\nWel", "\nWell?\n\n  [1] Yes\n  [2] No\n", ""] ∧
      (∃ text, lastWritten (blank.drawings uses) = some text ∧
        linesBelow now.page text = ["  [1] Yes", "  [2] No"]) ∧
      now.Lists 2 "No" ∧ (now.respond (.number 2)).1 = some (.choice ⟨1, 1⟩) ∧
      ¬ now.Minds (.number 3) := by
  intro uses now
  have reset : .reset ∈ uses := by simp [uses]
  obtain ⟨tells, shown⟩ := (screen_current blank reset).1 rfl nofun
  have succeeded : LastSucceeded (blank.drawings uses) := by
    intro d last
    cases last
    rfl
  have single : SingleLines now.page := by
    constructor
    · decide
    · decide
  obtain ⟨text, written, -, below⟩ := shown succeeded
  have lines : optionLines now.page now.mode = ["  [1] Yes", "  [2] No"] := by decide +kernel
  refine ⟨reset, rfl, rfl, by decide +kernel, ⟨text, written, (below single).trans lines⟩,
    (tells.choices rfl 2 "No").2 ⟨1, ⟨1, 1⟩, rfl, rfl, rfl⟩, rfl, ?_⟩
  exact fun minds => minds rfl

/-- A draw that fails is not made up for: the terminal counts as drawn, with half a line written. -/
example :
    let now := Surface.after blank
      [.reset, .addChoice "Yes" ⟨1, 0⟩, .draw [.taken, .taken, .failed 5 ⟨"no space"⟩]]
    now.dirty = false ∧ now.draw.1 = "" := by
  decide +kernel

end Parley.Terminal

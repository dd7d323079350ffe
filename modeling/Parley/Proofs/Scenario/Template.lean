import Mathlib.Logic.ExistsUnique
import Mathlib.Tactic.Lemma
import Parley.Scenario.Template

/-!
# Filling templates

What filling is to do is said by a relation, `Filled`: a template is read from left to right, a
placeholder is replaced by what it stands for, and every other character is copied. `fillChars` is
this relation (`filled_iff`). Since a placeholder has no brace inside, two of them never overlap,
and a template can be filled in two parts as long as no placeholder is cut in two
(`fillChars_append`).
-/

namespace Parley.Template

/-! ## Placeholders -/

/-- ASCII letters and the underscore. -/
def Letter (c : Char) : Prop := ('A' ≤ c ∧ c ≤ 'Z') ∨ ('a' ≤ c ∧ c ≤ 'z') ∨ c = '_'

/-- ASCII digits. -/
def Digit (c : Char) : Prop := '0' ≤ c ∧ c ≤ '9'

/-- ASCII identifiers. -/
inductive IsName : List Char → Prop where
  | mk {first : Char} {rest : List Char} :
    Letter first →
    (∀ c ∈ rest, Letter c ∨ Digit c) →
    IsName (first :: rest)

/-- The name between braces. -/
def braced (name : List Char) : List Char := '\x7b' :: name ++ ['\x7d']

/-- A name starts with a letter or an underscore. -/
lemma isNameStart_iff (c : Char) : isNameStart c = true ↔ Letter c := by
  have upper : c.isUpper = decide ('A' ≤ c ∧ c ≤ 'Z') := rfl
  have lower : c.isLower = (decide ('a' ≤ c) && decide (c ≤ 'z')) := rfl
  have ranges : isNameStart c = ((c.isUpper || c.isLower) || c == '_') := rfl
  rw [ranges, upper, lower, Letter, ← or_assoc]
  simp only [Bool.or_eq_true, Bool.and_eq_true, decide_eq_true_eq, beq_iff_eq]

/-- Behind its first character a name can have digits too. -/
lemma isNameChar_iff (c : Char) : isNameChar c = true ↔ Letter c ∨ Digit c := by
  have split : isNameChar c = (isNameStart c || decide ('0' ≤ c) && decide (c ≤ '9')) :=
    Bool.or_right_comm ..
  rw [split, Digit, Bool.or_eq_true, isNameStart_iff, Bool.and_eq_true, decide_eq_true_eq,
    decide_eq_true_eq]

/-- A name has no other characters than those of names. -/
lemma IsName.chars {name : List Char} (h : IsName name) :
    ∀ c ∈ name, isNameChar c = true := by
  cases h with
  | mk letter others =>
    intro c mem
    rw [isNameChar_iff]
    obtain rfl | mem := List.mem_cons.1 mem
    · exact .inl letter
    · exact others c mem

/-- There are no braces in a name. -/
lemma IsName.not_mem {name : List Char} (h : IsName name) {c : Char} (other : isNameChar c = false) :
    c ∉ name := by
  intro mem
  rw [h.chars c mem] at other
  cases other

/-- Behind an opening brace a placeholder is a name and a closing brace. -/
lemma placeholder?_eq_some_iff {cs name behind : List Char} :
    placeholder? cs = some (name, behind) ↔ IsName name ∧ cs = name ++ '\x7d' :: behind := by
  constructor
  · intro found
    rw [placeholder?] at found
    split at found
    · rename_i starts
      split at found
      · rename_i rest closed
        cases found
        refine ⟨?_, by rw [← closed, List.takeWhile_append_dropWhile]⟩
        cases cs with
        | nil => cases starts
        | cons first rest =>
          have letter : Letter first := (isNameStart_iff first).1 starts
          rw [List.takeWhile_cons_of_pos ((isNameChar_iff first).2 (.inl letter))]
          exact .mk letter fun c mem => (isNameChar_iff c).1 (List.all_eq_true.1 List.all_takeWhile c mem)
      · cases found
    · cases found
  · rintro ⟨isName, rfl⟩
    have chars := isName.chars
    have closed : isNameChar '\x7d' = false := by decide
    have starts : (name ++ '\x7d' :: behind).head?.any isNameStart = true := by
      cases isName with
      | mk letter _ => exact (isNameStart_iff _).2 letter
    rw [placeholder?, if_pos starts, List.takeWhile_append_of_pos chars,
      List.dropWhile_append_of_pos chars, List.dropWhile_cons_of_neg (by simp [closed]),
      List.takeWhile_cons_of_neg (by simp [closed])]
    simp

/-- A text starts with one placeholder at most. -/
lemma braced_append_inj {name name' behind behind' : List Char} (isName : IsName name)
    (isName' : IsName name') (same : braced name ++ behind = braced name' ++ behind') :
    name = name' ∧ behind = behind' := by
  simp only [braced, List.cons_append, List.append_assoc, List.nil_append, List.cons.injEq,
    true_and] at same
  have found := placeholder?_eq_some_iff.2 ⟨isName, same.symm⟩
  rw [placeholder?_eq_some_iff.2 ⟨isName', rfl⟩] at found
  cases found
  exact ⟨rfl, rfl⟩

/-! ## Reading from left to right -/

/-- A text with placeholders, and the text where each of them is replaced by what it stands for. -/
inductive Filled (stands : List Char → List Char → Prop) : List Char → List Char → Prop where
  | done :
    Filled stands [] []
  | replace {name text behind out} :
    IsName name →
    stands name text →
    Filled stands behind out →
    Filled stands (braced name ++ behind) (text ++ out)
  | copy {c rest out} :
    (∀ name behind, IsName name → c :: rest ≠ braced name ++ behind) →
    Filled stands rest out →
    Filled stands (c :: rest) (c :: out)

variable {stands : List Char → List Char → Prop} {a b cs out out' name text : List Char}

/-- There is one way to fill a text, if there is one for each placeholder. -/
lemma Filled.unique (one : ∀ name text text', stands name text → stands name text' → text = text')
    (read : Filled stands cs out) (read' : Filled stands cs out') : out = out' := by
  induction read generalizing out' with
  | done =>
    cases read' with
    | done => rfl
  | @replace name text behind out isName stand _ ih =>
    generalize same : braced name ++ behind = cs at read'
    cases read' with
    | done => cases same
    | replace isName' stand' read' =>
      obtain ⟨rfl, rfl⟩ := braced_append_inj isName isName' same
      rw [one _ _ _ stand stand', ih read']
    | copy plain _ => exact absurd same.symm (plain _ _ isName)
  | @copy c rest out plain _ ih =>
    generalize same : c :: rest = cs at read'
    cases read' with
    | done => cases same
    | replace isName' _ _ => exact absurd same (plain _ _ isName')
    | copy _ read' =>
      cases same
      rw [ih read']

/-- A text without placeholders is left as it is. -/
lemma filled_self (plain : ∀ a name b, IsName name → cs ≠ a ++ braced name ++ b) :
    Filled stands cs cs := by
  induction cs with
  | nil => exact .done
  | cons c rest ih =>
    refine .copy (fun name behind isName => plain [] name behind isName) (ih ?_)
    intro a name b isName same
    exact plain (c :: a) name b isName (by rw [same]; rfl)

/-! ## Texts in two parts -/

/-- A placeholder starts in the first part and ends in the second. -/
def Cuts (a b : List Char) : Prop :=
  ∃ before left right after, IsName (left ++ right) ∧ a = before ++ '\x7b' :: left ∧
    b = right ++ '\x7d' :: after

/-- The text ends with an opening brace, or with one and characters of names behind it. -/
def EndsOpen (a : List Char) : Prop :=
  ∃ before left, a = before ++ '\x7b' :: left ∧ ∀ c ∈ left, Letter c ∨ Digit c

/-- If a placeholder is cut, the first part ends with its beginning. -/
lemma Cuts.endsOpen (cuts : Cuts a b) : EndsOpen a := by
  obtain ⟨before, left, right, _, isName, split, _⟩ := cuts
  refine ⟨before, left, split, fun c mem => ?_⟩
  rw [← isNameChar_iff]
  exact isName.chars c (List.mem_append_left _ mem)

/-- A cut stays where it is when more text stands before it. -/
lemma Cuts.append_left (cuts : Cuts a b) (before : List Char) : Cuts (before ++ a) b := by
  obtain ⟨before', left, right, after, isName, rfl, rfl⟩ := cuts
  exact ⟨before ++ before', left, right, after, isName, (List.append_assoc ..).symm, rfl⟩

/-- A placeholder at the start of two parts is all in the first, or it is cut. -/
lemma cuts_of_braced {behind : List Char} (isName : IsName name)
    (same : a ++ b = braced name ++ behind) (ne : a ≠ []) :
    (∃ rest, a = braced name ++ rest) ∨ Cuts a b := by
  obtain ⟨bs, whole, rfl⟩ | ⟨rest, split, _⟩ := List.append_eq_append_iff.1 same
  · obtain rfl | ⟨right, last, rfl⟩ := List.eq_nil_or_concat bs
    · exact .inl ⟨[], by rw [whole]; simp⟩
    · right
      rw [braced, List.concat_eq_append, ← List.append_assoc] at whole
      obtain ⟨inner, ⟨⟩⟩ := List.append_inj' whole rfl
      cases a with
      | nil => exact absurd rfl ne
      | cons first left =>
        obtain ⟨rfl, rfl⟩ := List.cons.inj inner
        exact ⟨[], left, right, behind, isName, rfl, by simp⟩
  · exact .inl ⟨rest, split⟩

/-- Two parts are filled one after the other, as long as no placeholder is cut. -/
lemma Filled.append (read : Filled stands a out) (read' : Filled stands b out')
    (uncut : ¬ Cuts a b) : Filled stands (a ++ b) (out ++ out') := by
  induction read with
  | done => exact read'
  | @replace name text behind out isName stand _ ih =>
    rw [List.append_assoc, List.append_assoc]
    exact .replace isName stand (ih fun cuts => uncut (cuts.append_left _))
  | @copy c rest out plain _ ih =>
    refine .copy (fun name behind isName same => ?_)
      (ih fun cuts => uncut (cuts.append_left [c]))
    obtain ⟨rest', split⟩ | cuts := cuts_of_braced isName same (List.cons_ne_nil _ _)
    · exact plain name rest' isName split
    · exact uncut cuts

/-- No placeholder is cut where another one starts. -/
lemma not_cuts_braced : ¬ Cuts a (braced name ++ b) := by
  rintro ⟨_, left, right, after, isName', _, same⟩
  have brace : '\x7b' ∉ left ++ right := isName'.not_mem (by decide)
  cases right with
  | nil => exact absurd (List.cons.inj same).1 (by decide)
  | cons first right =>
    obtain ⟨rfl, _⟩ := List.cons.inj same
    exact brace (List.mem_append_right _ List.mem_cons_self)

/-- A placeholder may stand anywhere. -/
lemma Filled.placed (isName : IsName name) (stand : stands name text)
    (read : Filled stands a out) (read' : Filled stands b out') :
    Filled stands (a ++ (braced name ++ b)) (out ++ (text ++ out')) :=
  read.append (.replace isName stand read') not_cuts_braced

/-! ## Filling -/

variable {value? : List Char → Option (List Char)}

/-- The text is read from left to right, whatever the values are. -/
lemma filled_fillChars (has : ∀ name, stands name ((value? name).getD (braced name)))
    (cs : List Char) : Filled stands cs (fillChars value? cs) := by
  -- a placeholder at the start, as the relation has it, is one that is found behind the brace
  have found {name behind rest : List Char} (isName : IsName name) {c : Char}
      (same : c :: rest = braced name ++ behind) :
      c = '\x7b' ∧ placeholder? rest = some (name, behind) := by
    obtain ⟨opens, rfl⟩ := List.cons.inj same
    exact ⟨opens, placeholder?_eq_some_iff.2 ⟨isName, by simp⟩⟩
  fun_induction fillChars value? cs with
  | case1 => exact .done
  | case2 rest name behind starts ih =>
    obtain ⟨isName, rfl⟩ := placeholder?_eq_some_iff.1 starts
    have read := Filled.replace isName (has name) ih
    rwa [braced, List.append_assoc] at read
  | case3 rest none ih =>
    refine .copy (fun name behind isName same => ?_) ih
    rw [(found isName same).2] at none
    cases none
  | case4 c rest other ih =>
    exact .copy (fun name behind isName same => other (found isName same).1) ih

/-- What a placeholder stands for. -/
inductive StandsFor (speaker : Speaker) : List Char → List Char → Prop where
  | identity :
    StandsFor speaker ['n', 'a', 'm', 'e'] speaker.identity.toList
  | string {name : List Char} {s : String} :
    name ≠ ['n', 'a', 'm', 'e'] →
    speaker.state.get? (String.ofList name) = some (.string s) →
    StandsFor speaker name s.toList
  | json {name : List Char} {value : Json.Value} :
    name ≠ ['n', 'a', 'm', 'e'] →
    speaker.state.get? (String.ofList name) = some value →
    (∀ s, value ≠ .string s) →
    StandsFor speaker name value.text.toList
  | unknown {name : List Char} :
    name ≠ ['n', 'a', 'm', 'e'] →
    speaker.state.get? (String.ofList name) = none →
    StandsFor speaker name (braced name)

variable {speaker : Speaker}

/-- What stands for a name is its value, or the placeholder itself. -/
lemma StandsFor.eq (stand : StandsFor speaker name text) :
    text = (valueOf? speaker name).getD (braced name) := by
  cases stand with
  | identity => rfl
  | string other held => rw [valueOf?, if_neg other, held, Option.getD_some]
  | @json _ value other held unlike =>
    rw [valueOf?, if_neg other, held, Json.Value.text, String.toList_ofList]
    cases value with
    | string s => exact absurd rfl (unlike s)
    | _ => rfl
  | unknown other held => rw [valueOf?, if_neg other, held, Option.getD_none]

/-- There is one text for every name. -/
lemma StandsFor.unique {text' : List Char} (stand : StandsFor speaker name text)
    (stand' : StandsFor speaker name text') : text = text' :=
  stand.eq.trans stand'.eq.symm

/-- There is a text for every name. -/
lemma exists_standsFor (speaker : Speaker) (name : List Char) :
    ∃ text, StandsFor speaker name text := by
  by_cases own : name = ['n', 'a', 'm', 'e']
  · subst own
    exact ⟨_, .identity⟩
  cases held : speaker.state.get? (String.ofList name) with
  | none => exact ⟨_, .unknown own held⟩
  | some value =>
    by_cases text : ∃ s, value = .string s
    · obtain ⟨s, rfl⟩ := text
      exact ⟨_, .string own held⟩
    · exact ⟨_, .json own held fun s same => text ⟨s, same⟩⟩

/-- The value of a name, or the placeholder itself, stands for it. -/
lemma standsFor_valueOf? (speaker : Speaker) (name : List Char) :
    StandsFor speaker name ((valueOf? speaker name).getD (braced name)) := by
  obtain ⟨text, stand⟩ := exists_standsFor speaker name
  rwa [← stand.eq]

/-- Filling a template is reading it once, from left to right. -/
lemma filled_iff {template out : String} :
    Filled (StandsFor speaker) template.toList out.toList ↔ out = fill template speaker := by
  have read : Filled (StandsFor speaker) template.toList (fill template speaker).toList := by
    rw [fill, String.toList_ofList]
    exact filled_fillChars (standsFor_valueOf? speaker) _
  constructor
  · intro read'
    exact String.toList_inj.1 (read'.unique (fun _ _ _ one other => one.unique other) read)
  · rintro rfl
    exact read

/-- What filling does to the templates of a speaker. -/
structure FillsOnce (speaker : Speaker) : Prop where
  stands (name : List Char) : ∃! text, StandsFor speaker name text
  /-- A template is read once, from left to right; what is put in is not read. -/
  read (template out : String) : out = fill template speaker ↔
    Filled (StandsFor speaker) template.toList out.toList
  /-- A placeholder is replaced wherever it stands. -/
  placed {a b : String} {name text : List Char} : IsName name → StandsFor speaker name text →
    fill (a ++ String.ofList (braced name) ++ b) speaker =
      fill a speaker ++ String.ofList text ++ fill b speaker
  /-- A template without placeholders is left as it is. -/
  plain {template : String} :
    (∀ a name b, IsName name → template.toList ≠ a ++ braced name ++ b) →
    fill template speaker = template
  /-- A template can be filled in two parts that cut no placeholder. -/
  parts {a b : String} : ¬ Cuts a.toList b.toList →
    fill (a ++ b) speaker = fill a speaker ++ fill b speaker
  /-- None is cut if there is no open brace at the end of the first part, with nothing but
  characters of names behind it. -/
  uncut {a b : String} : ¬ EndsOpen a.toList → ¬ Cuts a.toList b.toList

/-- For every speaker, filling a template is to replace its placeholders, once. -/
theorem fills_once (speaker : Speaker) : FillsOnce speaker where
  stands name := by
    obtain ⟨text, stand⟩ := exists_standsFor speaker name
    exact ⟨text, stand, fun _ stand' => stand'.unique stand⟩
  read _ _ := filled_iff.symm
  placed {a b name text} isName stand := by
    refine (filled_iff.1 ?_).symm
    have read := Filled.placed isName stand
      (filled_iff.2 (Eq.refl (fill a speaker))) (filled_iff.2 (Eq.refl (fill b speaker)))
    simpa using read
  plain plain := (filled_iff.1 (filled_self plain)).symm
  parts {a b} uncut := by
    refine (filled_iff.1 ?_).symm
    rw [String.toList_append, String.toList_append]
    exact (filled_iff.2 rfl).append (filled_iff.2 rfl) uncut
  uncut closed cuts := closed cuts.endsOpen

/-- Braces that are nested, left open or empty stay, and so do those around what is no name. -/
example : ["\x7b\x7bname\x7d\x7d", "\x7ba\x7bname\x7d", "\x7b\x7d", "\x7b1\x7d"].map
      (fill · ⟨"Ada", .empty⟩) =
    ["\x7bAda\x7d", "\x7baAda", "\x7b\x7d", "\x7b1\x7d"] := by
  decide +kernel

end Parley.Template

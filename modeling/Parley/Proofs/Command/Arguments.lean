import Mathlib.Data.List.Basic
import Parley.Command.Arguments
import Parley.Proofs.Numeric.Numeral

/-!
# The grammar of the command line

The arguments are a head of at most two words, a scenario and a seed, and a tail that is empty or
starts with `auto`. `Accepted` is this grammar with what it stands for, and `Refused` tells the first
thing that is wrong with any other arguments. They exclude each other and leave nothing out
(`accepted_or_refused`), and `parse` follows them (`parse_follows_grammar`).
-/

namespace Parley.Command

open Decimal (Numeral wordBound)

variable {load : String → Except ScenarioError Scenario} {args : List String}

/-! ## Words -/

/-- The scenario that the first word of the head stands for, if there is a word. -/
inductive NamesScenario (load : String → Except ScenarioError Scenario) :
    Option String → Scenario → Prop where
  | absent :
    NamesScenario load none .builtin
  | builtin :
    NamesScenario load (some "builtin") .builtin
  | loaded {path : String} {s : Scenario} :
    path ≠ "builtin" →
    load path = .ok s →
    NamesScenario load (some path) s

/-- The seed that the second word of the head stands for, if there is a word. -/
inductive NamesSeed : Option String → Option Nat → Prop where
  | absent :
    NamesSeed none none
  | number {word : String} {n : Nat} :
    Numeral word.toList n →
    n < 2 ^ 64 →
    NamesSeed (some word) (some n)

/-- The mode that a tail stands for. All words behind the first `auto` are the script. -/
inductive NamesMode : List String → Mode → Prop where
  | interactive :
    NamesMode [] .interactive
  | automated {script : List String} :
    NamesMode ("auto" :: script) (.automated script)

/-- The scenario that a word stands for is the one that is loaded for it. -/
lemma NamesScenario.eq {word : Option String} {s : Scenario} (names : NamesScenario load word s) :
    scenarioOf load word = .ok s := by
  cases names with
  | absent => rfl
  | builtin => rfl
  | loaded other found => rw [scenarioOf, if_neg other, found]

/-- The seed that a word stands for is the one that is read from it. -/
lemma NamesSeed.eq {word : Option String} {seed : Option Nat} (names : NamesSeed word seed) :
    seedOf word = .ok seed := by
  cases names with
  | absent => rfl
  | number numeral fits =>
    have read : Decimal.read wordBound _ = .ok _ :=
      (Decimal.read_eq_ok_iff (by decide)).2 ⟨numeral, fits⟩
    rw [seedOf, read]

/-- A tail is read as its mode, and no word of the head is taken from it. -/
lemma NamesMode.eq {tail : List String} {mode : Mode} (names : NamesMode tail mode) :
    nextWord tail = (none, tail) ∧ modeOf tail = .ok mode := by
  cases names with
  | interactive => exact ⟨rfl, rfl⟩
  | automated => exact ⟨rfl, rfl⟩

/-- Every word but `auto` is taken from the head. -/
lemma nextWord_cons {word : String} (other : word ≠ "auto") (rest : List String) :
    nextWord (word :: rest) = (some word, rest) :=
  if_neg other

/-- Words are taken from the head as long as it has any. -/
lemma nextWord_append {head tail : List String} (headless : "auto" ∉ head)
    (stops : nextWord tail = (none, tail)) :
    nextWord (head ++ tail) = (head[0]?, head.drop 1 ++ tail) := by
  cases head with
  | nil => exact stops
  | cons word rest =>
    refine nextWord_cons ?_ _
    rintro rfl
    exact headless List.mem_cons_self

/-- The scenario is found first, then the seed, then the mode. -/
lemma parse_eq {behind rest : List String} {first second : Option String}
    (scenarioWord : nextWord args = (first, behind)) (seedWord : nextWord behind = (second, rest)) :
    parse load args = (do
      let scenario ← scenarioOf load first
      let seed ← seedOf second
      let mode ← modeOf rest
      return ⟨scenario, { seed, mode }⟩) := by
  rw [parse, scenarioWord]
  dsimp only
  rw [seedWord]

/-! ## The grammar -/

/-- The arguments that are accepted, and what they ask for. -/
inductive Accepted (load : String → Except ScenarioError Scenario) :
    List String → Request → Prop where
  | mk {head tail : List String} {scenario : Scenario} {seed : Option Nat} {mode : Mode} :
    head.length ≤ 2 →
    "auto" ∉ head →
    NamesScenario load head[0]? scenario →
    NamesSeed head[1]? seed →
    NamesMode tail mode →
    Accepted load (head ++ tail) ⟨scenario, ⟨seed, 32, mode⟩⟩

/-- The arguments that are refused, and the first thing that is wrong with them: the scenario, then
the seed, then a third word. -/
inductive Refused (load : String → Except ScenarioError Scenario) :
    List String → Error → Prop where
  | scenario {path : String} {rest : List String} {e : ScenarioError} :
    path ≠ "auto" →
    path ≠ "builtin" →
    load path = .error e →
    Refused load (path :: rest) (.scenario path e)
  | seed {first word : String} {rest : List String} {s : Scenario} {e : Decimal.Error} :
    first ≠ "auto" →
    NamesScenario load (some first) s →
    word ≠ "auto" →
    (∀ n, Numeral word.toList n → 2 ^ 64 ≤ n) →
    Decimal.read wordBound word.toList = .error e →
    Refused load (first :: word :: rest) (.seed word e)
  | unexpected {first second word : String} {rest : List String} {s : Scenario} {n : Nat} :
    first ≠ "auto" →
    NamesScenario load (some first) s →
    second ≠ "auto" →
    NamesSeed (some second) (some n) →
    word ≠ "auto" →
    Refused load (first :: second :: word :: rest) (.unexpected word)

/-- Whatever the grammar accepts is read as it says. -/
lemma Accepted.parse_ok {request : Request} (accepted : Accepted load args request) :
    parse load args = .ok request := by
  obtain @⟨head, tail, scenario, seed, mode, short, headless, scenarioWord, seedWord, tailWord⟩ :=
    accepted
  obtain ⟨stops, named⟩ := tailWord.eq
  have headless' : "auto" ∉ head.drop 1 := mt List.mem_of_mem_drop headless
  have second := nextWord_append headless' stops
  rw [List.getElem?_drop, List.drop_drop, List.drop_eq_nil_of_le short, List.nil_append] at second
  rw [parse_eq (nextWord_append headless stops) second, scenarioWord.eq, seedWord.eq, named]
  rfl

/-- Whatever the grammar refuses is refused with its error. -/
lemma Refused.parse_error {e : Error} (refused : Refused load args e) :
    parse load args = .error e := by
  cases refused with
  | @scenario path rest e unlike other failed =>
    have error : scenarioOf load (some path) = .error (.scenario path e) := by
      rw [scenarioOf, if_neg other, failed]
    rw [parse_eq (nextWord_cons unlike rest) rfl, error]
    rfl
  | @seed first word rest s e unlike names unlike' _ failed =>
    have error : seedOf (some word) = .error (.seed word e) := by rw [seedOf, failed]
    rw [parse_eq (nextWord_cons unlike _) (nextWord_cons unlike' rest), names.eq, error]
    rfl
  | @unexpected first second word rest s n unlike names unlike' names' unlike'' =>
    have error : modeOf (word :: rest) = .error (.unexpected word) := if_neg unlike''
    rw [parse_eq (nextWord_cons unlike _) (nextWord_cons unlike' _), names.eq, names'.eq, error]
    rfl

/-- What follows a head is a tail, or it starts with another word. -/
lemma exists_mode (rest : List String) :
    (∃ mode, NamesMode rest mode) ∨ ∃ word behind, word ≠ "auto" ∧ rest = word :: behind := by
  cases rest with
  | nil => exact .inl ⟨_, .interactive⟩
  | cons word behind =>
    by_cases auto : word = "auto"
    · subst auto
      exact .inl ⟨_, .automated⟩
    · exact .inr ⟨word, behind, auto, rfl⟩

/-- The first word stands for a scenario, or it is a path that cannot be loaded. -/
lemma exists_scenario (load : String → Except ScenarioError Scenario) (word : String) :
    (∃ s, NamesScenario load (some word) s) ∨
      word ≠ "builtin" ∧ ∃ e, load word = .error e := by
  by_cases builtin : word = "builtin"
  · subst builtin
    exact .inl ⟨_, .builtin⟩
  · cases found : load word with
    | ok s => exact .inl ⟨s, .loaded builtin found⟩
    | error e => exact .inr ⟨builtin, e, rfl⟩

/-- The second word stands for a seed, or it is no number of 64 bits. -/
lemma exists_seed (word : String) :
    (∃ n, NamesSeed (some word) (some n)) ∨
      (∀ n, Numeral word.toList n → 2 ^ 64 ≤ n) ∧
        ∃ e, Decimal.read wordBound word.toList = .error e := by
  have accepts {n : Nat} :
      Decimal.read wordBound word.toList = .ok n ↔ Numeral word.toList n ∧ n < 2 ^ 64 :=
    Decimal.read_eq_ok_iff (by decide)
  cases read : Decimal.read wordBound word.toList with
  | ok n =>
    obtain ⟨numeral, fits⟩ := accepts.1 read
    exact .inl ⟨n, .number numeral fits⟩
  | error e =>
    refine .inr ⟨fun n numeral => Nat.not_lt.1 fun fits => ?_, e, rfl⟩
    rw [accepts.2 ⟨numeral, fits⟩] at read
    cases read

/-- The grammar leaves no list of words out: it accepts it or refuses it. -/
lemma accepted_or_refused (load : String → Except ScenarioError Scenario) (args : List String) :
    (∃ request, Accepted load args request) ∨ ∃ e, Refused load args e := by
  obtain ⟨mode, tail⟩ | ⟨first, rest, unlike, rfl⟩ := exists_mode args
  · have headless : "auto" ∉ ([] : List String) := List.not_mem_nil
    exact .inl ⟨_, .mk (by simp) headless .absent .absent tail⟩
  -- a first word that cannot be loaded is refused before the second one is looked at
  obtain ⟨scenario, names⟩ | ⟨other, e, failed⟩ := exists_scenario load first
  swap
  · exact .inr ⟨_, .scenario unlike other failed⟩
  obtain ⟨mode, tail⟩ | ⟨second, rest, unlike', rfl⟩ := exists_mode rest
  · have headless : "auto" ∉ [first] := mt List.mem_singleton.1 unlike.symm
    exact .inl ⟨_, .mk (by simp) headless names .absent tail⟩
  obtain ⟨n, names'⟩ | ⟨numberless, e, failed⟩ := exists_seed second
  swap
  · exact .inr ⟨_, .seed unlike names unlike' numberless failed⟩
  obtain ⟨mode, tail⟩ | ⟨word, rest, unlike'', rfl⟩ := exists_mode rest
  · have headless : "auto" ∉ [first, second] := by simp [unlike.symm, unlike'.symm]
    exact .inl ⟨_, .mk (by simp) headless names names' tail⟩
  · exact .inr ⟨_, .unexpected unlike names unlike' names' unlike''⟩

/-- Arguments are accepted, and stand for a request, as the grammar says, and all others are refused
for the first thing that is wrong with them. -/
theorem parse_follows_grammar (load : String → Except ScenarioError Scenario) (args : List String) :
    (∀ request, parse load args = .ok request ↔ Accepted load args request) ∧
      ∀ e, parse load args = .error e ↔ Refused load args e := by
  refine ⟨fun request => ⟨fun parsed => ?_, Accepted.parse_ok⟩,
    fun e => ⟨fun parsed => ?_, Refused.parse_error⟩⟩
  -- every list is accepted or refused, and how it is read tells which
  all_goals obtain ⟨request', accepted⟩ | ⟨e', refused⟩ := accepted_or_refused load args
  · rw [accepted.parse_ok] at parsed
    cases parsed
    exact accepted
  · rw [refused.parse_error] at parsed
    cases parsed
  · rw [accepted.parse_ok] at parsed
    cases parsed
  · rw [refused.parse_error] at parsed
    cases parsed
    exact refused

/-- Only the first `auto` ends the head, and what stands behind it is left as it is. -/
example (load : String → Except ScenarioError Scenario) :
    parse load ["builtin", "+07", "auto", "auto", "12"] =
      .ok ⟨.builtin, ⟨some 7, 32, .automated ["auto", "12"]⟩⟩ :=
  rfl

end Parley.Command

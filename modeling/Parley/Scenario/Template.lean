import Parley.Dialogue.Node
import Parley.Json.Printer

/-!
# Templates

Texts with placeholders. A placeholder is a name between braces: an ASCII letter or underscore,
then letters, digits and underscores. Text is scanned once from left to right, and what is put in
is not scanned again.
-/

namespace Parley.Template

/-- Whether a name may start with a character. -/
def isNameStart (c : Char) : Bool := c.isAlpha || c == '_'

/-- Whether a character may stand inside a name. -/
def isNameChar (c : Char) : Bool := c.isAlphanum || c == '_'

/-- The name that a text starts with when a closing brace follows it, and the text behind. -/
def placeholder? (cs : List Char) : Option (List Char × List Char) :=
  if cs.head?.any isNameStart then
    match cs.dropWhile isNameChar with
    | '\x7d' :: rest => some (cs.takeWhile isNameChar, rest)
    | _ => none
  else
    none

/-- The text behind a placeholder is shorter than the text that starts with it. -/
theorem length_of_placeholder? {cs name rest : List Char}
    (h : placeholder? cs = some (name, rest)) : rest.length < cs.length := by
  unfold placeholder? at h
  split at h
  · split at h
    · rename_i tail heq
      have suffix := (cs.dropWhile_suffix isNameChar).length_le
      rw [heq, List.length_cons] at suffix
      simp only [Option.some.injEq, Prod.mk.injEq] at h
      obtain ⟨_, rfl⟩ := h
      exact suffix
    · exact absurd h (by simp)
  · exact absurd h (by simp)

/-- Replaces each placeholder by its value; one without a value is left as it is. -/
def fillChars (value? : List Char → Option (List Char)) : List Char → List Char
  | [] => []
  | c :: rest =>
    if c = '\x7b' then
      match _h : placeholder? rest with
      | some (name, behind) =>
        (value? name).getD ('\x7b' :: name ++ ['\x7d']) ++ fillChars value? behind
      | none => c :: fillChars value? rest
    else
      c :: fillChars value? rest
termination_by cs => cs.length
decreasing_by
  · have := length_of_placeholder? _h
    simp only [List.length_cons]
    omega
  · simp
  · simp

/-- What a placeholder stands for: `name` for the identity of the speaker, any other name for the
variable of that name, strings as they are and other values as JSON text. -/
def valueOf? (speaker : Speaker) (name : List Char) : Option (List Char) :=
  if name = ['n', 'a', 'm', 'e'] then some speaker.identity.toList
  else
    match speaker.state.get? (String.ofList name) with
    | some (.string s) => some s.toList
    | some value => some value.chars
    | none => none

/-- Fills the placeholders of a text for a speaker. -/
def fill (template : String) (speaker : Speaker) : String :=
  String.ofList (fillChars (valueOf? speaker) template.toList)

end Parley.Template

import Parley.Pattern.Parser
import Parley.Pattern.Search
import Parley.Surface.Policy

/-!
# Scripts

Scripts of automated playthroughs as texts. A step is a pattern for labels, or `present:` and a
pattern for the names of items. Patterns do not tell upper from lower case unless they ask for it.
-/

namespace Parley

/-- A step of a script that is not a pattern: the pattern and its fault. -/
structure ScriptFault where
  pattern : String
  fault : Pattern.Fault

/-- The report of a fault. -/
def ScriptFault.message (f : ScriptFault) : String := f.fault.report f.pattern

/-- The names that a pattern accepts. -/
def acceptor (pattern : String) : Except ScriptFault (String → Bool) :=
  let pattern := "(?i)" ++ pattern
  match Pattern.parse pattern with
  | .ok e => .ok e.occursIn
  | .error fault => .error ⟨pattern, fault⟩

/-- The characters that mark a step as a presentation. -/
def presentMark : List Char := "present:".toList

/-- The step of a text. -/
def ScriptStep.parse (text : String) : Except ScriptFault ScriptStep :=
  let cs := text.toList
  if presentMark.isPrefixOf cs then
    (acceptor (String.ofList (cs.drop presentMark.length))).map .present
  else
    (acceptor text).map .choose

/-- The policy of a script; the first fault counts. -/
def ScriptedPolicy.parse (steps : List String) : Except ScriptFault ScriptedPolicy := do
  return ⟨← steps.mapM ScriptStep.parse⟩

end Parley

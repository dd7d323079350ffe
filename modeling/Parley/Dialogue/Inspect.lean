import Parley.Dialogue.Graph
import Parley.Text.Quoted

/-!
# Descriptions for debugging

One-line texts that show what a graph or a set of choices consists of.
-/

namespace Parley

/-- The keys of a graph in braces. -/
def Graph.inspect (g : Graph) : String :=
  let keys := g.keys.map fun key => "NodeKey(" ++ Text.Quoted.quote key.name ++ ")"
  "\x7b" ++ String.intercalate ", " keys ++ "\x7d"

/-- The labels and the kind of collection of a set of choices. -/
def ChoiceSet.inspect (s : ChoiceSet) : String :=
  let labels := String.intercalate ", " (s.labels.map Text.Quoted.quote)
  let presentation :=
    match s.presentation with
    | some p => "Some(" ++ Text.Quoted.quote p.collection ++ ")"
    | none => "None"
  "ChoiceSet \x7b fixed_choices: [" ++ labels ++ "], presentation: " ++ presentation ++ " \x7d"

end Parley

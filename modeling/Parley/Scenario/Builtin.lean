import Parley.Scenario.Basic

/-!
# The built-in scenario

A noblewoman who has no time for the player, unless she is shown the right thing.
-/

namespace Parley.Builtin

/-- A lone choice that puts a key back into the frontier and moves on. -/
def backTo (key : Key) : ChoiceSet :=
  ChoiceSet.empty.withChoice "back" fun s => (s, [.restart key, .resume])

/-- The weather, a key of the frontier. -/
def weatherKey : Key := ⟨"weather"⟩

/-- The offers of the first node: two topics, and things to present. -/
def welcomeOffer : ChoiceSet :=
  ChoiceSet.empty
    |>.withChoice "Children" (fun s => (s, [.jump ⟨"children"⟩]))
    |>.withChoice "Royalty" (fun s => (s, [.jump ⟨"royalty"⟩]))
    |>.withPresentation "things" fun thing s =>
      (s.increment "presented" 1, [.jump (if thing.name = "pants" then ⟨"win"⟩ else ⟨"wrong"⟩)])

/-- The nodes of the noblewoman. -/
def graph : Graph :=
  Graph.empty
    |>.insert .entry ((Node.computed fun speaker =>
        speaker.identity ++ ": I have no time to waste.").withOffer fun _ => welcomeOffer)
    |>.insert ⟨"children"⟩ ((Node.fixed
        "It would seem prudent to hide your children and your wives. Perhaps your husbands too."
        ).withOffer fun _ => backTo .entry)
    |>.insert ⟨"royalty"⟩ ((Node.fixed
        "Perhaps you'll make a good king. Who knows.").withOffer fun _ => backTo .entry)
    |>.insert ⟨"win"⟩ (Node.fixed "you win")
    |>.insert weatherKey ((Node.variants
        ["The night descends upon us all.", "These are dark and trying times."]
        ).withOffer fun _ => backTo weatherKey)
    |>.insert ⟨"wrong"⟩ ((Node.variants
        ["That's not something that interests me.", "You chose badly."]).withOffer fun _ =>
          ChoiceSet.empty.withChoice "choose again" fun s => (s, [.jump .entry]))

/-- The noblewoman. -/
def catelyn : Npc := ⟨"catelyn", State.empty.set "blah" (.ofInt 1), graph⟩

/-- The things that can be shown to her. -/
def things : List Item := [⟨"goblet"⟩, ⟨"pants"⟩, ⟨"crossbow"⟩, ⟨"stag stick"⟩]

end Parley.Builtin

namespace Parley

/-- The scenario that needs no file. -/
def Scenario.builtin : Scenario where
  npcs := [Builtin.catelyn]
  collections := Collections.empty.register "things" Builtin.things
  entryKeys := [.entry, Builtin.weatherKey]

end Parley

import Parley.Command.Arguments
import Parley.Game.Run

/-!
# The program

The whole program as a function from its arguments and its input to what it writes and the code
that it ends with.
-/

namespace Parley.Command

/-- What a run of the program leaves. -/
structure Exit where
  code : Nat
  output : String
  errors : String

/-- Each line but the first moved to the right. -/
def indentLines (width : Nat) (text : String) : String :=
  String.intercalate ("\n" ++ String.ofList (List.replicate width ' ')) (text.splitOn "\n")

/-- A number in a field of five characters. -/
def fieldOfFive (n : Nat) : String :=
  let ds := Decimal.digits n
  String.ofList (List.replicate (5 - ds.length) ' ' ++ ds)

/-- The paragraph of causes; several are numbered. -/
def causesText : List String → String
  | [] => ""
  | [cause] => "\n\nCaused by:\n    " ++ indentLines 4 cause
  | causes =>
    "\n\nCaused by:" ++ String.join (causes.zipIdx.map fun (cause, i) =>
      "\n" ++ fieldOfFive i ++ ": " ++ indentLines 7 cause)

/-- The report of an error and of what caused it. -/
def report (message : String) (causes : List String) : String :=
  "Error: " ++ message ++ causesText causes ++ "\n"

/-- The report of an error of a game. -/
def reportRun (e : RunError) : String :=
  match e.chain with
  | [] => report "" []
  | message :: causes => report message causes

/-- Whether the arguments ask for help. -/
def wantsHelp (args : List String) : Bool := args.any fun a => a == "-h" || a == "--help"

/-- What is written before an interactive game. -/
def banner (r : Request) : String :=
  match r.config.mode with
  | .automated _ => ""
  | .interactive =>
    "Talking with " ++ Decimal.ofNat r.scenario.npcs.length ++ " NPC(s)\n" ++
      match r.config.seed with
      | some seed => "  Seed : " ++ Decimal.ofNat seed ++ "\n"
      | none => ""

/-- What the program does with its arguments. -/
inductive Plan where
  /-- Writes the usage. -/
  | help
  /-- Refuses the arguments. -/
  | refuse (error : Error)
  | play (request : Request)

/-- The plan for some arguments. -/
def plan (load : String → Except ScenarioError Scenario) (args : List String) : Plan :=
  if wantsHelp args then .help
  else
    match parse load args with
    | .ok request => .play request
    | .error e => .refuse e

/-- Runs the program. `seed` is used where the arguments have none. -/
def run (load : String → Except ScenarioError Scenario) (args : List String) (seed : UInt64)
    (input : List (Option String)) : Exit :=
  match plan load args with
  | .help => ⟨0, usage ++ "\n", ""⟩
  | .refuse e => ⟨1, "", report e.message e.causes⟩
  | .play request =>
    let result := request.scenario.run request.config seed input
    match result.error with
    | none => ⟨0, banner request ++ result.output, ""⟩
    | some e => ⟨1, banner request ++ result.output, reportRun e⟩

end Parley.Command

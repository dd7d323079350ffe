import Parley.Command.Files
import Parley.Command.Run
import Parley.Text.Lines

/-!
# The command line

Reads files, arguments and lines, and writes what the program has to say. An interactive game is
played line by line, so that each prompt is written before its line is read.
-/

namespace Parley.Command

/-- The reason why a file cannot be read. -/
def reasonOf : IO.Error → String
  | .noFileOrDirectory .. => Folder.notFound
  | .inappropriateType _ code _ =>
    if code = 20 then Folder.notFolder else Folder.isFolder
  | .permissionDenied .. => "Permission denied (os error 13)"
  | e => toString e

/-- The scenario of a file. -/
def loadFile (path : String) : IO (Except ScenarioError Scenario) := do
  try
    let bytes ← IO.FS.readBinFile path
    return Scenario.ofFile path (.ok bytes)
  catch e =>
    return Scenario.ofFile path (.error (reasonOf e))

/-- Reads bytes up to and with the next line feed, or to the end of the input. -/
partial def readLine (input : IO.FS.Stream) (soFar : ByteArray) : IO ByteArray := do
  let next ← input.read 1
  let soFar := soFar ++ next
  if next.isEmpty || next.toList = [10] then return soFar else readLine input soFar

/-- Plays lines of the standard input until the game is over; the result tells whether the input
could be read. -/
partial def playLines (input : IO.FS.Stream) (g : Game) : IO Bool := do
  let (text, g) := g.prompt
  IO.print text
  (← IO.getStdout).flush
  let line ← readLine input .empty
  if line.isEmpty then
    IO.print Game.farewell
    return true
  else
    match Text.decodeLine line.toList with
    | none => return false
    | some line =>
      match g.feed line with
      | none =>
        IO.print Game.farewell
        return true
      | some g => playLines input g

/-- A seed that is different every time. -/
def freshSeed : IO UInt64 := do
  let bytes ← IO.getRandomBytes 8
  return bytes.foldl (fun n b => n * 256 + b.toUInt64) 0

/-- Runs the program on the real files and streams; the result is its exit code. -/
def execute (args : List String) : IO UInt32 := do
  let path := (nextWord args).1.getD "builtin"
  let loaded ←
    if wantsHelp args || path = "builtin" then pure (.ok .builtin) else loadFile path
  let seed ← freshSeed
  match plan (fun _ => loaded) args with
  | .play ⟨scenario, ⟨given, _, .interactive⟩⟩ =>
    IO.print (banner ⟨scenario, ⟨given, 0, .interactive⟩⟩)
    let game := Game.start scenario (.ofSeed ((given.map UInt64.ofNat).getD seed))
    if ← playLines (← IO.getStdin) game then
      return 0
    else
      IO.eprint (reportRun .unreadableInput)
      return 1
  | _ =>
    let exit := run (fun _ => loaded) args seed []
    IO.print exit.output
    IO.eprint exit.errors
    return exit.code.toUInt32

end Parley.Command

/-- The program. -/
def main (args : List String) : IO UInt32 := Parley.Command.execute args

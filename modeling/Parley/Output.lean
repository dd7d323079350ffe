/-!
# Outputs

Where text is written to. Any write may fail. An output that fails has taken the beginning of the
text at most, and whoever writes several texts gives up at the first that is not taken.
-/

namespace Parley

/-- Why a text could not be written. -/
structure WriteError where
  message : String
deriving DecidableEq

/-- What becomes of one write. -/
inductive WriteAnswer where
  /-- The whole text is taken. -/
  | taken
  /-- The write fails after so many characters. -/
  | failed (length : Nat) (error : WriteError)
deriving DecidableEq

/-- An output: the text that it has taken, and what becomes of the next writes. All writes behind
those succeed. -/
structure Output where
  text : String
  answers : List WriteAnswer
deriving DecidableEq

namespace Output

/-- An output that has not taken anything yet. -/
def fresh (answers : List WriteAnswer) : Output := ⟨"", answers⟩

/-- An output in memory, where no write fails. -/
def memory : Output := fresh []

/-- Writes a text. -/
def write (out : Output) (text : String) : Except WriteError Unit × Output :=
  match out.answers with
  | [] => (.ok (), { out with text := out.text ++ text })
  | .taken :: rest => (.ok (), ⟨out.text ++ text, rest⟩)
  | .failed length e :: rest =>
    (.error e, ⟨out.text ++ String.ofList (text.toList.take length), rest⟩)

/-- Hands on what an output has taken so far; that may fail like a write. -/
def flush (out : Output) : Except WriteError Unit × Output := out.write ""

/-- Writes a line with its end. -/
def writeLine (out : Output) (line : String) : Except WriteError Unit × Output :=
  out.write (line ++ "\n")

/-- Writes lines in order, up to the first one that fails. -/
def writeLines (out : Output) : List String → Except WriteError Unit × Output
  | [] => (.ok (), out)
  | line :: rest =>
    match out.writeLine line with
    | (.ok (), out) => out.writeLines rest
    | (.error e, out) => (.error e, out)

end Output

end Parley

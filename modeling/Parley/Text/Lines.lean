/-!
# Lines of bytes

Input comes as bytes. A line ends before a line feed, or before a carriage return and a line feed;
the last line may lack its end. Each line is decoded on its own, and may fail to be UTF-8.
-/

namespace Parley.Text

/-- The bytes up to and with the first line feed, and the bytes behind it. -/
def breakLine : List UInt8 → List UInt8 × List UInt8
  | [] => ([], [])
  | b :: rest =>
    if b = 10 then ([b], rest)
    else
      let (line, behind) := breakLine rest
      (b :: line, behind)

/-- What is left behind a line is shorter than what the line was taken from. -/
theorem length_breakLine_snd (b : UInt8) (bs : List UInt8) :
    (breakLine (b :: bs)).2.length ≤ bs.length := by
  induction bs generalizing b with
  | nil => simp only [breakLine]; split <;> simp
  | cons c cs ih =>
    rw [breakLine]
    split
    · simp
    · have := ih c
      simp only [List.length_cons]
      omega

/-- The lines, each with its end. -/
def rawLines : List UInt8 → List (List UInt8)
  | [] => []
  | b :: bs => (breakLine (b :: bs)).1 :: rawLines (breakLine (b :: bs)).2
termination_by bs => bs.length
decreasing_by
  have := length_breakLine_snd b bs
  simp only [List.length_cons]
  omega

/-- A line without its end. -/
def stripEnd (line : String) : String :=
  let cs := line.toList.reverse
  match cs with
  | '\n' :: '\r' :: rest => String.ofList rest.reverse
  | '\n' :: rest => String.ofList rest.reverse
  | _ => line

/-- The text of a line, unless it is not UTF-8. -/
def decodeLine (line : List UInt8) : Option String :=
  (String.fromUTF8? ⟨line.toArray⟩).map stripEnd

/-- The lines of an input. -/
def lines (bytes : List UInt8) : List (Option String) :=
  (rawLines bytes).map decodeLine

end Parley.Text

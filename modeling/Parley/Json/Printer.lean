import Parley.Json.Value
import Parley.Numeric.Shortest
import Parley.Text.Quoted

/-!
# Compact JSON text

Values without any blanks. Inside strings only the quote, the backslash and the characters below
U+0020 are escaped.
-/

namespace Parley.Json

/-- How a character is written inside a string. -/
def escape (c : Char) : List Char :=
  if c == '\"' then ['\\', '\"']
  else if c == '\\' then ['\\', '\\']
  else if c == '\x08' then ['\\', 'b']
  else if c == '\x0c' then ['\\', 'f']
  else if c == '\n' then ['\\', 'n']
  else if c == '\r' then ['\\', 'r']
  else if c == '\t' then ['\\', 't']
  else if c.toNat < 0x20 then
    let hex := Text.Quoted.hexText c.toNat
    ['\\', 'u'] ++ List.replicate (4 - hex.length) '0' ++ hex
  else [c]

/-- A string between quotes. -/
def quote (s : String) : List Char :=
  '\"' :: s.toList.flatMap escape ++ ['\"']

/-- A number. -/
def Number.text : Number → String
  | .int i => Decimal.ofInt i
  | .float x => Shortest.text x

namespace Value

mutual

/-- The characters of a value. -/
def chars : Value → List Char
  | .null => ['n', 'u', 'l', 'l']
  | .bool true => ['t', 'r', 'u', 'e']
  | .bool false => ['f', 'a', 'l', 's', 'e']
  | .number n => n.text.toList
  | .string s => quote s
  | .array items => '[' :: itemChars items ++ [']']
  | .object members => '\x7b' :: memberChars members ++ ['\x7d']

/-- The items of an array, with commas between them. -/
def itemChars : List Value → List Char
  | [] => []
  | [x] => chars x
  | x :: y :: rest => chars x ++ ',' :: itemChars (y :: rest)

/-- The members of an object, with commas between them. -/
def memberChars : List (String × Value) → List Char
  | [] => []
  | [(name, x)] => quote name ++ ':' :: chars x
  | (name, x) :: y :: rest => quote name ++ ':' :: chars x ++ ',' :: memberChars (y :: rest)

end

/-- The compact text of a value. -/
def text (v : Value) : String := String.ofList v.chars

end Value

end Parley.Json

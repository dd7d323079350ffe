import Parley.Unicode.Grapheme

/-!
# Quoted text

Text between double quotes in which everything that would not show as itself is escaped: the quote
and the backslash, control characters, characters without a shape, and marks that would join the
character before them.
-/

namespace Parley.Text.Quoted

open Unicode (Category defaultIgnorable graphemeExtend)

/-- The characters that would not show as themselves: those without a shape other than the plain
space, those that show nothing where they are not understood, and those that would join the
character before them, as far as they are no letters. -/
def hidden : CharSet :=
  let shapeless := Category.set .seventeenth [.Cc, .Cf, .Co, .Cn, .Zl, .Zp, .Zs]
  let joining := (graphemeExtend .seventeenth).diff (Category.set .seventeenth Category.letters)
  (CharSet.unionAll [shapeless, defaultIgnorable, joining]).diff (.singleton ' ')

/-- A number in lower-case hexadecimal digits, without leading zeros. -/
def hexText (n : Nat) : List Char :=
  Nat.toDigits 16 n

/-- How a character is written between the quotes. -/
def escape (c : Char) : List Char :=
  if c == '\x00' then ['\\', '0']
  else if c == '\t' then ['\\', 't']
  else if c == '\r' then ['\\', 'r']
  else if c == '\n' then ['\\', 'n']
  else if c == '\\' then ['\\', '\\']
  else if c == '\"' then ['\\', '\"']
  else if hidden.contains c then
    ['\\', 'u', '\x7b'] ++ hexText c.toNat ++ ['\x7d']
  else [c]

/-- The text between double quotes, escaped. -/
def quote (s : String) : String :=
  String.ofList ('\"' :: s.toList.flatMap escape ++ ['\"'])

end Parley.Text.Quoted

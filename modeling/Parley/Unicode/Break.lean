import Parley.Unicode.Identifier
import Parley.Unicode.Script

/-!
# Boundaries in text

The three properties by which text is cut into graphemes, words and sentences. Each function gives
the characters that have a value, by the names of the value in lower case and without separators; a
value that no character has is none.
-/

namespace Parley.Unicode

/-- The syllables of Hangul without a final consonant: every twenty-eighth one. -/
def openSyllable : CharSet := .ofCodes ((List.range 399).map fun k => 0xac00 + 28 * k)

/-- The values of the property that finds graphemes. -/
def graphemeBreak? : String → Option CharSet
  | "cr" => some (table "d")
  | "lf" => some (table "a")
  | "control" | "cn" =>
    let unshown := (Category.set .sixteenth [.Cn]).inter defaultIgnorable
    some ((unshown.union (Category.set .sixteenth [.Cc, .Cf, .Zl, .Zp])).diff
      (.unionAll [table "a d 200c-200d", prependedConcatenationMark, graphemeExtend .sixteenth]))
  | "extend" | "ex" => some ((graphemeExtend .sixteenth).union emojiModifier)
  | "zwj" => some (table "200d")
  | "regionalindicator" | "ri" => some regionalIndicator
  | "prepend" | "pp" =>
    some (prependedConcatenationMark.union
      (table "d4e 111c2-111c3 113d1 1193f 11941 11a3a 11a84-11a89 11d46 11f02"))
  | "spacingmark" | "sm" =>
    some (((Category.set .sixteenth [.Mc]).diff (graphemeExtend .sixteenth)).symmDiff
      (table "e33 eb3 102b-102c 1038 1062-1064 1067-106d 1083 1087-108c 108f 109a-109c 1a61
1a63-1a64 aa7b aa7d 11720-11721"))
  | "l" => some (table "1100-115f a960-a97c")
  | "v" => some (table "1160-11a7 d7b0-d7c6 16d63 16d67-16d6a")
  | "t" => some (table "11a8-11ff d7cb-d7fb")
  | "lv" => some openSyllable
  | "lvt" => some ((table "ac00-d7a3").diff openSyllable)
  | _ => none

/-- Characters that belong to the one before them, within words. -/
def wordExtend : CharSet :=
  .unionAll [graphemeExtend .sixteenth, Category.set .sixteenth [.Mc], emojiModifier]

/-- The syllables and letters of Katakana, with the marks that go with them. -/
def katakana : CharSet := (script "Kana").symmDiff (table "3031-3035 309b-309c 30a0 30fc ff70")

/-- The letters of Hebrew. -/
def hebrewLetter : CharSet := (script "Hebr").inter (Category.set .sixteenth [.Lo])

/-- The scripts that leave no space between words. -/
def unspacedScripts : List String :=
  ["Thai", "Laoo", "Mymr", "Khmr", "Tale", "Talu", "Lana", "Tavt", "Ahom"]

/-- The digits and marks of numbers, within words. -/
def wordNumeric : CharSet := (Category.set .sixteenth [.Nd]).symmDiff
  (table "600-605 66b 6dd 890-891 8e2 19da 110bd 110cd")

/-- The values of the property that finds words. -/
def wordBreak? : String → Option CharSet
  | "cr" => some (table "d")
  | "lf" => some (table "a")
  | "newline" | "nl" => some (table "b-c 85 2028-2029")
  | "extend" => some wordExtend
  | "zwj" => some (table "200d")
  | "regionalindicator" | "ri" => some regionalIndicator
  | "format" | "fo" =>
    some ((Category.set .sixteenth [.Cf]).diff
      (.unionAll [table "200b-200d", wordExtend, prependedConcatenationMark]))
  | "katakana" | "ka" => some katakana
  | "hebrewletter" | "hl" => some hebrewLetter
  | "aletter" | "le" =>
    let others := CharSet.unionAll
      ([ideographic, katakana, script "Hira", hebrewLetter, wordExtend]
        ++ unspacedScripts.map script)
    some (((alphabetic .sixteenth).diff others).symmDiff
      (table "2c2-2c5 2d2-2d7 2de-2df 2e5-2eb 2ed 2ef-2ff 55a-55c 55e 58a 5f3 70f a708-a716
a720-a721 a789-a78a ab5b"))
  | "singlequote" | "sq" => some (table "27")
  | "doublequote" | "dq" => some (table "22")
  | "midnumlet" | "mb" => some (table "2e 2018-2019 2024 fe52 ff07 ff0e")
  | "midletter" | "ml" => some (table "3a b7 387 55f 5f4 2027 fe13 fe55 ff1a")
  | "midnum" | "mn" => some (table "2c 3b 37e 589 60c-60d 66c 7f8 2044 fe50 fe54 ff0c ff1b")
  | "numeric" | "nu" => some wordNumeric
  | "extendnumlet" | "ex" => some ((Category.set .sixteenth [.Pc]).union (table "202f"))
  | "wsegspace" => some ((Category.set .sixteenth [.Zs]).diff (table "a0 2007 202f"))
  | _ => none

/-- Characters that belong to the one before them, within sentences. -/
def sentenceExtend : CharSet :=
  .unionAll [graphemeExtend .sixteenth, Category.set .sixteenth [.Mc], table "200d"]

/-- Lower-case letters, within sentences. -/
def sentenceLower : CharSet :=
  (lowercase.diff sentenceExtend).diff (table "10d0-10fa 10fd-10ff")

/-- Upper-case and title-case letters, within sentences. -/
def sentenceUpper : CharSet :=
  (uppercase.union (Category.set .sixteenth [.Lt])).diff (table "1c90-1cba 1cbd-1cbf")

/-- The values of the property that finds sentences. -/
def sentenceBreak? : String → Option CharSet
  | "cr" => some (table "d")
  | "lf" => some (table "a")
  | "sep" | "se" => some (table "85 2028-2029")
  | "extend" | "ex" => some sentenceExtend
  | "format" | "fo" =>
    some (((Category.set .sixteenth [.Cf]).diff (sentenceExtend.union (table "200c"))).symmDiff
      (table "600-605 6dd 890-891 8e2 110bd 110cd"))
  | "sp" => some (whiteSpace.diff (table "a d 85 2028-2029"))
  | "lower" | "lo" => some sentenceLower
  | "upper" | "up" => some sentenceUpper
  | "oletter" | "le" =>
    let others := CharSet.unionAll [sentenceLower, sentenceUpper, sentenceExtend]
    some (((alphabetic .sixteenth).diff others).union (table "5f3"))
  | "numeric" | "nu" => some (wordNumeric.union (table "66c"))
  | "aterm" | "at" => some (table "2e 2024 fe52 ff0e")
  | "scontinue" | "sc" =>
    some (table
      "2c-2d 3a-3b 37e 55d 60c-60d 7f8 1802 1808 2013-2014 3001 fe10-fe11 fe13-fe14 fe31-fe32
fe50-fe51 fe54-fe55 fe58 fe63 ff0c-ff0d ff1a-ff1b ff64")
  | "sterm" | "st" => some (sentenceTerminal.diff (table "2e 2024 fe52 ff0e"))
  | "close" | "cl" =>
    some (((Category.set .sixteenth [.Ps, .Pe, .Pi, .Pf]).union quotationMark).symmDiff
      (table "275b-2760 2e00-2e01 2e06-2e08 2e0b ff02 ff07 1f676-1f678"))
  | _ => none

end Parley.Unicode

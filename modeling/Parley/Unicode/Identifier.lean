import Parley.Unicode.Grapheme

/-!
# Identifiers

The characters of names in programs.
-/

namespace Parley.Unicode

/-- The characters that start names only for the sake of older names. -/
def otherIdStart : CharSet := table "1885-1886 2118 212e 309b-309c"

/-- The characters that go on in names only for the sake of older names. -/
def otherIdContinue : CharSet := table "b7 387 1369-1371 19da 200c-200d 30fb ff65"

/-- Characters that start names. -/
def idStart : CharSet :=
  ((Category.set .sixteenth (.Nl :: Category.letters)).union otherIdStart).diff
  (patternSyntax.union patternWhiteSpace)

/-- Characters that stand in names. -/
def idContinue : CharSet := (CharSet.unionAll
  [idStart, Category.set .sixteenth [.Mn, .Mc, .Nd, .Pc], otherIdContinue]).diff
  (patternSyntax.union patternWhiteSpace)

/-- Characters that start names, also when those are normalised. -/
def xidStart : CharSet := idStart.diff
  (table "37a e33 eb3 309b-309c fc5e-fc63 fdfa-fdfb fe70 fe72 fe74 fe76 fe78 fe7a fe7c fe7e
ff9e-ff9f")

/-- Characters that stand in names, also when those are normalised. -/
def xidContinue : CharSet := idContinue.diff
  (table "37a 309b-309c fc5e-fc63 fdfa-fdfb fe70 fe72 fe74 fe76 fe78 fe7a fe7c fe7e")

/-- The symbols of mathematics that may start names. -/
def idCompatMathStart : CharSet := table "2202 2207 221e 1d6c1 1d6db 1d6fb 1d715 1d735 1d74f
1d76f 1d789 1d7a9 1d7c3"

/-- The symbols of mathematics that may stand in names. -/
def idCompatMathContinue : CharSet := idCompatMathStart.union
  (table "b2-b3 b9 2070 2074-207e 2080-208e")

end Parley.Unicode

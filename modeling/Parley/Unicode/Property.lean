import Parley.Unicode.Age
import Parley.Unicode.Break
import Parley.Unicode.Casing

/-!
# Properties by name

The sets of characters that properties of Unicode have by their names. Names come in lower case and
without separators, as `looseName` makes them.
-/

namespace Parley.Unicode

/-- A name without what does not count in it: case, blanks, hyphens, underscores, characters beyond
ASCII and a leading `is`. The name `isc` stays whole, for it has a meaning of its own. -/
def looseName (name : List Char) : String :=
  let isMark := fun c => c == ' ' || c == '-' || c == '_'
  let plain := fun cs => ((cs.filter fun c => !isMark c && c.toNat < 128).map Char.toLower)
  match name with
  | i :: s :: rest =>
    if i.toLower == 'i' && s.toLower == 's' then
      if plain rest == ['c'] then "isc" else String.ofList (plain rest)
    else String.ofList (plain name)
  | _ => String.ofList (plain name)

/-! ## General categories -/

/-- The names of general categories and of groups of them. -/
def categoryNames : List (List String × List Category) :=
  [(["c", "other"], [.Cc, .Cf, .Co, .Cn]), (["cc", "cntrl", "control"], [.Cc]),
   (["cf", "format"], [.Cf]), (["cn", "unassigned"], [.Cn]), (["co", "privateuse"], [.Co]),
   (["l", "letter"], Category.letters), (["lc", "casedletter"], [.Lu, .Ll, .Lt]),
   (["ll", "lowercaseletter"], [.Ll]), (["lm", "modifierletter"], [.Lm]),
   (["lo", "otherletter"], [.Lo]), (["lt", "titlecaseletter"], [.Lt]),
   (["lu", "uppercaseletter"], [.Lu]), (["m", "mark", "combiningmark"], Category.marks),
   (["mc", "spacingmark"], [.Mc]), (["me", "enclosingmark"], [.Me]),
   (["mn", "nonspacingmark"], [.Mn]), (["n", "number"], Category.numbers),
   (["nd", "digit", "decimalnumber"], [.Nd]), (["nl", "letternumber"], [.Nl]),
   (["no", "othernumber"], [.No]),
   (["p", "punct", "punctuation"], [.Pc, .Pd, .Ps, .Pe, .Pi, .Pf, .Po]),
   (["pc", "connectorpunctuation"], [.Pc]), (["pd", "dashpunctuation"], [.Pd]),
   (["pe", "closepunctuation"], [.Pe]), (["pf", "finalpunctuation"], [.Pf]),
   (["pi", "initialpunctuation"], [.Pi]), (["po", "otherpunctuation"], [.Po]),
   (["ps", "openpunctuation"], [.Ps]), (["s", "symbol"], [.Sm, .Sc, .Sk, .So]),
   (["sc", "currencysymbol"], [.Sc]), (["sk", "modifiersymbol"], [.Sk]),
   (["sm", "mathsymbol"], [.Sm]), (["so", "othersymbol"], [.So]),
   (["z", "separator"], [.Zs, .Zl, .Zp]), (["zl", "lineseparator"], [.Zl]),
   (["zp", "paragraphseparator"], [.Zp]), (["zs", "spaceseparator"], [.Zs])]

/-- The characters of a general category or of a group of them. -/
def category? (name : String) : Option CharSet :=
  match name with
  | "any" => some .all
  | "assigned" => some (Category.set .sixteenth [.Cn]).complement
  | "ascii" => some (table "0-7f")
  | _ =>
    (categoryNames.find? (·.1.contains name)).map fun (_, categories) =>
      Category.set .sixteenth categories

/-! ## Properties that characters have or lack -/

/-- Characters that are passed over where the case of words is found. -/
def caseIgnorable : CharSet :=
  .unionAll [Category.set .sixteenth [.Mn, .Me, .Cf, .Lm, .Sk],
    .unionAll (["midletter", "midnumlet", "singlequote"].filterMap wordBreak?)]

/-- The names of the properties that characters have or lack, with the characters that have them. -/
def binaryProperties : List (List String × CharSet) :=
  [(["asciihexdigit", "ahex"], asciiHexDigit), (["alphabetic", "alpha"], alphabetic .sixteenth),
   (["bidicontrol", "bidic"], bidiControl), (["bidimirrored", "bidim"], bidiMirrored),
   (["caseignorable", "ci"], caseIgnorable), (["cased"], cased),
   (["changeswhencasefolded", "cwcf"], changesWhenCasefolded),
   (["changeswhencasemapped", "cwcm"], changesWhenCasemapped),
   (["changeswhenlowercased", "cwl"], changesWhenLowercased),
   (["changeswhentitlecased", "cwt"], changesWhenTitlecased),
   (["changeswhenuppercased", "cwu"], changesWhenUppercased), (["dash"], dash),
   (["defaultignorablecodepoint", "di"], defaultIgnorable), (["deprecated", "dep"], deprecated),
   (["diacritic", "dia"], diacritic), (["emoji"], emoji),
   (["emojicomponent", "ecomp"], emojiComponent), (["emojimodifier", "emod"], emojiModifier),
   (["emojimodifierbase", "ebase"], emojiModifierBase),
   (["emojipresentation", "epres"], emojiPresentation),
   (["extendedpictographic", "extpict"], extendedPictographic), (["extender", "ext"], extender),
   (["graphemebase", "grbase"], graphemeBase),
   (["graphemeextend", "grext"], graphemeExtend .sixteenth),
   (["graphemelink", "grlink"], graphemeLink), (["hexdigit", "hex"], hexDigit),
   (["hyphen"], hyphen), (["idsbinaryoperator", "idsb"], idsBinaryOperator),
   (["idstrinaryoperator", "idst"], idsTrinaryOperator),
   (["idsunaryoperator", "idsu"], idsUnaryOperator),
   (["idcompatmathcontinue"], idCompatMathContinue), (["idcompatmathstart"], idCompatMathStart),
   (["idcontinue", "idc"], idContinue), (["idstart", "ids"], idStart),
   (["ideographic", "ideo"], ideographic), (["joincontrol", "joinc"], joinControl),
   (["logicalorderexception", "loe"], logicalOrderException), (["lowercase", "lower"], lowercase),
   (["math"], math), (["modifiercombiningmark", "mcm"], modifierCombiningMark),
   (["noncharactercodepoint", "nchar"], noncharacter),
   (["otheralphabetic", "oalpha"], otherAlphabetic),
   (["otherdefaultignorablecodepoint", "odi"], otherDefaultIgnorable),
   (["othergraphemeextend", "ogrext"], otherGraphemeExtend),
   (["otheridcontinue", "oidc"], otherIdContinue), (["otheridstart", "oids"], otherIdStart),
   (["otherlowercase", "olower"], otherLowercase), (["othermath", "omath"], otherMath),
   (["otheruppercase", "oupper"], otherUppercase), (["patternsyntax", "patsyn"], patternSyntax),
   (["patternwhitespace", "patws"], patternWhiteSpace),
   (["prependedconcatenationmark", "pcm"], prependedConcatenationMark),
   (["quotationmark", "qmark"], quotationMark), (["radical"], radical),
   (["regionalindicator", "ri"], regionalIndicator),
   (["sentenceterminal", "sterm"], sentenceTerminal), (["softdotted", "sd"], softDotted),
   (["terminalpunctuation", "term"], terminalPunctuation),
   (["unifiedideograph", "uideo"], unifiedIdeograph), (["uppercase", "upper"], uppercase),
   (["variationselector", "vs"], variationSelector),
   (["whitespace", "space", "wspace"], whiteSpace), (["xidcontinue", "xidc"], xidContinue),
   (["xidstart", "xids"], xidStart)]

/-- The characters with a property, by the name of the property. -/
def binary? (name : String) : Option CharSet :=
  (binaryProperties.find? (·.1.contains name)).map (·.2)

/-! ## Properties with values -/

/-- The characters of a property that is named without a value: of a property that characters have
or lack, of a general category, or of a script. -/
def named? (name : List Char) : Option CharSet :=
  let plain := looseName name
  (binary? plain).orElse fun _ => (category? plain).orElse fun _ =>
    (scriptCode? plain).map script

/-- The characters for which a property has a value. -/
def valued? (name value : List Char) : Option CharSet :=
  let value := looseName value
  match looseName name with
  | "generalcategory" | "gc" => category? value
  | "script" | "sc" => (scriptCode? value).map script
  | "scriptextensions" | "scx" => (scriptCode? value).map scriptExtension
  | "age" => age? value
  | "graphemeclusterbreak" | "gcb" => graphemeBreak? value
  | "wordbreak" | "wb" => wordBreak? value
  | "sentencebreak" | "sb" => sentenceBreak? value
  | _ => none

end Parley.Unicode

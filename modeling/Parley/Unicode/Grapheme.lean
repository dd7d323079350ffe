import Parley.Unicode.Emoji
import Parley.Unicode.Letter

/-!
# Graphemes

Which characters stand for themselves, which join the character in front of them, and which have no
shape.
-/

namespace Parley.Unicode

/-- The characters that extend the one before them, other than nonspacing and enclosing marks. -/
def otherGraphemeExtend : CharSet := table "9be 9d7 b3e b57 bbe bd7 cc0 cc2 cc7-cc8 cca-ccb
cd5-cd6 d3e d57 dcf ddf 1715 1734 1b35 1b3b 1b3d 1b43-1b44 1baa 1bf2-1bf3 200c 302e-302f a953 a9c0
ff9e-ff9f 111c0 11235 1133e 1134d 11357 113b8 113c2 113c5 113c7-113c9 113cf 114b0 114bd 115af
116b6 11930 1193d 11f41 16ff0-16ff1 1d165-1d166 1d16d-1d172 e0020-e007f"

/-- Characters that extend the one before them. -/
def graphemeExtend (edition : Edition) : CharSet :=
  (Category.set edition [.Mn, .Me]).union otherGraphemeExtend

/-- Characters that other ones may extend. -/
def graphemeBase : CharSet := CharSet.complement
  ((Category.set .sixteenth [.Cc, .Cf, .Co, .Cn, .Zl, .Zp]).union (graphemeExtend .sixteenth))

/-- The marks that take away the vowel of a consonant. -/
def graphemeLink : CharSet := table "94d 9cd a4d acd b4d bcd c4d ccd d3b-d3c d4d dca e3a eba f84
1039-103a 1714-1715 1734 17d2 1a60 1b44 1baa-1bab 1bf2-1bf3 2d7f a806 a82c a8c4 a953 a9c0 aaf6
abed 10a3f 11046 11070 1107f 110b9 11133-11134 111c0 11235 112ea 1134d 113ce-113d0 11442 114c2
115bf 1163f 116b6 1172b 11839 1193d-1193e 119e0 11a34 11a47 11a99 11c3f 11d44-11d45 11d97
11f41-11f42 1612f"

/-- Marks that change the sound of a letter. -/
def diacritic : CharSet := table "5e 60 a8 af b4 b7-b8 2b0-34e 350-357 35d-362 374-375 37a
384-385 483-487 559 591-5a1 5a3-5bd 5bf 5c1-5c2 5c4 64b-652 657-658 6df-6e0 6e5-6e6 6ea-6ec
730-74a 7a6-7b0 7eb-7f5 818-819 898-89f 8c9-8d2 8e3-8fe 93c 94d 951-954 971 9bc 9cd a3c a4d abc
acd afd-aff b3c b4d b55 bcd c3c c4d cbc ccd d3b-d3c d4d dca e3a e47-e4c e4e eba ec8-ecc f18-f19
f35 f37 f39 f3e-f3f f82-f84 f86-f87 fc6 1037 1039-103a 1063-1064 1069-106d 1087-108d 108f
109a-109b 135d-135f 1714-1715 1734 17c9-17d3 17dd 1939-193b 1a60 1a75-1a7c 1a7f 1ab0-1abe
1ac1-1acb 1b34 1b44 1b6b-1b73 1baa-1bab 1be6 1bf2-1bf3 1c36-1c37 1c78-1c7d 1cd0-1ce8 1ced 1cf4
1cf7-1cf9 1d2c-1d6a 1dc4-1dcf 1df5-1dff 1fbd 1fbf-1fc1 1fcd-1fcf 1fdd-1fdf 1fed-1fef 1ffd-1ffe
2cef-2cf1 2e2f 302a-302f 3099-309c 30fc a66f a67c-a67d a67f a69c-a69d a6f0-a6f1 a700-a721
a788-a78a a7f8-a7f9 a806 a82c a8c4 a8e0-a8f1 a92b-a92e a953 a9b3 a9c0 a9e5 aa7b-aa7d aabf-aac2
aaf6 ab5b-ab5f ab69-ab6b abec-abed fb1e fe20-fe2f ff3e ff40 ff70 ff9e-ff9f ffe3 102e0 10780-10785
10787-107b0 107b2-107ba 10a38-10a3a 10a3f 10ae5-10ae6 10d22-10d27 10d4e 10d69-10d6d 10efd-10eff
10f46-10f50 10f82-10f85 11046 11070 110b9-110ba 11133-11134 11173 111c0 111ca-111cc 11235-11236
112e9-112ea 1133b-1133c 1134d 11366-1136c 11370-11374 113ce-113d0 113d2-113d3 113e1-113e2 11442
11446 114c2-114c3 115bf-115c0 1163f 116b6-116b7 1172b 11839-1183a 1193d-1193e 11943 119e0 11a34
11a47 11a99 11c3f 11d42 11d44-11d45 11d97 11f41-11f42 11f5a 13447-13455 1612f 16af0-16af4
16b30-16b36 16d6b-16d6c 16f8f-16f9f 16ff0-16ff1 1aff0-1aff3 1aff5-1affb 1affd-1affe 1cf00-1cf2d
1cf30-1cf46 1d167-1d169 1d16d-1d172 1d17b-1d182 1d185-1d18b 1d1aa-1d1ad 1e030-1e06d 1e130-1e136
1e2ae 1e2ec-1e2ef 1e5ee-1e5ef 1e8d0-1e8d6 1e944-1e946 1e948-1e94a"

/-- Marks that repeat or lengthen a sound. -/
def extender : CharSet := table "b7 2d0-2d1 640 7fa a71 afb b55 e46 ec6 180a 1843 1aa7 1c36 1c7b
3005 3031-3035 309d-309e 30fc-30fe a015 a60c a9cf a9e6 aa70 aadd aaf3-aaf4 ff70 10781-10782 10d4e
10d6a 10d6f 11237 1135d 113d2-113d3 115c6-115c8 11a98 16b42-16b43 16fe0-16fe1 16fe3 1e13c-1e13d
1e5ef 1e944-1e946"

/-- Arabic marks that stand nearer to the letter than other marks. -/
def modifierCombiningMark : CharSet := table "654-655 658 6dc 6e3 6e7-6e8 8ca-8cb 8cd-8cf 8d3 8f3"

/-- Characters that choose between the shapes of the one before them. -/
def variationSelector : CharSet := table "180b-180d 180f fe00-fe0f e0100-e01ef"

/-- Signs that span the numbers behind them. -/
def prependedConcatenationMark : CharSet := table "600-605 6dd 70f 890-891 8e2 110bd 110cd"

/-- The characters without a shape that are neither format controls nor selectors. -/
def otherDefaultIgnorable : CharSet := table "34f 115f-1160 17b4-17b5 2065 3164 ffa0 fff0-fff8
e0000 e0002-e001f e0080-e00ff e01f0-e0fff"

/-- Characters that show nothing where they are not understood. -/
def defaultIgnorable : CharSet := (CharSet.unionAll
  [otherDefaultIgnorable, Category.set .sixteenth [.Cf], variationSelector]).diff
  (.unionAll [whiteSpace, prependedConcatenationMark, table "fff9-fffb 13430-1343f"])

end Parley.Unicode

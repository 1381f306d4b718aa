import NodeForest.Text.Property.BinaryTable
import NodeForest.Text.Property.Category

/-!
# Properties that follow from others

Most binary properties are defined by categories and by lists of further characters. The word
characters and the decimal digits are defined here too: words are made of letters, marks, digits,
connecting punctuation and joiners.
-/

namespace NodeForest.Text

/-- The characters with a property of the table. -/
def tabled (name : String) : CodeRanges :=
  (lookup? binaryTable name).getD .none

def lowercaseLetters : CodeRanges :=
  (ofCategories ["ll"]).union (tabled "otherlowercase")

def uppercaseLetters : CodeRanges :=
  (ofCategories ["lu"]).union (tabled "otheruppercase")

def alphabetic : CodeRanges :=
  .unionOf [lowercaseLetters, uppercaseLetters, ofCategories ["lt", "lm", "lo", "nl"],
    tabled "otheralphabetic"]

def wordCharacters : CodeRanges :=
  .unionOf [alphabetic, ofCategories ["mn", "mc", "me", "nd", "pc"], tabled "joincontrol"]

def decimalDigits : CodeRanges :=
  ofCategories ["nd"]

def cased : CodeRanges :=
  .unionOf [lowercaseLetters, uppercaseLetters, ofCategories ["lt"]]

def caseIgnorable : CodeRanges :=
  (ofCategories ["mn", "me", "cf", "lm", "sk"]).union
    (.ofText "27 2e 3a b7 387 55f 5f4 2018-2019 2024 2027 fe13 fe52 fe55 ff07 ff0e ff1a")

def graphemeExtend : CodeRanges :=
  (ofCategories ["mn", "me"]).union (tabled "othergraphemeextend")

def graphemeBase : CodeRanges :=
  assigned.difference (graphemeExtend.union (ofCategories ["cc", "cf", "co", "zl", "zp"]))

def defaultIgnorable : CodeRanges :=
  (CodeRanges.unionOf [tabled "otherdefaultignorablecodepoint", ofCategories ["cf"],
      tabled "variationselector"]).difference
    (.unionOf [tabled "whitespace", tabled "prependedconcatenationmark",
      .ofText "fff9-fffb 13430-13440"])

/-! ## Identifiers -/

def patternCharacters : CodeRanges :=
  (tabled "patternsyntax").union (tabled "patternwhitespace")

def identifierStart : CodeRanges :=
  ((ofCategories ["lu", "ll", "lt", "lm", "lo", "nl"]).union (tabled "otheridstart")).difference
    patternCharacters

def identifierContinue : CodeRanges :=
  (CodeRanges.unionOf [identifierStart, ofCategories ["mn", "mc", "nd", "pc"],
    tabled "otheridcontinue"]).difference patternCharacters

/-- Characters that may start an identifier but change into what may not, by compatibility. -/
def unstableStart : CodeRanges :=
  .ofText "37a e33 eb3 309b-309c fc5e-fc63 fdfa-fdfb fe70-fe7e/2 ff9e-ff9f"

def unstableContinue : CodeRanges :=
  .ofText "37a 309b-309c fc5e-fc63 fdfa-fdfb fe70-fe7e/2"

/-! ## Change of case -/

/-- Capitals without a lowercase form. -/
def fixedCapitals : CodeRanges :=
  .ofText
    "3d2-3d4 2102 2107 210b-210d 2110-2112 2115 2119-211d 2124 2128 212c-212d 2130-2131 2133
     213e-213f 2145 1d400-1d419 1d434-1d44d 1d468-1d481 1d49c 1d49e-1d49f 1d4a2 1d4a5-1d4a6
     1d4a9-1d4ac 1d4ae-1d4b5 1d4d0-1d4e9 1d504-1d505 1d507-1d50a 1d50d-1d514 1d516-1d51c
     1d538-1d539 1d53b-1d53e 1d540-1d544 1d546 1d54a-1d550 1d56c-1d585 1d5a0-1d5b9 1d5d4-1d5ed
     1d608-1d621 1d63c-1d655 1d670-1d689 1d6a8-1d6c0 1d6e2-1d6fa 1d71c-1d734 1d756-1d76e
     1d790-1d7a8 1d7ca 1f130-1f149 1f150-1f169 1f170-1f189"

/-- Small letters without an uppercase form. -/
def fixedSmallLetters : CodeRanges :=
  .ofText
    "aa ba 138 18d 1aa-1ab 1ba 1be 221 234-239 255 258 25a 25d-25f 262 267 26d-26e 270 273-274
     276-27c 27e-27f 281 284-286 28d-291 293 295-29c 29f-2b8 2c0-2c1 2e0-2e4 37a 3fc 560 588 10fc
     1d00-1d78 1d7a-1d7c 1d7e-1d8d 1d8f-1dbf 1e9c-1e9d 1e9f 2071 207f 2090-209c 210a 210e-210f 2113
     212f-2139/5 213c-213d 2146-2149 2c71 2c74 2c77-2c7d 2ce4 a69c-a69d a730-a731 a770-a778 a78e
     a795 a7af a7d3 a7d5 a7f2-a7f4 a7f8-a7fa ab30-ab52 ab54-ab5a ab5c-ab69 10780 10783-10785
     10787-107b0 107b2-107ba 1d41a-1d433 1d44e-1d454 1d456-1d467 1d482-1d49b 1d4b6-1d4b9 1d4bb
     1d4bd-1d4c3 1d4c5-1d4cf 1d4ea-1d503 1d51e-1d537 1d552-1d56b 1d586-1d59f 1d5ba-1d5d3
     1d5ee-1d607 1d622-1d63b 1d656-1d66f 1d68a-1d6a5 1d6c2-1d6da 1d6dc-1d6e1 1d6fc-1d714
     1d716-1d71b 1d736-1d74e 1d750-1d755 1d770-1d788 1d78a-1d78f 1d7aa-1d7c2 1d7c4-1d7c9 1d7cb
     1df00-1df09 1df0b-1df1e 1df25-1df2a 1e030-1e06d"

/-- Characters that are titlecase and have an uppercase form. -/
def digraphTitles : CodeRanges :=
  .ofText "1c5-1cb/3 1f2 1f88-1f8f 1f98-1f9f 1fa8-1faf 1fbc 1fcc 1ffc"

def changesLowercased : CodeRanges :=
  (uppercaseLetters.union (ofCategories ["lt"])).difference fixedCapitals

def changesUppercased : CodeRanges :=
  (lowercaseLetters.difference fixedSmallLetters).union digraphTitles

def changesTitlecased : CodeRanges :=
  (changesUppercased.difference (digraphTitles.union (.ofText "10d0-10fa 10fd-10ff"))).union
    (.ofText "1c4-1ca/3 1f1")

/-- Small letters that change when case is folded. -/
def foldedSmallLetters : CodeRanges :=
  .ofText
    "b5 df 149 17f 345 3c2 3d0-3d1 3d5-3d6 3f0-3f1 3f5 587 13f8-13fd 1c80-1c88 1e9a-1e9b 1f80-1f87
     1f90-1f97 1fa0-1fa7 1fb2-1fb4 1fb7 1fc2-1fc4 1fc7 1ff2-1ff4 1ff7 ab70-abbf fb00-fb06 fb13-fb17"

def changesCasefolded : CodeRanges :=
  (changesLowercased.difference (.ofText "13a0-13f5")).union foldedSmallLetters

/-! ## By name -/

/-- The characters with the binary property of this name in normal form. -/
def binary? (name : String) : Option CodeRanges :=
  match name with
  | "alphabetic" | "alpha" => some alphabetic
  | "caseignorable" | "ci" => some caseIgnorable
  | "cased" => some cased
  | "changeswhencasefolded" | "cwcf" => some changesCasefolded
  | "changeswhencasemapped" | "cwcm" =>
      some (.unionOf [changesLowercased, changesUppercased, changesTitlecased])
  | "changeswhenlowercased" | "cwl" => some changesLowercased
  | "changeswhentitlecased" | "cwt" => some changesTitlecased
  | "changeswhenuppercased" | "cwu" => some changesUppercased
  | "defaultignorablecodepoint" | "di" => some defaultIgnorable
  | "graphemebase" | "grbase" => some graphemeBase
  | "graphemeextend" | "grext" => some graphemeExtend
  | "idcontinue" | "idc" => some identifierContinue
  | "idstart" | "ids" => some identifierStart
  | "lowercase" | "lower" => some lowercaseLetters
  | "math" => some ((ofCategories ["sm"]).union (tabled "othermath"))
  | "uppercase" | "upper" => some uppercaseLetters
  | "xidcontinue" | "xidc" => some (identifierContinue.difference unstableContinue)
  | "xidstart" | "xids" => some (identifierStart.difference unstableStart)
  | name => lookup? binaryTable name

end NodeForest.Text

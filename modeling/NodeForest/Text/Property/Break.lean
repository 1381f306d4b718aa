import NodeForest.Text.Property.Binary
import NodeForest.Text.Property.Script

/-!
# Kinds of characters for text boundaries

Characters are sorted into kinds that decide where user-perceived characters, words and sentences
end. Each family has names of its own; the characters of no kind have no name.
-/

namespace NodeForest.Text

/-- The kinds for the boundaries of user-perceived characters. -/
def graphemeBreak? (name : String) : Option CodeRanges :=
  match name with
  | "cr" => some (.ofChar '\r')
  | "lf" => some (.ofChar '\n')
  | "control" | "cn" =>
      some (((ofCategories ["cc", "cf", "zl", "zp"]).union
        (unassigned.intersection defaultIgnorable)).difference
          (.ofText "a d 600-605 6dd 70f 890-891 8e2 200c-200d 110bd 110cd e0020-e007f"))
  | "extend" | "ex" => some (graphemeExtend.union (tabled "emojimodifier"))
  | "l" => some (.ofText "1100-115f a960-a97c")
  | "v" => some (.ofText "1160-11a7 d7b0-d7c6 16d63 16d67-16d6a")
  | "t" => some (.ofText "11a8-11ff d7cb-d7fb")
  | "lv" => some (.ofText "ac00-d788/1c")
  | "lvt" => some ((CodeRanges.ofText "ac00-d7a3").difference (.ofText "ac00-d788/1c"))
  | "prepend" | "pp" =>
      some ((tabled "prependedconcatenationmark").union
        (.ofText "d4e 111c2-111c3 113d1 1193f 11941 11a3a 11a84-11a89 11d46 11f02"))
  | "regionalindicator" | "ri" => some (tabled "regionalindicator")
  | "spacingmark" | "sm" =>
      some (((ofCategories ["mc"]).difference (graphemeExtend.union
        (.ofText "102b-102c 1038 1062-1064 1067-106d 1083 1087-108c 108f 109a-109c 1a61 1a63-1a64
          aa7b aa7d 11720-11721"))).union (.ofText "e33 eb3"))
  | "zwj" => some (.ofChar '\u200d')
  | _ => none

/-! ## Words -/

def hebrewLetters : CodeRanges :=
  .ofText "5d0-5ea 5ef-5f2 fb1d fb1f-fb28 fb2a-fb36 fb38-fb3c fb3e fb40-fb41 fb43-fb44 fb46-fb4f"

def katakanaLetters : CodeRanges :=
  .ofText
    "3031-3035 309b-309c 30a0-30fa 30fc-30ff 31f0-31ff 32d0-32fe 3300-3357 ff66-ff9d 1aff0-1aff3
     1aff5-1affb 1affd-1affe 1b000 1b120-1b122 1b155 1b164-1b167"

/-- Letters of scripts that put no blanks between words. -/
def unspacedLetters : CodeRanges :=
  .ofText
    "e01-e30 e32-e33 e40-e46 e81-e82 e84 e86-e8a e8c-ea3 ea5 ea7-eb0 eb2-eb3 ebd ec0-ec4 ec6
     edc-edf 1000-102a 103f 1050-1055 105a-105d 1061 1065-1066 106e-1070 1075-1081 108e 1780-17b3
     17d7 17dc 1950-196d 1970-1974 1980-19ab 19b0-19c9 1a20-1a54 1aa7 a9e0-a9e4 a9e6-a9ef a9fa-a9fe
     aa60-aa76 aa7a aa7e-aaaf aab1 aab5-aab6 aab9-aabd aac0 aac2 aadb-aadd 11700-1171a 11740-11746"

/-- Modifiers and marks that count as letters of words. -/
def letterLike : CodeRanges :=
  .ofText
    "2c2-2c5 2d2-2d7 2de-2df 2e5-2eb 2ed 2ef-2ff 55a-55c 55e 58a 5f3 a708-a716 a720-a721 a789-a78a
     ab5b"

def wordExtend : CodeRanges :=
  .unionOf [graphemeExtend, ofCategories ["mc"], tabled "emojimodifier"]

/-- The kinds for the boundaries of words. -/
def wordBreak? (name : String) : Option CodeRanges :=
  match name with
  | "aletter" | "le" =>
      some ((alphabetic.difference (.unionOf [tabled "ideographic", (script? "hiragana").getD .none,
        wordExtend, katakanaLetters, hebrewLetters, unspacedLetters])).union letterLike)
  | "cr" => some (.ofChar '\r')
  | "lf" => some (.ofChar '\n')
  | "doublequote" | "dq" => some (.ofChar '"')
  | "singlequote" | "sq" => some (.ofChar '\'')
  | "extend" => some wordExtend
  | "extendnumlet" | "ex" => some (.ofText "5f 202f 203f-2040 2054 fe33-fe34 fe4d-fe4f ff3f")
  | "format" | "fo" =>
      some ((ofCategories ["cf"]).difference (.ofText "200b-200d e0020-e007f"))
  | "hebrewletter" | "hl" => some hebrewLetters
  | "katakana" | "ka" => some katakanaLetters
  | "midletter" | "ml" => some (.ofText "3a b7 387 55f 5f4 2027 fe13 fe55 ff1a")
  | "midnum" | "mn" =>
      some (.ofText "2c 3b 37e 589 60c-60d 66c 7f8 2044 fe10 fe14 fe50 fe54 ff0c ff1b")
  | "midnumlet" | "mb" => some (.ofText "2e 2018-2019 2024 fe52 ff07 ff0e")
  | "newline" | "nl" => some (.ofText "b-c 85 2028-2029")
  | "numeric" | "nu" => some (decimalDigits.union (.ofText "66b"))
  | "regionalindicator" | "ri" => some (tabled "regionalindicator")
  | "wsegspace" => some (.ofText "20 1680 2000-2006 2008-200a 205f 3000")
  | "zwj" => some (.ofChar '\u200d')
  | _ => none

/-! ## Sentences -/

def sentenceUpper : CodeRanges :=
  (uppercaseLetters.union (ofCategories ["lt"])).difference (.ofText "1c90-1cba 1cbd-1cbf")

def sentenceLower : CodeRanges :=
  lowercaseLetters.difference (.ofText "345 10d0-10fa 10fd-10ff")

def sentenceExtend : CodeRanges :=
  .unionOf [graphemeExtend, ofCategories ["mc"], .ofText "200d"]

/-- The kinds for the boundaries of sentences. -/
def sentenceBreak? (name : String) : Option CodeRanges :=
  match name with
  | "aterm" | "at" => some (.ofText "2e 2024 fe52 ff0e")
  | "close" | "cl" =>
      some (((ofCategories ["ps", "pe", "pi", "pf"]).union ((tabled "quotationmark").difference
        (.ofText "ff02 ff07"))).union (.ofText "275b-2760 2e00-2e01 2e06-2e08 2e0b 1f676-1f678"))
  | "cr" => some (.ofChar '\r')
  | "lf" => some (.ofChar '\n')
  | "extend" | "ex" => some sentenceExtend
  | "format" | "fo" =>
      some ((ofCategories ["cf"]).difference (.ofText "200c-200d e0020-e007f"))
  | "lower" | "lo" => some sentenceLower
  | "upper" | "up" => some sentenceUpper
  | "numeric" | "nu" => some (decimalDigits.union (.ofText "66b-66c"))
  | "oletter" | "le" =>
      some ((alphabetic.difference (.unionOf [sentenceUpper, sentenceLower, sentenceExtend])).union
        (.ofText "5f3"))
  | "scontinue" | "sc" =>
      some (.ofText "2c-2d 3a 55d 60c-60d 7f8 1802 1808 2013-2014 3001 fe10-fe11 fe13 fe31-fe32
        fe50-fe51 fe55 fe58 fe63 ff0c-ff0d ff1a ff64")
  | "sep" | "se" => some (.ofText "85 2028-2029")
  | "sp" => some (.ofText "9 b-c 20 a0 1680 2000-200a 202f 205f 3000")
  | "sterm" | "st" =>
      some ((tabled "sentenceterminal").difference (.ofText "2e 2024 fe52 ff0e"))
  | _ => none

end NodeForest.Text

import NodeForest.Text.CodeRanges

/-!
# Blanks

The blank characters separate tags in a text. They are the ASCII blanks, the next-line control and
the blanks of other scripts; the no-break space is one of them, a joiner of width zero is not.
-/

namespace NodeForest.Text

def blankRanges : CodeRanges :=
  .ofText "9-d 20 85 a0 1680 2000-200a 2028-2029 202f 205f 3000"

def isBlank (c : Char) : Bool :=
  blankRanges.holds c

/-- The maximal pieces of a text without blanks, in order. `piece` is read backwards. -/
def words (piece : List Char) : List Char → List String
  | [] => if piece.isEmpty then [] else [String.ofList piece.reverse]
  | c :: rest =>
      if isBlank c then
        if piece.isEmpty then words [] rest else String.ofList piece.reverse :: words [] rest
      else words (c :: piece) rest

def splitBlank (s : String) : List String :=
  words [] s.toList

example : splitBlank " a\u00a0b  c\u200bd " = ["a", "b", "c\u200bd"] := by decide +kernel

end NodeForest.Text

import NodeForest.Text.CodeRanges

/-!
# Classes of ASCII characters
-/

namespace NodeForest.Text.AsciiClass

def digit : CodeRanges := .ofText "30-39"

def word : CodeRanges := .ofText "30-39 41-5a 5f 61-7a"

def blank : CodeRanges := .ofText "9-d 20"

/-- The classes that have a name. -/
def named? (name : String) : Option CodeRanges :=
  match name with
  | "alnum" => some (.ofText "30-39 41-5a 61-7a")
  | "alpha" => some (.ofText "41-5a 61-7a")
  | "ascii" => some (.ofText "0-7f")
  | "blank" => some (.ofText "9 20")
  | "cntrl" => some (.ofText "0-1f 7f")
  | "digit" => some digit
  | "graph" => some (.ofText "21-7e")
  | "lower" => some (.ofText "61-7a")
  | "print" => some (.ofText "20-7e")
  | "punct" => some (.ofText "21-2f 3a-40 5b-60 7b-7e")
  | "space" => some blank
  | "upper" => some (.ofText "41-5a")
  | "word" => some word
  | "xdigit" => some (.ofText "30-39 41-46 61-66")
  | _ => none

end NodeForest.Text.AsciiClass

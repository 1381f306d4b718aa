import NodeForest.Text.PrintTable

/-!
# Quoted text for diagnosis

A text is shown between double quotes. Quotes and backslashes, the usual controls, and every
character that cannot be seen on its own are escaped, so that two different texts never look alike.
-/

namespace NodeForest.Text

/-- A code point in lowercase hexadecimal between braces. -/
def codeEscape (c : Char) : String :=
  "\\u\x7b" ++ String.ofList (Nat.toDigits 16 c.toNat) ++ "\x7d"

def quotedChar (c : Char) : String :=
  match c with
  | '\x00' => "\\0"
  | '\t' => "\\t"
  | '\r' => "\\r"
  | '\n' => "\\n"
  | '"' => "\\\""
  | '\\' => "\\\\"
  | c =>
      if extendingRanges.holds c || unprintableRanges.holds c then codeEscape c
      else String.singleton c

def quoted (s : String) : String :=
  "\"" ++ String.join (s.toList.map quotedChar) ++ "\""

end NodeForest.Text

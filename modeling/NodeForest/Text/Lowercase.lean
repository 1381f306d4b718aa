import NodeForest.Text.CaseTable

/-!
# Lowercase text

Every character has its own lowercase form but two: the dotted capital I becomes two characters,
and a capital sigma becomes a final sigma where a word ends, that is, after a cased character and
before none, the characters that case ignores being skipped on both sides.
-/

namespace NodeForest.Text

/-- The lowercase form of a character on its own. -/
def lowerChar (c : Char) : Char :=
  match lowerRuns.find? (·.sends c.toNat) with
  | some r => Char.ofNat (r.target c.toNat)
  | none => c

/-- The next character that case does not ignore is a cased one. -/
def startsCased (cs : List Char) : Bool :=
  match cs.dropWhile caseIgnorableRanges.holds with
  | [] => false
  | c :: _ => casedRanges.holds c

/-- `before` is the text already passed, nearest character first. -/
def lowerChars (before : List Char) : List Char → List Char
  | [] => []
  | c :: rest =>
      let lowered :=
        if c = 'İ' then ['i', '\u0307']
        else if c = 'Σ' then [if startsCased before && !startsCased rest then 'ς' else 'σ']
        else [lowerChar c]
      lowered ++ lowerChars (c :: before) rest

def lowercase (s : String) : String :=
  String.ofList (lowerChars [] s.toList)

end NodeForest.Text

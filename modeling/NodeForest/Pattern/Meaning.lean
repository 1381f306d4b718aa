import NodeForest.Pattern.Build
import NodeForest.Pattern.Phrase
import NodeForest.Text.Property.Lookup

/-!
# The meaning of phrases

Under the flags in force a phrase means a pattern, and leaves flags for what follows. Where ASCII
characters alone count, every set must consist of them: a property of all scripts, a negated set or
the dot would reach beyond, and a byte above the ASCII ones is no character.
-/

namespace NodeForest.Pattern

def beyondAscii {α : Type} : Read α :=
  .error "pattern can match beyond the ASCII characters"

/-- Negates a set where that is asked for. -/
def negateIf (f : Flags) (negated : Bool) (s : Text.CodeRanges) : Read Text.CodeRanges :=
  if !negated then .ok s
  else if f.allScripts then .ok s.complement
  else beyondAscii

def LetterSet.meaning (f : Flags) : LetterSet → Text.CodeRanges
  | digit => if f.allScripts then Text.decimalDigits else Text.AsciiClass.digit
  | blank => if f.allScripts then Text.blankRanges else Text.AsciiClass.blank
  | word => if f.allScripts then Text.wordCharacters else Text.AsciiClass.word

def SetOperator.apply : SetOperator → Text.CodeRanges → Text.CodeRanges → Text.CodeRanges
  | intersection => .intersection
  | difference => .difference
  | symmetricDifference => .symmetricDifference

/-- The meaning of a property, if there is one of this name. -/
def propertyMeaning (f : Flags) (negated : Bool) (found : Option Text.CodeRanges) :
    Read Text.CodeRanges :=
  match found with
  | some s => if f.allScripts then negateIf f negated (f.cased s) else beyondAscii
  | none => .error "unknown property"

/-- A character of a set; where ASCII characters alone count it must be one of them. -/
def Letter.inSet (f : Flags) (l : Letter) : Read Char :=
  if f.allScripts || l.char.toNat < 128 then .ok l.char else beyondAscii

mutual

/-- Case is disregarded before a set is negated, and on both sides of an operator. -/
def SetPhrase.meaning (f : Flags) : SetPhrase → Read Text.CodeRanges
  | .letter l => do return .ofChar (← l.inSet f)
  | .range first last => do return .between (← first.inSet f).toNat (← last.inSet f).toNat
  | .letterSet negated s => negateIf f negated (s.meaning f)
  | .asciiClass negated s => negateIf f negated (f.cased s)
  | .property negated name => propertyMeaning f negated (Text.namedSet? name)
  | .propertyValue negated name value => propertyMeaning f negated (Text.propertyValue? name value)
  | .union items => do return .unionOf (← SetPhrase.meanings f items)
  | .operation op left right => do
      return op.apply (f.cased (← left.meaning f)) (f.cased (← right.meaning f))
  | .brackets negated s => do negateIf f negated (f.cased (← s.meaning f))

def SetPhrase.meanings (f : Flags) : List SetPhrase → Read (List Text.CodeRanges)
  | [] => .ok []
  | s :: items => do return (← s.meaning f) :: (← SetPhrase.meanings f items)

end

def Letter.meaning (f : Flags) (l : Letter) : Read Pattern :=
  if !f.allScripts && l.isByte && 128 ≤ l.char.toNat then beyondAscii
  else .ok (ofSet (f.cased (.ofChar l.char)))

def Flags.dot (f : Flags) : Read Pattern :=
  if !f.allScripts then beyondAscii
  else if f.dotAll then .ok (chars .all)
  else if f.crlf then .ok (chars (Text.CodeRanges.ofString "\n\x0d").complement)
  else .ok (chars (Text.CodeRanges.ofChar '\n').complement)

def Place.meaning (f : Flags) : Place → Assertion
  | caret => if f.multiLine then .lineStart f.crlf else .textStart
  | dollar => if f.multiLine then .lineEnd f.crlf else .textEnd
  | textStart => .textStart
  | textEnd => .textEnd
  | wordBoundary => .wordBoundary f.allScripts
  | notWordBoundary => .notWordBoundary f.allScripts
  | wordStart => .wordStart f.allScripts
  | wordEnd => .wordEnd f.allScripts
  | wordStartHalf => .wordStartHalf f.allScripts
  | wordEndHalf => .wordEndHalf f.allScripts

mutual

/-- The pattern that a phrase means, and the flags in force after it. -/
def Phrase.meaning (f : Flags) : Phrase → Read (Pattern × Flags)
  | .empty => .ok (.empty, f)
  | .setFlags changes => .ok (.empty, f.assignAll changes)
  | .letter l => do return (← l.meaning f, f)
  | .dot => do return (← f.dot, f)
  | .place p => .ok (.assertion (p.meaning f), f)
  | .set s => do return (ofSet (← s.meaning f), f)
  | .repeated least most greedy p => do
      let (q, f) ← p.meaning f
      return (repeatOf least most (greedy != f.swapGreed) q, f)
  | .capture index p => do
      let (q, _) ← p.meaning f
      return (.capture index q, f)
  | .group changes p => do
      let (q, _) ← p.meaning (f.assignAll changes)
      return (q, f)
  | .sequence ps => do
      let (qs, f) ← Phrase.meanings f ps
      return (concat qs, f)
  | .alternatives ps => do
      let (qs, f) ← Phrase.meanings f ps
      return (choose qs, f)

def Phrase.meanings (f : Flags) : List Phrase → Read (List Pattern × Flags)
  | [] => .ok ([], f)
  | p :: ps => do
      let (q, f) ← p.meaning f
      let (qs, f) ← Phrase.meanings f ps
      return (q :: qs, f)

end

end NodeForest.Pattern

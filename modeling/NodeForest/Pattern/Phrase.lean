import NodeForest.Pattern.Flags

/-!
# Phrases

A pattern text says a phrase: a tree of what stands in the text, before any flag is applied. Phrases
within brackets say sets of characters. How deep phrases may be nested is limited.
-/

namespace NodeForest.Pattern

/-- Why a text is not a pattern. -/
abbrev ReadError := String

abbrev Read := Except ReadError

/-- A character. Where ASCII characters alone count, one that is written by exactly two hexadecimal
digits stands for a byte. -/
structure Letter where
  char : Char
  isByte : Bool := false
deriving DecidableEq, Repr, Inhabited

/-- The sets that are named by one letter. -/
inductive LetterSet where
  | digit
  | blank
  | word
deriving DecidableEq, Repr, Inhabited

inductive SetOperator where
  | intersection
  | difference
  | symmetricDifference
deriving DecidableEq, Repr, Inhabited

/-- A set of characters. -/
inductive SetPhrase where
  | letter (l : Letter)
  | range (first last : Letter)
  | letterSet (negated : Bool) (s : LetterSet)
  /-- A class of ASCII characters, named between colons. -/
  | asciiClass (negated : Bool) (s : Text.CodeRanges)
  /-- A property by one name. -/
  | property (negated : Bool) (name : String)
  /-- A property and a value of it. -/
  | propertyValue (negated : Bool) (name value : String)
  | union (items : List SetPhrase)
  | operation (op : SetOperator) (left right : SetPhrase)
  | brackets (negated : Bool) (s : SetPhrase)
deriving Repr, Inhabited

inductive Place where
  /-- The start and the end, of the text or of lines. -/
  | caret
  | dollar
  | textStart
  | textEnd
  | wordBoundary
  | notWordBoundary
  | wordStart
  | wordEnd
  | wordStartHalf
  | wordEndHalf
deriving DecidableEq, Repr, Inhabited

inductive Phrase where
  | empty
  | setFlags (changes : List (Flag × Bool))
  | letter (l : Letter)
  | dot
  | place (p : Place)
  | set (s : SetPhrase)
  | repeated (least : Nat) (most : Option Nat) (greedy : Bool) (p : Phrase)
  /-- A group that is counted. -/
  | capture (index : Nat) (p : Phrase)
  /-- A group with flags of its own. -/
  | group (changes : List (Flag × Bool)) (p : Phrase)
  | sequence (ps : List Phrase)
  | alternatives (ps : List Phrase)
deriving Repr, Inhabited

namespace SetPhrase

/-- The union of some sets; one set is its own union. -/
def unionOf : List SetPhrase → SetPhrase
  | [s] => s
  | items => union items

mutual

/-- How deep brackets, unions and operations are nested. -/
def depth : SetPhrase → Nat
  | union [] => 0
  | union (s :: items) => max s.depth (depthOfAll items) + 1
  | operation _ left right => max left.depth right.depth + 1
  | brackets _ s => s.depth + 1
  | _ => 0

def depthOfAll : List SetPhrase → Nat
  | [] => 0
  | s :: items => max s.depth (depthOfAll items)

end

end SetPhrase

namespace Phrase

/-- Phrases one after another; one phrase is its own sequence. -/
def sequenceOf : List Phrase → Phrase
  | [] => empty
  | [p] => p
  | ps => sequence ps

/-- A choice between phrases; one phrase is its own choice. -/
def alternativesOf : List Phrase → Phrase
  | [p] => p
  | ps => alternatives ps

mutual

/-- How deep brackets, repetitions, groups, sequences and alternatives are nested. -/
def depth : Phrase → Nat
  | set s => s.depth
  | repeated _ _ _ p => p.depth + 1
  | capture _ p => p.depth + 1
  | group _ p => p.depth + 1
  | sequence ps => depthOfAll ps + 1
  | alternatives ps => depthOfAll ps + 1
  | _ => 0

def depthOfAll : List Phrase → Nat
  | [] => 0
  | p :: ps => max p.depth (depthOfAll ps)

end

/-- How deep a pattern may be nested. -/
def depthLimit : Nat := 250

end Phrase

end NodeForest.Pattern

import NodeForest.Pattern.Phrase.Escape
import NodeForest.Text.AsciiClass

/-!
# Reading bracketed sets

A bracketed set lists characters, ranges and other sets, combines them by operators that all bind
alike from the left, and may be negated as a whole.
-/

namespace NodeForest.Pattern

/-- Reads one item of a bracketed set: a character, which may start a range, or a set. -/
def readItem (verbose : Bool) (cs : List Char) : Read ((Letter ⊕ SetPhrase) × List Char) :=
  match cs with
  | [] => .error "unclosed character class"
  | '\\' :: rest => do
      match ← readEscape verbose rest with
      | (.letter l, rest) => .ok (.inl l, rest)
      | (.set s, rest) => .ok (.inr s, rest)
      | (.place _, _) => .error "assertion in a character class"
  | c :: rest => .ok (.inl ⟨c, false⟩, rest)

def itemSet : Letter ⊕ SetPhrase → SetPhrase
  | .inl l => .letter l
  | .inr s => s

/-- The character that comes next in the text. In verbose patterns this is the first one that is no
blank, the first mark of a comment being passed over too; at the end it is the very next one. -/
def nextVisible (verbose : Bool) (cs : List Char) : Option Char :=
  if !verbose then cs.head?
  else
    match cs.dropWhile Text.isBlank with
    | '#' :: rest => (rest.dropWhile Text.isBlank).head? <|> cs.head?
    | rest => rest.head? <|> cs.head?

/-- Reads a character, a set, or a range of characters. A hyphen before a closing bracket or another
hyphen makes no range. -/
def readRange (verbose : Bool) (cs : List Char) : Read (SetPhrase × List Char) := do
  let (first, rest) ← readItem verbose cs
  match skip verbose rest with
  | [] => .error "unclosed character class"
  | '-' :: after =>
      if nextVisible verbose after = some ']' ∨ nextVisible verbose after = some '-' then
        .ok (itemSet first, '-' :: after)
      else
        let (last, rest) ← readItem verbose (skip verbose after)
        match first, last with
        | .inl a, .inl b =>
            if a.char ≤ b.char then .ok (.range a b, rest) else .error "invalid class range"
        | _, _ => .error "invalid class range"
  | rest => .ok (itemSet first, rest)

/-- A class named between colons, if the text goes on with one after its bracket. -/
def readNamedClass? (cs : List Char) : Option (SetPhrase × List Char) :=
  match cs with
  | ':' :: rest =>
      let (negated, rest) := match rest with
        | '^' :: rest => (true, rest)
        | rest => (false, rest)
      let name := rest.takeWhile (· != ':')
      match rest.drop name.length with
      | ':' :: ']' :: rest =>
          (Text.AsciiClass.named? (String.ofList name)).map fun s => (.asciiClass negated s, rest)
      | _ => none
  | _ => none

/-- Combines what stands before an operator with what stands after it. -/
def combineSets : Option (SetOperator × SetPhrase) → SetPhrase → SetPhrase
  | none, s => s
  | some (op, left), s => .operation op left s

/-- The hyphens that a set may start with, or a closing bracket in first place. -/
def readFirstItems (verbose : Bool) (cs : List Char) : List SetPhrase × List Char :=
  match takeSkipping verbose (· == '-') cs with
  | ([], ']' :: rest) => ([.letter ⟨']', false⟩], skip verbose rest)
  | (hyphens, rest) => (hyphens.map fun c => .letter ⟨c, false⟩, rest)

mutual

/-- Reads a set after its opening bracket. -/
def readBrackets (verbose : Bool) : Nat → List Char → Read (SetPhrase × List Char)
  | 0, _ => .error "unclosed character class"
  | fuel + 1, cs => do
      let (negated, cs) := match skip verbose cs with
        | '^' :: rest => (true, skip verbose rest)
        | cs => (false, cs)
      let (items, cs) := readFirstItems verbose cs
      let (s, rest) ← readItems verbose fuel none items.reverse cs
      .ok (.brackets negated s, rest)

/-- Reads the items of a set, after an operator with its left side, and after `items`, last first. -/
def readItems (verbose : Bool) :
    Nat → Option (SetOperator × SetPhrase) → List SetPhrase → List Char → Read (SetPhrase × List Char)
  | 0, _, _, _ => .error "unclosed character class"
  | fuel + 1, left, items, cs =>
      let before := combineSets left (.unionOf items.reverse)
      match skip verbose cs with
      | [] => .error "unclosed character class"
      | ']' :: rest => .ok (before, rest)
      | '&' :: '&' :: rest => readItems verbose fuel (some (.intersection, before)) [] rest
      | '-' :: '-' :: rest => readItems verbose fuel (some (.difference, before)) [] rest
      | '~' :: '~' :: rest => readItems verbose fuel (some (.symmetricDifference, before)) [] rest
      | '[' :: rest => do
          let (s, rest) ← match readNamedClass? rest with
            | some found => .ok found
            | none => readBrackets verbose fuel rest
          readItems verbose fuel left (s :: items) rest
      | cs => do
          let (s, rest) ← readRange verbose cs
          readItems verbose fuel left (s :: items) rest

end

end NodeForest.Pattern

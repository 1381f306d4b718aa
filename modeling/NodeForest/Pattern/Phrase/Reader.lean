import NodeForest.Pattern.Phrase.Brackets
import NodeForest.Text.Alphanumeric

/-!
# Reading phrases

The text form of patterns: alternatives, groups with names or flags, repetitions, bracketed sets,
escapes and assertions. What this grammar lacks (look-around, back-references) is refused, and so is
every text it cannot read to the end.
-/

namespace NodeForest.Pattern

/-! ## Counts -/

/-- A decimal number with blanks around it, if there is one. -/
def readCount (verbose : Bool) (cs : List Char) : Read (Option Nat × List Char) :=
  let (digits, rest) := takeSkipping verbose Char.isDigit (cs.dropWhile Text.isBlank)
  let (_, rest) := takeSkipping verbose Text.isBlank rest
  if digits.isEmpty then .ok (none, rest)
  else
    let n := digits.foldl (fun n c => 10 * n + (c.toNat - '0'.toNat)) 0
    if n < Nat.pow 2 32 then .ok (some n, rest) else .error "invalid count"

/-- Reads a counted repetition after its brace: the least and the greatest count. -/
def readCounts (verbose : Bool) (cs : List Char) : Read (Nat × Option Nat × List Char) := do
  let (least?, rest) ← readCount verbose (skip verbose cs)
  let close (least : Nat) (most : Option Nat) (rest : List Char) :
      Read (Nat × Option Nat × List Char) :=
    match rest with
    | '\x7d' :: rest =>
        if most.all (least ≤ ·) then .ok (least, most, rest) else .error "invalid repetition"
    | _ => .error "unclosed repetition"
  match least?, rest with
  | none, _ => .error "repetition without a count"
  | some least, ',' :: rest =>
      match skip verbose rest with
      | '\x7d' :: rest => close least none ('\x7d' :: rest)
      | rest => do
          match ← readCount verbose rest with
          | (some most, rest) => close least (some most) rest
          | (none, _) => .error "repetition without a count"
  | some least, rest => close least (some least) rest

/-! ## Groups -/

/-- Reads flags up to a colon or a closing parenthesis; the mark is given back with the rest. `seen`
holds the letters read, last first, and `value` what the next flag is set to. -/
def readFlags (seen : List Char) (value : Bool) :
    List Char → Read (List (Flag × Bool) × Char × List Char)
  | [] => .error "unclosed group"
  | c :: rest =>
      if c = ':' ∨ c = ')' then
        if seen.head? = some '-' then .error "dangling flag negation"
        else if c = ')' ∧ seen.isEmpty then .error "repetition without a subject"
        else .ok ([], c, rest)
      else if seen.contains c then .error "repeated flag"
      else if c = '-' then readFlags (c :: seen) false rest
      else match Flag.ofLetter? c with
        | some flag =>
            (readFlags (c :: seen) value rest).map fun (changes, mark, rest) =>
              ((flag, value) :: changes, mark, rest)
        | none => .error "unrecognized flag"

/-- A group's name starts with a letter or an underscore. -/
def isNameStart (c : Char) : Bool :=
  c == '_' || Text.isLetter c

def isNameChar (c : Char) : Bool :=
  Text.isLetterOrNumber c || ['_', '.', '[', ']'].contains c

/-- Reads the name of a group up to its bracket. -/
def readGroupName (names : List String) (cs : List Char) : Read (String × List Char) :=
  let chars := cs.takeWhile (· != '>')
  let name := String.ofList chars
  match cs.drop chars.length, chars with
  | [], _ => .error "unclosed group name"
  | _, [] => .error "empty group name"
  | _ :: rest, c :: others =>
      if !isNameStart c || !others.all isNameChar then .error "invalid group name"
      else if names.contains name then .error "duplicate group name"
      else .ok (name, rest)

/-- How a group begins. -/
inductive GroupStart where
  | capture
  | named (name : String)
  | flagged (changes : List (Flag × Bool))
  /-- Flags for what follows in the enclosing group; there is no group. -/
  | setFlags (changes : List (Flag × Bool))
deriving Repr, Inhabited

/-- Reads what follows an opening parenthesis. -/
def readGroupStart (verbose : Bool) (names : List String) (cs : List Char) :
    Read (GroupStart × List Char) :=
  match skip verbose cs with
  | '?' :: '=' :: _ | '?' :: '!' :: _ | '?' :: '<' :: '=' :: _ | '?' :: '<' :: '!' :: _ =>
      .error "look-around is not supported"
  | '?' :: 'P' :: '<' :: rest | '?' :: '<' :: rest =>
      (readGroupName names rest).map fun (name, rest) => (.named name, rest)
  | '?' :: rest => do
      match ← readFlags [] true rest with
      | (changes, ')', rest) => .ok (.setFlags changes, rest)
      | (changes, _, rest) => .ok (.flagged changes, rest)
  | rest => .ok (.capture, rest)

/-- What the flags make of `verbose`. -/
def verboseAfter (verbose : Bool) (changes : List (Flag × Bool)) : Bool :=
  (({ verbose : Flags }).assignAll changes).verbose

/-! ## Phrases -/

/-- What a reader knows of the text before: whether blanks and comments are skipped, how many groups
are counted, and the names used. -/
structure Known where
  verbose : Bool := false
  captures : Nat := 0
  names : List String := []

/-- Repeats the last of the phrases read. Flags cannot be repeated. -/
def repeatLast (least : Nat) (most : Option Nat) (greedy : Bool) :
    List Phrase → Read (List Phrase)
  | [] | .setFlags _ :: _ => .error "repetition without a subject"
  | p :: ps => .ok (.repeated least most greedy p :: ps)

/-- The mark that makes a repetition prefer short matches, right after it. -/
def readLazy : List Char → Bool × List Char
  | '?' :: rest => (false, rest)
  | rest => (true, rest)

/-- The phrase that an escape stands for. -/
def Escape.toPhrase : Escape → Phrase
  | letter l => .letter l
  | set s => .set s
  | place p => .place p

mutual

/-- Reads alternatives up to a closing parenthesis or the end. -/
def readAlternatives : Nat → Known → List Char → Read (List Phrase × Known × List Char)
  | 0, _, _ => .error "pattern too deep"
  | fuel + 1, k, cs => do
      let (ps, k, rest) ← readSequence fuel k [] cs
      let p := Phrase.sequenceOf ps.reverse
      match rest with
      | '|' :: rest => do
          let (others, k, rest) ← readAlternatives fuel k rest
          .ok (p :: others, k, rest)
      | rest => .ok ([p], k, rest)

/-- Reads a sequence up to a bar, a closing parenthesis or the end, after the phrases `ps`, last
first, in which order they are given back too. -/
def readSequence : Nat → Known → List Phrase → List Char → Read (List Phrase × Known × List Char)
  | 0, _, _, _ => .error "pattern too deep"
  | fuel + 1, k, ps, cs =>
      match skip k.verbose cs with
      | [] => .ok (ps, k, [])
      | ')' :: rest => .ok (ps, k, ')' :: rest)
      | '|' :: rest => .ok (ps, k, '|' :: rest)
      | '(' :: rest => do
          match ← readGroupStart k.verbose k.names rest with
          | (.setFlags changes, rest) =>
              let verbose := verboseAfter k.verbose changes
              readSequence fuel { k with verbose } (.setFlags changes :: ps) rest
          | (.flagged changes, rest) =>
              let verbose := verboseAfter k.verbose changes
              let (p, inner, rest) ← readGroup fuel { k with verbose } rest
              readSequence fuel { inner with verbose := k.verbose } (.group changes p :: ps) rest
          | (start, rest) =>
              let names := match start with
                | .named name => name :: k.names
                | _ => k.names
              let index := k.captures + 1
              let (p, inner, rest) ← readGroup fuel { k with captures := index, names } rest
              readSequence fuel { inner with verbose := k.verbose } (.capture index p :: ps) rest
      | '[' :: rest => do
          let (s, rest) ← readBrackets k.verbose fuel rest
          readSequence fuel k (.set s :: ps) rest
      | '?' :: rest => do
          let (greedy, rest) := readLazy rest
          readSequence fuel k (← repeatLast 0 (some 1) greedy ps) rest
      | '*' :: rest => do
          let (greedy, rest) := readLazy rest
          readSequence fuel k (← repeatLast 0 none greedy ps) rest
      | '+' :: rest => do
          let (greedy, rest) := readLazy rest
          readSequence fuel k (← repeatLast 1 none greedy ps) rest
      | '\x7b' :: rest => do
          let (least, most, rest) ← readCounts k.verbose rest
          let (greedy, rest) := readLazy (skip k.verbose rest)
          readSequence fuel k (← repeatLast least most greedy ps) rest
      | '\\' :: rest => do
          let (escape, rest) ← readEscape k.verbose rest
          readSequence fuel k (escape.toPhrase :: ps) rest
      | '.' :: rest => readSequence fuel k (.dot :: ps) rest
      | '^' :: rest => readSequence fuel k (.place .caret :: ps) rest
      | '$' :: rest => readSequence fuel k (.place .dollar :: ps) rest
      | c :: rest => readSequence fuel k (.letter ⟨c, false⟩ :: ps) rest

/-- Reads the inside of a group and its closing parenthesis. -/
def readGroup : Nat → Known → List Char → Read (Phrase × Known × List Char)
  | 0, _, _ => .error "pattern too deep"
  | fuel + 1, k, cs => do
      let (ps, k, rest) ← readAlternatives fuel k cs
      match rest with
      | ')' :: rest => .ok (Phrase.alternativesOf ps, k, rest)
      | _ => .error "unclosed group"

end

/-- Reads a whole text as a phrase. Every step but three for each group takes a character. -/
def Phrase.read (s : String) : Read Phrase := do
  let cs := s.toList
  match ← readAlternatives (4 * cs.length + 4) {} cs with
  | (ps, _, []) =>
      let p := alternativesOf ps
      if p.depth ≤ depthLimit then .ok p else .error "pattern nested too deep"
  | _ => .error "unopened group"

end NodeForest.Pattern

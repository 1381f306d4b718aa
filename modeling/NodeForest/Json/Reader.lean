import NodeForest.Json.Basic
import NodeForest.Text.Hexadecimal

/-!
# Reading JSON

The strict form: no comments, no trailing commas, no leading zeros, one value and nothing but blanks
around it.
-/

namespace NodeForest

namespace Json

def isSpace (c : Char) : Bool :=
  c == ' ' || c == '\n' || c == '\t' || c == '\r'

def skipSpace (cs : List Char) : List Char :=
  cs.dropWhile isSpace

/-- A number: an optional minus, digits without a leading zero, and an optional fraction and
power of ten. The token is the text of the number. -/
def readNumber? (cs : List Char) : Option (String × List Char) := do
  let afterSign := match cs with
    | '-' :: rest => rest
    | cs => cs
  let whole := afterSign.takeWhile Char.isDigit
  if whole.isEmpty ∨ (whole.head? = some '0' ∧ 1 < whole.length) then none
  else
    let rest := afterSign.drop whole.length
    let rest ← match rest with
      | '.' :: rest =>
          let part := rest.takeWhile Char.isDigit
          if part.isEmpty then none else some (rest.drop part.length)
      | rest => some rest
    let rest ← match rest with
      | c :: after =>
          if c = 'e' ∨ c = 'E' then
            let digits := match after with
              | '+' :: after => after
              | '-' :: after => after
              | after => after
            let power := digits.takeWhile Char.isDigit
            if power.isEmpty then none else some (digits.drop power.length)
          else some rest
      | [] => some []
    return (String.ofList (cs.take (cs.length - rest.length)), rest)

/-- The character that a letter after a backslash stands for. -/
def simpleEscape? (c : Char) : Option Char :=
  match c with
  | '"' => some '"'
  | '\\' => some '\\'
  | '/' => some '/'
  | 'b' => some '\x08'
  | 'f' => some '\x0c'
  | 'n' => some '\n'
  | 'r' => some '\r'
  | 't' => some '\t'
  | _ => none

/-- What a text is made of. -/
inductive TextPart where
  | char (c : Char)
  /-- A code unit, which may be half a character. -/
  | unit (u : Nat)
deriving DecidableEq, Repr

/-- Reads a text after its opening quote. -/
def readParts : List Char → Option (List TextPart × List Char)
  | '"' :: rest => some ([], rest)
  | '\\' :: 'u' :: a :: b :: c :: d :: rest => do
      let u ← Text.hexNumber? [a, b, c, d]
      let (parts, rest) ← readParts rest
      return (.unit u :: parts, rest)
  | '\\' :: c :: rest => do
      let c ← simpleEscape? c
      let (parts, rest) ← readParts rest
      return (.char c :: parts, rest)
  | c :: rest =>
      if c.toNat < 32 ∨ c = '\\' then none
      else do
        let (parts, rest) ← readParts rest
        return (.char c :: parts, rest)
  | [] => none

def isFirstHalf (u : Nat) : Bool :=
  0xd800 ≤ u && u < 0xdc00

def isSecondHalf (u : Nat) : Bool :=
  0xdc00 ≤ u && u < 0xe000

/-- The characters of the parts, if every half stands beside its other half. -/
def charsOfParts? : List TextPart → Option (List Char)
  | [] => some []
  | .char c :: parts => (charsOfParts? parts).map (c :: ·)
  | .unit u :: .unit v :: parts =>
      if isFirstHalf u && isSecondHalf v then
        (charsOfParts? parts).map (Char.ofNat (0x10000 + (u - 0xd800) * 0x400 + (v - 0xdc00)) :: ·)
      else if isFirstHalf u || isSecondHalf u then none
      else (charsOfParts? (.unit v :: parts)).map (Char.ofNat u :: ·)
  | .unit u :: parts =>
      if isFirstHalf u || isSecondHalf u then none
      else (charsOfParts? parts).map (Char.ofNat u :: ·)

def textOfParts? (parts : List TextPart) : Option String :=
  (charsOfParts? parts).map String.ofList

/-- The object with these members, if every key is a whole text. -/
def objectOf (members : List (Option String × Json)) : Json :=
  match members.mapM fun (key, v) => key.map fun key => (key, v) with
  | some members => .object members
  | none => .broken

mutual

/-- Reads a value; blanks before it are skipped. -/
def readValue : Nat → List Char → Option (Json × List Char)
  | 0, _ => none
  | fuel + 1, cs =>
      match skipSpace cs with
      | 'n' :: 'u' :: 'l' :: 'l' :: rest => some (.null, rest)
      | 't' :: 'r' :: 'u' :: 'e' :: rest => some (.bool true, rest)
      | 'f' :: 'a' :: 'l' :: 's' :: 'e' :: rest => some (.bool false, rest)
      | '"' :: rest => do
          let (parts, rest) ← readParts rest
          return (((textOfParts? parts).map Json.text).getD .broken, rest)
      | '[' :: rest =>
          match skipSpace rest with
          | ']' :: rest => some (.array [], rest)
          | rest => do
              let (items, rest) ← readItems fuel rest
              return (.array items, rest)
      | '\x7b' :: rest =>
          match skipSpace rest with
          | '\x7d' :: rest => some (.object [], rest)
          | rest => do
              let (members, rest) ← readMembers fuel rest
              return (objectOf members, rest)
      | cs => (readNumber? cs).map fun (token, rest) => (.number token, rest)

/-- Reads the items of an array up to its closing bracket. -/
def readItems : Nat → List Char → Option (List Json × List Char)
  | 0, _ => none
  | fuel + 1, cs => do
      let (v, rest) ← readValue fuel cs
      match skipSpace rest with
      | ']' :: rest => return ([v], rest)
      | ',' :: rest => do
          let (vs, rest) ← readItems fuel rest
          return (v :: vs, rest)
      | _ => none

/-- Reads the members of an object up to its closing brace. -/
def readMembers : Nat → List Char → Option (List (Option String × Json) × List Char)
  | 0, _ => none
  | fuel + 1, cs =>
      match skipSpace cs with
      | '"' :: rest => do
          let (parts, rest) ← readParts rest
          let key := textOfParts? parts
          match skipSpace rest with
          | ':' :: rest => do
              let (v, rest) ← readValue fuel rest
              match skipSpace rest with
              | '\x7d' :: rest => return ([(key, v)], rest)
              | ',' :: rest => do
                  let (members, rest) ← readMembers fuel rest
                  return ((key, v) :: members, rest)
              | _ => none
          | _ => none
      | _ => none

end

/-- Reads a whole text. Every level of nesting takes a character. -/
def read? (s : String) : Option Json := do
  let cs := s.toList
  let (v, rest) ← readValue (2 * cs.length + 2) cs
  if (skipSpace rest).isEmpty then some v else none

end Json

end NodeForest

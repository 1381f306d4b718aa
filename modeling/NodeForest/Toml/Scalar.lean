import NodeForest.Number.Literal
import NodeForest.Text.Hexadecimal
import NodeForest.Toml.Basic

/-!
# Scalars of TOML

A bare token is a truth value, an integer in one of four bases, a float, or a date or time. Digits
may be separated by single underscores.
-/

namespace NodeForest

namespace Toml

/-- Removes underscores, each of which must stand between two digits of the given kind. -/
def plainDigits? (isDigit : Char → Bool) : List Char → Option (List Char)
  | [] => none
  | [c] => if isDigit c then some [c] else none
  | c :: '_' :: rest =>
      if isDigit c ∧ rest.head?.any isDigit then (plainDigits? isDigit rest).map (c :: ·) else none
  | c :: rest => if isDigit c then (plainDigits? isDigit rest).map (c :: ·) else none

/-- A digit in a base of at most sixteen. -/
def isBaseDigit (base : Nat) (c : Char) : Bool :=
  (Text.hexDigit? c).any (· < base)

/-- A number in a base, after its mark. -/
def inBase? (base : Nat) (cs : List Char) : Option Int := do
  let digits ← plainDigits? (isBaseDigit base) cs
  return (digits.foldl (fun n c => base * n + (Text.hexDigit? c).getD 0) 0 : Nat)

/-- Decimal digits without a leading zero. -/
def wholeDigits? (cs : List Char) : Option (List Char) :=
  (plainDigits? Char.isDigit cs).filter fun digits =>
    digits.length = 1 ∨ digits.head? ≠ some '0'

def integer? (cs : List Char) : Option Int :=
  match cs with
  | '0' :: 'x' :: rest => inBase? 16 rest
  | '0' :: 'o' :: rest => inBase? 8 rest
  | '0' :: 'b' :: rest => inBase? 2 rest
  | cs =>
      let (negative, digits) := NumberLiteral.sign cs
      (wholeDigits? digits).map fun digits =>
        let n : Int := NumberLiteral.ofDigits digits
        if negative then -n else n

/-- The token is a float: a whole number with a fraction, a power of ten, or both. -/
def isFloat (cs : List Char) : Bool :=
  let (_, cs) := NumberLiteral.sign cs
  if cs = ['i', 'n', 'f'] ∨ cs = ['n', 'a', 'n'] then true
  else
    let inDigits (c : Char) := c.isDigit || c == '_'
    let whole := cs.takeWhile inDigits
    let rest := cs.drop whole.length
    let isPower (cs : List Char) : Bool :=
      match cs with
      | c :: rest => (c == 'e' || c == 'E') &&
          (plainDigits? Char.isDigit (NumberLiteral.sign rest).2).isSome
      | [] => false
    (wholeDigits? whole).isSome &&
      match rest with
      | '.' :: rest =>
          let part := rest.takeWhile inDigits
          let rest := rest.drop part.length
          (plainDigits? Char.isDigit part).isSome && (rest.isEmpty || isPower rest)
      | rest => isPower rest

/-- The digits of a float, if it has any, spell a number within the range of doubles. -/
def isFiniteFloat (cs : List Char) : Bool :=
  match NumberLiteral.read? (String.ofList (cs.filter (· != '_'))) with
  | some (.decimal negative digits exponent) =>
      ((NumberLiteral.decimal negative digits exponent).round .ofRatio).magnitude != .infinite
  | _ => true

/-! ## Dates and times -/

/-- The number that exactly `n` leading digits spell. -/
def fixedDigits? (n : Nat) (cs : List Char) : Option (Nat × List Char) :=
  let digits := cs.take n
  if digits.length = n ∧ digits.all Char.isDigit then
    some (NumberLiteral.ofDigits digits, cs.drop n)
  else none

def expect (c : Char) : List Char → Option (List Char)
  | x :: rest => if x = c then some rest else none
  | [] => none

def daysIn (year month : Nat) : Nat :=
  if month = 2 then
    if year % 4 = 0 ∧ (year % 100 ≠ 0 ∨ year % 400 = 0) then 29 else 28
  else if month = 4 ∨ month = 6 ∨ month = 9 ∨ month = 11 then 30
  else 31

/-- Takes a date that exists from the front. -/
def takeDate? (cs : List Char) : Option (List Char) := do
  let (year, cs) ← fixedDigits? 4 cs
  let (month, cs) ← fixedDigits? 2 (← expect '-' cs)
  let (day, cs) ← fixedDigits? 2 (← expect '-' cs)
  if 1 ≤ month ∧ month ≤ 12 ∧ 1 ≤ day ∧ day ≤ daysIn year month then some cs else none

/-- Takes a time of day from the front; seconds and their fraction may be missing. -/
def takeTime? (cs : List Char) : Option (List Char) := do
  let (hour, cs) ← fixedDigits? 2 cs
  let (minute, cs) ← fixedDigits? 2 (← expect ':' cs)
  if hour ≤ 23 ∧ minute ≤ 59 then
    match cs with
    | ':' :: cs => do
        let (second, cs) ← fixedDigits? 2 cs
        if 60 < second then none
        else match cs with
          | '.' :: cs =>
              let fraction := cs.takeWhile Char.isDigit
              if fraction.isEmpty then none else some (cs.drop fraction.length)
          | cs => some cs
    | cs => some cs
  else none

/-- The rest is nothing or an offset from universal time. -/
def isOffset (cs : List Char) : Bool :=
  match cs with
  | [] => true
  | [c] => c == 'Z' || c == 'z'
  | c :: rest =>
      (c == '+' || c == '-') &&
        match (do
          let (hour, rest) ← fixedDigits? 2 rest
          let (minute, rest) ← fixedDigits? 2 (← expect ':' rest)
          return (hour, minute, rest)) with
        | some (hour, minute, rest) => hour ≤ 23 && minute ≤ 59 && rest.isEmpty
        | none => false

def isDatetime (cs : List Char) : Bool :=
  match takeDate? cs with
  | some [] => true
  | some (c :: rest) =>
      (c == 'T' || c == 't' || c == ' ') && (takeTime? rest).any isOffset
  | none => takeTime? cs == some []

/-- The value of a bare token. -/
def scalar? (cs : List Char) : Option Toml :=
  if cs = ['t', 'r', 'u', 'e'] then some (.bool true)
  else if cs = ['f', 'a', 'l', 's', 'e'] then some (.bool false)
  else match integer? cs with
    | some i => some (.integer i)
    | none =>
        if isFloat cs then some (.float (isFiniteFloat cs))
        else if isDatetime cs then some .datetime else none

end Toml

end NodeForest

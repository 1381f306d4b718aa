import NodeForest.Number.Binary64

/-!
# Number literals

A literal is an optional sign followed by `inf`, `infinity` or `nan` in any case, or by decimal
digits with an optional point and an optional power of ten; at least one digit must stand beside
the point. The double of a literal is the one nearest to its exact value.
-/

namespace NodeForest

/-- What a number literal denotes. -/
inductive NumberLiteral where
  | nan (negative : Bool)
  | infinite (negative : Bool)
  /-- The decimal `digits * 10 ^ exponent`. -/
  | decimal (negative : Bool) (digits : Nat) (exponent : Int)
deriving DecidableEq, Repr

namespace NumberLiteral

def digitValue (c : Char) : Nat :=
  c.toNat - '0'.toNat

/-- The number that a list of decimal digits spells. -/
def ofDigits (digits : List Char) : Nat :=
  digits.foldl (fun n c => 10 * n + digitValue c) 0

/-- Splits a leading sign off; `true` for a minus. -/
def sign : List Char → Bool × List Char
  | '-' :: rest => (true, rest)
  | '+' :: rest => (false, rest)
  | rest => (false, rest)

/-- The power of ten after the digits: nothing, or `e` and a signed number. -/
def power? : List Char → Option Int
  | [] => some 0
  | c :: rest =>
      if c = 'e' ∨ c = 'E' then
        let (negative, digits) := sign rest
        if digits.isEmpty ∨ digits.any (!·.isDigit) then none
        else
          let n : Int := ofDigits digits
          some (if negative then -n else n)
      else none

/-- Reads the part after the sign. -/
def unsigned? (negative : Bool) (cs : List Char) : Option NumberLiteral :=
  let word := String.ofList (cs.map Char.toLower)
  if word = "inf" ∨ word = "infinity" then some (.infinite negative)
  else if word = "nan" then some (.nan negative)
  else
    let whole := cs.takeWhile Char.isDigit
    let rest := cs.dropWhile Char.isDigit
    let (part, rest) := match rest with
      | '.' :: rest => (rest.takeWhile Char.isDigit, rest.dropWhile Char.isDigit)
      | rest => ([], rest)
    if whole.isEmpty ∧ part.isEmpty then none
    else do
      let power ← power? rest
      some (.decimal negative (ofDigits (whole ++ part)) (power - part.length))

def read? (s : String) : Option NumberLiteral :=
  let (negative, rest) := sign s.toList
  unsigned? negative rest

/-- Beyond these powers of ten every double, and every single-precision number, is infinite or
zero, whatever the digits. -/
def farPower : Int := 400

/-- The number nearest to the literal, by a rounding function for quotients. -/
def round (nearest : Bool → Nat → Nat → Binary64) : NumberLiteral → Binary64
  | .nan negative => .nan negative
  | .infinite negative => .infinity negative
  | .decimal negative digits exponent =>
      let power := exponent + (Nat.toDigits 10 digits).length
      if digits = 0 ∨ power < -farPower then .zero negative
      else if farPower < power then .infinity negative
      else if 0 ≤ exponent then nearest negative (digits * Nat.pow 10 exponent.toNat) 1
      else nearest negative digits (Nat.pow 10 (-exponent).toNat)

end NumberLiteral

/-- The double that a literal spells. -/
def Binary64.read? (s : String) : Option Binary64 :=
  (NumberLiteral.read? s).map (·.round .ofRatio)

/-- The single-precision number that a literal spells, as a double. -/
def Binary64.readSingle? (s : String) : Option Binary64 :=
  (NumberLiteral.read? s).map (·.round .ofRatioSingle)

example : (Binary64.read? "-1.5e1").map (·.bits) = some 0xc02e000000000000 := by decide +kernel
example : Binary64.read? "." = none := by decide +kernel
example : (Binary64.readSingle? "0.1").map (·.bits) = some 0x3fb99999a0000000 := by decide +kernel

end NodeForest

/-!
# Double-precision words

A floating-point number is held as its 64-bit word, so that equality of words is the identity that
records need: a not-a-number equals itself and the two zeros differ. The cache of constants compares
words to which zero has been added.

All arithmetic is exact arithmetic on natural numbers. `BinaryFormat.round` takes a positive
rational to the nearest number of a format, a half going to the even neighbour; the words of
integers, of decimal literals and of widened single-precision numbers are built from it. Powers are
written `Nat.pow`, which is the same operation whatever algebra is in scope.
-/

namespace NodeForest

/-- The word of an IEEE 754 double. -/
structure Binary64 where
  bits : UInt64
deriving DecidableEq, Repr, Inhabited

/-- A binary format: a finite number is `m * 2 ^ e` with `m < 2 ^ precision` and
`minExp ≤ e ≤ maxExp`. -/
structure BinaryFormat where
  precision : Nat
  minExp : Int
  maxExp : Int

namespace BinaryFormat

def double : BinaryFormat := ⟨53, -1074, 971⟩

def single : BinaryFormat := ⟨24, -149, 104⟩

end BinaryFormat

/-- The integer nearest to `num / den`; a half goes to the even one. -/
def roundDiv (num den : Nat) : Nat :=
  let low := num / den
  let rest := num % den
  if 2 * rest < den then low
  else if 2 * rest = den then low + low % 2
  else low + 1

/-- The quotient `num / den` measured in units of `2 ^ e`, again as a quotient. -/
def inUnits (num den : Nat) (e : Int) : Nat × Nat :=
  if 0 ≤ e then (num, den * Nat.pow 2 e.toNat) else (num * Nat.pow 2 (-e).toNat, den)

/-- The number `(m, e)` of the format nearest to `num / den`, or `none` beyond its range. -/
def BinaryFormat.round (f : BinaryFormat) (num den : Nat) : Option (Nat × Int) :=
  if num = 0 then some (0, f.minExp)
  else
    -- The quotient is between `2 ^ (guess + precision - 2)` and `2 ^ (guess + precision)`.
    let guess : Int := (num.log2 : Int) - den.log2 - (f.precision - 1)
    let scaled := inUnits num den guess
    let exact := if scaled.1 / scaled.2 < Nat.pow 2 (f.precision - 1) then guess - 1 else guess
    let e := max exact f.minExp
    let scaled := inUnits num den e
    let m := roundDiv scaled.1 scaled.2
    let (m, e) := if m = Nat.pow 2 f.precision then (Nat.pow 2 (f.precision - 1), e + 1) else (m, e)
    if f.maxExp < e then none else some (m, e)

/-- What a word stands for, its sign aside. -/
inductive Magnitude where
  | nan
  | infinite
  /-- The number `m * 2 ^ e`. -/
  | finite (m : Nat) (e : Int)
deriving DecidableEq, Repr

namespace Binary64

def isNegative (x : Binary64) : Bool :=
  Nat.pow 2 63 ≤ x.bits.toNat

def exponentField (x : Binary64) : Nat :=
  x.bits.toNat / Nat.pow 2 52 % Nat.pow 2 11

def fraction (x : Binary64) : Nat :=
  x.bits.toNat % Nat.pow 2 52

def magnitude (x : Binary64) : Magnitude :=
  if x.exponentField = 2047 then
    if x.fraction = 0 then .infinite else .nan
  else if x.exponentField = 0 then .finite x.fraction (-1074)
  else .finite (Nat.pow 2 52 + x.fraction) (x.exponentField - 1075)

/-- The word with the given sign, exponent field and fraction. -/
def ofFields (negative : Bool) (exponent fraction : Nat) : Binary64 :=
  ⟨UInt64.ofNat ((if negative then Nat.pow 2 63 else 0) + exponent * Nat.pow 2 52 + fraction)⟩

def infinity (negative : Bool) : Binary64 :=
  ofFields negative 2047 0

def nan (negative : Bool) : Binary64 :=
  ofFields negative 2047 (Nat.pow 2 51)

def zero (negative : Bool) : Binary64 :=
  ofFields negative 0 0

/-- The word of `m * 2 ^ e`, for a pair that `BinaryFormat.round` gives. -/
def ofParts (negative : Bool) (m : Nat) (e : Int) : Binary64 :=
  ofFields negative (if m < Nat.pow 2 52 then 0 else (e + 1075).toNat) (m % Nat.pow 2 52)

/-- The double nearest to `num / den`, infinite beyond the range. -/
def ofRatio (negative : Bool) (num den : Nat) : Binary64 :=
  match BinaryFormat.double.round num den with
  | some (m, e) => ofParts negative m e
  | none => infinity negative

/-- The double nearest to an integer. -/
def ofInt (i : Int) : Binary64 :=
  ofRatio (i < 0) i.natAbs 1

/-- The double equal to the single-precision number nearest to `num / den`. -/
def ofRatioSingle (negative : Bool) (num den : Nat) : Binary64 :=
  match BinaryFormat.single.round num den with
  | some (m, e) =>
      if 0 ≤ e then ofRatio negative (m * Nat.pow 2 e.toNat) 1
      else ofRatio negative m (Nat.pow 2 (-e).toNat)
  | none => infinity negative

/-- A signalling not-a-number becomes the quiet one with its sign and payload, as in arithmetic;
every other word is kept. -/
def quiet (x : Binary64) : Binary64 :=
  if x.magnitude = .nan ∧ x.fraction < Nat.pow 2 51 then
    ofFields x.isNegative 2047 (Nat.pow 2 51 + x.fraction)
  else x

/-- The sum with zero: negative zero becomes zero, and a signalling not-a-number a quiet one. -/
def canonical (x : Binary64) : Binary64 :=
  if x = zero true then zero false else x.quiet

end Binary64

example : Binary64.canonical ⟨0xfff0000000000001⟩ = ⟨0xfff8000000000001⟩ := by decide
example : (Binary64.ofInt 1).bits = 0x3ff0000000000000 := by decide
example : (Binary64.ofInt (-9007199254740993)).bits = 0xc340000000000000 := by decide

end NodeForest

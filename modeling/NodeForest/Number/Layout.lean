import NodeForest.Number.Shortest

/-!
# Number text

The text of a double is its shortest decimal in one of two layouts. Near one it is positional,
with at least one digit after the point; elsewhere it is one digit, the rest as a fraction, and
the power of ten. A `NumberStyle` says where the positional range starts and how the rest is
written; the range always ends at `10 ^ 16`.
-/

namespace NodeForest

/-- How doubles are written. -/
structure NumberStyle where
  /-- The least power of ten that is still written positionally. -/
  positionalFrom : Int
  /-- A positive power of ten carries a plus sign. -/
  plusOnExponent : Bool
  tie : Tie

namespace NumberStyle

/-- The style of messages, names and record texts: positional from `0.0001`, a tie goes up. -/
def message : NumberStyle := ⟨-4, false, .up⟩

/-- The style of structured output: positional from `0.00001`, a tie goes to the even digit. -/
def structured : NumberStyle := ⟨-5, true, .even⟩

end NumberStyle

namespace Decimal

def zeros (n : Nat) : String :=
  String.ofList (List.replicate n '0')

/-- The first `n` digits, a point, and the others. -/
def pointAfter (n : Nat) (digits : List Char) : String :=
  String.ofList (digits.take n) ++ "." ++ String.ofList (digits.drop n)

/-- The text of a decimal without sign. -/
def text (style : NumberStyle) (d : Decimal) : String :=
  let digits := Nat.toDigits 10 d.digits
  let power : Int := d.exponent + digits.length - 1
  if d.digits = 0 then "0.0"
  else if style.positionalFrom ≤ power ∧ power < 16 then
    if 0 ≤ d.exponent then String.ofList digits ++ zeros d.exponent.toNat ++ ".0"
    else if 0 ≤ power then pointAfter (power.toNat + 1) digits
    else "0." ++ zeros (-power - 1).toNat ++ String.ofList digits
  else
    let leading := if digits.length = 1 then String.ofList digits else pointAfter 1 digits
    leading ++ "e" ++ (if style.plusOnExponent ∧ 0 < power then "+" else "") ++ toString power

end Decimal

namespace Binary64

/-- The text of a double without its sign. -/
def unsignedText (style : NumberStyle) (x : Binary64) : String :=
  match x.magnitude with
  | .nan => "NaN"
  | .infinite => "inf"
  | .finite m e => (Decimal.shortest style.tie m e).text style

/-- The text of a double. A not-a-number shows no sign. -/
def text (style : NumberStyle) (x : Binary64) : String :=
  (if x.isNegative ∧ x.magnitude ≠ .nan then "-" else "") ++ x.unsignedText style

/-- The text of a double with a sign in front also when it is positive. -/
def signedText (style : NumberStyle) (x : Binary64) : String :=
  if x.magnitude = .nan then x.unsignedText style
  else (if x.isNegative then "-" else "+") ++ x.unsignedText style

end Binary64

example : (Binary64.ofRatio false 3 20).text .message = "0.15" := by decide +kernel
example : (Binary64.ofRatio true 1 20000).text .message = "-5e-5" := by decide +kernel
example : (Binary64.ofRatio true 1 20000).text .structured = "-0.00005" := by decide +kernel
example : (Binary64.ofInt (10 ^ 16)).text .structured = "1e+16" := by decide +kernel
example : (Binary64.ofInt (10 ^ 15)).text .message = "1000000000000000.0" := by decide +kernel

end NodeForest

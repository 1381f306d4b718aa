import NodeForest.Number.Binary64

/-!
# Shortest decimals

`shortest` finds the decimal with the fewest digits that reads back as a given double, and of
those the one nearest to it. It tries one digit, then two, and so on; on each grid only the two
neighbours of the number can be nearest, and if any point of the grid reads back, one of them does.
-/

namespace NodeForest

/-- The decimal `digits * 10 ^ exponent`. -/
structure Decimal where
  digits : Nat
  exponent : Int
deriving DecidableEq, Repr

/-- Which neighbour is taken at the same distance from both. -/
inductive Tie where
  | up
  | even
deriving DecidableEq, Repr

namespace Decimal

/-- The same decimal without zeros at the end of its digits. -/
def trim (digits : Nat) (exponent : Int) : Decimal :=
  if h : digits ≠ 0 ∧ digits % 10 = 0 then trim (digits / 10) (exponent + 1)
  else ⟨digits, exponent⟩
termination_by digits
decreasing_by omega

/-- The number of decimal digits of `n`. -/
def width (n : Nat) : Nat :=
  (Nat.toDigits 10 n).length

/-- The `e` with `10 ^ (e - 1) ≤ num / den < 10 ^ e`, for a positive quotient. -/
def magnitudeOf (num den : Nat) : Int :=
  if den ≤ num then width (num / den)
  else
    let j := width (den / num)
    if den ≤ num * Nat.pow 10 (j - 1) then 2 - (j : Int) else 1 - (j : Int)

/-- The reals that round to one double, in units of a quarter of its last place: the double is
`4 * m` units, and its bounds belong to it exactly when `m` is even. -/
structure Cell where
  low : Nat
  value : Nat
  high : Nat
  closed : Bool
  /-- The unit, as a quotient. -/
  unitNum : Nat
  unitDen : Nat

/-- The cell of `m * 2 ^ e`. Below a power of two the numbers lie twice as close. -/
def Cell.of (m : Nat) (e : Int) : Cell :=
  let crowded := m = Nat.pow 2 52 ∧ -1074 < e
  let unit := inUnits 1 1 (2 - e)
  { low := 4 * m - (if crowded then 1 else 2)
    value := 4 * m
    high := 4 * m + 2
    closed := m % 2 = 0
    unitNum := unit.1
    unitDen := unit.2 }

/-- The unit of the grid `10 ^ k`, as a quotient of the cell's units. -/
def Cell.grid (c : Cell) (k : Int) : Nat × Nat :=
  if 0 ≤ k then (Nat.pow 10 k.toNat * c.unitDen, c.unitNum)
  else (c.unitDen, c.unitNum * Nat.pow 10 (-k).toNat)

/-- The grid point number `n` lies in the cell. -/
def Cell.holds (c : Cell) (k : Int) (n : Nat) : Bool :=
  let (num, den) := c.grid k
  if c.closed then c.low * den ≤ n * num && n * num ≤ c.high * den
  else c.low * den < n * num && n * num < c.high * den

/-- The point of the grid `10 ^ k` nearest to the double, if one of its two neighbours reads back. -/
def Cell.nearest? (c : Cell) (tie : Tie) (k : Int) : Option Nat :=
  let (num, den) := c.grid k
  let below := c.value * den / num
  match c.holds k below, c.holds k (below + 1) with
  | true, true =>
      let gap := c.value * den - below * num
      if 2 * gap < num then some below
      else if 2 * gap = num then
        match tie with
        | .up => some (below + 1)
        | .even => some (below + below % 2)
      else some (below + 1)
  | true, false => some below
  | false, true => some (below + 1)
  | false, false => none

/-- The shortest decimal that reads back as `m * 2 ^ e`, nearest among those of its length.
Seventeen digits always suffice. -/
def shortest (tie : Tie) (m : Nat) (e : Int) : Decimal :=
  if m = 0 then ⟨0, 0⟩
  else
    let c := Cell.of m e
    let top := magnitudeOf (c.value * c.unitNum) c.unitDen
    let found := (List.range 17).findSome? fun n =>
      let k := top - (n + 1 : Nat)
      (c.nearest? tie k).map (trim · k)
    found.getD ⟨0, 0⟩

end Decimal

end NodeForest

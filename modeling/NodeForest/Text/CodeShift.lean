import NodeForest.Text.CodeRanges

/-!
# Shifted code points

Mappings of characters, such as those between cases, are lists of runs: a run sends every `step`-th
code point from `first` to `last` to the one that is `shift` further.
-/

namespace NodeForest.Text

structure CodeShift where
  first : Nat
  last : Nat
  step : Nat
  shift : Int
deriving DecidableEq, Repr, Inhabited

namespace CodeShift

def sends (r : CodeShift) (n : Nat) : Bool :=
  r.first ≤ n && n ≤ r.last && (n - r.first) % r.step == 0

/-- Where a code point of the run is sent. -/
def target (r : CodeShift) (n : Nat) : Nat :=
  (n + r.shift).toNat

/-- The code points of the run from `first` to `last`. -/
def within (r : CodeShift) (first last : Nat) : List (Nat × Nat) :=
  let start := max first r.first
  let stop := min last r.last
  if stop < start then []
  else if r.step = 1 then [(start, stop)]
  else ((List.range (stop + 1 - start)).map (start + ·)).filterMap fun n =>
    if r.sends n then some (n, n) else none

/-- Where the run sends the code points of some ranges. -/
def images (r : CodeShift) (ranges : List (Nat × Nat)) : List (Nat × Nat) :=
  (ranges.flatMap fun (first, last) => r.within first last).map fun (first, last) =>
    (r.target first, r.target last)

/-- The run that sends everything back. -/
def inverse (r : CodeShift) : CodeShift :=
  ⟨r.target r.first, r.target r.last, r.step, -r.shift⟩

end CodeShift

end NodeForest.Text

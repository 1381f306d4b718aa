import NodeForest.Text.Hexadecimal

/-!
# Ranges of code points

A set of characters is a list of closed ranges of code points, in increasing order and apart from
one another. The surrogate code points are no characters: every set leaves them out.
-/

namespace NodeForest.Text

structure CodeRanges where
  ranges : List (Nat × Nat)
deriving DecidableEq, Repr, Inhabited

def surrogates : Nat × Nat := (0xd800, 0xdfff)

def lastCode : Nat := 0x10ffff

namespace CodeRanges

def holds (s : CodeRanges) (c : Char) : Bool :=
  s.ranges.any fun (first, last) => first ≤ c.toNat && c.toNat ≤ last

def none : CodeRanges := ⟨[]⟩

def all : CodeRanges := ⟨[(0, 0xd7ff), (0xe000, lastCode)]⟩

def isEmpty (s : CodeRanges) : Bool :=
  s.ranges.isEmpty

/-- The code points in the set. -/
def size (s : CodeRanges) : Nat :=
  s.ranges.foldl (fun n (first, last) => n + (last + 1 - first)) 0

/-- The set has no character beyond the ASCII ones. -/
def isAscii (s : CodeRanges) : Bool :=
  s.ranges.all fun (_, last) => last < 128

/-! ## Set operations -/

/-- Puts a range in front of others that start no earlier, joining those that overlap or touch. -/
def joinAfter (first last : Nat) : List (Nat × Nat) → List (Nat × Nat)
  | [] => [(first, last)]
  | (a, b) :: rest =>
      if a ≤ last + 1 then joinAfter first (max last b) rest
      else (first, last) :: joinAfter a b rest

/-- The set with these ranges, which come in increasing order of their first code points. -/
def ofSorted : List (Nat × Nat) → CodeRanges
  | [] => none
  | (first, last) :: rest => ⟨joinAfter first last rest⟩

/-- Merges ranges in increasing order into one list in increasing order. -/
def merge : List (Nat × Nat) → List (Nat × Nat) → List (Nat × Nat)
  | [], others => others
  | r :: rest, others => insert r (fun others => merge rest others) others
where
  /-- Puts `r` where it belongs; `mergeRest` takes care of what comes after it. -/
  insert (r : Nat × Nat) (mergeRest : List (Nat × Nat) → List (Nat × Nat)) :
      List (Nat × Nat) → List (Nat × Nat)
    | [] => r :: mergeRest []
    | q :: others =>
        if r.1 ≤ q.1 then r :: mergeRest (q :: others) else q :: insert r mergeRest others

/-- The set with these ranges, in any order. -/
def ofList (ranges : List (Nat × Nat)) : CodeRanges :=
  ofSorted (ranges.mergeSort fun r s => r.1 ≤ s.1)

def union (s t : CodeRanges) : CodeRanges :=
  ofSorted (merge s.ranges t.ranges)

def unionOf (sets : List CodeRanges) : CodeRanges :=
  sets.foldl union none

/-- What lies between the ranges, from a code point on. -/
def gaps (start : Nat) : List (Nat × Nat) → List (Nat × Nat)
  | [] => if start ≤ lastCode then [(start, lastCode)] else []
  | (first, last) :: rest =>
      if start < first then (start, first - 1) :: gaps (last + 1) rest else gaps (last + 1) rest

def complement (s : CodeRanges) : CodeRanges :=
  ⟨gaps 0 (s.union ⟨[surrogates]⟩).ranges⟩

def intersection (s t : CodeRanges) : CodeRanges :=
  (s.complement.union t.complement).complement

def difference (s t : CodeRanges) : CodeRanges :=
  (s.complement.union t).complement

def symmetricDifference (s t : CodeRanges) : CodeRanges :=
  (s.union t).difference (s.intersection t)

/-! ## Ranges and texts -/

/-- The characters from `first` to `last`. -/
def between (first last : Nat) : CodeRanges :=
  difference ⟨[(first, last)]⟩ ⟨[surrogates]⟩

def ofChar (c : Char) : CodeRanges :=
  ⟨[(c.toNat, c.toNat)]⟩

/-- The characters of a text. -/
def ofString (s : String) : CodeRanges :=
  unionOf (s.toList.map ofChar)

/-- The ranges of one entry of a table: a code point, two ends, or two ends and a step. -/
def ofEntry : List Nat → List (Nat × Nat)
  | [n] => [(n, n)]
  | [first, last] => [(first, last)]
  | [first, last, step] =>
      (List.range ((last - first) / step + 1)).map fun i => (first + i * step, first + i * step)
  | _ => []

/-- Reads the entries of a table, after the numbers `before` of the entry under way and the digits
of `number`. -/
def readEntries (before : List Nat) (number : Option Nat) : List Char → List (Nat × Nat)
  | [] => ofEntry (before ++ number.toList)
  | c :: rest =>
      match hexDigit? c with
      | some d => readEntries before (some (16 * number.getD 0 + d)) rest
      | .none =>
          if c = '-' ∨ c = '/' then readEntries (before ++ number.toList) .none rest
          else ofEntry (before ++ number.toList) ++ readEntries [] .none rest

/-- The set that a table writes down in hexadecimal and in increasing order: single code points as
`5f`, ranges as `61-7a`, and every second code point of a range as `100-12e/2`. -/
def ofText (table : String) : CodeRanges :=
  ⟨readEntries [] .none table.toList⟩

example : ofText "41-5a 5f\n 100-104/2" =
    ⟨[(0x41, 0x5a), (0x5f, 0x5f), (0x100, 0x100), (0x102, 0x102), (0x104, 0x104)]⟩ := by
  decide +kernel

example : (ofText "0-40 50-d7ff").complement = ofText "41-4f e000-10ffff" := by decide +kernel

end CodeRanges

end NodeForest.Text

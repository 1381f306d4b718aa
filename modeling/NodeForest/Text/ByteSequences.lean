import NodeForest.Text.CodeRanges

/-!
# Sets of characters as sequences of bytes

A range of code points is a list of sequences of byte ranges: a character lies in the range exactly
when its bytes lie, one by one, in the ranges of one of the sequences.
-/

namespace NodeForest.Text

abbrev ByteRange := Nat × Nat

/-- The bytes that encode a code point. -/
def utf8Bytes (n : Nat) : List Nat :=
  if n < 0x80 then [n]
  else if n < 0x800 then [0xc0 + n / 0x40, 0x80 + n % 0x40]
  else if n < 0x10000 then [0xe0 + n / 0x1000, 0x80 + n / 0x40 % 0x40, 0x80 + n % 0x40]
  else [0xf0 + n / 0x40000, 0x80 + n / 0x1000 % 0x40, 0x80 + n / 0x40 % 0x40, 0x80 + n % 0x40]

/-- Where a range must be cut because its characters have bytes of different number: the last code
point of the first part. -/
def lengthCut? (first last : Nat) : Option Nat :=
  [0x7f, 0x7ff, 0xffff].find? fun n => first ≤ n && n < last

/-- Where a range must be cut because its last bytes do not take all values: the blocks of code
points that share their first bytes have 64, 4096 or 262144 members. -/
def blockCut? (first last : Nat) : Option Nat :=
  [0x40, 0x1000, 0x40000].findSome? fun block =>
    if first / block = last / block then none
    else if first % block ≠ 0 then some (first / block * block + block - 1)
    else if last % block ≠ block - 1 then some (last / block * block - 1)
    else none

/-- The sequences of a range, in increasing order. -/
def byteSequences (first last : Nat) : List (List ByteRange) :=
  let cut? :=
    lengthCut? first last <|> (if last < 0x80 then none else blockCut? first last)
  match cut? with
  | none => [(utf8Bytes first).zip (utf8Bytes last)]
  | some cut =>
      if _inside : first ≤ cut ∧ cut < last then
        byteSequences first cut ++ byteSequences (cut + 1) last
      else []
termination_by last - first

/-- The sequences of a set, in increasing order. -/
def CodeRanges.byteSequences (s : CodeRanges) : List (List ByteRange) :=
  s.ranges.flatMap fun (first, last) => Text.byteSequences first last

end NodeForest.Text

import NodeForest.Pattern.Basic

/-!
# Building patterns

Patterns are built in a normal form: sequences and choices are flat and without needless parts,
neighbouring literals are one literal, and a choice between sets is a set.
-/

namespace NodeForest.Pattern

/-- The pattern of one character of a set. -/
def ofSet (s : Text.CodeRanges) : Pattern :=
  match s.ranges with
  | [(first, last)] => if first = last then literal [Char.ofNat first] else chars s
  | _ => chars s

/-- The least number of characters in a match; none where nothing may match. -/
def minLength? : Pattern → Option Nat
  | empty | assertion _ => some 0
  | literal cs => some cs.length
  | chars s => if s.isEmpty then none else some 1
  | seq p q => do return (← p.minLength?) + (← q.minLength?)
  | alt p q => do return min (← p.minLength?) (← q.minLength?)
  | repeated least _ _ p => p.minLength?.map (least * ·)
  | capture _ p => p.minLength?

/-- All matches are empty. -/
def isZeroWidth : Pattern → Bool
  | empty | assertion _ => true
  | literal _ | chars _ => false
  | seq p q | alt p q => p.isZeroWidth && q.isZeroWidth
  | repeated _ most _ p => most.any fun n => n == 0 || p.isZeroWidth
  | capture _ p => p.isZeroWidth

/-! ## Sequences -/

/-- The parts of a sequence, in order. -/
def parts : Pattern → List Pattern
  | empty => []
  | seq p q => p.parts ++ q.parts
  | p => [p]

/-- Puts a part in front of others. -/
def consPart : Pattern → List Pattern → List Pattern
  | literal cs, literal ds :: rest => literal (cs ++ ds) :: rest
  | p, rest => p :: rest

def seqOf : List Pattern → Pattern
  | [] => empty
  | [p] => p
  | p :: ps => seq p (seqOf ps)

/-- Some patterns one after another. -/
def concat (ps : List Pattern) : Pattern :=
  seqOf ((ps.flatMap parts).foldr consPart [])

/-! ## Choices -/

/-- The patterns that a choice is between, in order. -/
def choices : Pattern → List Pattern
  | alt p q => p.choices ++ q.choices
  | p => [p]

def altOf : List Pattern → Pattern
  | [] => chars .none
  | [p] => p
  | p :: ps => alt p (altOf ps)

def singleSet? : Pattern → Option Text.CodeRanges
  | literal [c] => some (.ofChar c)
  | _ => none

def set? : Pattern → Option Text.CodeRanges
  | chars s => some s
  | _ => none

/-- The set that a choice is from, where each of the patterns is a character or each is a set. -/
def commonSet? (ps : List Pattern) : Option Text.CodeRanges :=
  ((ps.mapM singleSet?) <|> (ps.mapM set?)).map .unionOf

/-- How many parts all of some sequences begin with. -/
def commonLength : List (List Pattern) → Nat
  | [] => 0
  | ps :: others =>
      others.foldl (fun n qs => min n ((ps.zip qs).takeWhile fun (p, q) => p = q).length) ps.length

/-- How many parts the patterns share in front; none where one of them is no sequence. -/
def sharedParts (ps : List Pattern) : Nat :=
  let lists := ps.map parts
  if lists.all (1 < ·.length) then commonLength lists else 0

/-- A choice between some patterns. What sequences share in front is taken out of the choice, at
most `depth` times over. -/
def choice (depth : Nat) (ps : List Pattern) : Pattern :=
  match ps.flatMap choices with
  | [] => chars .none
  | [p] => p
  | p :: others =>
      let all := p :: others
      match commonSet? all, sharedParts all, depth with
      | some s, _, _ => ofSet s
      | none, shared + 1, depth + 1 =>
          let tails := all.map fun q => concat (q.parts.drop (shared + 1))
          concat (p.parts.take (shared + 1) ++ [choice depth tails])
      | none, _, _ => altOf all

/-- The number of parts of a pattern, counted with theirs. -/
def size : Pattern → Nat
  | seq p q | alt p q => p.size + q.size + 1
  | repeated _ _ _ p | capture _ p => p.size + 1
  | _ => 1

/-- A choice between some patterns. Each time that shared parts are taken out, the first tail is a
smaller pattern than the first pattern was. -/
def choose (ps : List Pattern) : Pattern :=
  choice (ps.foldr (fun p n => p.size + n) 0) ps

/-! ## Repetitions -/

/-- A repeated pattern. What takes no characters is repeated once at most. -/
def repeatOf (least : Nat) (most : Option Nat) (greedy : Bool) (p : Pattern) : Pattern :=
  let (least, most) :=
    if p.isZeroWidth then (min least 1, some (min (most.getD 1) 1)) else (least, most)
  if most = some 0 then empty
  else if least = 1 ∧ most = some 1 then p
  else repeated least most greedy p

end NodeForest.Pattern

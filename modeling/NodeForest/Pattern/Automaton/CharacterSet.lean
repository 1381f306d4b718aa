import NodeForest.Pattern.Automaton.Size
import Std.Data.TreeMap

/-!
# Automata of sets of characters

The automaton of a set shares states: one that reads forwards shares what sequences of bytes have in
common in front and, as far as it remembers them, equal states behind; one that reads backwards
shares what sequences have in common in front, again as far as it remembers. States are remembered
in a table with one place for each hash, where a later state drives out an earlier one.
-/

namespace NodeForest.Pattern

/-- A byte range with the number of the state it leads to. -/
abbrev Transition := Text.ByteRange × Nat

/-- Remembered states: what they hold and their numbers, by hash. -/
abbrev Remembered (α : Type) := Std.TreeMap Nat (α × Nat)

/-- Mixes numbers into a hash. -/
def mix (h : UInt64) (numbers : List Nat) : UInt64 :=
  numbers.foldl (fun h n => (h ^^^ n.toUInt64) * 1099511628211) h

def hashStart : UInt64 := 14695981039346656037

/-- The state that is remembered for the key, or else the one that `add` adds. -/
def remember {α : Type} [BEq α] (slot : Nat) (key : α) (add : Growing Nat) :
    StateT (Remembered α) (StateT Growth Option) Nat := fun memory => do
  match memory[slot]? with
  | some (known, state) => if known == key then return (state, memory)
  | none => pure ()
  let state ← add
  return (state, memory.insert slot (key, state))

/-! ## Forwards -/

def nodeSlot (node : List Transition) : Nat :=
  (node.foldl (fun h (range, next) => mix h [range.1, range.2, next]) hashStart).toNat % 10000

/-- The sequences that go on after each first byte range; those with the same one are together. -/
def groupFirst : List (List Text.ByteRange) → List (Text.ByteRange × List (List Text.ByteRange))
  | [] => []
  | [] :: rest => groupFirst rest
  | (first :: more) :: rest =>
      match groupFirst rest with
      | (range, tails) :: groups =>
          if range = first then (range, (more :: tails)) :: groups
          else (first, [more]) :: (range, tails) :: groups
      | [] => [(first, [more])]

/-- Adds the states that read any of the sequences, of at most `length` bytes, and lead to `target`;
the number of the first one is the result. -/
def addForward (target : Nat) :
    Nat → List (List Text.ByteRange) →
      StateT (Remembered (List Transition)) (StateT Growth Option) Nat
  | 0, _ => pure target
  | length + 1, sequences => do
      let node ← (groupFirst sequences).mapM fun (range, tails) => do
        if tails.all List.isEmpty then return (range, target)
        else return (range, ← addForward target length tails)
      remember (nodeSlot node) node (addState (node.length * transitionSize))

/-! ## Backwards -/

/-- Adds states that read the ranges of a sequence backwards, each leading to the one before it. -/
def addBackward (next : Nat) :
    List Text.ByteRange →
      StateT (Remembered (Nat × Text.ByteRange)) (StateT Growth Option) Nat
  | [] => pure next
  | range :: rest => do
      let slot := (mix hashStart [next, range.1, range.2]).toNat % 1000
      addBackward (← remember slot (next, range) (addState 0)) rest

/-- Adds the sequences to a branching state that reads any of them backwards. -/
def addAllBackward (target : Nat) :
    List (List Text.ByteRange) →
      StateT (Remembered (Nat × Text.ByteRange)) (StateT Growth Option) Unit
  | [] => pure ()
  | s :: rest => do
      let _ ← addBackward target s
      StateT.lift (addBranches 1)
      addAllBackward target rest

/-! ## Sets -/

/-- Adds the states that read one character of a set. -/
def addSet (backwards : Bool) (s : Text.CodeRanges) : Growing Branches := do
  if s.isAscii then
    let _ ← addState 0
    let _ ← addState (s.ranges.length * transitionSize)
  else if backwards then
    let _ ← addState 0
    let target ← addState 0
    let _ ← (addAllBackward target s.byteSequences).run ∅
  else
    let target ← addState 0
    let _ ← (addForward target 4 s.byteSequences).run ∅
  return false

end NodeForest.Pattern

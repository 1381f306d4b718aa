import NodeForest.Pattern.Automaton.Size
import NodeForest.Text.ByteSequences

/-!
# Automata of literals

A choice between literals is a tree of bytes. A node of the tree tells apart the bytes that come
next. Where a literal ends at a node, the literals after it start a new chunk of the node, so that
earlier literals stay preferred.
-/

namespace NodeForest.Pattern

/-- The bytes of a literal, in the order they are read. -/
def literalBytes (backwards : Bool) (cs : List Char) : List Nat :=
  let bytes := cs.flatMap fun c => Text.utf8Bytes c.toNat
  if backwards then bytes.reverse else bytes

/-- Splits where a literal ends. -/
def splitAtEnds : List (List Nat) → List (List (List Nat))
  | [] => [[]]
  | [] :: rest => [] :: splitAtEnds rest
  | bytes :: rest =>
      match splitAtEnds rest with
      | chunk :: chunks => (bytes :: chunk) :: chunks
      | [] => [[bytes]]

/-- The chunks of a node. Before any byte is told apart, a second end changes nothing. -/
def chunksOf : List (List Nat) → List (List (List Nat))
  | [] :: rest => splitAtEnds ([] :: rest.dropWhile List.isEmpty)
  | literals => splitAtEnds literals

/-- What is left of the literals that start with this byte. -/
def tailsAfter (byte : Nat) (literals : List (List Nat)) : List (List Nat) :=
  literals.filterMap fun bytes => if bytes.head? = some byte then some bytes.tail else none

/-- Adds the states of a node, for literals of at most `length` bytes. -/
def addNode : Nat → List (List Nat) → Growing Unit
  | 0, _ => pure ()
  | length + 1, literals => do
      let chunks := chunksOf literals
      for chunk in chunks do
        let bytes := (chunk.filterMap List.head?).eraseDups
        for byte in bytes do
          let tails := tailsAfter byte chunk
          if !tails.all List.isEmpty then addNode length tails
        if bytes.length = 1 then
          let _ ← addState 0
        else if 1 < bytes.length then
          let _ ← addState (bytes.length * transitionSize)
      let told := (chunks.filter fun chunk => !chunk.isEmpty).length
      let _ ← addState ((told + chunks.length - 1) * branchSize)

/-- Adds the states of a choice between literals. -/
def addLiterals (literals : List (List Nat)) : Growing Branches := do
  let _ ← addState 0
  addNode ((literals.map List.length).foldl max 0) literals
  return false

end NodeForest.Pattern

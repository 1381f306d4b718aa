/-!
# Source locations

The place in a tree script that an operation was called from. Locations are passed explicitly; they
appear in messages and descriptions and decide nothing about the graph.
-/

namespace NodeForest

structure Location where
  file : String
  line : Nat
  column : Nat
deriving DecidableEq, Repr, Inhabited

namespace Location

def render (l : Location) : String :=
  l.file ++ ":" ++ toString l.line ++ ":" ++ toString l.column

/-- The pieces of a path between slashes, empty pieces and single dots left out. -/
def pathParts (piece : List Char) : List Char → List String
  | [] => keep piece
  | c :: rest => if c = '/' then keep piece ++ pathParts [] rest else pathParts (c :: piece) rest
where
  keep (piece : List Char) : List String :=
    if piece.isEmpty ∨ piece = ['.'] then [] else [String.ofList piece.reverse]

/-- The last piece of the file's path; the whole path when it has none or ends in the parent. -/
def fileName (l : Location) : String :=
  match (pathParts [] l.file.toList).getLast? with
  | some ".." | none => l.file
  | some name => name

def sameLine (a b : Location) : Bool :=
  a.file == b.file && a.line == b.line

end Location

example : (⟨"src/./trees.rs/", 1, 5⟩ : Location).fileName = "trees.rs" := by decide +kernel
example : (⟨"d/..", 1, 5⟩ : Location).fileName = "d/.." := by decide +kernel

end NodeForest

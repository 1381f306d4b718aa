import NodeForest.Value

/-!
# Constants

A number given where a node is expected stands for a constant node. Constants are shared by value:
two constants are the same when their keys are, where a key is the constant with zero added to its
parts. This takes negative zeros to zeros, and makes signalling not-a-numbers quiet. A real number
never equals a complex one.
-/

namespace NodeForest

/-- The number of a constant node. -/
inductive Constant where
  | real (x : Binary64)
  | complex (re im : Binary64)
deriving DecidableEq, Repr

namespace Constant

/-- The identity under which the node of a constant is shared. -/
def key : Constant → Constant
  | .real x => .real x.canonical
  | .complex re im => .complex re.canonical im.canonical

def same (a b : Constant) : Bool :=
  a.key == b.key

def render : Constant → String
  | .real x => x.text .message
  | .complex re im => complexText re im

/-- The value that the node of a constant holds. -/
def toValue : Constant → Value
  | .real x => .float x
  | .complex re im => .complex re im

end Constant

example : Constant.same (.real (.zero true)) (.real (.zero false)) = true := by decide

end NodeForest

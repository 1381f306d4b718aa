import NodeForest.Definition.Basic

/-!
# Arithmetic on children

Operators applied to children are shorthand for definitions of the arithmetic classes.
-/

namespace NodeForest

inductive BinaryOperator where
  | add | subtract | multiply | divide | modulo | power
deriving DecidableEq, Repr

inductive UnaryOperator where
  | negate | abs
deriving DecidableEq, Repr

def BinaryOperator.className : BinaryOperator → String
  | .add => "Add"
  | .subtract => "Subtract"
  | .multiply => "Multiply"
  | .divide => "Divide"
  | .modulo => "FMod"
  | .power => "Pow"

def UnaryOperator.className : UnaryOperator → String
  | .negate => "Negate"
  | .abs => "Abs"

namespace Definition

/-- The definition of a standard class with the given children and no fields. -/
def ofOperands (className : String) (operands : List Child) : Definition :=
  ofParts (.standard className) (.positional operands) .nil []

def binary (op : BinaryOperator) (a b : Child) : Definition :=
  ofOperands op.className [a, b]

def unary (op : UnaryOperator) (a : Child) : Definition :=
  ofOperands op.className [a]

end Definition

end NodeForest

import NodeForest.Definition.Arithmetic
import NodeForest.Definition.BuildError

/-!
# Expressions

The expressions of a tree script. They name nodes by the variables that hold them, and they may hold
a construction that has failed, whose error goes where the definition would have gone.
-/

namespace NodeForest.Script

mutual

/-- An expression for a child. -/
inductive ChildExpr where
  | empty
  | constant (value : Constant)
  | name (name : String)
  /-- The node of a handle variable. -/
  | handle (variableName : String)
  /-- A node of the repository that the script works on. -/
  | node (id : NodeId)
  /-- A node of some other repository, which is empty. -/
  | foreign (id : NodeId)
  | definition (d : DefinitionExpr)
  | constantDefinition (value : Constant)
  | failed (error : BuildError)
  /-- A factory that gives the bare definition of a standard class. -/
  | classFactory (className : String)
  /-- A child wrapped in factories, so many of them. -/
  | wrapped (count : Nat) (child : ChildExpr)
  /-- A child under definitions of one class with one child each, so many of them. -/
  | nested (count : Nat) (className : String) (child : ChildExpr)
  /-- A factory that binds an argument in the scope of a variable. -/
  | binder (scope : String) (argument : ChildExpr) (location : Location)
  /-- A factory that asks whether the node of a handle variable is bound. -/
  | choice (handle : String) (yes no : ChildExpr)
  | binary (op : BinaryOperator) (a b : ChildExpr)
  | unary (op : UnaryOperator) (a : ChildExpr)

/-- An expression for a list of children. -/
inductive ListExpr where
  | positional (children : List ChildExpr)
  | keyed (children : List (String × ChildExpr))
  /-- The children of the node of a handle variable. -/
  | childrenOf (handle : String)
  /-- The step-children of the node of a handle variable. -/
  | stepsOf (handle : String)
  | push (list : ListExpr) (children : List ChildExpr)
  /-- A list that is taken as it is. -/
  | resolved (entries : List (Label × ChildExpr)) (keyed : Bool)

/-- A call on a builder. -/
inductive CallExpr where
  | child (child : ChildExpr)
  | children (list : ListExpr)
  | keyedChild (key : String) (child : ChildExpr)
  | step (child : ChildExpr)
  | steps (list : ListExpr)
  | field (key : String) (value : Value)
  | tags (value : Value)
  | groups (value : Value)

/-- An expression for a definition. -/
inductive DefinitionExpr where
  | bare (nodeClass : NodeClass)
  | built (nodeClass : NodeClass) (location : Location) (calls : List CallExpr)

end

instance : Inhabited ChildExpr := ⟨.empty⟩

end NodeForest.Script

import NodeForest.Definition.Builder
import NodeForest.Script.Expression
import NodeForest.Workspace.Handle

/-!
# Evaluating expressions

Expressions are evaluated from left to right. A construction that fails makes the whole expression
fail, except where a builder takes the child: the builder keeps the error as the outcome of its
definition. Evaluation numbers factories and other repositories, and changes nothing else.
-/

namespace NodeForest.Script

/-- What the variables of a script stand for. -/
structure Variables where
  scopes : OrderedMap String ScopeRef := []
  handles : OrderedMap String Handle := []

/-- Why an expression has no value. -/
inductive EvaluationError where
  | construction (error : BuildError)
  | unknownVariable (name : String)
deriving DecidableEq, Repr

abbrev Evaluation := ExceptT EvaluationError (StateM Workspace)

namespace Variables

def handle (vars : Variables) (name : String) : Except EvaluationError Handle :=
  match OrderedMap.get? vars.handles name with
  | some h => .ok h
  | none => .error (.unknownVariable name)

def scope (vars : Variables) (name : String) : Except EvaluationError ScopeRef :=
  match OrderedMap.get? vars.scopes name with
  | some s => .ok s
  | none => .error (.unknownVariable name)

end Variables

/-- Wraps a child in new factories. -/
def wrap : Nat → Child → Evaluation Child
  | 0, c => return c
  | n + 1, c => do
      let id ← modifyGet Workspace.freshFactory
      wrap n (.factory id (.give c))

/-- Puts a child under definitions of a standard class. -/
def nest (className : String) : Nat → Child → Child
  | 0, c => c
  | n + 1, c => nest className n (.pending (.ofOperands className [c]))

/-- The outcome of a construction as a value. -/
def deferred {α : Type} (evaluation : Evaluation α) : Evaluation (Except BuildError α) :=
  tryCatch (do return .ok (← evaluation)) fun
    | .construction e => return .error e
    | e => throw e

/-- A list of the node of a handle, as it is now. -/
def listOf (h : Handle) (list : Node → ChildList) : Evaluation ChildList := do
  return ((h.node? (← get)).map list).getD .nil

section

variable (vars : Variables) (here : RepositoryId)

mutual

/-- The child that an expression denotes, in a script that works on the repository `here`. -/
def ChildExpr.evaluate : ChildExpr → Evaluation Child
  | .empty => return .empty
  | .constant value => return .constant value
  | .name name => return .name name
  | .handle name => return (← vars.handle name).child
  | .node id => return .node ⟨here, id⟩
  | .foreign id => return .node ⟨← modifyGet Workspace.freshRepository, id⟩
  | .definition d => return .pending (← d.evaluate)
  | .constantDefinition value => return .pending (.ofConstant value)
  | .failed error => throw (.construction error)
  | .classFactory className => wrap 1 (.pending (.bare (.standard className)))
  | .wrapped count child => do wrap count (← child.evaluate)
  | .nested count className child => return nest className count (← child.evaluate)
  | .binder scope argument location => do
      let scope ← vars.scope scope
      let argument ← argument.evaluate
      return .factory (← modifyGet Workspace.freshFactory) (.bind scope argument location)
  | .choice handle yes no => do
      let h ← vars.handle handle
      let yes ← yes.evaluate
      let no ← no.evaluate
      return .factory (← modifyGet Workspace.freshFactory)
        (.ifBound h.node (.give yes) (.give no))
  | .binary op a b => do
      let a ← a.evaluate
      let b ← b.evaluate
      return .pending (.binary op a b)
  | .unary op a => return .pending (.unary op (← a.evaluate))
termination_by structural c => c

def evaluateAll : List ChildExpr → Evaluation (List Child)
  | [] => return []
  | c :: rest => do
      let c ← c.evaluate
      return c :: (← evaluateAll rest)
termination_by structural cs => cs

def evaluateKeyed : List (String × ChildExpr) → Evaluation (List (String × Child))
  | [] => return []
  | (key, c) :: rest => do
      let c ← c.evaluate
      return (key, c) :: (← evaluateKeyed rest)
termination_by structural cs => cs

def evaluateLabelled : List (Label × ChildExpr) → Evaluation (List Entry)
  | [] => return []
  | (label, c) :: rest => do
      let c ← c.evaluate
      return ⟨label, c⟩ :: (← evaluateLabelled rest)
termination_by structural cs => cs

/-- The list of children that an expression denotes. -/
def ListExpr.evaluate : ListExpr → Evaluation ChildList
  | .positional children => return .positional (← evaluateAll children)
  | .keyed children => return .ofKeyed (← evaluateKeyed children)
  | .childrenOf handle => do listOf (← vars.handle handle) (·.children)
  | .stepsOf handle => do listOf (← vars.handle handle) (·.steps)
  | .push list children => do
      let list ← list.evaluate
      return list.push (← evaluateAll children)
  | .resolved entries keyed => return ⟨← evaluateLabelled entries, keyed, true⟩
termination_by structural l => l

def CallExpr.evaluate : CallExpr → Evaluation BuilderCall
  | .child c => return .child (← deferred c.evaluate)
  | .children l => return .children (← l.evaluate)
  | .keyedChild key c => return .keyedChild key (← deferred c.evaluate)
  | .step c => return .step (← deferred c.evaluate)
  | .steps l => return .steps (← l.evaluate)
  | .field key value => return .field key value
  | .tags value => return .tags value
  | .groups value => return .groups value
termination_by structural c => c

def evaluateCalls : List CallExpr → Evaluation (List BuilderCall)
  | [] => return []
  | c :: rest => do
      let c ← c.evaluate
      return c :: (← evaluateCalls rest)
termination_by structural cs => cs

/-- The definition that an expression denotes. -/
def DefinitionExpr.evaluate : DefinitionExpr → Evaluation Definition
  | .bare nodeClass => return .bare nodeClass
  | .built nodeClass location calls => do
      let calls ← evaluateCalls calls
      match Definition.build nodeClass location calls with
      | .ok d => return d
      | .error e => throw (.construction e)
termination_by structural d => d

end

end

end NodeForest.Script

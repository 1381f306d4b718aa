import NodeForest.Definition.Basic

/-!
# Calling factories

Factories are called before a definition reaches a repository. A chain of factories that give
factories is followed for a bounded number of calls; what is left at its end stays in place. The
children of nested definitions are expanded in the same way, those of resolved lists are not.

What a factory can see and do is given by a `FactoryHost`, in any monad.
-/

namespace NodeForest

/-- How many factories of one chain are called. -/
def callLimit : Nat := 5

/-- What a factory may ask of the repositories. -/
structure FactoryHost (m : Type → Type) where
  /-- The node is bound. -/
  bound : NodeRef → m Bool
  /-- Binds a node anonymously, which gives the node itself. -/
  adopt : ScopeRef → NodeRef → Location → m Child
  /-- Binds any other argument anonymously, its factories having been called. -/
  bind : ScopeRef → Child → Location → m Child

variable {m : Type → Type} [Monad m]

mutual

/-- Calls at most `calls` factories of the chain that starts here, and goes on inside. -/
def Child.expandWithin (host : FactoryHost m) (calls : Nat) : Child → m Child
  | .factory id body =>
      match calls with
      | 0 => return .factory id body
      | calls + 1 => body.expandWithin host calls
  | .pending d => return .pending (← d.expand host)
  | c => return c
termination_by structural c => c

/-- Calls the factory and expands what it gives. -/
def Factory.expandWithin (host : FactoryHost m) (calls : Nat) : Factory → m Child
  | .give c => c.expandWithin host calls
  | .ifBound node yes no => do
      if ← host.bound node then yes.expandWithin host calls else no.expandWithin host calls
  | .bind scope argument location =>
      match argument.node? with
      | some node => host.adopt scope node location
      | none => do host.bind scope (← argument.expandWithin host callLimit) location
termination_by structural f => f

def Entry.expand (host : FactoryHost m) : Entry → m Entry
  | ⟨label, child⟩ => return ⟨label, ← child.expandWithin host callLimit⟩
termination_by structural e => e

def Entry.expandAll (host : FactoryHost m) : List Entry → m (List Entry)
  | [] => return []
  | e :: rest => do
      let e ← e.expand host
      return e :: (← Entry.expandAll host rest)
termination_by structural es => es

def ChildList.expand (host : FactoryHost m) : ChildList → m ChildList
  | ⟨entries, keyed, resolved⟩ =>
      if resolved then return ⟨entries, keyed, resolved⟩
      else return ⟨← Entry.expandAll host entries, keyed, resolved⟩
termination_by structural l => l

def Definition.expand (host : FactoryHost m) : Definition → m Definition
  | ⟨nodeClass, children, steps, record⟩ =>
      return ⟨nodeClass, ← children.expand host, ← steps.expand host, record⟩
termination_by structural d => d

end

/-- The child with its factories called. -/
def Child.expand (host : FactoryHost m) (c : Child) : m Child :=
  c.expandWithin host callLimit

mutual

/-- The definition that a child denotes after at most `calls` factory calls; what the last
factory gives is returned as it is. -/
def Child.definitionWithin? (host : FactoryHost m) (calls : Nat) : Child → m (Option Definition)
  | .pending d => return some d
  | .constant value => return some (.ofConstant value)
  | .factory _ body =>
      match calls with
      | 0 => return none
      | calls + 1 => body.definitionWithin? host calls
  | _ => return none
termination_by structural c => c

def Factory.definitionWithin? (host : FactoryHost m) (calls : Nat) : Factory → m (Option Definition)
  | .give c => c.definitionWithin? host calls
  | .ifBound node yes no => do
      if ← host.bound node then yes.definitionWithin? host calls
      else no.definitionWithin? host calls
  | .bind scope argument location => do
      let given ← match argument.node? with
        | some node => host.adopt scope node location
        | none => do host.bind scope (← argument.expandWithin host callLimit) location
      return given.definition?
termination_by structural f => f

end

end NodeForest

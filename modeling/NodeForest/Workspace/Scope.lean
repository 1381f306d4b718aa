import NodeForest.Repository.Forest
import NodeForest.Repository.Mux
import NodeForest.Repository.Search
import NodeForest.Workspace.Basic

/-!
# Working in a scope

A scope is where trees are defined from: it names nodes, binds definitions, and asks about the
repository it belongs to. A named bind records its diagnostics in the repository; an anonymous one
returns them.
-/

namespace NodeForest

namespace ScopeRef

/-- Runs an operation on the repository of a scope. -/
def act {α : Type} (s : ScopeRef) (action : Action α) : Work α :=
  actIn s.repository action

def read {α : Type} (s : ScopeRef) (read : Repository → α) : Work α :=
  readIn s.repository read

/-- A handle to a node of this repository. -/
def handle (s : ScopeRef) (id : NodeId) : Work Handle :=
  s.read (·.handle id)

/-- Opens a scope in this one. -/
def subscope (s : ScopeRef) (name : String) (quals : Qualifiers) : Work ScopeRef := do
  let scope ← s.act (modifyGet fun r => r.addScope s.scope name quals)
  return { s with scope }

/-- The scope's name; the root scope has none. -/
def name? (s : ScopeRef) : Work (Option String) :=
  s.read (·.scopeName? s.scope)

/-- The node with a name in this scope, registered unbound when there is none. -/
def node (s : ScopeRef) (name : String) (location : Location) : Work Handle := do
  let id ← s.act (modifyGet fun r => r.nodeInScope s.scope name location)
  s.handle id

/-- Binds an argument under a generated name. A node is taken before any factory is called, and only
if it belongs here. -/
def bind (s : ScopeRef) (argument : Except BuildError Child) (location : Location) :
    Work Handle := do
  match argument with
  | .error source =>
      throw (.diagnostic (.definition Repository.anonymousName source location))
  | .ok child =>
      let id ← match child.node? with
        | some node => s.act (Repository.adoptNode node location)
        | none => do
            let child ← child.expandHere
            s.act (Repository.bindAnonymous s.scope child location)
      s.handle id

def makeConstant (s : ScopeRef) (value : Constant) (location : Location) : Work Handle := do
  let id ← s.act (Repository.makeConstant value location)
  s.handle id

/-- The next generated name. -/
def uniqueName (s : ScopeRef) (name : String) : Work String :=
  s.act (modifyGet fun r => r.uniqueName s.scope name)

/-- The bound nodes that meet the criteria. -/
def search (s : ScopeRef) (criteria : SearchCriteria) (location : Location) :
    Work (List Handle) := do
  let r ← s.read fun r => r
  match r.search criteria location with
  | .ok ids => return r.handles ids
  | .error d => throw (.diagnostic d)

def findFamily (s : ScopeRef) (name : String) : Work (List Handle) :=
  s.read fun r => r.handles (r.findFamily name)

/-- The live node with a full name. -/
def get? (s : ScopeRef) (name : String) : Work (Option Handle) :=
  s.read fun r => (r.lookup? name).bind r.handle?

/-- Adds a handle to the roots of the tree. -/
def addRoot (s : ScopeRef) (h : Handle) : Work Unit :=
  modify (·.addRoot s.repository h)

/-- The roots that the tree keeps. -/
def rootGroup (s : ScopeRef) : Work Group := do
  return (((← get).tree? s.repository).map (·.roots)).getD .roots

/-- Every node, in registration order. -/
def allNodes (s : ScopeRef) : Work (List Handle) :=
  s.read fun r => r.handles r.liveIds

/-- The roots of the resolved repository. -/
def rootNodes (s : ScopeRef) : Work (List Handle) := do
  let r ← s.read fun r => r
  match r.roots? with
  | .ok roots => return r.handles (OrderedMap.values roots)
  | .error failure => throw failure

def resolve {α : Type} (s : ScopeRef) (hook : Hook α) (location : Location) : Work (Option α) :=
  s.act (Repository.resolve hook location)

/-- The flat form of the resolved repository. -/
def forest (s : ScopeRef) : Work Forest := do
  match ← s.read (·.forest) with
  | .ok forest => return forest
  | .error failure => throw failure

end ScopeRef

end NodeForest

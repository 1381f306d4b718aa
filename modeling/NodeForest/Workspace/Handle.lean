import NodeForest.Workspace.Scope

/-!
# Working with a handle

Operations on a node through a handle to it, in the repository that the node belongs to. Factories
are called before the repository sees an argument.
-/

namespace NodeForest

namespace Handle

/-- Runs an operation on the repository of a handle. -/
def act {α : Type} (h : Handle) (action : Action α) : Work α :=
  actIn h.node.repository action

def read {α : Type} (h : Handle) (read : Repository → α) : Work α :=
  readIn h.node.repository read

/-- The node itself, unless it has been removed. -/
def node? (h : Handle) (w : Workspace) : Option Node :=
  (w.repository h.node.repository).get? h.id

def isBound (h : Handle) : Work Bool :=
  h.read (·.isBound h.id)

/-- Binds the node. -/
def bind (h : Handle) (argument : Except BuildError Child) (location : Location) : Work Unit := do
  let argument ← match argument with
    | .ok c => do pure (.ok (← c.expandHere))
    | .error e => pure (.error e)
  h.act (Repository.bind h.id argument location)

/-- Binds the node unless that has been done; no factory is called if it has. -/
def bindIfUnbound (h : Handle) (argument : Except BuildError Child) (location : Location) :
    Work Unit := do
  if !(← h.isBound) then h.bind argument location

/-- The node like this one with further qualifiers. -/
def requalify (h : Handle) (mode : MergeMode) (quals : Qualifiers) (location : Location) :
    Work Handle :=
  h.act (modifyGet fun r => r.requalify h quals mode location)

/-- Appends qualifiers. -/
def qualify (h : Handle) (quals : Qualifiers) (location : Location) : Work Handle :=
  h.requalify .append quals location

/-- Takes the qualifiers of other nodes, one after the other. -/
def takeQuals (h : Handle) (mode : MergeMode) (others : List Handle) (location : Location) :
    Work Handle :=
  others.foldlM (fun h other => h.requalify mode other.quals location) h

/-- Appends children or step-children to the bound node. -/
def addChildren (h : Handle) (role : Repository.ChildRole) (children : List Child)
    (location : Location) : Work Unit := do
  let children ← children.mapM Child.expandHere
  h.act (Repository.extendChildren role h.id children location)

def setOptions (h : Handle) (options : List (String × Value)) (location : Location) : Work Unit :=
  h.act (Repository.setOptions h.id options location)

/-- The bound nodes that are named like this one, with or without further qualifiers. -/
def family (h : Handle) : Work (List Handle) :=
  h.read fun r => r.handles (r.findFamily h.name)

/-- Searches below the node, or below the whole family. -/
def search (h : Handle) (wholeFamily : Bool) (criteria : SearchCriteria) (location : Location) :
    Work (List Handle) := do
  let r ← h.read fun r => r
  let roots := if wholeFamily then r.findFamily h.name else [h.id]
  match r.search { criteria with subtree := some roots } location with
  | .ok ids => return r.handles ids
  | .error d => throw (.diagnostic d)

end Handle

/-- Registers a node in a scope and binds it. -/
def ScopeRef.define (s : ScopeRef) (name : String) (argument : Except BuildError Child)
    (location : Location) : Work Handle := do
  let h ← s.node name location
  h.bind argument location
  return h

end NodeForest

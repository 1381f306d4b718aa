import NodeForest.Diagnostic
import NodeForest.Options
import NodeForest.Qualifiers

/-!
# The repository

A repository is an append-only table of nodes. A node is registered under its qualified name and is
unbound until a definition is attached to it; a removed node leaves an empty place, so numbers are
never used again. Names are found in the table itself: the live nodes in the order of their numbers
are the registered names in the order of registration.

Beside the nodes, the repository keeps the scopes with their counters for generated names, the
nodes of shared constants, the diagnostics collected, the call frames, the nodes that handles
outside hold, and what the resolve pass has come to.
-/

namespace NodeForest

/-- The child numbers of a resolved node: a list, or a map by label. -/
inductive ChildIndices where
  | list (indices : List Int)
  | keyed (indices : OrderedMap String Int)
deriving DecidableEq, Repr, Inhabited

namespace ChildIndices

/-- The numbers in child order. -/
def toList : ChildIndices → List Int
  | .list l => l
  | .keyed m => OrderedMap.values m

def isEmpty (c : ChildIndices) : Bool :=
  c.toList.isEmpty

end ChildIndices

/-- What a successful resolve assigns to a node. -/
structure Placement where
  index : Nat
  children : ChildIndices
  steps : List Int
deriving DecidableEq, Repr, Inhabited

/-- The definition attached to a node, its children being nodes or empty. -/
structure Binding where
  className : String
  children : ChildList
  steps : ChildList
  record : Record
  boundAt : Location
  /-- The call frames at the bind, outermost first. -/
  trail : List Location
  placement : Option Placement := none

structure Node where
  name : String
  basename : String
  scope : ScopeId
  quals : Qualifiers
  /-- The nodes that have this one as a child or step-child, in the order they took it. -/
  parents : List NodeId := []
  /-- Where the node was first named, and the call frames there. -/
  definedAt : Location
  trail : List Location
  binding : Option Binding := none

namespace Binding

/-- The numbers of all children and step-children. -/
def childIds (b : Binding) : List NodeId :=
  b.children.nodeIds ++ b.steps.nodeIds

end Binding

namespace Node

def isBound (n : Node) : Bool :=
  n.binding.isSome

def className? (n : Node) : Option String :=
  n.binding.map (·.className)

def record? (n : Node) : Option Record :=
  n.binding.map (·.record)

def children (n : Node) : ChildList :=
  (n.binding.map (·.children)).getD .nil

def steps (n : Node) : ChildList :=
  (n.binding.map (·.steps)).getD .nil

def childIds (n : Node) : List NodeId :=
  (n.binding.map (·.childIds)).getD []

def placement? (n : Node) : Option Placement :=
  n.binding.bind (·.placement)

def index? (n : Node) : Option Nat :=
  n.placement?.map (·.index)

/-- Where the node got its definition, or else its name. -/
def boundOrDefinedAt (n : Node) : Location :=
  (n.binding.map (·.boundAt)).getD n.definedAt

/-- The call frames at the bind. -/
def bindTrail (n : Node) : List Location :=
  (n.binding.map (·.trail)).getD []

end Node

/-- A scope's name and its counters for generated names; the root scope has no name. -/
structure Scope where
  name : Option String := none
  counters : OrderedMap String Nat := []

/-- How far the repository has come. -/
inductive Phase where
  | building
  | resolved (roots : OrderedMap String NodeId)
  | failed
deriving DecidableEq, Repr, Inhabited

structure Repository where
  id : RepositoryId
  options : Options
  nodes : Array (Option Node) := #[]
  scopes : Array Scope := #[{}]
  /-- The node of each shared constant, by key. -/
  constants : OrderedMap Constant NodeId := []
  errors : List Diagnostic := []
  /-- The call frames, outermost first. -/
  frames : List Location := []
  /-- Bound sinks and spigots in bind order, and the data mux last bound. -/
  sinks : List NodeId := []
  spigots : List NodeId := []
  mux : Option NodeId := none
  /-- Nodes that the repository itself keeps referenced. -/
  pinned : List NodeId := []
  /-- The node of every live handle, once for each handle. -/
  held : List NodeId := []
  phase : Phase := .building

/-- An operation on a repository: it may fail, and what it did before it failed stays done. -/
abbrev Action := ExceptT Failure (StateM Repository)

namespace Repository

def get? (r : Repository) (id : NodeId) : Option Node :=
  r.nodes[id.index]?.join

def isLive (r : Repository) (id : NodeId) : Bool :=
  (r.get? id).isSome

def isBound (r : Repository) (id : NodeId) : Bool :=
  (r.get? id).any (·.isBound)

/-- The live nodes in registration order. -/
def entries (r : Repository) : List (NodeId × Node) :=
  (List.range r.nodes.size).filterMap fun i =>
    (r.get? ⟨i⟩).map fun node => (⟨i⟩, node)

def liveIds (r : Repository) : List NodeId :=
  r.entries.map Prod.fst

/-- The number of live nodes, bound or not. -/
def size (r : Repository) : Nat :=
  r.entries.length

theorem lt_of_isLive {r : Repository} {id : NodeId} (live : r.isLive id) :
    id.index < r.nodes.size := by
  by_cases inside : id.index < r.nodes.size
  · exact inside
  · simp [isLive, get?, inside] at live

theorem size_eq (r : Repository) :
    r.size = ((List.range r.nodes.size).filter fun i => r.isLive ⟨i⟩).length := by
  simp only [size, entries, List.length_filterMap_eq_countP, ← List.countP_eq_length_filter]
  simp [isLive]

/-- The live node with this name. -/
def lookup? (r : Repository) (name : String) : Option NodeId :=
  (r.nodes.findIdx? fun slot => slot.any (·.name == name)).map NodeId.mk

/-- The bound node with this name. -/
def lookupBound? (r : Repository) (name : String) : Option NodeId :=
  (r.lookup? name).filter r.isBound

def nameOf? (r : Repository) (id : NodeId) : Option String :=
  (r.get? id).map (·.name)

/-- The name of a node in messages, empty for a removed one. -/
def nameInMessage (r : Repository) (id : NodeId) : String :=
  (r.nameOf? id).getD ""

/-- The children and step-children of a node. -/
def childIdsOf (r : Repository) (id : NodeId) : List NodeId :=
  ((r.get? id).map (·.childIds)).getD []

/-- The child that stands for a node of this repository. -/
def child (r : Repository) (id : NodeId) : Child :=
  .node ⟨r.id, id⟩

/-- A handle outside, or a pin, keeps the node. -/
def isReferenced (r : Repository) (id : NodeId) : Bool :=
  r.held.contains id || r.pinned.contains id

def isResolved (r : Repository) : Bool :=
  match r.phase with
  | .resolved _ => true
  | _ => false

/-- The roots by name, once resolved. -/
def roots? (r : Repository) : Except Failure (OrderedMap String NodeId) :=
  match r.phase with
  | .resolved roots => .ok roots
  | _ => .error .notResolved

/-- Changes a live node; nothing happens to a removed one. -/
def update (r : Repository) (id : NodeId) (f : Node → Node) : Repository :=
  { r with nodes := r.nodes.modify id.index (·.map f) }

theorem get?_update (r : Repository) (id : NodeId) (f : Node → Node) (other : NodeId) :
    (r.update id f).get? other = if other = id then (r.get? other).map f else r.get? other := by
  obtain ⟨i⟩ := id
  obtain ⟨j⟩ := other
  simp only [get?, update, Array.getElem?_modify, NodeId.mk.injEq, eq_comm (a := j) (b := i)]
  split
  · cases r.nodes[j]? <;> rfl
  · rfl

theorem isLive_update (r : Repository) (id : NodeId) (f : Node → Node) (other : NodeId) :
    (r.update id f).isLive other = r.isLive other := by
  simp only [isLive, get?_update]
  split <;> simp

theorem nodes_size_update (r : Repository) (id : NodeId) (f : Node → Node) :
    (r.update id f).nodes.size = r.nodes.size := by
  simp [update]

/-- Changes each live node of a list. -/
def updateAll (r : Repository) (ids : List NodeId) (f : Node → Node) : Repository :=
  ids.foldl (fun r id => r.update id f) r

theorem isLive_updateAll (r : Repository) (ids : List NodeId) (f : Node → Node) (other : NodeId) :
    (r.updateAll ids f).isLive other = r.isLive other := by
  induction ids generalizing r with
  | nil => rfl
  | cons id ids ih => rw [updateAll, List.foldl_cons, ← updateAll, ih, isLive_update]

theorem nodes_size_updateAll (r : Repository) (ids : List NodeId) (f : Node → Node) :
    (r.updateAll ids f).nodes.size = r.nodes.size := by
  induction ids generalizing r with
  | nil => rfl
  | cons id ids ih => rw [updateAll, List.foldl_cons, ← updateAll, ih, nodes_size_update]

/-- Notes that `parent` has each of `children` as a child. -/
def addParent (r : Repository) (parent : NodeId) (children : List NodeId) : Repository :=
  r.updateAll children fun node =>
    if node.parents.contains parent then node
    else { node with parents := node.parents ++ [parent] }

/-- Registers a new unbound node. -/
def register (r : Repository) (name basename : String) (scope : ScopeId) (quals : Qualifiers)
    (location : Location) : Repository :=
  { r with nodes := r.nodes.push (some
      { name, basename, scope, quals, definedAt := location, trail := r.frames }) }

/-- The node with this name, registered unbound when there is none. -/
def getOrCreate (r : Repository) (name basename : String) (scope : ScopeId) (quals : Qualifiers)
    (location : Location) : NodeId × Repository :=
  match r.lookup? name with
  | some id => (id, r)
  | none => (⟨r.nodes.size⟩, r.register name basename scope quals location)

/-- Keeps a node referenced from inside. Removed nodes cannot be pinned. -/
def pin (r : Repository) (id : NodeId) : Repository :=
  if r.isLive id && !r.pinned.contains id then { r with pinned := r.pinned ++ [id] } else r

def unpin (r : Repository) (id : NodeId) : Repository :=
  { r with pinned := r.pinned.filter (· != id) }

/-- A handle to the node has been made. -/
def hold (r : Repository) (id : NodeId) : Repository :=
  { r with held := id :: r.held }

/-- A handle to the node has been dropped. -/
def release (r : Repository) (id : NodeId) : Repository :=
  { r with held := r.held.erase id }

def pushFrame (r : Repository) (location : Location) : Repository :=
  { r with frames := r.frames ++ [location] }

/-- Removes the innermost call frame. -/
def popFrame (r : Repository) : Repository :=
  { r with frames := r.frames.dropLast }

end Repository

end NodeForest

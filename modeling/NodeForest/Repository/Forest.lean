import NodeForest.Repository.Basic

/-!
# The resolved forest

The flat form of a resolved repository that is handed to the engine: one entry for each numbered
node, in the order of the numbers, and the names of the roots.
-/

namespace NodeForest

structure ForestNode where
  index : Nat
  name : String
  className : String
  record : Record
  children : ChildIndices
  steps : List Int

structure Forest where
  nodes : List ForestNode
  roots : List String

namespace Forest

def size (f : Forest) : Nat :=
  f.nodes.length

def isEmpty (f : Forest) : Bool :=
  f.nodes.isEmpty

/-- The first node with this name. -/
def get? (f : Forest) (name : String) : Option ForestNode :=
  f.nodes.find? (·.name == name)

end Forest

namespace Repository

/-- The entry of a node, if it has been numbered. -/
def forestNode? (n : Node) : Option ForestNode := do
  let b ← n.binding
  let p ← b.placement
  return { index := p.index, name := n.name, className := b.className, record := b.record,
           children := p.children, steps := p.steps }

/-- The forest of a resolved repository. Registration order is also the order of the numbers. -/
def forest (r : Repository) : Except Failure Forest := do
  let roots ← r.roots?
  return { nodes := r.entries.filterMap fun entry => forestNode? entry.2,
           roots := OrderedMap.keys roots }

end Repository

end NodeForest

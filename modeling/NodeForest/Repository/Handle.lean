import NodeForest.Repository.Scope
import NodeForest.Text.Quoted

/-!
# Handles

A handle is how a script refers to a node: the node's reference and the names it had when the handle
was made. The names stay even when the node is removed. A node counts as referenced while a handle to
it is kept, which is noted with `Repository.hold` and `Repository.release` by whoever keeps it.
-/

namespace NodeForest

structure Handle where
  node : NodeRef
  name : String
  basename : String
  quals : Qualifiers
  scope : ScopeId
deriving DecidableEq

namespace Handle

def id (h : Handle) : NodeId :=
  h.node.id

/-- Handles are the same when they refer to the same node. -/
def same (a b : Handle) : Bool :=
  a.node == b.node

/-- The handle as a child. -/
def child (h : Handle) : Child :=
  .node h.node

/-- The handle in messages: its name, and the class of its node if that is bound. -/
def render (h : Handle) (r : Repository) : String :=
  h.name ++ "(" ++ ((r.get? h.id).bind (·.className?)).getD "unbound" ++ ")"

/-- The handle for diagnosis: the number of its node and its name. -/
def debugText (h : Handle) : String :=
  "NodeStub \x7b id: NodeId(" ++ toString h.id.index ++ "), name: " ++ Text.quoted h.name ++ " \x7d"

end Handle

namespace Repository

/-- A handle to a live node. -/
def handle? (r : Repository) (id : NodeId) : Option Handle :=
  (r.get? id).map fun n =>
    { node := ⟨r.id, id⟩, name := n.name, basename := n.basename, quals := n.quals, scope := n.scope }

/-- A handle to a node; that of a removed node has no names. -/
def handle (r : Repository) (id : NodeId) : Handle :=
  (r.handle? id).getD
    { node := ⟨r.id, id⟩, name := "", basename := "", quals := .empty, scope := .root }

/-- Handles to the live nodes among some. -/
def handles (r : Repository) (ids : List NodeId) : List Handle :=
  ids.filterMap r.handle?

/-- The node like that of `h`, with further qualifiers. -/
def requalify (r : Repository) (h : Handle) (quals : Qualifiers) (mode : MergeMode)
    (location : Location) : Handle × Repository :=
  let (id, r) := r.qualify h.basename h.scope (h.quals.merged quals mode) location
  (r.handle id, r)

end Repository

end NodeForest

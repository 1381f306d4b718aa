import NodeForest.Repository.Bind
import NodeForest.Repository.Resolve

/-!
# The data mux

Sinks and spigots reach the engine through a data mux. Before a resolve, when there are any, the mux
last bound, or a new one in the root scope, takes every sink as a child and every spigot as a
step-child, except those that have a mux for a parent already, and it is kept referenced. When there
are none, a mux is treated like any other node.
-/

namespace NodeForest

namespace Repository

def muxName : String := "VisDataMux"

/-- A new mux has three named places and nothing in them. -/
def muxDefinition : Definition :=
  .ofParts (.standard "VisDataMux")
    (.ofKeyed [("pre", .empty), ("post", .empty), ("start", .empty)]) .nil []

def hasMuxParent (r : Repository) (n : Node) : Bool :=
  n.parents.any fun parent => ((r.get? parent).bind (·.className?)) == some muxClass

/-- The nodes of a list without a mux for a parent, as children. -/
def withoutMux (r : Repository) (ids : List NodeId) : List Child :=
  (ids.filter fun id => (r.get? id).any (!r.hasMuxParent ·)).map r.child

/-- The mux last bound, or a new one. -/
def obtainMux (location : Location) : Action NodeId := do
  match (← get).mux with
  | some mux => return mux
  | none => do
      let mux ← modifyGet fun r => r.nodeInScope .root muxName location
      bind mux (.ok (.pending muxDefinition)) location
      return mux

end Repository

open Repository in
/-- The hook that connects sinks and spigots. -/
def Hook.mux : Hook Unit := fun location => do
  let r ← get
  if r.sinks.isEmpty && r.spigots.isEmpty then
    match r.mux with
    | some mux => modify (·.unpin mux)
    | none => return
  else
    let mux ← obtainMux location
    modify (·.pin mux)
    let r ← get
    let sinks := r.withoutMux r.sinks
    let spigots := r.withoutMux r.spigots
    addChildren mux sinks location
    addSteps mux spigots location

end NodeForest

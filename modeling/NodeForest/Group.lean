import NodeForest.Repository.Handle

/-!
# Groups

A group is a named collection of handles, one for each node name. What is in a group stays
referenced.
-/

namespace NodeForest

structure Group where
  name : String
  members : OrderedMap String Handle := []

namespace Group

/-- The group of the nodes that a tree keeps as its roots. -/
def roots : Group := { name := "ROOT" }

def contains (g : Group) (name : String) : Bool :=
  OrderedMap.contains g.members name

def get? (g : Group) (name : String) : Option Handle :=
  OrderedMap.get? g.members name

def handles (g : Group) : List Handle :=
  OrderedMap.values g.members

def size (g : Group) : Nat :=
  g.members.length

def isEmpty (g : Group) : Bool :=
  g.members.isEmpty

/-- Adds a handle, unless one of its name is there. -/
def add (g : Group) (h : Handle) : Group :=
  if g.contains h.name then g else { g with members := OrderedMap.insert g.members h.name h }

end Group

end NodeForest

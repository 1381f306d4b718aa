import NodeForest.Constant
import NodeForest.Location
import NodeForest.Reference

/-!
# Definitions

A definition says "a node of this class, with these children and these fields"; it has no name. A
child is whatever a definition may name in a child's place: nothing, a bound node's name, a number,
a node, a nested definition, or a factory that produces one of these when it is called.

A factory is a small decision procedure: it may ask whether nodes are bound, and it ends by giving
a child or by binding an argument anonymously and giving the node. Factories are told apart by the
number they got when they were made, never by what they do.

What a factory may give is written down inside it, so factories are well-founded: chains of them and
factories inside definitions inside factories may be as deep as one likes, but they end. A closure
that gives itself again, or that makes a new definition with itself inside each time it is called,
cannot be expressed. Nor can one that gives something else the next time, other than by asking which
nodes are bound.
-/

namespace NodeForest

/-- A node class: a package and a name in it. -/
structure NodeClass where
  package : String
  name : String
deriving DecidableEq, Repr, Inhabited

namespace NodeClass

/-- A class of the standard package. -/
def standard (name : String) : NodeClass := ⟨"Meq", name⟩

def fullName (c : NodeClass) : String :=
  c.package ++ c.name

end NodeClass

/-- The label of a child: its position, or its key in a keyed list. -/
inductive Label where
  | index (i : Nat)
  | key (k : String)
deriving DecidableEq, Repr, Inhabited

def Label.render : Label → String
  | .index i => toString i
  | .key k => k

mutual

/-- What stands in the place of a child before it is bound. -/
inductive Child where
  | empty
  /-- A node bound under this name in the same repository. -/
  | name (name : String)
  | constant (value : Constant)
  | node (node : NodeRef)
  /-- A nested definition, bound anonymously. -/
  | pending (definition : Definition)
  | factory (id : Nat) (body : Factory)

/-- What a factory does when it is called, down to its end: a factory is never part of itself. -/
inductive Factory where
  | give (child : Child)
  | ifBound (node : NodeRef) (yes no : Factory)
  /-- Binds the argument anonymously and gives the node, or nothing if that fails. -/
  | bind (scope : ScopeRef) (argument : Child) (location : Location)

structure Entry where
  label : Label
  child : Child

/-- Labelled children in order. A resolved list has been bound already and is taken as it is. -/
structure ChildList where
  entries : List Entry
  keyed : Bool
  resolved : Bool

structure Definition where
  nodeClass : NodeClass
  children : ChildList
  steps : ChildList
  record : Record

end

instance : Inhabited Child := ⟨.empty⟩

namespace Child

/-- The word for a child in messages. -/
def kind : Child → String
  | .empty => "empty"
  | .name _ => "name"
  | .constant _ => "constant"
  | .node _ => "node"
  | .pending _ => "definition"
  | .factory _ _ => "factory"

def isEmpty : Child → Bool
  | .empty => true
  | _ => false

def node? : Child → Option NodeRef
  | .node ref => some ref
  | _ => none

/-- The number of a node child, whichever repository it belongs to. -/
def nodeId? (c : Child) : Option NodeId :=
  c.node?.map (·.id)

end Child

/-- Entries labelled with the positions from `start` on. -/
def Entry.numbered (start : Nat) : List Child → List Entry
  | [] => []
  | c :: rest => ⟨.index start, c⟩ :: numbered (start + 1) rest

namespace ChildList

def nil : ChildList := ⟨[], false, false⟩

instance : Inhabited ChildList := ⟨nil⟩

/-- The empty list as a bound node has it. -/
def resolvedNil : ChildList := ⟨[], false, true⟩

/-- A list labelled `0, 1, 2, …`. -/
def positional (children : List Child) : ChildList :=
  ⟨Entry.numbered 0 children, false, false⟩

def ofKeyed (children : List (String × Child)) : ChildList :=
  ⟨children.map fun (k, c) => ⟨.key k, c⟩, true, false⟩

def length (l : ChildList) : Nat :=
  l.entries.length

def isEmpty (l : ChildList) : Bool :=
  l.entries.isEmpty

/-- Appends children labelled with the next free positions. -/
def push (l : ChildList) (children : List Child) : ChildList :=
  { l with entries := l.entries ++ Entry.numbered l.length children }

/-- The node numbers among the children, in order. -/
def nodeIds (l : ChildList) : List NodeId :=
  l.entries.filterMap (·.child.nodeId?)

end ChildList

namespace Definition

/-- A definition from its parts; the record's class field is set from the class. -/
def ofParts (nodeClass : NodeClass) (children steps : ChildList) (record : Record) : Definition :=
  { nodeClass, children, steps
    record := OrderedMap.insert record Record.classKey (.text nodeClass.fullName) }

/-- A definition without children or fields. -/
def bare (nodeClass : NodeClass) : Definition :=
  ofParts nodeClass .nil .nil []

def valueKey : String := "value"

/-- The definition of a constant node. -/
def ofConstant (value : Constant) : Definition :=
  ofParts (.standard "Constant") .nil .nil [(valueKey, value.toValue)]

end Definition

/-- The definition that a child denotes as it stands: a nested one, or that of a constant. -/
def Child.definition? : Child → Option Definition
  | .pending d => some d
  | .constant value => some (.ofConstant value)
  | _ => none

end NodeForest

import NodeForest.Script.RepositoryCommand

/-!
# Commands of a tree script

A script defines trees by commands on scopes and handles that its variables hold. A command is called
from a location, and what it gives may be kept in a variable.
-/

namespace NodeForest.Script

/-- A command; scopes, handles, groups and frames are given by the names of their variables. -/
inductive Command where
  /-- Plants a tree; its root scope is kept. -/
  | scope (options : Options)
  | subscope (scope name : String) (quals : Qualifiers)
  | scopeInfo (scope : String)
  | node (scope name : String)
  | define (scope name : String) (argument : ChildExpr)
  | bindAnonymous (scope : String) (argument : ChildExpr)
  | bind (handle : String) (argument : ChildExpr)
  | bindIfUnbound (handle : String) (argument : ChildExpr)
  | makeConstant (scope : String) (value : Constant)
  | qualify (handle : String) (quals : Qualifiers)
  | takeQuals (mode : MergeMode) (handle : String) (others : List String)
  | addChildren (role : Repository.ChildRole) (handle : String) (children : List ChildExpr)
  | setOptions (handle : String) (options : List (String × Value))
  /-- A second handle to a node. -/
  | copy (handle : String)
  | get (scope name : String)
  | drop (handles : List String)
  | uniqueName (scope name : String)
  /-- A search, below the nodes of handles if any are given. -/
  | search (scope : String) (criteria : SearchCriteria) (below : Option (List String))
  | searchNames (scope : String) (criteria : SearchCriteria) (below : Option (List String))
  | searchBelow (handle : String) (wholeFamily : Bool) (criteria : SearchCriteria)
  | family (handle : String)
  | findFamily (scope name : String)
  | errors (scope : String)
  | addError (scope : String) (d : Diagnostic)
  | addRoot (scope handle : String)
  /-- The roots of a tree, and whether a name is among them. -/
  | rootGroup (scope probe : String)
  /-- The group with a name, and whether another name is in it. -/
  | group (name probe : String)
  | groupAdd (name : String) (handles : List String)
  | groupDrop (name : String)
  /-- Pushes a call frame that lives as long as its variable. -/
  | frame (scope : String)
  | pop (frames : List String)
  | resolve (scope : String) (hook : HookScript ChildExpr)
  /-- Resolves a tree from the outside and takes its forest. -/
  | resolveTree (scope : String)
  | allNodes (scope : String)
  | rootNodes (scope : String)
  | forest (scope : String)
  /-- The number of the node with a name in the forest. -/
  | indexOf (scope name : String)
  | forestJson (scope : String)
  | contains (scope name : String)
  | outline (scope handle : String)
  | same (handle other : String)
  | describe (handle : String)
  | snapshot (scope : String)

/-- A command, where it is called from, and the variable that keeps what it gives. -/
structure Step where
  command : Command
  location : Location
  keep : Option String

/-- What a handle shows of its node. -/
structure Description where
  handle : Handle
  node : Option Node
  parents : List Handle
  text : String

/-- Why a tree was not defined. -/
inductive TreeError where
  /-- The definition failed on its own account. -/
  | refused (reason : String)
  | step (error : CommandError)
  | resolve (failure : Failure)
deriving DecidableEq, Repr

/-- What a command replies. -/
inductive Reply where
  | nothing
  | handle (h : Handle)
  | handles (hs : List Handle)
  | scope (id : ScopeId) (name : Option String)
  | scopeInfo (id : ScopeId) (name : Option String) (size : Nat) (resolved : Bool)
  | text (text : String)
  | texts (texts : List String)
  | flag (b : Bool)
  | errors (ds : List Diagnostic)
  /-- A group, and the handle in it that was asked for. -/
  | group (g : Group) (probed : Option Handle)
  | hook (replies : List RepositoryOutcome)
  | forest (forest : Forest)
  | index (index : Option Nat)
  | tree (result : Except TreeError Forest)
  | description (d : Description)
  | snapshot (repository : Repository)

end NodeForest.Script

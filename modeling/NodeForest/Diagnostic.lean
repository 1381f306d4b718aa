import NodeForest.Definition.Basic
import NodeForest.Definition.BuildError

/-!
# Diagnostics

A diagnostic says what is wrong with one node, and where. Most are collected, so that a tree
definition runs to its end and reports every problem at once. Two kinds are not failures of their
own: they follow one in the list and show where it came from.
-/

namespace NodeForest

inductive Diagnostic where
  | childNotFound (label : Label) (name : String) (location : Location)
  | illegalChild (label : Label) (kind : String) (location : Location)
  | uninitializedChild (label : Label) (child parent : String) (location : Location)
  | nodeRedefined (name : String) (location firstDefined : Location)
  | firstDefinedHere (name : String) (location : Location)
  | uninitializedNode (name : String) (location : Location)
  | unboundNode (name operation : String) (location : Location)
  | unbindable (name kind : String) (location : Location)
  | definition (name : String) (source : BuildError) (location : Location)
  | calledFrom (note : String) (location : Location)
  | invalidPattern (pattern reason : String) (location : Location)
deriving DecidableEq, Repr, Inhabited

namespace Diagnostic

def location : Diagnostic → Location
  | .childNotFound _ _ l => l
  | .illegalChild _ _ l => l
  | .uninitializedChild _ _ _ l => l
  | .nodeRedefined _ l _ => l
  | .firstDefinedHere _ l => l
  | .uninitializedNode _ l => l
  | .unboundNode _ _ l => l
  | .unbindable _ _ l => l
  | .definition _ _ l => l
  | .calledFrom _ l => l
  | .invalidPattern _ _ l => l

/-- The message after the location. -/
def text : Diagnostic → String
  | .childNotFound label name _ => s!"child '{label.render}' = {name} not found"
  | .illegalChild label kind _ => s!"child '{label.render}' has illegal type {kind}"
  | .uninitializedChild label child parent _ =>
      s!"child '{label.render}' = {child} of node `{parent}` is not initialized"
  | .nodeRedefined name _ _ => s!"conflicting definition for node `{name}`"
  | .firstDefinedHere name _ => s!"node `{name}` first defined here"
  | .uninitializedNode name _ => s!"node `{name}` not initialized"
  | .unboundNode name operation _ => s!"{operation} on unbound node `{name}`"
  | .unbindable name kind _ => s!"can't bind node `{name}` with argument of type {kind}"
  | .definition name source _ => s!"definition of node `{name}` failed: {source.message}"
  | .calledFrom note _ => note
  | .invalidPattern pattern reason _ => s!"invalid search pattern `{pattern}`: {reason}"

def message (d : Diagnostic) : String :=
  d.location.render ++ ": " ++ d.text

/-- The diagnostic chained to this one: a redefinition points to the first definition. -/
def next? : Diagnostic → Option Diagnostic
  | .nodeRedefined name _ firstDefined => some (.firstDefinedHere name firstDefined)
  | _ => none

/-- The diagnostic only shows where the one before it came from. -/
def isTrail : Diagnostic → Bool
  | .calledFrom _ _ => true
  | .firstDefinedHere _ _ => true
  | _ => false

/-- The construction error that caused the diagnostic. -/
def source? : Diagnostic → Option BuildError
  | .definition _ source _ => some source
  | _ => none

/-- The diagnostics of a list that are failures of their own. -/
def primary (ds : List Diagnostic) : List Diagnostic :=
  ds.filter (!·.isTrail)

/-- A number right-aligned in three columns. -/
def lineNumber (n : Nat) : String :=
  let digits := toString n
  String.ofList (List.replicate (3 - digits.length) ' ') ++ digits

def numberedLines (start : Nat) : List Diagnostic → String
  | [] => ""
  | d :: rest => "\n [" ++ lineNumber start ++ "] " ++ d.message ++ numberedLines (start + 1) rest

/-- The report of a whole list, one numbered line for each diagnostic. -/
def report (ds : List Diagnostic) : String :=
  s!"tree definition failed with {(primary ds).length} error(s):" ++ numberedLines 1 ds

end Diagnostic

/-- Why an operation of the repository did not succeed. -/
inductive Failure where
  /-- One diagnostic, returned at once. -/
  | diagnostic (d : Diagnostic)
  /-- Every diagnostic collected so far. -/
  | cumulative (ds : List Diagnostic)
  | notResolved
deriving DecidableEq, Repr, Inhabited

namespace Failure

def message : Failure → String
  | .diagnostic d => d.message
  | .cumulative ds => Diagnostic.report ds
  | .notResolved => "repository must be resolved to determine root nodes"

end Failure

end NodeForest

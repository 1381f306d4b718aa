import NodeForest.Location

/-!
# Construction errors

A malformed definition is not refused where it is written: the error takes the definition's place
and is reported by the bind that receives it.
-/

namespace NodeForest

inductive BuildError where
  | conflictingChildren (className sources : String) (location : Location)
  | keyedSteps (className : String) (location : Location)
  | invalidTags (className found : String) (location : Location)
  | invalidGroups (className found : String) (location : Location)
  | reservedField (className field : String) (location : Location)
  | invalid (reason : String) (location : Location)
deriving DecidableEq, Repr, Inhabited

namespace BuildError

def location : BuildError → Location
  | .conflictingChildren _ _ l => l
  | .keyedSteps _ l => l
  | .invalidTags _ _ l => l
  | .invalidGroups _ _ l => l
  | .reservedField _ _ l => l
  | .invalid _ l => l

/-- The message after the location. -/
def text : BuildError → String
  | .conflictingChildren className sources _ =>
      s!"children of `{className}` specified by more than one of {sources}"
  | .keyedSteps className _ =>
      s!"step-children of `{className}` must be a list or a single node, not keyed"
  | .invalidTags className found _ =>
      s!"'tags' of `{className}` must be a string or a list of strings, found {found}"
  | .invalidGroups className found _ =>
      s!"'node_groups' of `{className}` must be a string or a list of strings, found {found}"
  | .reservedField className field _ => s!"field `{field}` of `{className}` is reserved"
  | .invalid reason _ => s!"invalid definition: {reason}"

def message (e : BuildError) : String :=
  e.location.render ++ ": " ++ e.text

end BuildError

end NodeForest

import NodeForest.Repository.Basic

/-!
# Reporting diagnostics

A reported diagnostic is recorded with its trail: an entry for each call frame from the innermost
outwards, up to the trail boundary, leaving out frames on the diagnostic's own line; and then the
diagnostic chained to it. When the recorded list reaches the limit, all of it is returned. In
testing mode nothing is recorded and the diagnostic itself is returned.
-/

namespace NodeForest

namespace Repository

/-- Trails stop at this frame. -/
def atBoundary (o : Options) (frame : Location) : Bool :=
  match o.trailBoundary with
  | some boundary => frame.fileName == boundary || frame.file == boundary
  | none => false

/-- The entries for the frames of a trail, which is given outermost first. -/
def trailEntries (o : Options) (location : Location) (trail : List Location) : List Diagnostic :=
  (trail.reverse.takeWhile (!atBoundary o ·)).filter (!·.sameLine location) |>.map fun frame =>
    .calledFrom ("called from " ++ frame.file) frame

/-- What is recorded for a diagnostic. -/
def recorded (o : Options) (d : Diagnostic) (trail : List Location) : List Diagnostic :=
  d :: trailEntries o d.location trail ++ d.next?.toList

/-- The recorded list has reached the limit. -/
def limitReached (r : Repository) : Bool :=
  match r.options.errorLimit with
  | some limit => limit ≤ r.errors.length
  | none => false

/-- Records a diagnostic with the frames of a trail. -/
def addError (d : Diagnostic) (trail : List Location) : Action Unit := do
  let r ← get
  if r.options.testing then throw (.diagnostic d)
  let r := { r with errors := r.errors ++ recorded r.options d trail }
  set r
  if r.limitReached then throw (.cumulative r.errors)

/-- Records a diagnostic with the current frames. -/
def report (d : Diagnostic) : Action Unit := do
  addError d (← get).frames

/-- Runs an action and records the diagnostic that it ends with, if it does. -/
def recording (action : Action Unit) : Action Unit :=
  tryCatch action fun
    | .diagnostic d => report d
    | failure => throw failure

end Repository

end NodeForest

/-!
# Repository options

The switches of a repository. Where they are read from or written to a configuration, a limit of
zero stands for no limit.
-/

namespace NodeForest

structure Options where
  /-- Return errors from the failing call instead of collecting them. -/
  testing : Bool := false
  /-- Stop with all collected errors once this many have been recorded. -/
  errorLimit : Option Nat := some 100
  /-- Keep parentless nodes as roots instead of sweeping the unreferenced ones. -/
  orphansAreRoots : Bool := false
  /-- The file at which trails of callers stop. -/
  trailBoundary : Option String := none
deriving DecidableEq, Repr, Inhabited

namespace Options

/-- The limit as the number that configurations hold. -/
def limitNumber (o : Options) : Nat :=
  o.errorLimit.getD 0

/-- The limit that a number in a configuration stands for. -/
def limitOfNumber (n : Nat) : Option Nat :=
  if n = 0 then none else some n

end Options

end NodeForest

import NodeForest.Text.ByteSequences

/-!
# The size of an automaton

The automaton of a pattern reads bytes. A state takes `stateSize` units; a state that tells byte
ranges apart takes `transitionSize` more for each of them, and one that branches takes `branchSize`
more for each way on. A pattern whose automaton would exceed `sizeLimit` is refused.

Only the number of the states and the units that they take are kept. A part of an automaton is built
by adding states; its last state may be a branching one, which takes more when it is linked to what
follows.
-/

namespace NodeForest.Pattern

/-- What has been built of an automaton. -/
structure Growth where
  states : Nat := 0
  /-- What transitions and branches take. -/
  extra : Nat := 0
deriving DecidableEq, Repr, Inhabited

def stateSize : Nat := 32
def transitionSize : Nat := 8
def branchSize : Nat := 4
def sizeLimit : Nat := 10 * 1024 * 1024

namespace Growth

def size (g : Growth) : Nat :=
  g.states * stateSize + g.extra

/-- The growth, if it is within the limit. -/
def checked (g : Growth) : Option Growth :=
  if g.size ≤ sizeLimit then some g else none

end Growth

/-- A step that adds to an automaton, unless it grows too large. -/
abbrev Growing (α : Type) := StateT Growth Option α

/-- The last state of a part is a branching one. -/
abbrev Branches := Bool

/-- Adds a state that takes so much besides its own size. Its number is the result. -/
def addState (extra : Nat) : Growing Nat := fun g => do
  let g' ← { g with states := g.states + 1, extra := g.extra + extra : Growth }.checked
  return (g.states, g')

/-- Adds ways on to a branching state. -/
def addBranches (n : Nat) : Growing Unit := fun g => do
  let g ← { g with extra := g.extra + n * branchSize : Growth }.checked
  return ((), g)

/-- Links the last state of a part to what follows. -/
def link (stop : Branches) : Growing Unit :=
  if stop then addBranches 1 else pure ()

/-- Adds states that each read one byte. -/
def addBytes : Nat → Growing Branches
  | 0 => pure false
  | n + 1 => do
      let _ ← addState 0
      addBytes n

/-- Adds copies of a part, after one that ends in `stop`. -/
def addCopies (part : Growing Branches) : Nat → Branches → Growing Branches
  | 0, stop, g => some (stop, g)
  | n + 1, stop, g =>
      match part g with
      | none => none
      | some (next, g) =>
          match link stop g with
          | none => none
          | some (_, g) => addCopies part n next g

/-- Adds so many copies of a part, or an empty state for none. -/
def addExactly (part : Growing Branches) : Nat → Growing Branches
  | 0 => do
      let _ ← addState 0
      return false
  | n + 1 => do addCopies part n (← part)

/-- Adds copies of a part that may each be the last. -/
def addOptional (part : Growing Branches) : Nat → Branches → Growing Branches
  | 0, stop, g => some (stop, g)
  | n + 1, stop, g =>
      match addState 0 g with
      | none => none
      | some (_, g) =>
          match part g with
          | none => none
          | some (next, g) =>
              match (do link stop; addBranches 2 : Growing Unit) g with
              | none => none
              | some (_, g) => addOptional part n next g

/-- Adds a part that is repeated. `mayBeEmpty` says whether the part may match nothing: a loop around
such a part must not be entered by its branch. -/
def addRepeated (part : Growing Branches) (mayBeEmpty : Bool) :
    Nat → Option Nat → Growing Branches
  | 0, some 1 => do
      let _ ← addState 0
      let stop ← part
      let _ ← addState 0
      addBranches 2
      link stop
      return false
  | 0, none => do
      if mayBeEmpty then
        let stop ← part
        let _ ← addState 0
        link stop
        let _ ← addState 0
        let _ ← addState 0
        addBranches 4
        return false
      else
        let _ ← addState 0
        let stop ← part
        addBranches 1
        link stop
        return true
  | 1, none => do
      let stop ← part
      let _ ← addState 0
      link stop
      addBranches 1
      return true
  | least + 1, none => do
      let before ← addExactly part least
      let stop ← part
      let _ ← addState 0
      link before
      link stop
      addBranches 1
      return true
  | least, some most => do
      let before ← addExactly part least
      if most ≤ least then return before
      let _ ← addState 0
      let stop ← addOptional part (most - least) before
      link stop
      return false

end NodeForest.Pattern

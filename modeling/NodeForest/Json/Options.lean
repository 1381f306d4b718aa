import NodeForest.Json.Reader
import NodeForest.Json.Writer
import NodeForest.Number.Literal
import NodeForest.Options

/-!
# Options in JSON

Options are an object, in which unknown members are ignored and known ones may appear once, or the
array of their values in order. Members that are missing have their defaults. An error limit is a
natural number of 64 bits, zero for no limit.
-/

namespace NodeForest

namespace Options

def testingKey : String := "testing"
def limitKey : String := "error_limit"
def orphansKey : String := "orphans_are_roots"
def boundaryKey : String := "trail_boundary"

/-- The keys, in the order of the array form. -/
def keys : List String := [testingKey, limitKey, orphansKey, boundaryKey]

/-- The greatest number a limit can be. -/
def maxLimit : Nat := Nat.pow 2 64 - 1

/-- A natural number that is written with digits only. -/
def naturalToken? (token : String) : Option Nat :=
  let digits := token.toList
  if digits.all Char.isDigit then some (NumberLiteral.ofDigits digits) |>.filter (· ≤ maxLimit)
  else none

/-- Sets one option from its value. -/
def setJson? (o : Options) (key : String) (v : Json) : Option Options :=
  if key = testingKey then
    match v with
    | .bool b => some { o with testing := b }
    | _ => none
  else if key = limitKey then
    match v with
    | .number token => (naturalToken? token).map fun n => { o with errorLimit := limitOfNumber n }
    | _ => none
  else if key = orphansKey then
    match v with
    | .bool b => some { o with orphansAreRoots := b }
    | _ => none
  else if key = boundaryKey then
    match v with
    | .null => some { o with trailBoundary := none }
    | .text s => some { o with trailBoundary := some s }
    | _ => none
  else some o

/-- Sets the options of an object's members; `seen` are the known keys met before. -/
def setMembers? (o : Options) (seen : List String) : List (String × Json) → Option Options
  | [] => some o
  | (key, v) :: rest => do
      if seen.contains key then none
      else
        let o ← o.setJson? key v
        o.setMembers? (if keys.contains key then key :: seen else seen) rest

def ofJson? : Json → Option Options
  | .object members => ({} : Options).setMembers? [] members
  | .array items =>
      if items.length ≤ keys.length then ({} : Options).setMembers? [] (keys.zip items) else none
  | _ => none

def readJson? (s : String) : Option Options :=
  (Json.read? s).bind ofJson?

def toJson (o : Options) : Json :=
  .object [(testingKey, .bool o.testing), (limitKey, .number (toString o.limitNumber)),
    (orphansKey, .bool o.orphansAreRoots),
    (boundaryKey, (o.trailBoundary.map Json.text).getD .null)]

end Options

end NodeForest

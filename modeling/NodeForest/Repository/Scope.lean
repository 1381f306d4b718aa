import NodeForest.Repository.Basic

/-!
# Scopes and names

The root scope gives names as they are; a subscope puts its own name in front, separated by a double
colon. Each scope counts the names generated in it, so that `(name)`, `(name)1`, `(name)2`, …
appear once each.
-/

namespace NodeForest

namespace Repository

def scopeName? (r : Repository) (scope : ScopeId) : Option String :=
  r.scopes[scope.index]?.bind (·.name)

/-- A name as the scope writes it. -/
def scopedName (r : Repository) (scope : ScopeId) (name : String) : String :=
  match r.scopeName? scope with
  | some outer => outer ++ "::" ++ name
  | none => name

/-- Opens a scope inside another one. -/
def addScope (r : Repository) (parent : ScopeId) (name : String) (quals : Qualifiers) :
    ScopeId × Repository :=
  let name := qualifyName (r.scopedName parent name) quals
  (⟨r.scopes.size⟩, { r with scopes := r.scopes.push { name := some name } })

/-- The name generated for the call number `n`, from zero. -/
def generatedName (name : String) (n : Nat) : String :=
  "(" ++ name ++ ")" ++ (if n = 0 then "" else toString n)

def counter (s : Scope) (name : String) : Nat :=
  (OrderedMap.get? s.counters name).getD 0

/-- The next generated name for `name` in a scope. -/
def uniqueName (r : Repository) (scope : ScopeId) (name : String) : String × Repository :=
  match r.scopes[scope.index]? with
  | none => (generatedName name 0, r)
  | some s =>
      let n := counter s name
      let s := { s with counters := OrderedMap.insert s.counters name (n + 1) }
      (generatedName name n, { r with scopes := r.scopes.setIfInBounds scope.index s })

/-- The node with this name in a scope, registered unbound when there is none. -/
def nodeInScope (r : Repository) (scope : ScopeId) (name : String) (location : Location) :
    NodeId × Repository :=
  let name := r.scopedName scope name
  r.getOrCreate name name scope .empty location

/-- The node with a basename and qualifiers, registered unbound when there is none. -/
def qualify (r : Repository) (basename : String) (scope : ScopeId) (quals : Qualifiers)
    (location : Location) : NodeId × Repository :=
  r.getOrCreate (qualifyName basename quals) basename scope quals location

end Repository

end NodeForest

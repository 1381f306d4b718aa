/-!
# References

Nodes, scopes and repositories are referred to by numbers. A node number means something only in
the repository that issued it, so references that travel carry both.
-/

namespace NodeForest

/-- The number of a node in its repository, in order of registration. -/
structure NodeId where
  index : Nat
deriving DecidableEq, Repr, Inhabited

def NodeId.render (id : NodeId) : String :=
  "#" ++ toString id.index

/-- The identity of a repository. -/
structure RepositoryId where
  index : Nat
deriving DecidableEq, Repr, Inhabited

/-- A node and the repository it lives in. -/
structure NodeRef where
  repository : RepositoryId
  id : NodeId
deriving DecidableEq, Repr, Inhabited

/-- The number of a scope in its repository. -/
structure ScopeId where
  index : Nat
deriving DecidableEq, Repr, Inhabited

def ScopeId.root : ScopeId := ⟨0⟩

def ScopeId.render (id : ScopeId) : String :=
  "ScopeId(" ++ toString id.index ++ ")"

/-- A scope and the repository it names nodes in. -/
structure ScopeRef where
  repository : RepositoryId
  scope : ScopeId
deriving DecidableEq, Repr, Inhabited

end NodeForest

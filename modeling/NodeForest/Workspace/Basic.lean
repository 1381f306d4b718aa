import NodeForest.Definition.Expansion
import NodeForest.Group
import NodeForest.Repository.Bind

/-!
# The workspace

A workspace holds trees: repositories, each with the group of its roots. Nodes of one tree can be
mentioned in another, where they are refused, so the trees are kept together and every repository
has a number of its own. The workspace also numbers factories.

A factory is called in the workspace: it may ask about nodes of any tree and bind in any scope.
-/

namespace NodeForest

structure Tree where
  repository : Repository
  roots : Group := .roots

structure Workspace where
  /-- The trees, oldest first. -/
  trees : List Tree := []
  repositoryCount : Nat := 0
  factoryCount : Nat := 0

/-- An operation on a workspace: it may fail, and what it did before it failed stays done. -/
abbrev Work := ExceptT Failure (StateM Workspace)

namespace Workspace

def tree? (w : Workspace) (id : RepositoryId) : Option Tree :=
  w.trees.find? (·.repository.id == id)

/-- The repository with a number. A number without a tree is that of an empty repository. -/
def repository (w : Workspace) (id : RepositoryId) : Repository :=
  ((w.tree? id).map (·.repository)).getD { id, options := {} }

def updateTree (w : Workspace) (id : RepositoryId) (f : Tree → Tree) : Workspace :=
  { w with trees := w.trees.map fun t => if t.repository.id == id then f t else t }

def updateRepository (w : Workspace) (id : RepositoryId) (f : Repository → Repository) : Workspace :=
  w.updateTree id fun t => { t with repository := f t.repository }

/-- A number for a repository that has no nodes. -/
def freshRepository (w : Workspace) : RepositoryId × Workspace :=
  (⟨w.repositoryCount⟩, { w with repositoryCount := w.repositoryCount + 1 })

def freshFactory (w : Workspace) : Nat × Workspace :=
  (w.factoryCount, { w with factoryCount := w.factoryCount + 1 })

/-- Plants a new tree; gives its root scope. -/
def plant (w : Workspace) (options : Options) : ScopeRef × Workspace :=
  let (id, w) := w.freshRepository
  (⟨id, .root⟩, { w with trees := w.trees ++ [{ repository := { id, options } }] })

/-! ## Keeping nodes referenced -/

/-- A handle is kept. -/
def hold (w : Workspace) (h : Handle) : Workspace :=
  w.updateRepository h.node.repository (·.hold h.id)

/-- A handle that was kept is dropped. -/
def release (w : Workspace) (h : Handle) : Workspace :=
  w.updateRepository h.node.repository (·.release h.id)

def releaseAll (w : Workspace) (hs : List Handle) : Workspace :=
  hs.foldl release w

/-- Adds a handle to a group and keeps it, unless the group has one of its name. -/
def addToGroup (w : Workspace) (g : Group) (h : Handle) : Group × Workspace :=
  (g.add h, if g.contains h.name then w else w.hold h)

/-- Adds a handle to the roots of a tree. -/
def addRoot (w : Workspace) (id : RepositoryId) (h : Handle) : Workspace :=
  match w.tree? id with
  | none => w
  | some t =>
      let (roots, w) := w.addToGroup t.roots h
      w.updateTree id ({ · with roots })

/-- Fells all trees but the oldest. What they kept as roots, in whichever tree it stands, is given
up. -/
def fellOthers (w : Workspace) : Workspace :=
  let w := w.releaseAll ((w.trees.drop 1).flatMap (·.roots.handles))
  { w with trees := w.trees.take 1 }

end Workspace

/-! ## Operations on one repository -/

/-- Runs an operation on the repository with a number; its failure is given as a value. -/
def attemptIn {α : Type} (id : RepositoryId) (action : Action α) :
    StateM Workspace (Except Failure α) := do
  let w ← get
  let (outcome, r) := action.run (w.repository id)
  set (w.updateRepository id fun _ => r)
  return outcome

/-- Runs an operation on the repository with a number. -/
def actIn {α : Type} (id : RepositoryId) (action : Action α) : Work α :=
  ExceptT.mk (attemptIn id action)

/-- Reads something off the repository with a number. -/
def readIn {α : Type} (id : RepositoryId) (read : Repository → α) : Work α := do
  return read ((← get).repository id)

/-- The node that an operation gives as a child, or nothing if it fails. -/
def nodeOrEmpty (id : RepositoryId) (action : Action NodeId) : StateM Workspace Child := do
  match ← attemptIn id action with
  | .ok node => return .node ⟨id, node⟩
  | .error _ => return .empty

/-- Factories see and bind the nodes of the workspace. -/
def factoryHost : FactoryHost (StateM Workspace) where
  bound node := return ((← get).repository node.repository).isBound node.id
  adopt scope node location :=
    nodeOrEmpty scope.repository (Repository.adoptNode node location)
  bind scope argument location :=
    nodeOrEmpty scope.repository (Repository.bindAnonymous scope.scope argument location)

/-- The child with its factories called. -/
def Child.expandHere (c : Child) : Work Child :=
  ExceptT.lift (c.expand factoryHost)

end NodeForest

import NodeForest.Repository.Report
import NodeForest.Repository.Scope

/-!
# The store

The store keeps a repository in the pieces that it is made of. A slot has one field for each part of
a definition, to be written one after the other when the node is bound, and the names have a map of
their own, in the order of registration. Slots of removed nodes are emptied first and dropped from
the map and the lists later, so between the two the pieces do not agree.

What is not kept in pieces, such as scopes and diagnostics, is as in a `Repository`.
-/

namespace NodeForest

/-- The state of one node. -/
structure Slot where
  name : String
  basename : String
  scope : ScopeId
  quals : Qualifiers
  className : Option String := none
  parents : List NodeId := []
  children : ChildList := .nil
  steps : ChildList := .nil
  record : Option Record := none
  index : Option Nat := none
  definedAt : Location
  trail : List Location
  boundAt : Option Location := none
  bindTrail : List Location := []
  childIndices : Option ChildIndices := none
  stepIndices : List Int := []

namespace Slot

/-- A node is bound when it has a record, which is written last. -/
def isBound (s : Slot) : Bool :=
  s.record.isSome

def childIds (s : Slot) : List NodeId :=
  s.children.nodeIds ++ s.steps.nodeIds

/-- Where the node got its definition, or else its name. -/
def boundOrDefinedAt (s : Slot) : Location :=
  s.boundAt.getD s.definedAt

end Slot

/-- How far a store has come. -/
inductive ResolveState where
  | building
  | resolved
  | failed
deriving DecidableEq, Repr

structure Store where
  id : RepositoryId
  options : Options
  slots : Array (Option Slot) := #[]
  /-- The nodes by name, in the order of registration. -/
  names : OrderedMap String NodeId := []
  scopes : Array Scope := #[{}]
  constants : OrderedMap Constant NodeId := []
  errors : List Diagnostic := []
  frames : List Location := []
  sinks : List NodeId := []
  spigots : List NodeId := []
  mux : Option NodeId := none
  pinned : List NodeId := []
  held : List NodeId := []
  roots : Option (OrderedMap String NodeId) := none
  state : ResolveState := .building

/-- An operation on a store: it may fail, and what it did before it failed stays done. -/
abbrev Procedure := ExceptT Failure (StateM Store)

namespace Store

/-- A new store. -/
def start (id : RepositoryId) (options : Options) : Store :=
  { id, options }

def get? (s : Store) (id : NodeId) : Option Slot :=
  s.slots[id.index]?.join

def isLive (s : Store) (id : NodeId) : Bool :=
  (s.get? id).isSome

def isBound (s : Store) (id : NodeId) : Bool :=
  (s.get? id).any (·.isBound)

/-- The node registered under a name. -/
def lookup? (s : Store) (name : String) : Option NodeId :=
  OrderedMap.get? s.names name

def lookupBound? (s : Store) (name : String) : Option NodeId :=
  (s.lookup? name).filter s.isBound

/-- The nodes in the order of the names. -/
def entries (s : Store) : List (NodeId × Slot) :=
  (OrderedMap.values s.names).filterMap fun id => (s.get? id).map (id, ·)

def nameInMessage (s : Store) (id : NodeId) : String :=
  ((s.get? id).map (·.name)).getD ""

def child (s : Store) (id : NodeId) : Child :=
  .node ⟨s.id, id⟩

def childIdsOf (s : Store) (id : NodeId) : List NodeId :=
  ((s.get? id).map (·.childIds)).getD []

def scopeOf (s : Store) (id : NodeId) : ScopeId :=
  ((s.get? id).map (·.scope)).getD .root

/-- A handle outside, or a pin, keeps the node. -/
def isReferenced (s : Store) (id : NodeId) : Bool :=
  s.held.contains id || s.pinned.contains id

/-! ## Slots -/

/-- Changes the slot of a live node. -/
def update (s : Store) (id : NodeId) (f : Slot → Slot) : Store :=
  { s with slots := s.slots.modify id.index (·.map f) }

def updateAll (s : Store) (ids : List NodeId) (f : Slot → Slot) : Store :=
  ids.foldl (fun s id => s.update id f) s

theorem get?_update (s : Store) (id : NodeId) (f : Slot → Slot) (other : NodeId) :
    (s.update id f).get? other = if other = id then (s.get? other).map f else s.get? other := by
  obtain ⟨i⟩ := id
  obtain ⟨j⟩ := other
  simp only [get?, update, Array.getElem?_modify, NodeId.mk.injEq, eq_comm (a := j) (b := i)]
  split
  · cases s.slots[j]? <;> rfl
  · rfl

theorem isLive_update (s : Store) (id : NodeId) (f : Slot → Slot) (other : NodeId) :
    (s.update id f).isLive other = s.isLive other := by
  simp only [isLive, get?_update]
  split <;> simp

theorem slots_size_update (s : Store) (id : NodeId) (f : Slot → Slot) :
    (s.update id f).slots.size = s.slots.size := by
  simp [update]

theorem isLive_updateAll (s : Store) (ids : List NodeId) (f : Slot → Slot) (other : NodeId) :
    (s.updateAll ids f).isLive other = s.isLive other := by
  induction ids generalizing s with
  | nil => rfl
  | cons id ids ih => rw [updateAll, List.foldl_cons, ← updateAll, ih, isLive_update]

theorem slots_size_updateAll (s : Store) (ids : List NodeId) (f : Slot → Slot) :
    (s.updateAll ids f).slots.size = s.slots.size := by
  induction ids generalizing s with
  | nil => rfl
  | cons id ids ih => rw [updateAll, List.foldl_cons, ← updateAll, ih, slots_size_update]

/-- Adds `parent` to the parents of each of `children`. -/
def addParent (s : Store) (parent : NodeId) (children : List NodeId) : Store :=
  s.updateAll children fun slot =>
    if slot.parents.contains parent then slot
    else { slot with parents := slot.parents ++ [parent] }

/-- Fills a new slot, unbound, and enters its name. -/
def register (s : Store) (name basename : String) (scope : ScopeId) (quals : Qualifiers)
    (location : Location) : Store :=
  { s with
    slots := s.slots.push (some
      { name, basename, scope, quals, definedAt := location, trail := s.frames })
    names := OrderedMap.insert s.names name ⟨s.slots.size⟩ }

/-- The node registered under a name, or a new one. -/
def getOrCreate (s : Store) (name basename : String) (scope : ScopeId) (quals : Qualifiers)
    (location : Location) : NodeId × Store :=
  match s.lookup? name with
  | some id => (id, s)
  | none => (⟨s.slots.size⟩, s.register name basename scope quals location)

/-! ## Scopes -/

def scopeName? (s : Store) (scope : ScopeId) : Option String :=
  s.scopes[scope.index]?.bind (·.name)

def scopedName (s : Store) (scope : ScopeId) (name : String) : String :=
  match s.scopeName? scope with
  | some outer => outer ++ "::" ++ name
  | none => name

def addScope (s : Store) (parent : ScopeId) (name : String) (quals : Qualifiers) :
    ScopeId × Store :=
  let name := qualifyName (s.scopedName parent name) quals
  (⟨s.scopes.size⟩, { s with scopes := s.scopes.push { name := some name } })

/-- The next generated name for `name` in a scope. -/
def uniqueName (s : Store) (scope : ScopeId) (name : String) : String × Store :=
  match s.scopes[scope.index]? with
  | none => (Repository.generatedName name 0, s)
  | some data =>
      let n := Repository.counter data name
      let data := { data with counters := OrderedMap.insert data.counters name (n + 1) }
      (Repository.generatedName name n,
        { s with scopes := s.scopes.setIfInBounds scope.index data })

def nodeInScope (s : Store) (scope : ScopeId) (name : String) (location : Location) :
    NodeId × Store :=
  let name := s.scopedName scope name
  s.getOrCreate name name scope .empty location

def qualify (s : Store) (basename : String) (scope : ScopeId) (quals : Qualifiers)
    (location : Location) : NodeId × Store :=
  s.getOrCreate (qualifyName basename quals) basename scope quals location

/-! ## References and frames -/

/-- Keeps a node referenced from inside. Removed nodes cannot be pinned. -/
def pin (s : Store) (id : NodeId) : Store :=
  if s.isLive id && !s.pinned.contains id then { s with pinned := s.pinned ++ [id] } else s

def unpin (s : Store) (id : NodeId) : Store :=
  { s with pinned := s.pinned.filter (· != id) }

def hold (s : Store) (id : NodeId) : Store :=
  { s with held := id :: s.held }

def release (s : Store) (id : NodeId) : Store :=
  { s with held := s.held.erase id }

def pushFrame (s : Store) (location : Location) : Store :=
  { s with frames := s.frames ++ [location] }

def popFrame (s : Store) : Store :=
  { s with frames := s.frames.dropLast }

/-! ## Diagnostics -/

def limitReached (s : Store) : Bool :=
  match s.options.errorLimit with
  | some limit => limit ≤ s.errors.length
  | none => false

/-- Records a diagnostic with the frames of a trail. -/
def addError (d : Diagnostic) (trail : List Location) : Procedure Unit := do
  let s ← get
  if s.options.testing then throw (.diagnostic d)
  let s := { s with errors := s.errors ++ Repository.recorded s.options d trail }
  set s
  if s.limitReached then throw (.cumulative s.errors)

/-- Records a diagnostic with the current frames. -/
def report (d : Diagnostic) : Procedure Unit := do
  addError d (← get).frames

/-- Runs a procedure and records the diagnostic that it ends with, if it does. -/
def recording (procedure : Procedure Unit) : Procedure Unit :=
  tryCatch procedure fun
    | .diagnostic d => report d
    | failure => throw failure

end Store

end NodeForest

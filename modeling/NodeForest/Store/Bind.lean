import NodeForest.Repository.Bind
import NodeForest.Store.Basic

/-!
# Binding in a store

Binding a slot goes through the same stages as binding a node of a repository, and may be broken off
at the same places: while the children are resolved, before anything is written to the slot. The
fields are written in this order: the class, the lists and the place of the bind; then the parents
of the children; then the lists of sinks and spigots or the mux; and the record last.
-/

namespace NodeForest

namespace Store

def noteClass (s : Store) (id : NodeId) (className : String) : Store :=
  if className = Repository.sinkClass then { s with sinks := s.sinks ++ [id] }
  else if className = Repository.spigotClass then { s with spigots := s.spigots ++ [id] }
  else if className = Repository.muxClass then { s with mux := some id }
  else s

/-- Attaches a definition whose children are resolved. -/
def attach (id : NodeId) (d : Definition) (location : Location) : Procedure Unit := do
  let s ← get
  match s.get? id with
  | none => return
  | some slot =>
      match slot.record with
      | some record =>
          if !(Record.equal record d.record && slot.children.equal d.children &&
              slot.steps.equal d.steps) then
            throw (.diagnostic (.nodeRedefined slot.name location slot.boundOrDefinedAt))
      | none => do
          modify (·.update id fun slot =>
            { slot with
              className := some d.nodeClass.fullName, children := d.children, steps := d.steps
              boundAt := some location, bindTrail := s.frames })
          modify fun s => s.addParent id (s.childIdsOf id)
          modify (·.noteClass id d.nodeClass.fullName)
          modify (·.update id ({ · with record := some d.record }))

/-- The first free name for the node of a constant. More names than slots are tried. -/
def freeConstantName (s : Store) (base : String) : String :=
  match (List.range (s.slots.size + 1)).find? fun n =>
      (s.lookup? (Repository.constantName base n)).isNone with
  | some n => Repository.constantName base n
  | none => base

/-- The shared node of a constant, in the root scope. It is entered in the cache after the bind, and
not at all if that fails. -/
def makeConstant (value : Constant) (location : Location) : Procedure NodeId := do
  let s ← get
  match (OrderedMap.get? s.constants value.key).filter s.isLive with
  | some id => return id
  | none =>
      let name := s.freeConstantName ("c" ++ value.render)
      let id ← modifyGet fun s => s.getOrCreate name name .root .empty location
      let d := Definition.ofConstant value
      recording (attach id { d with children := .resolvedNil, steps := .resolvedNil } location)
      modify fun s => { s with constants := OrderedMap.insert s.constants value.key id }
      return id

/-- The slots of the nodes among resolved children, `none` for what is not a node. -/
def childSlots (s : Store) (children : ChildList) : List (Option Slot) :=
  children.entries.map fun e => e.child.nodeId?.bind s.get?

def mergedQuals (s : Store) (children : ChildList) : Qualifiers :=
  (s.childSlots children).foldl
    (fun quals slot =>
      match slot with
      | some slot => quals.merged slot.quals .merge
      | none => quals)
    .empty

def childBasenames (s : Store) (children : ChildList) : List String :=
  (s.childSlots children).map fun slot => (slot.map (·.basename)).getD ""

/-- The node for an anonymous definition with resolved children. -/
def anonymousNode (s : Store) (scope : ScopeId) (nodeClass : NodeClass) (children : ChildList)
    (location : Location) : NodeId × Store :=
  let className := Text.lowercase nodeClass.name
  if children.isEmpty then
    let (name, s) := s.uniqueName scope className
    s.nodeInScope scope name location
  else
    let basename := s.scopedName scope
      (className ++ "(" ++ ",".intercalate (s.childBasenames children) ++ ")")
    s.qualify basename scope (s.mergedQuals children) location

def findForeign? (s : Store) (entries : List Entry) : Option Entry :=
  entries.find? fun e => e.child.node?.any (·.repository != s.id)

def illegalChild {α : Type} (label : Label) (kind : String) (location : Location) : Procedure α :=
  throw (.diagnostic (.illegalChild label kind location))

section

variable (location : Location)

mutual

def resolveChild (scope : ScopeId) (label : Label) : Child → Procedure Child
  | .empty => return .empty
  | .node ref => do
      let s ← get
      if ref.repository != s.id then illegalChild label Repository.foreignKind location
      if !s.isLive ref.id then illegalChild label Repository.removedKind location
      return .node ref
  | .name name => do
      let s ← get
      match s.lookupBound? name with
      | some id => return s.child id
      | none => throw (.diagnostic (.childNotFound label name location))
  | .constant value => do
      let id ← makeConstant value location
      return (← get).child id
  | .pending d => do
      let id ← defineAnonymous scope d
      return (← get).child id
  | .factory id body => illegalChild label (Child.factory id body).kind location
termination_by structural c => c

def resolveEntry (scope : ScopeId) : Entry → Procedure Entry
  | ⟨label, child⟩ => return ⟨label, ← resolveChild scope label child⟩
termination_by structural e => e

def resolveEntries (scope : ScopeId) : List Entry → Procedure (List Entry)
  | [] => return []
  | e :: rest => do
      let e ← resolveEntry scope e
      return e :: (← resolveEntries scope rest)
termination_by structural es => es

def resolveChildren (scope : ScopeId) : ChildList → Procedure ChildList
  | ⟨entries, keyed, resolved⟩ => do
      if resolved then
        match (← get).findForeign? entries with
        | some e => illegalChild e.label Repository.foreignKind location
        | none => return ⟨entries, keyed, true⟩
      else return ⟨← resolveEntries scope entries, keyed, true⟩
termination_by structural l => l

def defineAnonymous (scope : ScopeId) : Definition → Procedure NodeId
  | ⟨nodeClass, children, steps, record⟩ => do
      let children ← resolveChildren scope children
      let id ← modifyGet fun s => s.anonymousNode scope nodeClass children location
      recording do
        let steps ← resolveChildren ((← get).scopeOf id) steps
        attach id (.ofParts nodeClass children steps record) location
      return id
termination_by structural d => d

end

end

/-- Binds a node, returning the diagnostic of a failure. -/
def tryBind (id : NodeId) (argument : Except BuildError Child) (location : Location) :
    Procedure Unit := do
  let s ← get
  let name := s.nameInMessage id
  match argument with
  | .error source => throw (.diagnostic (.definition name source location))
  | .ok child =>
      match child.definition? with
      | none => throw (.diagnostic (.unbindable name child.kind location))
      | some d =>
          match s.get? id with
          | none => throw (.diagnostic (.unboundNode name "bind" location))
          | some slot => do
              let children ← resolveChildren location slot.scope d.children
              let steps ← resolveChildren location slot.scope d.steps
              attach id { d with children, steps } location

/-- Binds a node, recording the diagnostic of a failure. -/
def bind (id : NodeId) (argument : Except BuildError Child) (location : Location) :
    Procedure Unit :=
  recording (tryBind id argument location)

/-- Binds an argument, its factories having been called, under a generated name. -/
def bindAnonymous (scope : ScopeId) (argument : Child) (location : Location) : Procedure NodeId :=
  match argument.definition? with
  | some d => defineAnonymous location scope d
  | none =>
      throw (.diagnostic (.unbindable Repository.anonymousName argument.kind location))

/-- Appends children to one of the lists. -/
def extendSlot (role : Repository.ChildRole) (children : List Child) (slot : Slot) : Slot :=
  match role with
  | .child => { slot with children := slot.children.push children }
  | .step => { slot with steps := slot.steps.push children }

/-- Appends children to a bound node: first to its list, then the node to their parents. -/
def extendChildren (role : Repository.ChildRole) (id : NodeId) (children : List Child)
    (location : Location) : Procedure Unit := do
  let s ← get
  match (s.get? id).filter (·.isBound) with
  | none => throw (.diagnostic (.uninitializedNode (s.nameInMessage id) location))
  | some slot => do
      let resolved ← resolveChildren location slot.scope (.positional children)
      modify (·.update id (extendSlot role (resolved.entries.map (·.child))))
      modify (·.addParent id resolved.nodeIds)

/-- Sets fields of a bound node's record. -/
def setOptions (id : NodeId) (options : List (String × Value)) (location : Location) :
    Procedure Unit := do
  let s ← get
  if !s.isBound id then
    throw (.diagnostic (.unboundNode (s.nameInMessage id) "set_options" location))
  modify (·.update id fun slot =>
    { slot with record := slot.record.map (OrderedMap.insertAll · options) })

end Store

end NodeForest

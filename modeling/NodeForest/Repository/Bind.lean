import NodeForest.Definition.Equality
import NodeForest.Repository.Report
import NodeForest.Repository.Scope
import NodeForest.Text.Lowercase

/-!
# Binding

Binding attaches a definition to a named node. The children are resolved first, from left to right:

* a node is kept, if it is a live node of this repository;
* a name is looked up among the bound nodes;
* a number becomes the shared node of its constant;
* a nested definition is bound to a node of its own, named after its class and children;
* a factory is refused: factories are called before a definition gets here.

Binding a bound node again is accepted when nothing changes. A named bind records its diagnostics
and goes on; an anonymous bind returns those of its children.
-/

namespace NodeForest

namespace Repository

def sinkClass : String := "MeqSink"
def spigotClass : String := "MeqSpigot"
def muxClass : String := "MeqVisDataMux"

def foreignKind : String := "node of another repository"
def removedKind : String := "removed node"

/-- Notes a node that has just been bound among the sinks, the spigots or as the mux. -/
def noteClass (r : Repository) (id : NodeId) (className : String) : Repository :=
  if className = sinkClass then { r with sinks := r.sinks ++ [id] }
  else if className = spigotClass then { r with spigots := r.spigots ++ [id] }
  else if className = muxClass then { r with mux := some id }
  else r

/-- The binding of a node is the one that a definition with resolved children would give. -/
def sameBinding (b : Binding) (children steps : ChildList) (record : Record) : Bool :=
  Record.equal b.record record && b.children.equal children && b.steps.equal steps

/-- Attaches a definition whose children are resolved. -/
def attach (id : NodeId) (d : Definition) (location : Location) : Action Unit := do
  let r ← get
  match r.get? id with
  | none => return
  | some node =>
      match node.binding with
      | some b =>
          if !sameBinding b d.children d.steps d.record then
            throw (.diagnostic (.nodeRedefined node.name location b.boundAt))
      | none =>
          let b : Binding :=
            { className := d.nodeClass.fullName, children := d.children, steps := d.steps,
              record := d.record, boundAt := location, trail := r.frames }
          set (((r.update id ({ · with binding := some b })).addParent id b.childIds).noteClass id
            b.className)

/-- Names for the node of a constant: its text, then the text with a count. -/
def constantName (base : String) (n : Nat) : String :=
  if n = 0 then base else base ++ toString n

/-- The first of these names that is free. More names than nodes are tried, so one is. -/
def freeConstantName (r : Repository) (base : String) : String :=
  match (List.range (r.nodes.size + 1)).find? fun n => (r.lookup? (constantName base n)).isNone with
  | some n => constantName base n
  | none => base

/-- The shared node of a constant, in the root scope. -/
def makeConstant (value : Constant) (location : Location) : Action NodeId := do
  let r ← get
  match (OrderedMap.get? r.constants value.key).filter r.isLive with
  | some id => return id
  | none =>
      let name := r.freeConstantName ("c" ++ value.render)
      let id ← modifyGet fun r => r.getOrCreate name name .root .empty location
      let d := Definition.ofConstant value
      recording (attach id { d with children := .resolvedNil, steps := .resolvedNil } location)
      modify fun r => { r with constants := OrderedMap.insert r.constants value.key id }
      return id

/-- The qualifiers of the nodes among resolved children, merged from left to right. -/
def mergedQuals (r : Repository) (children : ChildList) : Qualifiers :=
  children.entries.foldl
    (fun quals e =>
      match e.child.nodeId?.bind r.get? with
      | some node => quals.merged node.quals .merge
      | none => quals)
    .empty

/-- The basenames of resolved children, empty for those that are not nodes. -/
def childBasenames (r : Repository) (children : ChildList) : List String :=
  children.entries.map fun e =>
    match e.child.nodeId?.bind r.get? with
    | some node => node.basename
    | none => ""

/-- The node for an anonymous definition with resolved children: without children a new one under a
generated name, else the one named after the class and the children. -/
def anonymousNode (r : Repository) (scope : ScopeId) (nodeClass : NodeClass) (children : ChildList)
    (location : Location) : NodeId × Repository :=
  let className := Text.lowercase nodeClass.name
  if children.isEmpty then
    let (name, r) := r.uniqueName scope className
    r.nodeInScope scope name location
  else
    let basename := r.scopedName scope
      (className ++ "(" ++ ",".intercalate (r.childBasenames children) ++ ")")
    r.qualify basename scope (r.mergedQuals children) location

/-- The scope that a node was registered in. -/
def scopeOf (r : Repository) (id : NodeId) : ScopeId :=
  ((r.get? id).map (·.scope)).getD .root

/-- The first entry that is a node of another repository. -/
def findForeign? (r : Repository) (entries : List Entry) : Option Entry :=
  entries.find? fun e => e.child.node?.any (·.repository != r.id)

def illegalChild {α : Type} (label : Label) (kind : String) (location : Location) : Action α :=
  throw (.diagnostic (.illegalChild label kind location))

section

variable (location : Location)

mutual

/-- The node or empty place that a child stands for. -/
def resolveChild (scope : ScopeId) (label : Label) : Child → Action Child
  | .empty => return .empty
  | .node ref => do
      let r ← get
      if ref.repository != r.id then illegalChild label foreignKind location
      if !r.isLive ref.id then illegalChild label removedKind location
      return .node ref
  | .name name => do
      let r ← get
      match r.lookupBound? name with
      | some id => return r.child id
      | none => throw (.diagnostic (.childNotFound label name location))
  | .constant value => do
      let id ← makeConstant value location
      return (← get).child id
  | .pending d => do
      let id ← defineAnonymous scope d
      return (← get).child id
  | .factory id body => illegalChild label (Child.factory id body).kind location
termination_by structural c => c

def resolveEntry (scope : ScopeId) : Entry → Action Entry
  | ⟨label, child⟩ => return ⟨label, ← resolveChild scope label child⟩
termination_by structural e => e

def resolveEntries (scope : ScopeId) : List Entry → Action (List Entry)
  | [] => return []
  | e :: rest => do
      let e ← resolveEntry scope e
      return e :: (← resolveEntries scope rest)
termination_by structural es => es

/-- Resolves every child of a list. A list that is resolved already is only checked for nodes of
other repositories. -/
def resolveChildren (scope : ScopeId) : ChildList → Action ChildList
  | ⟨entries, keyed, resolved⟩ => do
      if resolved then
        match (← get).findForeign? entries with
        | some e => illegalChild e.label foreignKind location
        | none => return ⟨entries, keyed, true⟩
      else return ⟨← resolveEntries scope entries, keyed, true⟩
termination_by structural l => l

/-- Binds a definition under a generated name. Diagnostics of its children are returned, those of
the bind itself and of its step-children are recorded. The step-children are resolved in the scope
of the node, which is another one when the name was taken there first. -/
def defineAnonymous (scope : ScopeId) : Definition → Action NodeId
  | ⟨nodeClass, children, steps, record⟩ => do
      let children ← resolveChildren scope children
      let id ← modifyGet fun r => r.anonymousNode scope nodeClass children location
      recording do
        let steps ← resolveChildren ((← get).scopeOf id) steps
        attach id (.ofParts nodeClass children steps record) location
      return id
termination_by structural d => d

end

end

/-- Binds a node, returning the diagnostic of a failure. -/
def tryBind (id : NodeId) (argument : Except BuildError Child) (location : Location) :
    Action Unit := do
  let r ← get
  let name := r.nameInMessage id
  match argument with
  | .error source => throw (.diagnostic (.definition name source location))
  | .ok child =>
      match child.definition? with
      | none => throw (.diagnostic (.unbindable name child.kind location))
      | some d =>
          match r.get? id with
          | none => throw (.diagnostic (.unboundNode name "bind" location))
          | some node => do
              let children ← resolveChildren location node.scope d.children
              let steps ← resolveChildren location node.scope d.steps
              attach id { d with children, steps } location

/-- Binds a node, recording the diagnostic of a failure. -/
def bind (id : NodeId) (argument : Except BuildError Child) (location : Location) : Action Unit :=
  recording (tryBind id argument location)

/-- The name that messages use for a node that has none yet. -/
def anonymousName : String := "(anonymous)"

/-- Binds an argument, its factories having been called, under a generated name. -/
def bindAnonymous (scope : ScopeId) (argument : Child) (location : Location) : Action NodeId :=
  match argument.definition? with
  | some d => defineAnonymous location scope d
  | none => throw (.diagnostic (.unbindable anonymousName argument.kind location))

/-- Binds a node anonymously, which is the node itself if it belongs here. -/
def adoptNode (node : NodeRef) (location : Location) : Action NodeId := do
  if node.repository != (← get).id then
    throw (.diagnostic (.unbindable anonymousName foreignKind location))
  return node.id

/-- Which of the two lists of a bound node is extended. -/
inductive ChildRole where
  | child
  | step
deriving DecidableEq, Repr

/-- Appends resolved children to one of the lists. -/
def extendBinding (role : ChildRole) (children : List Child) (b : Binding) : Binding :=
  match role with
  | .child => { b with children := b.children.push children }
  | .step => { b with steps := b.steps.push children }

/-- Appends children to a bound node. -/
def extendChildren (role : ChildRole) (id : NodeId) (children : List Child) (location : Location) :
    Action Unit := do
  let r ← get
  match (r.get? id).filter (·.isBound) with
  | none => throw (.diagnostic (.uninitializedNode (r.nameInMessage id) location))
  | some node => do
      let resolved ← resolveChildren location node.scope (.positional children)
      let added := resolved.entries.map (·.child)
      modify fun r =>
        (r.update id fun node =>
            { node with binding := node.binding.map (extendBinding role added) }).addParent id
          resolved.nodeIds

def addChildren : NodeId → List Child → Location → Action Unit :=
  extendChildren .child

def addSteps : NodeId → List Child → Location → Action Unit :=
  extendChildren .step

/-- Sets fields of a bound node's record. -/
def setOptions (id : NodeId) (options : List (String × Value)) (location : Location) :
    Action Unit := do
  let r ← get
  if !r.isBound id then
    throw (.diagnostic (.unboundNode (r.nameInMessage id) "set_options" location))
  set (r.update id fun node =>
    { node with binding := node.binding.map fun b =>
        { b with record := OrderedMap.insertAll b.record options } })

end Repository

end NodeForest

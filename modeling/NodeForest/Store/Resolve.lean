import NodeForest.Repository.Mux
import NodeForest.Store.Bind

/-!
# Resolving a store

The stages are those of a repository. Here a removed node leaves its slot at once, and the name map,
the cache of constants, the sinks and the spigots when they are compacted. The sweep visits one node
at a time, and the numbers are written in two passes: the first numbers the slots, the second writes
the numbers of the children.
-/

namespace NodeForest

/-- A step that is run before roots and orphans are told apart. -/
abbrev Store.Hook (α : Type) := Location → Procedure α

/-- The slot with a parent removed. -/
def Slot.withoutParent (s : Slot) (parent : NodeId) : Slot :=
  { s with parents := s.parents.erase parent }

namespace Store

/-! ## Children that were never bound -/

def uninitializedFindings (s : Store) (parent : Slot) (label : Label) (child : NodeId) :
    List Repository.Finding :=
  let child? := s.get? child
  let finding : Repository.Finding :=
    ⟨.uninitializedChild label ((child?.map (·.name)).getD child.render) parent.name
      parent.boundOrDefinedAt, parent.bindTrail⟩
  match child?.filter fun c => !c.definedAt.sameLine parent.definedAt with
  | some c => [finding, ⟨.calledFrom "child referenced here" c.definedAt, c.trail⟩]
  | none => [finding]

def findingsOf (s : Store) (parent : Slot) : List Repository.Finding :=
  (parent.children.entries ++ parent.steps.entries).flatMap fun e =>
    match e.child.nodeId? with
    | some child => if s.isBound child then [] else s.uninitializedFindings parent e.label child
    | none => []

def findings (s : Store) : List Repository.Finding :=
  (s.entries.filter (·.2.isBound)).flatMap fun entry => s.findingsOf entry.2

def checkChildren : Procedure Unit := do
  (← get).findings.forM fun f => addError f.diagnostic f.trail

/-! ## The data mux -/

def hasMuxParent (s : Store) (slot : Slot) : Bool :=
  slot.parents.any fun parent => ((s.get? parent).bind (·.className)) == some Repository.muxClass

def withoutMux (s : Store) (ids : List NodeId) : List Child :=
  (ids.filter fun id => (s.get? id).any (!s.hasMuxParent ·)).map s.child

/-- The mux last bound, or a new one. -/
def obtainMux (location : Location) : Procedure NodeId := do
  match (← get).mux with
  | some mux => return mux
  | none => do
      let mux ← modifyGet fun s => s.nodeInScope .root Repository.muxName location
      bind mux (.ok (.pending Repository.muxDefinition)) location
      return mux

/-- The hook that does nothing. -/
def Hook.idle : Hook Unit := fun _ => return

/-- The hook that connects sinks and spigots. -/
def Hook.mux : Hook Unit := fun location => do
  let s ← get
  if s.sinks.isEmpty && s.spigots.isEmpty then
    match s.mux with
    | some mux => modify (·.unpin mux)
    | none => return
  else
    let mux ← obtainMux location
    modify (·.pin mux)
    let s ← get
    let sinks := s.withoutMux s.sinks
    let spigots := s.withoutMux s.spigots
    extendChildren .child mux sinks location
    extendChildren .step mux spigots location

/-! ## Removing nodes -/

/-- Empties a slot. -/
def remove (s : Store) (id : NodeId) : Store :=
  { s with
    slots := s.slots.setIfInBounds id.index none
    pinned := s.pinned.filter (· != id)
    mux := s.mux.filter (· != id) }

/-- Removes a node and unlinks it from its children. -/
def detach (s : Store) (id : NodeId) : Store :=
  match s.get? id with
  | none => s
  | some slot => (s.remove id).updateAll slot.childIds (·.withoutParent id)

/-- Drops removed nodes from the name map and the lists that mention nodes. -/
def compact (s : Store) : Store :=
  { s with
    names := s.names.filter fun entry => s.isLive entry.2
    constants := s.constants.filter fun entry => s.isLive entry.2
    sinks := s.sinks.filter s.isLive
    spigots := s.spigots.filter s.isLive }

/-- The number of slots that are not empty. -/
def liveCount (s : Store) : Nat :=
  ((List.range s.slots.size).filter fun i => s.isLive ⟨i⟩).length

theorem get?_remove (s : Store) (id other : NodeId) :
    (s.remove id).get? other = if other = id then none else s.get? other := by
  obtain ⟨i⟩ := id
  obtain ⟨j⟩ := other
  by_cases same : i = j
  · subst same
    simp only [get?, remove, Array.getElem?_setIfInBounds_self]
    split <;> simp
  · simp [get?, remove, Array.getElem?_setIfInBounds_ne same, Ne.symm same]

theorem isLive_detach (s : Store) (id other : NodeId) :
    (s.detach id).isLive other = (s.isLive other && other != id) := by
  simp only [detach]
  split
  · next gone =>
    by_cases same : other = id
    · simp [same, isLive, gone]
    · simp [same]
  · rw [isLive_updateAll, isLive, get?_remove]
    by_cases same : other = id
    · simp [same]
    · simp [same, isLive]

theorem slots_size_detach (s : Store) (id : NodeId) : (s.detach id).slots.size = s.slots.size := by
  simp only [detach]
  split
  · rfl
  · simp [slots_size_updateAll, remove]

theorem liveCount_detach_lt {s : Store} {id : NodeId} {slot : Slot} (here : s.get? id = some slot) :
    (s.detach id).liveCount < s.liveCount := by
  have live : s.isLive id := by rw [isLive, here]; rfl
  have inside : id.index < s.slots.size := by
    by_cases inside : id.index < s.slots.size
    · exact inside
    · simp [get?, inside] at here
  rw [liveCount, liveCount, slots_size_detach]
  simp only [isLive_detach, Bool.and_comm, ← List.filter_filter]
  rw [List.length_filter_lt_length_iff_exists]
  exact ⟨id.index, by simp [inside, live]⟩

/-- Visits nodes, the last to be found first. One that has parents, or is gone, is passed; one that
is held becomes a root; any other is removed, and its children are visited next. -/
def sweep (s : Store) (roots : OrderedMap String NodeId) :
    List NodeId → Store × OrderedMap String NodeId
  | [] => (s, roots)
  | id :: rest =>
      match _here : s.get? id with
      | none => sweep s roots rest
      | some slot =>
          if !slot.parents.isEmpty then sweep s roots rest
          else if s.isReferenced id then sweep s (OrderedMap.insert roots slot.name id) rest
          else sweep (s.detach id) roots (slot.childIds ++ rest)
termination_by pending => (s.liveCount, pending.length)
decreasing_by
  · exact .right _ (by simp)
  · exact .right _ (by simp)
  · exact .right _ (by simp)
  · exact .left _ _ (liveCount_detach_lt _here)

/-- The bound nodes without parents, in the order of the names. -/
def parentless (s : Store) : List (NodeId × Slot) :=
  s.entries.filter fun entry => entry.2.isBound && entry.2.parents.isEmpty

/-- Removes every node that was never bound. -/
def removeUnbound (s : Store) : Store :=
  ((s.entries.filter (!·.2.isBound)).foldl (fun s entry => s.detach entry.1) s).compact

/-- Removes unbound nodes and orphans; gives the roots that remain. -/
def settle (s : Store) : Store × OrderedMap String NodeId :=
  let candidates := s.parentless
  let s := s.removeUnbound
  if s.options.orphansAreRoots then
    (s, OrderedMap.ofList (candidates.map fun entry => (entry.2.name, entry.1)))
  else
    let (s, roots) := s.sweep [] (candidates.map Prod.fst)
    (s.compact, roots)

/-! ## Numbering -/

/-- The description of a node: its name, class, and where it was named. -/
def describe (slot : Slot) : String :=
  let className := slot.className.getD ""
  s!"{slot.name}:{className}:{slot.definedAt.fileName}:{slot.definedAt.line}"

/-- Numbers a slot, and its record if it has one. -/
def stamp (index : Nat) (slot : Slot) : Slot :=
  { slot with
    record := slot.record.map (OrderedMap.insertAll ·
      [(Repository.indexKey, .int index), (Repository.descriptionKey, .text (describe slot)),
        (Repository.nameKey, .text slot.name)])
    index := some index }

/-- Numbers the live nodes of a list, from `index` on. -/
def stampAll (s : Store) (index : Nat) : List NodeId → Store
  | [] => s
  | id :: rest =>
      if s.isLive id then (s.update id (stamp index)).stampAll (index + 1) rest
      else s.stampAll index rest

def assignIndices (s : Store) : Store :=
  s.stampAll 1 (OrderedMap.values s.names)

/-- The number of a child, `-1` for one that has none. -/
def indexOf (indices : OrderedMap NodeId Nat) (c : Child) : Int :=
  match c.nodeId?.bind (OrderedMap.get? indices) with
  | some index => index
  | none => -1

def indicesOf (indices : OrderedMap NodeId Nat) (l : ChildList) : List Int :=
  l.entries.map fun e => indexOf indices e.child

def childIndices (indices : OrderedMap NodeId Nat) (l : ChildList) : ChildIndices :=
  if l.keyed then
    .keyed (OrderedMap.ofList (l.entries.map fun e => (e.label.render, indexOf indices e.child)))
  else .list (indicesOf indices l)

/-- Writes the numbers of children and step-children to a record, unless there are none. -/
def writeIndices (children : ChildIndices) (steps : List Int) (record : Record) : Record :=
  let record :=
    if children.isEmpty then record
    else OrderedMap.insert record Repository.childrenKey (Repository.ChildIndices.toValue children)
  if steps.isEmpty then record
  else OrderedMap.insert record Repository.stepsKey (Repository.indexList steps)

/-- Writes the numbers of the children of a slot. -/
def rewrite (indices : OrderedMap NodeId Nat) (slot : Slot) : Slot :=
  let children := childIndices indices slot.children
  let steps := indicesOf indices slot.steps
  { slot with
    record := slot.record.map (writeIndices children steps)
    childIndices := some children
    stepIndices := steps }

def rewriteChildren (s : Store) : Store :=
  let indices := s.entries.filterMap fun entry => entry.2.index.map (entry.1, ·)
  s.updateAll (OrderedMap.values s.names) (rewrite indices)

/-! ## The pass -/

variable {α : Type}

/-- One attempt to resolve; gives the roots and what the hook gives. -/
def runResolve (hook : Hook α) (location : Location) :
    Procedure (OrderedMap String NodeId × α) := do
  checkChildren
  let given ← hook location
  let (s, roots) := (← get).settle
  set s
  if !s.errors.isEmpty then throw (.cumulative s.errors)
  modify assignIndices
  modify rewriteChildren
  return (roots, given)

/-- Resolves the store unless that has been done; a failed one fails again. -/
def resolve (hook : Hook α) (location : Location) : Procedure (Option α) := do
  let s ← get
  match s.state with
  | .resolved => return none
  | .failed => throw (.cumulative s.errors)
  | .building =>
      try
        let (roots, given) ← runResolve hook location
        modify ({ · with roots := some roots, state := .resolved })
        return some given
      catch failure =>
        modify ({ · with state := .failed })
        throw failure

end Store

end NodeForest

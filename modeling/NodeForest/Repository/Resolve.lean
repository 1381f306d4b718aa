import NodeForest.Repository.Report

/-!
# Resolving

Resolving turns a repository into its final form, once:

1. every child of a bound node that is itself unbound is reported;
2. the hook runs;
3. unbound nodes are removed, and bound nodes without parents are roots or orphans;
4. orphans that nothing holds are removed, which may make orphans of their children; the others are
   roots;
5. if anything has been reported, all of it is the outcome;
6. the nodes left are numbered from one in registration order, and the numbers of their children
   and their names are written into their records.

After a failure every further attempt fails with the same diagnostics.
-/

namespace NodeForest

/-- A step that is run before roots and orphans are told apart, at the location of the resolve. -/
abbrev Hook (α : Type) := Location → Action α

/-- The hook that does nothing. -/
def Hook.idle : Hook Unit := fun _ => return

namespace Repository

/-! ## Children that were never bound -/

/-- A diagnostic with the frames it is reported with. -/
structure Finding where
  diagnostic : Diagnostic
  trail : List Location

/-- The finding about a child node that is not bound, and a note that points to where the child was
named, unless that is on the line where the parent was. -/
def uninitializedFindings (r : Repository) (parent : Node) (label : Label) (child : NodeId) :
    List Finding :=
  let child? := r.get? child
  let finding : Finding :=
    ⟨.uninitializedChild label ((child?.map (·.name)).getD child.render) parent.name
      parent.boundOrDefinedAt, parent.bindTrail⟩
  match child?.filter fun c => !c.definedAt.sameLine parent.definedAt with
  | some c => [finding, ⟨.calledFrom "child referenced here" c.definedAt, c.trail⟩]
  | none => [finding]

def findingsOf (r : Repository) (parent : Node) : List Finding :=
  (parent.children.entries ++ parent.steps.entries).flatMap fun e =>
    match e.child.nodeId? with
    | some child => if r.isBound child then [] else r.uninitializedFindings parent e.label child
    | none => []

/-- The findings about all bound nodes, in registration order. -/
def findings (r : Repository) : List Finding :=
  (r.entries.filter (·.2.isBound)).flatMap fun entry => r.findingsOf entry.2

def reportUninitialized : Action Unit := do
  (← get).findings.forM fun f => addError f.diagnostic f.trail

/-! ## Removing nodes -/

/-- Empties the place of a node. -/
def remove (r : Repository) (id : NodeId) : Repository :=
  { r with
    nodes := r.nodes.setIfInBounds id.index none
    pinned := r.pinned.filter (· != id)
    mux := r.mux.filter (· != id) }

theorem isLive_remove (r : Repository) (id other : NodeId) :
    (r.remove id).isLive other = (r.isLive other && other != id) := by
  obtain ⟨i⟩ := id
  obtain ⟨j⟩ := other
  by_cases same : i = j
  · subst same
    simp only [isLive, get?, remove, Array.getElem?_setIfInBounds_self]
    split <;> simp
  · simp [isLive, get?, remove, Array.getElem?_setIfInBounds_ne same, Ne.symm same]

/-- Removes a node and unlinks it from its children. -/
def detach (r : Repository) (id : NodeId) : Repository :=
  match r.get? id with
  | none => r
  | some node =>
      (r.remove id).updateAll node.childIds fun n => { n with parents := n.parents.erase id }

theorem isLive_detach (r : Repository) (id other : NodeId) :
    (r.detach id).isLive other = (r.isLive other && other != id) := by
  simp only [detach]
  split
  · next gone =>
    by_cases same : other = id
    · simp [same, isLive, gone]
    · simp [same]
  · rw [isLive_updateAll, isLive_remove]

theorem nodes_size_detach (r : Repository) (id : NodeId) :
    (r.detach id).nodes.size = r.nodes.size := by
  simp only [detach]
  split
  · rfl
  · simp [nodes_size_updateAll, remove]

theorem size_detach_lt {r : Repository} {id : NodeId} (live : r.isLive id) :
    (r.detach id).size < r.size := by
  rw [size_eq, size_eq, nodes_size_detach]
  simp only [isLive_detach, Bool.and_comm, ← List.filter_filter]
  rw [List.length_filter_lt_length_iff_exists]
  exact ⟨id.index, by simp [lt_of_isLive live, live]⟩

/-- Drops removed nodes from the lists that mention nodes. -/
def compact (r : Repository) : Repository :=
  { r with
    constants := r.constants.filter fun entry => r.isLive entry.2
    sinks := r.sinks.filter r.isLive
    spigots := r.spigots.filter r.isLive }

/-- The node is live, has no parents, and nothing holds it. -/
def isOrphan (r : Repository) (id : NodeId) : Bool :=
  (r.get? id).any fun node => node.parents.isEmpty && !r.isReferenced id

theorem isLive_of_isOrphan {r : Repository} {id : NodeId} (orphan : r.isOrphan id) :
    r.isLive id := by
  simp only [isOrphan, Option.any_eq_true] at orphan
  obtain ⟨node, here, _⟩ := orphan
  simp [isLive, here]

/-- The live nodes without parents among the given ones, by name. -/
def rootsAmong (r : Repository) (ids : List NodeId) : List (String × NodeId) :=
  ids.filterMap fun id =>
    ((r.get? id).filter (·.parents.isEmpty)).map fun node => (node.name, id)

/-- Visits the nodes of `pending`, first to last. Those before the first orphan stay, and are roots
unless they have parents; the orphan is removed, and its children are visited next. -/
def sweep (r : Repository) (roots : OrderedMap String NodeId) (pending : List NodeId) :
    Repository × OrderedMap String NodeId :=
  let roots := OrderedMap.insertAll roots (r.rootsAmong (pending.takeWhile (!r.isOrphan ·)))
  match _found : pending.dropWhile (!r.isOrphan ·) with
  | [] => (r, roots)
  | id :: rest => sweep (r.detach id) roots (r.childIdsOf id ++ rest)
termination_by r.size
decreasing_by
  have orphan := List.head?_dropWhile_not (!r.isOrphan ·) pending
  rw [_found] at orphan
  exact size_detach_lt (isLive_of_isOrphan (by simpa using orphan))

/-- The bound nodes without parents, in registration order. -/
def parentless (r : Repository) : List (NodeId × Node) :=
  r.entries.filter fun entry => entry.2.isBound && entry.2.parents.isEmpty

/-- Removes every node that was never bound. -/
def removeUnbound (r : Repository) : Repository :=
  ((r.entries.filter (!·.2.isBound)).foldl (fun r entry => r.detach entry.1) r).compact

/-- Removes unbound nodes and orphans; gives the roots that remain. -/
def settle (r : Repository) : Repository × OrderedMap String NodeId :=
  let candidates := r.parentless
  let r := r.removeUnbound
  if r.options.orphansAreRoots then
    (r, OrderedMap.ofList (candidates.map fun entry => (entry.2.name, entry.1)))
  else
    let (r, roots) := r.sweep [] (candidates.map Prod.fst)
    (r.compact, roots)

/-! ## Numbering -/

def indexKey : String := "nodeindex"
def descriptionKey : String := "node_description"
def nameKey : String := "name"
def childrenKey : String := "children"
def stepsKey : String := "step_children"

/-- The number of a child among the nodes `ids`, and `-1` for one that is not there. -/
def indexIn (ids : List NodeId) (c : Child) : Int :=
  match c.nodeId?.bind fun id => ids.idxOf? id with
  | some i => i + 1
  | none => -1

def indicesOf (ids : List NodeId) (l : ChildList) : List Int :=
  l.entries.map fun e => indexIn ids e.child

def childIndices (ids : List NodeId) (l : ChildList) : ChildIndices :=
  if l.keyed then
    .keyed (OrderedMap.ofList (l.entries.map fun e => (e.label.render, indexIn ids e.child)))
  else .list (indicesOf ids l)

def indexList (indices : List Int) : Value :=
  .list (indices.map .int)

def ChildIndices.toValue : ChildIndices → Value
  | .list l => indexList l
  | .keyed m => .record (m.map fun (label, i) => (label, .int i))

/-- The description of a node: its name, class, and where it was named. -/
def describe (n : Node) (className : String) : String :=
  s!"{n.name}:{className}:{n.definedAt.fileName}:{n.definedAt.line}"

/-- The fields that a resolve writes into a record. -/
def placedFields (n : Node) (className : String) (p : Placement) : List (String × Value) :=
  [(indexKey, .int p.index), (descriptionKey, .text (describe n className)), (nameKey, .text n.name)]
    ++ (if p.children.isEmpty then [] else [(childrenKey, ChildIndices.toValue p.children)])
    ++ (if p.steps.isEmpty then [] else [(stepsKey, indexList p.steps)])

/-- Numbers a bound node as the one at position `i` among the nodes `ids`. -/
def placeNode (ids : List NodeId) (i : Nat) (n : Node) : Node :=
  { n with binding := n.binding.map fun b =>
      let p : Placement :=
        { index := i + 1, children := childIndices ids b.children, steps := indicesOf ids b.steps }
      { b with
        record := OrderedMap.insertAll b.record (placedFields n b.className p)
        placement := some p } }

/-- Numbers all nodes in registration order. -/
def place (r : Repository) : Repository :=
  let ids := r.liveIds
  ids.zipIdx.foldl (fun r (id, i) => r.update id (placeNode ids i)) r

/-! ## The pass -/

variable {α : Type}

/-- One attempt to resolve; gives the roots and what the hook gives. -/
def runResolve (hook : Hook α) (location : Location) :
    Action (OrderedMap String NodeId × α) := do
  reportUninitialized
  let given ← hook location
  let (r, roots) := (← get).settle
  set r
  if !r.errors.isEmpty then throw (.cumulative r.errors)
  set r.place
  return (roots, given)

/-- Resolves the repository unless that has been done; a failed one fails again. Gives what the hook
gives, if it is run. -/
def resolve (hook : Hook α) (location : Location) : Action (Option α) := do
  let r ← get
  match r.phase with
  | .resolved _ => return none
  | .failed => throw (.cumulative r.errors)
  | .building =>
      try
        let (roots, given) ← runResolve hook location
        modify ({ · with phase := .resolved roots })
        return some given
      catch failure =>
        modify ({ · with phase := .failed })
        throw failure

end Repository

end NodeForest

import NodeForest.Proofs.EqualChildren
import NodeForest.Proofs.Repetition
import NodeForest.Proofs.WellFormedRecords

/-!
# Repositories with equal definitions

Two repositories match when they hold the same but for the lists and records of bound nodes, and
these are equal. What is read off them, lists and records apart, is the same. So it is shown for a
repository and its hollow, in which the bound nodes have empty lists and records, and carried over.

Results:
1. `Repository.Matches`: the relation; `Matches.read`: what is read.
2. `Matches.childBasenames`, `Matches.mergedQuals`: what is read for equal lists.
3. `Matches.register`, `Matches.attached` and the others beside them: what is changed.
-/

namespace NodeForest

/-- Well-formed lists that are equal. -/
structure ChildList.Matches (l l' : ChildList) : Prop where
  left : l.WellFormed
  right : l'.WellFormed
  equal : l.equal l'

/-- Well-formed records that are equal. -/
structure Record.Matches (record record' : Record) : Prop where
  left : record.WellFormed
  right : record'.WellFormed
  equal : Record.equal record record'

/-- Bindings with equal lists and records. -/
structure Binding.Matches (b b' : Binding) : Prop where
  children : b.children.Matches b'.children
  steps : b.steps.Matches b'.steps
  record : Record.Matches b.record b'.record

theorem ChildList.WellFormed.matches {l : ChildList} (h : l.WellFormed) : l.Matches l :=
  ⟨h, h, l.equal_self h⟩

theorem Record.WellFormed.matches {record : Record} (h : record.WellFormed) :
    Record.Matches record record :=
  ⟨h, h, Record.equal_self h⟩

theorem Binding.WellFormed.matches {b : Binding} (h : b.WellFormed) : b.Matches b where
  children := (ChildList.wellFormed_iff.mpr fun c member =>
    h.members c (List.mem_append_left _ member)).matches
  steps := (ChildList.wellFormed_iff.mpr fun c member =>
    h.members c (List.mem_append_right _ member)).matches
  record := h.record.matches

/-- The binding without its lists and its record. -/
def Binding.hollow (b : Binding) : Binding :=
  { b with children := .nil, steps := .nil, record := [] }

def Node.hollow (n : Node) : Node :=
  { n with binding := n.binding.map Binding.hollow }

namespace Repository

/-- The repository without the lists and records of bound nodes. -/
def hollow (r : Repository) : Repository :=
  { r with nodes := r.nodes.map (·.map Node.hollow) }

/-- The repositories differ only in the lists and records of bound nodes, which are equal. -/
structure Matches (r r' : Repository) : Prop where
  hollow : r.hollow = r'.hollow
  bindings : ∀ id, Option.Rel Binding.Matches (r.bindingOf? id) (r'.bindingOf? id)

/-! ## 1. What is read -/

section

variable (r : Repository)

theorem get?_hollow (id : NodeId) : r.hollow.get? id = (r.get? id).map Node.hollow := by
  simp only [get?, hollow, Array.getElem?_map]
  cases r.nodes[id.index]? <;> rfl

theorem isLive_hollow (id : NodeId) : r.hollow.isLive id = r.isLive id := by
  rw [isLive, get?_hollow, Option.isSome_map, isLive]

theorem nodes_size_hollow : r.hollow.nodes.size = r.nodes.size := by
  rw [hollow, Array.size_map]

theorem lookup?_hollow (name : String) : r.hollow.lookup? name = r.lookup? name := by
  have named : (fun slot : Option Node => slot.any (·.name == name)) =
      (fun slot => slot.any (·.name == name)) ∘ (·.map Node.hollow) := by
    funext slot
    cases slot <;> rfl
  rw [lookup?, hollow, Array.findIdx?_map, ← named, lookup?]

/-- What is read off a node and does not depend on its lists and record. -/
theorem map_get?_hollow {α : Type} (id : NodeId) {read : Node → α}
    (hollow : ∀ n, read n.hollow = read n) :
    (r.hollow.get? id).map read = (r.get? id).map read := by
  rw [get?_hollow, Option.map_map]
  exact congrArg (Option.map · (r.get? id)) (funext hollow)

theorem isBound_hollow (id : NodeId) : r.hollow.isBound id = r.isBound id := by
  rw [isBound, get?_hollow, Option.any_map, isBound]
  congr
  funext n
  cases bound : n.binding <;> simp [Node.isBound, Node.hollow, bound]

theorem lookupBound?_hollow (name : String) : r.hollow.lookupBound? name = r.lookupBound? name := by
  rw [lookupBound?, lookup?_hollow, funext r.isBound_hollow, lookupBound?]

end

/-- A change of a node that comes to the same in the hollow. -/
theorem hollow_update (r : Repository) (id : NodeId) {f g : Node → Node}
    (commutes : ∀ n, (f n).hollow = g n.hollow) :
    (r.update id f).hollow = r.hollow.update id g := by
  have nodes : (r.update id f).hollow.nodes = (r.hollow.update id g).nodes := by
    refine Array.ext_getElem? fun i => ?_
    simp only [hollow, update, Array.getElem?_map, Array.getElem?_modify]
    split
    · cases r.nodes[i]? with
      | none => rfl
      | some slot => cases slot <;> simp [commutes]
    · rfl
  exact congrArg (fun nodes => { r.hollow with nodes }) nodes

theorem hollow_updateAll (ids : List NodeId) {f : Node → Node}
    (commutes : ∀ n, (f n).hollow = f n.hollow) (r : Repository) :
    (r.updateAll ids f).hollow = r.hollow.updateAll ids f := by
  induction ids generalizing r with
  | nil => rfl
  | cons id ids ih =>
    rw [updateAll, List.foldl_cons, ← updateAll, ih, hollow_update r id commutes]
    rfl

theorem hollow_relink (r : Repository) (id : NodeId) (b : Binding) (children : List NodeId) :
    (r.relink id (fun _ => some b) children).hollow =
      r.hollow.relink id (fun _ => some b.hollow) children := by
  rw [relink, relink, addParent, addParent, hollow_updateAll]
  · rw [r.hollow_update id fun n => ?_]
    rfl
  · intro n
    change (if n.parents.contains id then n else _ : Node).hollow = ite (n.parents.contains id) _ _
    split <;> rfl

namespace Matches

variable {r r' : Repository} (h : r.Matches r')

include h

/-- Whatever is the same for the hollow is the same for both. -/
theorem read {α : Type} (read : Repository → α) (hollow : ∀ r, read r.hollow = read r) :
    read r = read r' := by
  rw [← hollow r, h.hollow, hollow r']

theorem id : r.id = r'.id := h.read (·.id) fun _ => rfl
theorem options : r.options = r'.options := h.read (·.options) fun _ => rfl
theorem scopes : r.scopes = r'.scopes := h.read (·.scopes) fun _ => rfl
theorem constants : r.constants = r'.constants := h.read (·.constants) fun _ => rfl
theorem errors : r.errors = r'.errors := h.read (·.errors) fun _ => rfl
theorem frames : r.frames = r'.frames := h.read (·.frames) fun _ => rfl
theorem size : r.nodes.size = r'.nodes.size := h.read (·.nodes.size) nodes_size_hollow

theorem isLive (id : NodeId) : r.isLive id = r'.isLive id :=
  h.read (·.isLive id) fun r => r.isLive_hollow id

theorem lookup? (name : String) : r.lookup? name = r'.lookup? name :=
  h.read (·.lookup? name) fun r => r.lookup?_hollow name

theorem lookupBound? (name : String) : r.lookupBound? name = r'.lookupBound? name :=
  h.read (·.lookupBound? name) fun r => r.lookupBound?_hollow name

theorem map_get? {α : Type} (id : NodeId) (read : Node → α)
    (hollow : ∀ n, read n.hollow = read n) : (r.get? id).map read = (r'.get? id).map read :=
  h.read (fun r => (r.get? id).map read) fun r => r.map_get?_hollow id hollow

theorem nameInMessage (id : NodeId) : r.nameInMessage id = r'.nameInMessage id :=
  congrArg (·.getD "") (h.map_get? id (·.name) fun _ => rfl)

theorem scopeOf (id : NodeId) : r.scopeOf id = r'.scopeOf id :=
  congrArg (·.getD ScopeId.root) (h.map_get? id (·.scope) fun _ => rfl)

theorem scopedName (scope : ScopeId) (name : String) :
    r.scopedName scope name = r'.scopedName scope name :=
  h.read (·.scopedName scope name) fun _ => rfl

theorem freeConstantName (base : String) : r.freeConstantName base = r'.freeConstantName base := by
  simp only [Repository.freeConstantName, h.lookup?, h.size]

/-- Under a number there is no node in either, or nodes that differ in lists and records only. -/
theorem node_cases (id : NodeId) : r.get? id = none ∧ r'.get? id = none ∨
    ∃ n n', r.get? id = some n ∧ r'.get? id = some n' ∧ n.hollow = n'.hollow ∧
      Option.Rel Binding.Matches n.binding n'.binding := by
  have nodes := h.map_get? id Node.hollow fun n => by
    cases bound : n.binding <;> simp [Node.hollow, Binding.hollow, bound]
  have bindings := h.bindings id
  rw [bindingOf?, bindingOf?] at bindings
  cases here : r.get? id <;> cases here' : r'.get? id <;> rw [here, here'] at nodes bindings
  · exact .inl ⟨rfl, rfl⟩
  · cases nodes
  · cases nodes
  · exact .inr ⟨_, _, rfl, rfl, Option.some.inj nodes, bindings⟩

/-! ## 2. Equal lists -/

theorem heads (l : ChildList) : SameHeads r' r l := fun e _ => by
  cases e.child.nodeId? with
  | none => rfl
  | some id => exact h.map_get? id (fun n => (n.basename, n.quals)) fun _ => rfl

theorem childBasenames {l l' : ChildList} (same : l.equal l') :
    r.childBasenames l = r'.childBasenames l' := by
  rw [(h.heads l).childBasenames, childBasenames_eq_map, ChildList.map_nodeId?_of_equal same,
    ← childBasenames_eq_map]

theorem mergedQuals {l l' : ChildList} (same : l.equal l') :
    r.mergedQuals l = r'.mergedQuals l' := by
  rw [(h.heads l).mergedQuals, mergedQuals_eq_foldl, ChildList.map_nodeId?_of_equal same,
    ← mergedQuals_eq_foldl]

/-! ## 3. What is changed -/

/-- A change that does not touch bindings, and that comes to the same in the hollow. -/
theorem change {f : Repository → Repository} (hollow : ∀ r, (f r).hollow = f r.hollow)
    (bindings : ∀ r id, (f r).bindingOf? id = r.bindingOf? id) : (f r).Matches (f r') where
  hollow := by rw [hollow, h.hollow, hollow]
  bindings := fun id => by
    rw [bindings, bindings]
    exact h.bindings id

theorem noting (ds : List Diagnostic) : (r.noting ds).Matches (r'.noting ds) :=
  h.change (f := (·.noting ds)) (fun _ => rfl) fun _ _ => rfl

theorem register (name basename : String) (scope : ScopeId) (quals : Qualifiers)
    (location : Location) : (r.register name basename scope quals location).Matches
      (r'.register name basename scope quals location) := by
  refine h.change (f := (·.register name basename scope quals location)) (fun r => ?_) fun r id => ?_
  · simp only [Repository.register, Repository.hollow, Array.map_push]
    rfl
  · rw [bindingOf?_register]

theorem getOrCreate (name basename : String) (scope : ScopeId) (quals : Qualifiers)
    (location : Location) :
    (r.getOrCreate name basename scope quals location).1 =
        (r'.getOrCreate name basename scope quals location).1 ∧
      (r.getOrCreate name basename scope quals location).2.Matches
        (r'.getOrCreate name basename scope quals location).2 := by
  rw [Repository.getOrCreate, Repository.getOrCreate, ← h.lookup?, ← h.size]
  cases r.lookup? name with
  | some id => exact ⟨rfl, h⟩
  | none => exact ⟨rfl, h.register name basename scope quals location⟩

theorem uniqueName (scope : ScopeId) (name : String) :
    (r.uniqueName scope name).1 = (r'.uniqueName scope name).1 ∧
      (r.uniqueName scope name).2.Matches (r'.uniqueName scope name).2 := by
  constructor
  · rw [Repository.uniqueName, Repository.uniqueName, ← h.scopes]
    cases r.scopes[scope.index]? <;> rfl
  · refine h.change (f := fun r => (r.uniqueName scope name).2) (fun r => ?_) fun r id => ?_
    · have scopes : r.hollow.scopes = r.scopes := rfl
      rw [Repository.uniqueName, Repository.uniqueName, scopes]
      cases r.scopes[scope.index]? <;> rfl
    · rw [Repository.uniqueName]
      cases r.scopes[scope.index]? <;> rfl

theorem anonymousNode (scope : ScopeId) (nodeClass : NodeClass) {children children' : ChildList}
    (same : children.equal children') (location : Location) :
    (r.anonymousNode scope nodeClass children location).1 =
        (r'.anonymousNode scope nodeClass children' location).1 ∧
      (r.anonymousNode scope nodeClass children location).2.Matches
        (r'.anonymousNode scope nodeClass children' location).2 := by
  simp only [Repository.anonymousNode, ChildList.isEmpty_of_equal same]
  split
  · obtain ⟨named, counted⟩ := h.uniqueName scope (Text.lowercase nodeClass.name)
    rw [named, Repository.nodeInScope, Repository.nodeInScope, ← counted.scopedName]
    exact counted.getOrCreate _ _ _ _ _
  · rw [← h.mergedQuals same, ← h.childBasenames same, ← h.scopedName]
    exact h.getOrCreate _ _ _ _ _

theorem noteClass (id : NodeId) (className : String) :
    (r.noteClass id className).Matches (r'.noteClass id className) := by
  refine h.change (f := (·.noteClass id className)) (fun r => ?_) fun r other => ?_
  · simp only [Repository.noteClass]
    split_ifs <;> rfl
  · rw [bindingOf?_noteClass]

theorem share (key : Constant) (id : NodeId) :
    ({ r with constants := OrderedMap.insert r.constants key id } : Repository).Matches
      { r' with constants := OrderedMap.insert r'.constants key id } :=
  h.change (f := fun r => { r with constants := OrderedMap.insert r.constants key id })
    (fun _ => rfl) fun _ _ => rfl

/-- A node gets bindings that match. -/
theorem relink (id : NodeId) {b b' : Binding} (same : b.Matches b') (hollow : b.hollow = b'.hollow)
    (children : List NodeId) : (r.relink id (fun _ => some b) children).Matches
      (r'.relink id (fun _ => some b') children) where
  hollow := by rw [hollow_relink, h.hollow, hollow, hollow_relink]
  bindings := fun other => by
    rw [bindingOf?_relink, bindingOf?_relink]
    split
    · obtain ⟨gone, gone'⟩ | ⟨n, n', here, here', _⟩ := h.node_cases other
      · rw [gone, gone']
        exact .none
      · rw [here, here']
        exact .some same
    · exact h.bindings other

end Matches

/-- Of a repository in which all is well-formed. -/
theorem WellFormed.matches {r : Repository} (h : r.WellFormed) : r.Matches r where
  hollow := rfl
  bindings := fun id => by
    cases bound : r.bindingOf? id with
    | none => exact .none
    | some b => exact .some (h id b bound).matches

end Repository

end NodeForest

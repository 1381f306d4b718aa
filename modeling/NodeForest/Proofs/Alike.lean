import NodeForest.Proofs.Check
import NodeForest.Proofs.Comparison
import NodeForest.Proofs.Unsited
import NodeForest.Repository.Bind

/-!
# Repositories that differ in call sites

Two repositories are alike when they hold the same up to locations, call frames and the trails of
diagnostics, and record without a limit. What one reads off them is the same, and a change that is
made to both in the same way, at whatever locations, leaves them alike.

Results:
1. `Alike`: the relation.
2. `Alike.get?`, `Alike.lookup?` and the others beside them: what is read.
3. `Alike.register`, `Alike.update` and the others beside them: what is changed.
-/

namespace NodeForest

/-- Changes after which `erase` leaves the same of two things that it left the same of before. -/
theorem map_map_congr {α β : Type} {erase : α → β} {f g : α → α} {x y : Option α}
    (changed : ∀ a b, erase a = erase b → erase (f a) = erase (g b))
    (same : x.map erase = y.map erase) : (x.map f).map erase = (y.map g).map erase := by
  cases x <;> cases y <;> simp_all
  exact changed _ _ same

/-- Failures that differ in call sites only. -/
abbrev SameFailure : Failure → Failure → Prop :=
  Failure.Like SameDiagnostic SameErrors

/-- Two failures that are alike to a third are alike. -/
theorem SameFailure.through {e e' e₀ : Failure} (same : SameFailure e e₀)
    (same' : SameFailure e' e₀) : SameFailure e e' := by
  cases same with
  | diagnostic same =>
    cases same' with
    | diagnostic same' => exact .diagnostic (same.trans same'.symm)
  | cumulative same =>
    cases same' with
    | cumulative same' => exact .cumulative (same.trans same'.symm)
  | notResolved =>
    cases same' with
    | notResolved => exact .notResolved

theorem Outcomes.through {α : Type} {x x' x₀ : Except Failure α}
    (alike : Outcomes SameFailure Eq x x₀) (alike' : Outcomes SameFailure Eq x' x₀) :
    Outcomes SameFailure Eq x x' := by
  cases alike with
  | ok same =>
    cases alike' with
    | ok same' => exact .ok (same.trans same'.symm)
  | error same =>
    cases alike' with
    | error same' => exact .error (same.through same')

namespace Repository

variable {r r' : Repository}

/-! ## 1. The relation -/

/-- The other repository has the same nodes as far as `erase` leaves them, other frames, and the
same diagnostics up to locations; nothing else differs. -/
inductive AlikeUpTo (erase : Node → Node) (r : Repository) : Repository → Prop
  | sites {nodes : Array (Option Node)} {errors : List Diagnostic} {frames : List Location} :
      r.nodes.map (·.map erase) = nodes.map (·.map erase) → SameErrors r.errors errors →
      r.options.errorLimit = none → AlikeUpTo erase r { r with nodes, errors, frames }

/-- The repositories differ in call sites only. -/
abbrev Alike (r r' : Repository) : Prop :=
  AlikeUpTo Node.unsited r r'

namespace AlikeUpTo

variable {erase : Node → Node} {r₁ r₂ r₃ : Repository}

theorem symm (alike : AlikeUpTo erase r₁ r₂) : AlikeUpTo erase r₂ r₁ := by
  obtain ⟨nodes, errors, unlimited⟩ := alike
  exact .sites nodes.symm errors.symm unlimited

theorem trans (alike : AlikeUpTo erase r₁ r₂) (alike' : AlikeUpTo erase r₂ r₃) :
    AlikeUpTo erase r₁ r₃ := by
  obtain ⟨nodes, errors, unlimited⟩ := alike
  obtain ⟨nodes', errors', _⟩ := alike'
  exact .sites (nodes.trans nodes') (errors.trans errors') unlimited

theorem size (alike : AlikeUpTo erase r r') : r.nodes.size = r'.nodes.size := by
  obtain ⟨nodes, _, _⟩ := alike
  simpa using congrArg Array.size nodes

theorem get? (alike : AlikeUpTo erase r r') (id : NodeId) :
    (r.get? id).map erase = (r'.get? id).map erase := by
  obtain ⟨nodes, _, _⟩ := alike
  have slot := congrArg (·[id.index]?.join) nodes
  simp only [Array.getElem?_map] at slot
  have joined (nodes : Array (Option Node)) :
      (nodes[id.index]?.map (·.map erase)).join = nodes[id.index]?.join.map erase := by
    cases nodes[id.index]? <;> rfl
  rw [joined, joined] at slot
  exact slot

/-- Reading what `erase` leaves of a node gives the same. -/
theorem map_get? {α : Type} (alike : AlikeUpTo erase r r') (id : NodeId) (read : Node → α)
    (erased : ∀ n, read (erase n) = read n) : (r.get? id).map read = (r'.get? id).map read := by
  have same := congrArg (Option.map read) (alike.get? id)
  simpa [Option.map_map, Function.comp_def, erased] using same

/-- Nodes pass the same tests, if these do not depend on what `erase` leaves out. -/
theorem any_get? (alike : AlikeUpTo erase r r') (id : NodeId) {test : Node → Bool}
    (erased : ∀ n, test (erase n) = test n) : (r.get? id).any test = (r'.get? id).any test := by
  have same := congrArg (·.any fun passed : Bool => passed) (alike.map_get? id test erased)
  simpa only [Option.any_map] using same

/-- The entries are the same as far as `erase` leaves them. -/
theorem entries (alike : AlikeUpTo erase r r') :
    r.entries.map (fun entry => (entry.1, erase entry.2)) =
      r'.entries.map fun entry => (entry.1, erase entry.2) := by
  simp only [Repository.entries, List.map_filterMap, Option.map_map, ← alike.size]
  refine List.filterMap_congr fun i _ => ?_
  have same := congrArg (Option.map fun n => (NodeId.mk i, n)) (alike.get? ⟨i⟩)
  rw [Option.map_map, Option.map_map] at same
  exact same

/-- Nodes are changed alike if what is left of them is. -/
theorem update (alike : AlikeUpTo erase r r') (id : NodeId) {f g : Node → Node}
    (changed : ∀ n n', erase n = erase n' → erase (f n) = erase (g n')) :
    AlikeUpTo erase (r.update id f) (r'.update id g) := by
  obtain ⟨nodes, errors, unlimited⟩ := alike
  refine .sites (Array.ext_getElem? fun i => ?_) errors unlimited
  have slot := congrArg (·[i]?) nodes
  simp only [Array.getElem?_map] at slot
  simp only [Repository.update, Array.getElem?_map, Array.getElem?_modify]
  split
  · exact map_map_congr (fun _ _ => map_map_congr changed) slot
  · exact slot

/-- What is done for each of some items leaves the repositories alike, if each time does. -/
theorem foldl {ι : Type} {f g : Repository → ι → Repository}
    (each : ∀ {r r' : Repository} (i : ι), AlikeUpTo erase r r' → AlikeUpTo erase (f r i) (g r' i))
    (items : List ι) (alike : AlikeUpTo erase r r') :
    AlikeUpTo erase (items.foldl f r) (items.foldl g r') := by
  induction items generalizing r r' with
  | nil => exact alike
  | cons i items ih => exact ih (each i alike)

theorem updateAll (alike : AlikeUpTo erase r r') (ids : List NodeId) {f g : Node → Node}
    (changed : ∀ n n', erase n = erase n' → erase (f n) = erase (g n')) :
    AlikeUpTo erase (r.updateAll ids f) (r'.updateAll ids g) :=
  foldl (fun id alike => alike.update id changed) ids alike

end AlikeUpTo

/-! ## 2. What is read -/

namespace Alike

variable (alike : r.Alike r')

include alike

theorem self : r'.Alike r' := alike.symm.trans alike

theorem id : r.id = r'.id := by cases alike; rfl
theorem options : r.options = r'.options := by cases alike; rfl
theorem scopes : r.scopes = r'.scopes := by cases alike; rfl
theorem constants : r.constants = r'.constants := by cases alike; rfl
theorem phase : r.phase = r'.phase := by cases alike; rfl
theorem sinks : r.sinks = r'.sinks := by cases alike; rfl
theorem spigots : r.spigots = r'.spigots := by cases alike; rfl
theorem mux : r.mux = r'.mux := by cases alike; rfl
theorem errors : SameErrors r.errors r'.errors := by cases alike; assumption
theorem unlimited : r.options.errorLimit = none := by cases alike; assumption

theorem isLive (id : NodeId) : r.isLive id = r'.isLive id := by
  have := congrArg Option.isSome (alike.get? id)
  simpa [Repository.isLive] using this

theorem isBound (id : NodeId) : r.isBound id = r'.isBound id :=
  alike.any_get? id fun n => n.isBound_unsited

theorem nameOf? (id : NodeId) : r.nameOf? id = r'.nameOf? id :=
  alike.map_get? id (·.name) fun _ => rfl

theorem nameInMessage (id : NodeId) : r.nameInMessage id = r'.nameInMessage id := by
  rw [Repository.nameInMessage, alike.nameOf?, Repository.nameInMessage]

theorem scopeOf (id : NodeId) : r.scopeOf id = r'.scopeOf id :=
  congrArg (·.getD ScopeId.root) (alike.map_get? id (·.scope) fun _ => rfl)

theorem childIdsOf (id : NodeId) : r.childIdsOf id = r'.childIdsOf id :=
  congrArg (·.getD []) (alike.map_get? id (·.childIds) fun n => n.childIds_unsited)

/-- What is read off the entries is the same, if it does not depend on locations. -/
theorem read_entries {α : Type} (read : List (NodeId × Node) → α)
    (erased : ∀ entries,
      read (entries.map fun entry => (entry.1, entry.2.unsited)) = read entries) :
    read r.entries = read r'.entries := by
  rw [← erased, alike.entries, erased]

theorem lookup? (name : String) : r.lookup? name = r'.lookup? name := by
  obtain ⟨nodes, _, _⟩ := alike
  have named : (fun slot : Option Node => slot.any (·.name == name)) =
      (fun slot => slot.any (·.name == name)) ∘ (·.map Node.unsited) := by
    funext slot
    cases slot <;> rfl
  simp only [Repository.lookup?]
  rw [named, ← Array.findIdx?_map, ← Array.findIdx?_map, nodes]

theorem lookupBound? (name : String) : r.lookupBound? name = r'.lookupBound? name := by
  have bound : r.isBound = r'.isBound := funext alike.isBound
  rw [Repository.lookupBound?, Repository.lookupBound?, alike.lookup?, bound]

/-- Under a number there is no node in either, or nodes that are alike. -/
theorem node_cases (id : NodeId) : r.get? id = none ∧ r'.get? id = none ∨
    ∃ n n', r.get? id = some n ∧ r'.get? id = some n' ∧ n.unsited = n'.unsited := by
  have nodes := alike.get? id
  cases here : r.get? id <;> cases here' : r'.get? id <;> rw [here, here'] at nodes
  · exact .inl ⟨rfl, rfl⟩
  · cases nodes
  · cases nodes
  · exact .inr ⟨_, _, rfl, rfl, Option.some.inj nodes⟩

theorem scopedName (scope : ScopeId) (name : String) :
    r.scopedName scope name = r'.scopedName scope name := by
  cases alike
  rfl

/-- What is read off the node that a child stands for. -/
theorem map_nodeOf {α : Type} (c : Child) (read : Node → α)
    (erased : ∀ n, read n.unsited = read n) :
    (c.nodeId?.bind r.get?).map read = (c.unsited.nodeId?.bind r'.get?).map read := by
  rw [Child.nodeId?_unsited]
  cases c.nodeId? with
  | none => rfl
  | some id => exact alike.map_get? id read erased

theorem mergedQuals_unsited (l : ChildList) : r.mergedQuals l = r'.mergedQuals l.unsited := by
  simp only [Repository.mergedQuals, ChildList.entries_unsited, List.foldl_map]
  congr 1
  funext merged e
  have same := alike.map_nodeOf e.child (·.quals) fun _ => rfl
  rw [Entry.child_unsited]
  cases first : e.child.nodeId?.bind r.get? <;>
    cases second : e.child.unsited.nodeId?.bind r'.get? <;> rw [first, second] at same <;>
    simp_all

theorem childBasenames_unsited (l : ChildList) :
    r.childBasenames l = r'.childBasenames l.unsited := by
  simp only [Repository.childBasenames, ChildList.entries_unsited, List.map_map]
  refine List.map_congr_left fun e _ => ?_
  have same := alike.map_nodeOf e.child (·.basename) fun _ => rfl
  rw [Function.comp_apply, Entry.child_unsited]
  cases first : e.child.nodeId?.bind r.get? <;>
    cases second : e.child.unsited.nodeId?.bind r'.get? <;> rw [first, second] at same <;>
    simp_all

theorem mergedQuals {l l' : ChildList} (same : l.unsited = l'.unsited) :
    r.mergedQuals l = r'.mergedQuals l' := by
  rw [alike.mergedQuals_unsited, same, ← alike.self.mergedQuals_unsited]

theorem childBasenames {l l' : ChildList} (same : l.unsited = l'.unsited) :
    r.childBasenames l = r'.childBasenames l' := by
  rw [alike.childBasenames_unsited, same, ← alike.self.childBasenames_unsited]

/-! ## 3. What is changed -/

theorem register (name basename : String) (scope : ScopeId) (quals : Qualifiers)
    (location location' : Location) :
    (r.register name basename scope quals location).Alike
      (r'.register name basename scope quals location') := by
  obtain ⟨nodes, errors, unlimited⟩ := alike
  refine .sites ?_ errors unlimited
  simp only [Repository.register, Array.map_push, nodes]
  rfl

theorem getOrCreate (name basename : String) (scope : ScopeId) (quals : Qualifiers)
    (location location' : Location) :
    (r.getOrCreate name basename scope quals location).1 =
        (r'.getOrCreate name basename scope quals location').1 ∧
      (r.getOrCreate name basename scope quals location).2.Alike
        (r'.getOrCreate name basename scope quals location').2 := by
  rw [Repository.getOrCreate, Repository.getOrCreate, ← alike.lookup?, ← alike.size]
  cases r.lookup? name with
  | some id => exact ⟨rfl, alike⟩
  | none => exact ⟨rfl, alike.register name basename scope quals location location'⟩

theorem nodeInScope (scope : ScopeId) (name : String) (location location' : Location) :
    (r.nodeInScope scope name location).1 = (r'.nodeInScope scope name location').1 ∧
      (r.nodeInScope scope name location).2.Alike (r'.nodeInScope scope name location').2 := by
  rw [Repository.nodeInScope, Repository.nodeInScope, ← alike.scopedName]
  exact alike.getOrCreate _ _ _ _ _ _

theorem qualify (basename : String) (scope : ScopeId) (quals : Qualifiers)
    (location location' : Location) :
    (r.qualify basename scope quals location).1 = (r'.qualify basename scope quals location').1 ∧
      (r.qualify basename scope quals location).2.Alike
        (r'.qualify basename scope quals location').2 :=
  alike.getOrCreate _ _ _ _ _ _

theorem addScope (parent : ScopeId) (name : String) (quals : Qualifiers) :
    (r.addScope parent name quals).2.Alike (r'.addScope parent name quals).2 := by
  obtain ⟨nodes, errors, unlimited⟩ := alike
  exact .sites nodes errors unlimited

theorem uniqueName (scope : ScopeId) (name : String) :
    (r.uniqueName scope name).1 = (r'.uniqueName scope name).1 ∧
      (r.uniqueName scope name).2.Alike (r'.uniqueName scope name).2 := by
  rw [Repository.uniqueName, Repository.uniqueName, ← alike.scopes]
  obtain ⟨nodes, errors, unlimited⟩ := alike
  cases r.scopes[scope.index]? <;> exact ⟨rfl, .sites nodes errors unlimited⟩

theorem anonymousNode (scope : ScopeId) (nodeClass : NodeClass) {children children' : ChildList}
    (same : children.unsited = children'.unsited) (location location' : Location) :
    (r.anonymousNode scope nodeClass children location).1 =
        (r'.anonymousNode scope nodeClass children' location').1 ∧
      (r.anonymousNode scope nodeClass children location).2.Alike
        (r'.anonymousNode scope nodeClass children' location').2 := by
  have empty : children.isEmpty = children'.isEmpty := by
    rw [← children.isEmpty_unsited, same, ChildList.isEmpty_unsited]
  simp only [Repository.anonymousNode, empty]
  split
  · obtain ⟨named, counted⟩ := alike.uniqueName scope (Text.lowercase nodeClass.name)
    rw [named]
    exact counted.nodeInScope _ _ _ _
  · rw [← alike.mergedQuals same, ← alike.childBasenames same, ← alike.scopedName]
    exact alike.qualify _ _ _ _ _

theorem freeConstantName (base : String) : r.freeConstantName base = r'.freeConstantName base := by
  simp only [Repository.freeConstantName, alike.lookup?, alike.size]

theorem noteClass (id : NodeId) (className : String) :
    (r.noteClass id className).Alike (r'.noteClass id className) := by
  obtain ⟨nodes, errors, unlimited⟩ := alike
  simp only [Repository.noteClass]
  split_ifs <;> exact .sites nodes errors unlimited

theorem updateBinding (id : NodeId) {f g : Option Binding → Option Binding}
    (changed : ∀ b b', b.map Binding.unsited = b'.map Binding.unsited →
      (f b).map Binding.unsited = (g b').map Binding.unsited) :
    (r.update id fun n => { n with binding := f n.binding }).Alike
      (r'.update id fun n => { n with binding := g n.binding }) := by
  refine alike.update id fun n n' same => ?_
  have erased : ({ n.unsited with binding := (f n.binding).map Binding.unsited } : Node) =
      { n'.unsited with binding := (g n'.binding).map Binding.unsited } := by
    rw [same, changed _ _ (congrArg Node.binding same)]
  exact erased

theorem relink (id : NodeId) (children : List NodeId) {f g : Option Binding → Option Binding}
    (changed : ∀ b b', b.map Binding.unsited = b'.map Binding.unsited →
      (f b).map Binding.unsited = (g b').map Binding.unsited) :
    (r.relink id f children).Alike (r'.relink id g children) := by
  refine (alike.updateBinding id changed).updateAll children fun n n' same => ?_
  change (n.withParent id).unsited = (n'.withParent id).unsited
  rw [Node.unsited_withParent, same, Node.unsited_withParent]

theorem pin (id : NodeId) : (r.pin id).Alike (r'.pin id) := by
  rw [Repository.pin, Repository.pin, ← alike.isLive]
  obtain ⟨nodes, errors, unlimited⟩ := alike
  dsimp only
  split <;> exact .sites nodes errors unlimited

theorem unpin (id : NodeId) : (r.unpin id).Alike (r'.unpin id) := by
  obtain ⟨nodes, errors, unlimited⟩ := alike
  exact .sites nodes errors unlimited

theorem hold (id : NodeId) : (r.hold id).Alike (r'.hold id) := by
  obtain ⟨nodes, errors, unlimited⟩ := alike
  exact .sites nodes errors unlimited

theorem release (id : NodeId) : (r.release id).Alike (r'.release id) := by
  obtain ⟨nodes, errors, unlimited⟩ := alike
  exact .sites nodes errors unlimited

theorem frames (frames frames' : List Location) :
    ({ r with frames } : Repository).Alike { r' with frames := frames' } := by
  obtain ⟨nodes, errors, unlimited⟩ := alike
  exact .sites nodes errors unlimited

end Alike

end Repository

end NodeForest

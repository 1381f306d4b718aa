import NodeForest.Proofs.Change
import NodeForest.Proofs.Untouched
import NodeForest.Store.Resolve

/-!
# What a store shows

A store shows a repository: each slot is read as a node, whose definition is made up of the fields
of the slot, if it has a record; the name map is left out, as a repository finds names in its table.
A store is intact when the pieces agree: the map holds the names of the live slots in their order,
and the fields of a slot are all written or none is.

Results:
1. `Store.view`: the repository that a store shows; `get?_view` and what else is read off it.
2. `Intact`: the pieces agree; `Intact.lookup?`, `Intact.entries`: then names are found alike.
3. `view_update`, `view_addParent`: writing to slots; `Intact.relink`: binding, extending, and
   setting fields; `Intact.register`: a new slot and its name.
-/

namespace NodeForest

open Relation

/-- The name map of a repository finds what its table does: the first node of the name. -/
theorem Repository.get?_nameMap (r : Repository) (name : String) :
    OrderedMap.get? r.nameMap name = r.lookup? name := by
  cases found : r.lookup? name with
  | none =>
    refine OrderedMap.get?_eq_none fun member => ?_
    obtain ⟨_, named, rfl⟩ := List.mem_map.mp member
    obtain ⟨⟨id, n⟩, entry, rfl⟩ := List.mem_map.mp named
    exact lookup?_eq_none.mp found id n (mem_entries.mp entry) rfl
  | some id =>
    obtain ⟨i, first, rfl⟩ := Option.map_eq_some_iff.mp found
    obtain ⟨n, here, rfl⟩ := lookup?_eq_some found
    obtain ⟨_, _, earlier⟩ := Array.findIdx?_eq_some_iff_getElem.mp first
    obtain ⟨later, size⟩ := Nat.exists_eq_add_of_le (index_lt_of_get? here)
    have before : OrderedMap.get? ((List.range i).filterMap fun j =>
        (r.nameOf? ⟨j⟩).map fun name => (name, NodeId.mk j)) n.name = none := by
      refine OrderedMap.get?_eq_none fun member => ?_
      obtain ⟨_, entry, same⟩ := List.mem_map.mp member
      obtain ⟨j, smaller, named⟩ := List.mem_filterMap.mp entry
      obtain ⟨_, known, rfl⟩ := Option.map_eq_some_iff.mp named
      obtain ⟨n', there, rfl⟩ := Option.map_eq_some_iff.mp known
      refine earlier j (List.mem_range.mp smaller) ?_
      obtain ⟨_, slot⟩ := Array.getElem?_eq_some_iff.mp (Option.join_eq_some_iff.mp there)
      rw [slot]
      exact beq_iff_eq.mpr same
    have own : r.nameOf? ⟨i⟩ = some n.name := by rw [nameOf?, here]; rfl
    rw [nameMap_eq, size, List.range_add, List.range_succ, List.filterMap_append,
      List.filterMap_append, OrderedMap.get?, List.lookup_append, List.lookup_append]
    rw [OrderedMap.get?] at before
    simp [before, own]

/-! ## 1. The repository that is shown -/

namespace Slot

/-- The numbers that a resolve has written, if it has. -/
def placement (s : Slot) : Option Placement :=
  match s.index, s.childIndices with
  | some index, some children => some ⟨index, children, s.stepIndices⟩
  | _, _ => none

/-- The definition that the fields make up. -/
def binding (s : Slot) : Option Binding :=
  s.record.map fun record =>
    { className := s.className.getD "", children := s.children, steps := s.steps, record,
      boundAt := s.boundOrDefinedAt, trail := s.bindTrail, placement := s.placement }

def node (s : Slot) : Node :=
  { name := s.name, basename := s.basename, scope := s.scope, quals := s.quals,
    parents := s.parents, definedAt := s.definedAt, trail := s.trail, binding := s.binding }

/-- All fields of a definition are there, or none is. -/
structure Whole (s : Slot) : Prop where
  className : s.className.isSome = s.record.isSome
  boundAt : s.boundAt.isSome = s.record.isSome
  unbound : s.record = none →
    s.children = .nil ∧ s.steps = .nil ∧ s.bindTrail = [] ∧ s.index = none

theorem placement_eq_none {s : Slot} (index : s.index = none) : s.placement = none := by
  rw [placement, index]

theorem isBound_node (s : Slot) : s.node.isBound = s.isBound := by
  rw [Node.isBound, node, binding, Option.isSome_map]
  rfl

variable {s : Slot}

theorem Whole.className?_node (whole : s.Whole) : s.node.className? = s.className := by
  have both := whole.className
  rw [Node.className?, node, binding]
  cases h : s.record with
  | none =>
    rw [h, Option.isSome_none, Option.isSome_eq_false_iff, Option.isNone_iff_eq_none] at both
    exact both.symm
  | some record =>
    rw [h, Option.isSome_some, Option.isSome_iff_exists] at both
    obtain ⟨className, here⟩ := both
    rw [here]
    rfl

theorem Whole.children_node (whole : s.Whole) : s.node.children = s.children := by
  rw [Node.children, node, binding]
  cases h : s.record with
  | none => exact (whole.unbound h).1.symm
  | some record => rfl

theorem Whole.steps_node (whole : s.Whole) : s.node.steps = s.steps := by
  rw [Node.steps, node, binding]
  cases h : s.record with
  | none => exact (whole.unbound h).2.1.symm
  | some record => rfl

theorem Whole.childIds_node (whole : s.Whole) : s.node.childIds = s.childIds := by
  rw [Node.childIds, node, binding, childIds]
  cases h : s.record with
  | none =>
    obtain ⟨children, steps, _⟩ := whole.unbound h
    rw [children, steps]
    rfl
  | some record => rfl

theorem Whole.boundOrDefinedAt_node (whole : s.Whole) :
    s.node.boundOrDefinedAt = s.boundOrDefinedAt := by
  have both := whole.boundAt
  rw [Node.boundOrDefinedAt, node, binding, boundOrDefinedAt]
  cases h : s.record with
  | none =>
    rw [h, Option.isSome_none, Option.isSome_eq_false_iff, Option.isNone_iff_eq_none] at both
    rw [both]
    rfl
  | some record => rfl

theorem Whole.withoutParent (whole : s.Whole) (parent : NodeId) : (s.withoutParent parent).Whole :=
  ⟨whole.className, whole.boundAt, whole.unbound⟩

theorem Whole.bindTrail_node (whole : s.Whole) : s.node.bindTrail = s.bindTrail := by
  rw [Node.bindTrail, node, binding]
  cases h : s.record with
  | none => exact (whole.unbound h).2.2.1.symm
  | some record => rfl

end Slot

namespace Store

/-- How far the store has come, with the roots once it is resolved. -/
def phase (s : Store) : Phase :=
  match s.state with
  | .building => .building
  | .resolved => .resolved (s.roots.getD [])
  | .failed => .failed

/-- The repository that the store shows. -/
def view (s : Store) : Repository :=
  { id := s.id, options := s.options, nodes := s.slots.map (·.map Slot.node), scopes := s.scopes,
    constants := s.constants, errors := s.errors, frames := s.frames, sinks := s.sinks,
    spigots := s.spigots, mux := s.mux, pinned := s.pinned, held := s.held, phase := s.phase }

variable {s s' : Store}

theorem get?_view (s : Store) (id : NodeId) : s.view.get? id = (s.get? id).map Slot.node := by
  rw [Repository.get?, view, Store.get?, Array.getElem?_map]
  cases s.slots[id.index]? <;> rfl

theorem get?_view_of_get? {id : NodeId} {slot : Slot} (here : s.get? id = some slot) :
    s.view.get? id = some slot.node := by
  rw [get?_view, here]
  rfl

theorem isLive_view (s : Store) (id : NodeId) : s.view.isLive id = s.isLive id := by
  rw [Repository.isLive, get?_view, Option.isSome_map, isLive]

theorem isBound_view (s : Store) (id : NodeId) : s.view.isBound id = s.isBound id := by
  rw [Repository.isBound, get?_view, Option.any_map, isBound]
  congr 1
  exact funext Slot.isBound_node

theorem nameInMessage_view (s : Store) (id : NodeId) :
    s.view.nameInMessage id = s.nameInMessage id := by
  rw [Repository.nameInMessage, Repository.nameOf?, get?_view, Option.map_map, nameInMessage]
  rfl

theorem scopeOf_view (s : Store) (id : NodeId) : s.view.scopeOf id = s.scopeOf id := by
  rw [Repository.scopeOf, get?_view, Option.map_map, scopeOf]
  rfl

theorem nodes_size_view (s : Store) : s.view.nodes.size = s.slots.size :=
  Array.size_map

theorem nameMap_view (s : Store) :
    s.view.nameMap = (List.range s.slots.size).filterMap fun i =>
      (s.get? ⟨i⟩).map fun slot => (slot.name, ⟨i⟩) := by
  rw [Repository.nameMap_eq, nodes_size_view]
  refine List.filterMap_congr fun i _ => ?_
  rw [Repository.nameOf?, get?_view, Option.map_map, Option.map_map]
  rfl

/-! ## 2. Agreement -/

/-- All slots are whole. -/
def Formed (s : Store) : Prop :=
  ∀ id slot, s.get? id = some slot → slot.Whole

/-- The pieces of the store agree. -/
structure Intact (s : Store) : Prop where
  names : s.names = s.view.nameMap
  whole : s.Formed

theorem Intact.lookup? (intact : s.Intact) (name : String) :
    s.view.lookup? name = s.lookup? name := by
  rw [Store.lookup?, intact.names, Repository.get?_nameMap]

theorem Intact.lookupBound? (intact : s.Intact) (name : String) :
    s.view.lookupBound? name = s.lookupBound? name := by
  rw [Repository.lookupBound?, intact.lookup?, Store.lookupBound?]
  exact congrArg (Option.filter · _) (funext s.isBound_view)

theorem Intact.values_names (intact : s.Intact) : OrderedMap.values s.names = s.view.liveIds := by
  rw [intact.names, OrderedMap.values, Repository.nameMap, List.map_map, Repository.liveIds]
  rfl

/-- The entries are the live slots in order. -/
theorem Intact.entries (intact : s.Intact) :
    s.view.entries = s.entries.map fun entry => (entry.1, entry.2.node) := by
  have listed : s.view.entries = s.view.liveIds.filterMap fun id =>
      (s.view.get? id).map (id, ·) := by
    rw [Repository.liveIds, List.filterMap_map]
    refine List.filterMap_some.symm.trans (List.filterMap_congr fun entry member => ?_)
    rw [Function.comp_apply, Repository.mem_entries.mp member]
    rfl
  rw [listed, Store.entries, intact.values_names, List.map_filterMap]
  refine List.filterMap_congr fun id _ => ?_
  rw [get?_view, Option.map_map, Option.map_map]
  rfl

/-! ## 3. Writing -/

/-- Nothing is written to slots or names. -/
theorem Intact.same (intact : s.Intact) (slots : s'.slots = s.slots) (names : s'.names = s.names) :
    s'.Intact where
  names := by
    rw [names, intact.names, nameMap_view, nameMap_view, slots]
    simp only [Store.get?, slots]
  whole := fun id slot here => intact.whole id slot (by rwa [Store.get?, slots] at here)

theorem view_update {id : NodeId} {f : Slot → Slot} {g : Node → Node}
    (same : ∀ slot, s.get? id = some slot → (f slot).node = g slot.node) :
    (s.update id f).view = s.view.update id g := by
  have nodes : (s.slots.modify id.index (·.map f)).map (·.map Slot.node) =
      (s.slots.map (·.map Slot.node)).modify id.index (·.map g) := by
    refine Array.ext (by simp) fun i inside _ => ?_
    rw [Array.size_map, Array.size_modify] at inside
    simp only [Array.getElem_map, Array.getElem_modify]
    split
    · rename_i here
      subst here
      cases slot : s.slots[id.index] with
      | none => rfl
      | some slot' =>
        have := same slot' (by simp [Store.get?, inside, slot])
        simp [this]
    · rfl
  rw [view, update, Repository.update, view, nodes]
  rfl

theorem view_updateAll {f : Slot → Slot} {g : Node → Node}
    (same : ∀ slot : Slot, (f slot).node = g slot.node) (s : Store) (ids : List NodeId) :
    (s.updateAll ids f).view = s.view.updateAll ids g := by
  induction ids generalizing s with
  | nil => rfl
  | cons id ids ih =>
    rw [Store.updateAll, List.foldl_cons, ← Store.updateAll, ih,
      view_update fun slot _ => same slot]
    rfl

theorem Formed.update (formed : s.Formed) {id : NodeId} {f : Slot → Slot}
    (whole : ∀ slot, s.get? id = some slot → (f slot).Whole) : (s.update id f).Formed := by
  intro other slot here
  rw [get?_update] at here
  split at here
  · rename_i same
    obtain ⟨before, there, rfl⟩ := Option.map_eq_some_iff.mp here
    exact whole before (same ▸ there)
  · exact formed other slot here

theorem Formed.updateAll (formed : s.Formed) {f : Slot → Slot}
    (whole : ∀ slot : Slot, slot.Whole → (f slot).Whole) (ids : List NodeId) :
    (s.updateAll ids f).Formed := by
  induction ids generalizing s with
  | nil => exact formed
  | cons id ids ih => exact ih (formed.update fun slot here => whole slot (formed id slot here))

/-- Slots keep their names. -/
theorem Intact.update (intact : s.Intact) {id : NodeId} {f : Slot → Slot}
    (name : ∀ slot, (f slot).name = slot.name)
    (whole : ∀ slot, s.get? id = some slot → (f slot).Whole) : (s.update id f).Intact where
  names := by
    have names : (s.update id f).names = s.names := rfl
    rw [names, intact.names, nameMap_view, nameMap_view, slots_size_update]
    refine List.filterMap_congr fun i _ => ?_
    rw [get?_update]
    split
    · rw [Option.map_map]
      cases s.get? ⟨i⟩ with
      | none => rfl
      | some slot => simp [name]
    · rfl
  whole := intact.whole.update whole

theorem Intact.updateAll (intact : s.Intact) {f : Slot → Slot}
    (name : ∀ slot, (f slot).name = slot.name) (whole : ∀ slot : Slot, slot.Whole → (f slot).Whole)
    (ids : List NodeId) : (s.updateAll ids f).Intact := by
  induction ids generalizing s with
  | nil => exact intact
  | cons id ids ih =>
    exact ih (intact.update name fun slot here => whole slot (intact.whole id slot here))

theorem Intact.addParent (intact : s.Intact) (parent : NodeId) (children : List NodeId) :
    (s.addParent parent children).Intact := by
  refine intact.updateAll (fun slot => ?_) (fun slot whole => ?_) children
  · split <;> rfl
  · split
    · exact whole
    · exact ⟨whole.className, whole.boundAt, whole.unbound⟩

theorem view_addParent (s : Store) (parent : NodeId) (children : List NodeId) :
    (s.addParent parent children).view = s.view.addParent parent children := by
  refine view_updateAll (fun slot => ?_) s children
  rw [apply_ite Slot.node]
  rfl

/-- A slot is written to and becomes a parent. -/
theorem Intact.relink (intact : s.Intact) {id : NodeId} {f : Slot → Slot}
    {g : Option Binding → Option Binding} (name : ∀ slot, (f slot).name = slot.name)
    (whole : ∀ slot, s.get? id = some slot → (f slot).Whole)
    (same : ∀ slot, s.get? id = some slot →
      (f slot).node = { slot.node with binding := g slot.binding }) (children : List NodeId) :
    ((s.update id f).addParent id children).Intact ∧
      ((s.update id f).addParent id children).view = s.view.relink id g children := by
  refine ⟨(intact.update name whole).addParent id children, ?_⟩
  rw [view_addParent, view_update (g := fun n => { n with binding := g n.binding }) same]
  rfl

/-- A new slot, and its name. -/
theorem Intact.register (intact : s.Intact) {name : String} (free : s.lookup? name = none)
    (basename : String) (scope : ScopeId) (quals : Qualifiers) (location : Location) :
    (s.register name basename scope quals location).Intact ∧
      (s.register name basename scope quals location).view =
        s.view.register name basename scope quals location := by
  have view : (s.register name basename scope quals location).view =
      s.view.register name basename scope quals location := by
    rw [Store.view, Store.register, Repository.register, Store.view, Array.map_push]
    rfl
  refine ⟨⟨?_, fun id slot here => ?_⟩, view⟩
  · have fresh : name ∉ OrderedMap.keys s.names := by
      rw [intact.names]
      intro member
      obtain ⟨_, named, rfl⟩ := List.mem_map.mp member
      obtain ⟨⟨id, n⟩, entry, rfl⟩ := List.mem_map.mp named
      rw [← intact.lookup?] at free
      exact Repository.lookup?_eq_none.mp free id n (Repository.mem_entries.mp entry) rfl
    have written : (s.register name basename scope quals location).names =
        s.names ++ [(name, ⟨s.slots.size⟩)] := OrderedMap.insert_of_fresh fresh
    rw [written, intact.names, view, Repository.nameMap_eq, Repository.nameMap_eq,
      Repository.nodes_size_register, List.range_succ, List.filterMap_append]
    congr 1
    · refine List.filterMap_congr fun i inside => ?_
      rw [Repository.nameOf?, Repository.nameOf?, Repository.get?_register,
        if_neg (Nat.ne_of_lt (List.mem_range.mp inside))]
    · simp [Repository.nameOf?, Repository.get?_register, nodes_size_view]
  · rw [Store.get?, Store.register, Array.getElem?_push] at here
    split at here
    · cases here
      exact ⟨rfl, rfl, fun _ => ⟨rfl, rfl, rfl, rfl⟩⟩
    · exact intact.whole id slot here

end Store

end NodeForest

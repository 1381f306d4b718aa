import NodeForest.Proofs.Retention

/-!
# What a resolve leaves alone

A resolve works on all nodes and lists of a repository at once: it removes nodes one by one, drops
them from the lists that mention nodes, numbers those that are left, and writes into their records.
The nodes that are left are as before but for three things: parents that are gone are no longer
listed, there is a number, and the record has the fields that a resolve writes. The lists hold what
is left of them, in the same order, and what does not mention nodes stays.

Results:
1. `Traced`: parents are listed once and have their children; `Steps.traced`.
2. `Restricts`: removals leave just those parents that are left; `Removals.restricts`.
3. `Thinned.nameMap`, `nameMap_numbered`: the names that are left.
4. `Binding.stampedKeys`, `stamps_placeBinding`: the fields that a resolve writes.
5. `resolve_leaves`: a successful resolve.
-/

namespace NodeForest

open Relation NodeForest.Action

namespace Repository

variable {p : Promise} {r r' : Repository}

/-! ## 1. Parents -/

/-- Parents are listed once, and have the node as a child. -/
structure Traced (r : Repository) : Prop where
  upward : r.Upward
  nodup : ∀ id, (r.parentsOf id).Nodup

theorem traced_start (id : RepositoryId) (options : Options) : (start id options).Traced :=
  ⟨upward_start id options, fun _ => List.nodup_nil⟩

theorem Step.nodup_parentsOf (h : Step p r r') (nodup : ∀ id, (r.parentsOf id).Nodup)
    (id : NodeId) : (r'.parentsOf id).Nodup := by
  have added (n : Node) (alone : n.parents = [])
      (place : r'.get? id = if id.index = r.nodes.size then some n else r.get? id) :
      (r'.parentsOf id).Nodup := by
    rw [parentsOf, place]
    split
    · rw [Option.map_some, Option.getD_some, alone]
      exact List.nodup_nil
    · exact nodup id
  cases h with
  | register basename scope quals location => exact added _ rfl (get?_register ..)
  | share value location => exact added _ rfl (get?_withConstant ..)
  | attach =>
    rw [parentsOf_noteClass]
    exact nodup_parentsOf_relink _ _ _ _ id (nodup id)
  | extend | setFields => exact nodup_parentsOf_relink _ _ _ _ id (nodup id)
  | note | count | openScope | keep => exact nodup id

theorem Steps.traced (h : Steps p r r') (traced : r.Traced) : r'.Traced := by
  refine ⟨h.upward traced.upward, ?_⟩
  induction h with
  | refl => exact traced.nodup
  | tail _ last ih => exact last.nodup_parentsOf ih

theorem Traced.isLive (traced : r.Traced) {id parent : NodeId}
    (member : parent ∈ r.parentsOf id) : r.isLive parent :=
  isLive_of_isBound (Upward.isBound traced.upward member)

/-! ## 2. Removals -/

/-- Nodes have been removed from `r`, and those that are left in `r'` have the parents that are left,
in the same order. -/
structure Restricts (r r' : Repository) : Prop where
  traced : r'.Traced
  isLive : ∀ {id}, r'.isLive id → r.isLive id
  parentsOf : ∀ {id}, r'.isLive id → r'.parentsOf id = (r.parentsOf id).filter r'.isLive

theorem Restricts.refl (traced : r.Traced) : Restricts r r :=
  ⟨traced, fun live => live, fun _ =>
    (List.filter_eq_self.mpr fun _ member => traced.isLive member).symm⟩

theorem Restricts.trans {r₁ r₂ r₃ : Repository} (h : Restricts r₁ r₂) (h' : Restricts r₂ r₃) :
    Restricts r₁ r₃ where
  traced := h'.traced
  isLive := fun live => h.isLive (h'.isLive live)
  parentsOf := by
    intro id live
    rw [h'.parentsOf live, h.parentsOf (h'.isLive live), List.filter_filter]
    refine List.filter_congr fun parent _ => ?_
    rw [Bool.and_eq_left_iff_imp]
    exact h'.isLive

/-- A removal takes the removed node from the parents of all others. -/
theorem parentsOf_detach (traced : r.Traced) (id : NodeId) {other : NodeId} (different : other ≠ id) :
    (r.detach id).parentsOf other = (r.parentsOf other).filter (· != id) := by
  rw [parentsOf, get?_detach traced.nodup, if_neg different, Option.map_map]
  cases here : r.get? other with
  | none => rw [parentsOf, here]; rfl
  | some n =>
    have parents := parentsOf_of_get? here
    have distinct := traced.nodup other
    rw [parents] at distinct ⊢
    rw [Option.map_some, Option.getD_some, ← distinct.erase_eq_filter]
    dsimp only [Function.comp]
    split
    · rfl
    · rename_i childless
      refine (List.erase_of_not_mem fun member => childless ?_).symm
      exact traced.upward (parents ▸ member)

theorem traced_detach (traced : r.Traced) (id : NodeId) : (r.detach id).Traced := by
  have parents {child : NodeId} : (r.detach id).parentsOf child =
      if child = id then [] else (r.parentsOf child).filter (· != id) := by
    split
    · rename_i same
      rw [parentsOf, get?_detach traced.nodup, if_pos same]
      rfl
    · rename_i different
      exact parentsOf_detach traced id different
  refine ⟨fun {child parent} member => ?_, fun child => ?_⟩
  · rw [parents] at member
    split at member
    · cases member
    · obtain ⟨above, different⟩ := List.mem_filter.mp member
      rw [IsChild, childIdsOf_eq, bindingOf?_detach traced.nodup, if_neg (bne_iff_ne.mp different),
        ← childIdsOf_eq]
      exact traced.upward above
  · rw [parents]
    split
    · exact List.nodup_nil
    · exact (traced.nodup child).filter _

theorem restricts_detach (traced : r.Traced) (id : NodeId) : Restricts r (r.detach id) where
  traced := traced_detach traced id
  isLive := fun live => by
    rw [isLive_detach, Bool.and_eq_true] at live
    exact live.1
  parentsOf := by
    intro other live
    rw [isLive_detach, Bool.and_eq_true] at live
    rw [parentsOf_detach traced id (bne_iff_ne.mp live.2)]
    refine List.filter_congr fun parent member => ?_
    rw [isLive_detach, traced.isLive member, Bool.true_and]

theorem restricts_compact (traced : r.Traced) : Restricts r r.compact :=
  ⟨⟨traced.upward, traced.nodup⟩, fun live => live, (Restricts.refl traced).parentsOf⟩

theorem Removals.restricts (h : Removals r r') (traced : r.Traced) : Restricts r r' := by
  induction h with
  | refl => exact .refl traced
  | tail _ last ih =>
    cases last with
    | detach id => exact ih.trans (restricts_detach ih.traced id)
    | compact => exact ih.trans (restricts_compact ih.traced)

/-- What is left after settling was bound. -/
theorem isBound_of_isLive_settle {id : NodeId} (live : r.settle.1.isLive id) : r.isBound id := by
  rw [settle] at live
  split at live
  · exact (isLive_removeUnbound id).mp live
  · exact (isLive_removeUnbound id).mp ((removals_sweep ..).thinned.isLive live)

/-- What is left after settling is bound. -/
theorem isBound_settle {id : NodeId} (live : r.settle.1.isLive id) :
    r.settle.1.isBound id := by
  obtain ⟨n', here⟩ := isLive_iff.mp live
  obtain ⟨n, there, same⟩ := (thinned_settle r).node here
  have bound := isBound_of_isLive_settle live
  rw [isBound, there] at bound
  rw [isBound, here, same]
  exact bound

/-! ## 3. Names -/

/-- Removals leave the names of what is left, in the same order. -/
theorem Thinned.nameMap (h : Thinned r r') :
    r'.nameMap = r.nameMap.filter fun entry => r'.isLive entry.2 := by
  rw [nameMap_eq, nameMap_eq, h.size, List.filter_filterMap]
  refine List.filterMap_congr fun i _ => ?_
  rw [nameOf?]
  cases here : r'.get? ⟨i⟩ with
  | none =>
    have gone : r'.isLive ⟨i⟩ = false := by rw [Repository.isLive, here]; rfl
    rw [Option.map_none, Option.map_none, eq_comm, Option.filter_eq_none_iff]
    intro entry named live
    obtain ⟨name, _, rfl⟩ := Option.map_eq_some_iff.mp named
    rw [gone] at live
    cases live
  | some n' =>
    obtain ⟨n, there, same⟩ := h.node here
    have live : r'.isLive ⟨i⟩ := isLive_iff.mpr ⟨n', here⟩
    have name : n'.name = n.name := by rw [same]
    rw [nameOf?, there, Option.map_some, Option.map_some, Option.map_some, Option.map_some, name]
    refine (Option.filter_some_pos ?_).symm
    exact live

theorem nameMap_place (r : Repository) : r.place.nameMap = r.nameMap := by
  rw [nameMap_eq, nameMap_eq, nodes_size_place]
  refine List.filterMap_congr fun i _ => ?_
  rw [nameOf?, get?_place, Option.map_map, nameOf?]
  cases r.get? ⟨i⟩ <;> rfl

theorem numbered_eq (r : Repository) (roots : OrderedMap String NodeId) :
    r.numbered roots = { r with nodes := r.place.nodes, phase := .resolved roots } := by
  rw [numbered, place_eq]

theorem isLive_numbered (r : Repository) (roots : OrderedMap String NodeId) :
    (r.numbered roots).isLive = r.isLive :=
  funext (isLive_place r)

theorem nameMap_numbered (r : Repository) (roots : OrderedMap String NodeId) :
    (r.numbered roots).nameMap = r.nameMap :=
  nameMap_place r

end Repository

/-! ## 4. Records -/

open Repository

/-- The keys of the fields that a resolve writes into the record of a node. Those of the children and
the step-children are written only when there are any. -/
def Binding.stampedKeys (b : Binding) : List String :=
  [indexKey, descriptionKey, nameKey] ++ (if b.children.isEmpty then [] else [childrenKey]) ++
    (if b.steps.isEmpty then [] else [stepsKey])

theorem isEmpty_childIndices {ids : List NodeId} {l : ChildList} (empty : l.isEmpty) :
    (childIndices ids l).isEmpty := by
  rw [ChildList.isEmpty, List.isEmpty_iff] at empty
  rw [childIndices, indicesOf, empty]
  cases l.keyed <;> rfl

theorem isEmpty_indicesOf {ids : List NodeId} {l : ChildList} (empty : l.isEmpty) :
    (indicesOf ids l).isEmpty := by
  rw [ChildList.isEmpty, List.isEmpty_iff] at empty
  rw [indicesOf, empty]
  rfl

theorem key_placedFields {ids : List NodeId} {i : Nat} {n : Node} {b : Binding} :
    ∀ field ∈ placedFields n b.className
        { index := i, children := childIndices ids b.children, steps := indicesOf ids b.steps },
      field.1 ∈ b.stampedKeys := by
  intro field member
  rw [placedFields, List.mem_append, List.mem_append] at member
  rw [Binding.stampedKeys, List.mem_append, List.mem_append]
  refine member.imp (Or.imp ?_ ?_) ?_
  · exact fun always => List.mem_map_of_mem (f := Prod.fst) always
  · intro listed
    split at listed
    · cases listed
    · rename_i some
      rw [if_neg fun empty => some (isEmpty_childIndices empty)]
      exact List.mem_map_of_mem (f := Prod.fst) listed
  · intro listed
    split at listed
    · cases listed
    · rename_i some
      rw [if_neg fun empty => some (isEmpty_indicesOf empty)]
      exact List.mem_map_of_mem (f := Prod.fst) listed

/-- What a resolve makes of a definition: there is a number, and some fields of the record are
written. Among the other keys, the record has the same fields in the same order. -/
structure Binding.Stamps (b b' : Binding) : Prop where
  same : b' = { b with record := b'.record, placement := b'.placement }
  record : (b'.record.filter fun field => field.1 ∉ b.stampedKeys) =
    b.record.filter fun field => field.1 ∉ b.stampedKeys

theorem stamps_placeBinding (ids : List NodeId) (i : Nat) (n : Node) (b : Binding) :
    b.Stamps (placeBinding ids i n b) :=
  ⟨rfl, OrderedMap.filter_insertAll (q := fun key => decide (key ∉ b.stampedKeys))
    (fun field member => by simpa using key_placedFields field member) b.record⟩

/-! ## 5. After a resolve -/

/-- What a resolve makes of a node that it leaves: the parents are those that are left, and the
definition has been written to. -/
structure Node.Stamps (live : NodeId → Bool) (n n' : Node) : Prop where
  same : n' = { n with parents := n'.parents, binding := n'.binding }
  parents : n'.parents = n.parents.filter live
  binding : ∃ b b', n.binding = some b ∧ n'.binding = some b' ∧ b.Stamps b'

namespace Repository

/-- What a resolve leaves alone: the nodes that are left, up to what it has to write there, what is
left of every list, and all that mentions no nodes. The counters for generated names are in the
scopes. -/
structure Leaves (r r' : Repository) : Prop where
  node : ∀ {id n'}, r'.get? id = some n' → ∃ n, r.get? id = some n ∧ n.Stamps r'.isLive n'
  names : r'.nameMap = r.nameMap.filter fun entry => r'.isLive entry.2
  sinks : r'.sinks = r.sinks.filter r'.isLive
  spigots : r'.spigots = r.spigots.filter r'.isLive
  constants : r'.constants = r.constants.filter fun entry => r'.isLive entry.2
  errors : r'.errors = r.errors
  scopes : r'.scopes = r.scopes

variable {r r' : Repository}

/-- A node that is left after settling is stamped with its number. -/
theorem Traced.stamps (traced : r.Traced) {roots : OrderedMap String NodeId} {id : NodeId}
    {n' : Node} (here : (r.settle.1.numbered roots).get? id = some n') :
    ∃ n, r.get? id = some n ∧ n.Stamps r.settle.1.isLive n' := by
  obtain ⟨n₁, there, rfl⟩ := get?_numbered.mp here
  obtain ⟨n, was, same⟩ := (thinned_settle r).node there
  have left : r.settle.1.isLive id := isLive_iff.mpr ⟨n₁, there⟩
  obtain ⟨b, binding⟩ := isBound_iff.mp (isBound_of_isLive_settle left)
  rw [bindingOf?_of_get? was] at binding
  have parents := ((removals_settle r).restricts traced).parentsOf left
  rw [parentsOf_of_get? there, parentsOf_of_get? was] at parents
  have binding₁ : n₁.binding = some b := by rw [same, binding]
  refine ⟨n, was, ?_, parents, b, _, binding, binding_placeNode binding₁, stamps_placeBinding ..⟩
  rw [placeNode, same]

/-- Settling and numbering leave the rest alone. -/
theorem Traced.leaves (traced : r.Traced) (roots : OrderedMap String NodeId) :
    r.Leaves (r.settle.1.numbered roots) := by
  have thinned := thinned_settle r
  have live := isLive_numbered r.settle.1 roots
  have names := nameMap_numbered r.settle.1 roots
  have rest := numbered_eq r.settle.1 roots
  obtain ⟨sinks, spigots, constants⟩ := lists_settle r
  refine ⟨fun here => ?_, ?_, ?_, ?_, ?_, ?_, ?_⟩
  · rw [live]
    exact traced.stamps here
  · rw [live, names, thinned.nameMap]
  · rw [live, ← sinks, rest]
  · rw [live, ← spigots, rest]
  · rw [live, ← constants, rest]
  · rw [← thinned.errors, rest]
  · rw [← thinned.scopes, rest]

/-- A resolve changes nothing but what it must. -/
theorem resolve_leaves {allowed : Repository → Operation → Prop} {location : Location}
    {given : Option Unit} (reached : Reachable allowed r) (building : r.phase = .building)
    (resolved : (resolve Hook.idle location).exec r = (.ok given, r')) : r.Leaves r' := by
  have idle (r : Repository) : Leads (Step .none) (Hook.idle location) r fun _ _ => True :=
    .pure trivial
  obtain ⟨_, r₂, ran, _, _, rfl⟩ := numbered_of_leads idle building resolved
  cases ran
  obtain ⟨id, options, steps⟩ := reached.steps (fun r op _ => Promise.allows_none r op) building
  exact (steps.traced (traced_start id options)).leaves _

/-- A node that two others have as a child loses the one that is removed, and keeps the other. -/
theorem resolve_leaves_sharedLeaf : Reachable Operation.NamesAllocated sharedLeaf ∧
    sharedLeaf.phase = .building ∧
      ∃ given r', (resolve Hook.idle default).exec sharedLeaf = (.ok given, r') ∧
        sharedLeaf.parentsOf ⟨0⟩ = [⟨1⟩, ⟨2⟩] ∧ r'.parentsOf ⟨0⟩ = [⟨1⟩] ∧
          sharedLeaf.Leaves r' := by
  have building : sharedLeaf.phase = .building := by decide +kernel
  have resolved : (resolve Hook.idle default).exec sharedLeaf =
      (.ok (some ()), ((resolve Hook.idle default).exec sharedLeaf).2) :=
    Prod.ext (by decide +kernel) rfl
  exact ⟨reachable_sharedLeaf, building, _, _, resolved, by decide +kernel, by decide +kernel,
    resolve_leaves reachable_sharedLeaf building resolved⟩

end Repository

end NodeForest

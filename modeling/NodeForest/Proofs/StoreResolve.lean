import NodeForest.Proofs.StoreBind

/-!
# Resolving a store

A resolve does to an intact store what it does to the repository that the store shows, with any hook
that does, and whether it fails or not. While nodes are being removed, the name map still mentions
those that are gone; when it is compacted, it agrees with the slots again.

Results:
1. `implements_checkChildren`, `implements_mux`: what comes before the removals.
2. `view_detach`, `view_sweep`, `Intact.settle`: the removals, one node at a time.
3. `Intact.numbered`: the two passes that write the numbers.
4. `implements_resolve`: the whole resolve.
-/

namespace NodeForest

open Procedure

namespace Store

variable {s s' : Store}

/-! ## 1. Before the removals -/

theorem get?_of_mem_entries {id : NodeId} {slot : Slot} (member : (id, slot) ∈ s.entries) :
    s.get? id = some slot := by
  obtain ⟨other, _, found⟩ := List.mem_filterMap.mp member
  obtain ⟨_, here, same⟩ := Option.map_eq_some_iff.mp found
  cases same
  exact here

theorem uninitializedFindings_view (s : Store) {parent : Slot} (whole : parent.Whole)
    (label : Label) (child : NodeId) :
    s.view.uninitializedFindings parent.node label child =
      s.uninitializedFindings parent label child := by
  rw [Repository.uninitializedFindings, Store.uninitializedFindings, get?_view, Option.map_map,
    Option.filter_map, whole.boundOrDefinedAt_node, whole.bindTrail_node]
  have lines : (fun n : Node => !n.definedAt.sameLine parent.node.definedAt) ∘ Slot.node =
      fun c => !c.definedAt.sameLine parent.definedAt := rfl
  rw [lines]
  cases (s.get? child).filter fun c => !c.definedAt.sameLine parent.definedAt <;> rfl

theorem findingsOf_view (s : Store) {parent : Slot} (whole : parent.Whole) :
    s.view.findingsOf parent.node = s.findingsOf parent := by
  rw [Repository.findingsOf, Store.findingsOf, whole.children_node, whole.steps_node]
  refine List.flatMap_congr fun e _ => ?_
  cases e.child.nodeId? with
  | none => rfl
  | some child =>
    dsimp only
    rw [isBound_view, uninitializedFindings_view s whole]

theorem Intact.findings (intact : s.Intact) : s.view.findings = s.findings := by
  rw [Repository.findings, Store.findings, intact.entries, List.filter_map, List.flatMap_map]
  have bound : (fun entry : NodeId × Node => entry.2.isBound) ∘
      (fun entry : NodeId × Slot => (entry.1, entry.2.node)) = fun entry => entry.2.isBound :=
    funext fun entry => entry.2.isBound_node
  rw [bound]
  refine List.flatMap_congr fun entry member => ?_
  have here := get?_of_mem_entries (List.mem_filter.mp member).1
  exact findingsOf_view s (intact.whole entry.1 entry.2 here)

theorem implements_checkChildren (intact : s.Intact) :
    Implements checkChildren Repository.reportUninitialized s := by
  refine .get ?_
  rw [intact.findings]
  generalize s.findings = fs
  induction fs generalizing s with
  | nil => exact .pure intact _
  | cons f fs ih => exact .bind (implements_addError _ _ intact) fun _ _ intact₁ => ih intact₁

theorem Intact.hasMuxParent (intact : s.Intact) (slot : Slot) :
    s.view.hasMuxParent slot.node = s.hasMuxParent slot := by
  rw [Repository.hasMuxParent, Store.hasMuxParent]
  change slot.parents.any _ = _
  congr 1
  funext parent
  rw [get?_view]
  cases here : s.get? parent with
  | none => rfl
  | some above =>
    rw [Option.map_some, Option.bind_some, Option.bind_some,
      (intact.whole parent above here).className?_node]

theorem Intact.withoutMux (intact : s.Intact) (ids : List NodeId) :
    s.view.withoutMux ids = s.withoutMux ids := by
  rw [Repository.withoutMux, Store.withoutMux]
  refine congrArg (List.map _) (List.filter_congr fun id _ => ?_)
  rw [get?_view, Option.any_map]
  congr 1
  exact funext fun slot => congrArg not (intact.hasMuxParent slot)

theorem implements_obtainMux (location : Location) (intact : s.Intact) :
    Implements (obtainMux location) (Repository.obtainMux location) s := by
  refine .get ?_
  have mux : s.view.mux = s.mux := rfl
  rw [mux]
  cases s.mux with
  | some mux => exact .pure intact _
  | none =>
    refine .bind (.give (intact.nodeInScope ..)) fun id s₁ intact₁ => ?_
    exact .bind (implements_bind id _ location intact₁) fun _ s₂ intact₂ => .pure intact₂ _

theorem implements_mux (location : Location) (intact : s.Intact) :
    Implements (Hook.mux location) (NodeForest.Hook.mux location) s := by
  refine .get (.ite ?_ ?_)
  · have mux : s.view.mux = s.mux := rfl
    rw [mux]
    cases s.mux with
    | some mux => exact .change (intact.same rfl rfl) rfl
    | none => exact .pure intact _
  · refine .bind (implements_obtainMux location intact) fun id s₁ intact₁ => ?_
    refine .bind (.change (intact₁.pin id).1 (intact₁.pin id).2) fun _ s₂ intact₂ => ?_
    refine .get ?_
    dsimp only
    rw [intact₂.withoutMux, intact₂.withoutMux]
    refine .bind (implements_extendChildren .child id _ location intact₂) fun _ s₃ intact₃ => ?_
    exact implements_extendChildren .step id _ location intact₃

/-! ## 2. Removals -/

theorem view_remove (s : Store) (id : NodeId) : (s.remove id).view = s.view.remove id := by
  rw [Store.view, Store.remove, Repository.remove, Store.view, Array.map_setIfInBounds]
  rfl

/-- Writing to slots leaves the rest of the store alone. -/
theorem updateAll_eq (s : Store) (ids : List NodeId) (f : Slot → Slot) :
    s.updateAll ids f = { s with slots := (s.updateAll ids f).slots } := by
  induction ids generalizing s with
  | nil => rfl
  | cons id ids ih => rw [updateAll, List.foldl_cons, ← updateAll, ih]; rfl

theorem Formed.remove (formed : s.Formed) (id : NodeId) : (s.remove id).Formed := by
  intro other slot here
  rw [get?_remove] at here
  split at here
  · cases here
  · exact formed other slot here

theorem detach_of_get? {id : NodeId} {slot : Slot} (here : s.get? id = some slot) :
    s.detach id = (s.remove id).updateAll slot.childIds (·.withoutParent id) := by
  rw [detach, here]

theorem detach_of_gone {id : NodeId} (here : s.get? id = none) : s.detach id = s := by
  rw [detach, here]

theorem names_detach (s : Store) (id : NodeId) : (s.detach id).names = s.names := by
  cases here : s.get? id with
  | none => rw [detach_of_gone here]
  | some slot => rw [detach_of_get? here, updateAll_eq, remove]

theorem Formed.detach (formed : s.Formed) (id : NodeId) : (s.detach id).Formed := by
  cases here : s.get? id with
  | none => rwa [detach_of_gone here]
  | some slot =>
    rw [detach_of_get? here]
    exact (formed.remove id).updateAll (fun _ whole => whole.withoutParent id) _

theorem Formed.view_detach (formed : s.Formed) (id : NodeId) :
    (s.detach id).view = s.view.detach id := by
  have there := s.get?_view id
  cases here : s.get? id with
  | none =>
    rw [here] at there
    rw [detach_of_gone here, Repository.detach_of_gone there]
  | some slot =>
    rw [here] at there
    rw [detach_of_get? here, view_updateAll (g := (·.withoutParent id)) fun _ => rfl, view_remove,
      Repository.detach_of_get? there, Repository.childIdsOf, there, Option.map_some,
      Option.map_some, Option.getD_some, (formed id slot here).childIds_node]

theorem Formed.foldl_detach (formed : s.Formed) (entries : List (NodeId × Slot)) :
    (entries.foldl (fun s entry => s.detach entry.1) s).Formed ∧
      (entries.foldl (fun s entry => s.detach entry.1) s).names = s.names ∧
      (entries.foldl (fun s entry => s.detach entry.1) s).view =
        entries.foldl (fun r entry => r.detach entry.1) s.view := by
  induction entries generalizing s with
  | nil => exact ⟨formed, rfl, rfl⟩
  | cons entry entries ih =>
    obtain ⟨formed', names, view⟩ := ih (formed.detach entry.1)
    refine ⟨formed', names.trans (names_detach s entry.1), ?_⟩
    rw [formed.view_detach entry.1] at view
    exact view

/-- One visit after the other comes to the same as the passes from orphan to orphan. -/
theorem Formed.view_sweep (formed : s.Formed) (roots : OrderedMap String NodeId)
    (pending : List NodeId) :
    (s.sweep roots pending).1.Formed ∧ (s.sweep roots pending).1.names = s.names ∧
      ((s.sweep roots pending).1.view, (s.sweep roots pending).2) =
        s.view.sweep roots pending := by
  fun_induction s.sweep roots pending with
  | case1 s roots =>
    refine ⟨formed, rfl, ?_⟩
    rw [Repository.sweep_of_stay roots rfl]
    rfl
  | case2 s roots id rest gone ih =>
    obtain ⟨formed', names, view⟩ := ih formed
    refine ⟨formed', names, view.trans ?_⟩
    have gone' : s.view.get? id = none := by rw [get?_view, gone]; rfl
    have stay : ¬s.view.isOrphan id := by simp [Repository.isOrphan, gone']
    rw [Repository.sweep_cons_of_stay stay, Repository.rootsAmong_of_gone gone']
    rfl
  | case3 s roots id rest slot here parents ih =>
    obtain ⟨formed', names, view⟩ := ih formed
    refine ⟨formed', names, view.trans ?_⟩
    have here' := get?_view_of_get? here
    have above : slot.node.parents.isEmpty = false := by
      rwa [Bool.not_eq_true'] at parents
    have stay : ¬s.view.isOrphan id := by simp [Repository.isOrphan, here', above]
    rw [Repository.sweep_cons_of_stay stay, Repository.rootsAmong_of_get? here', above]
    rfl
  | case4 s roots id rest slot here parents held ih =>
    obtain ⟨formed', names, view⟩ := ih formed
    refine ⟨formed', names, view.trans ?_⟩
    have here' := get?_view_of_get? here
    have top : slot.node.parents.isEmpty = true := by
      rwa [Bool.not_eq_true', Bool.not_eq_false] at parents
    have held' : s.view.isReferenced id = true := held
    have stay : ¬s.view.isOrphan id := by simp [Repository.isOrphan, here', held']
    rw [Repository.sweep_cons_of_stay stay, Repository.rootsAmong_of_get? here', top]
    rfl
  | case5 s roots id rest slot here parents free ih =>
    obtain ⟨formed', names, view⟩ := ih (formed.detach id)
    refine ⟨formed', names.trans (names_detach s id), view.trans ?_⟩
    have here' := get?_view_of_get? here
    have top : slot.node.parents.isEmpty = true := by
      rwa [Bool.not_eq_true', Bool.not_eq_false] at parents
    have free' : s.view.isReferenced id = false := Bool.eq_false_of_not_eq_true free
    have orphan : s.view.isOrphan id := by simp [Repository.isOrphan, here', top, free']
    rw [Repository.sweep_cons_of_orphan orphan, formed.view_detach, Repository.childIdsOf, here',
      Option.map_some, Option.getD_some, (formed id slot here).childIds_node]

theorem view_compact (s : Store) : s.compact.view = s.view.compact := by
  have live : s.view.isLive = s.isLive := funext s.isLive_view
  rw [Repository.compact, live]
  rfl

/-- After removals, compacting makes the names those of the live slots again. -/
theorem Formed.compact (formed : s.Formed) {r : Repository} (names : s.names = r.nameMap)
    (removals : Repository.Removals r s.view) : s.compact.Intact where
  names := by
    have live : s.isLive = s.view.isLive := (funext s.isLive_view).symm
    have left : s.compact.names = s.names.filter fun entry => s.isLive entry.2 := rfl
    rw [left, names, live, ← removals.thinned.nameMap, view_compact]
    rfl
  whole := formed

theorem Intact.parentless (intact : s.Intact) :
    s.view.parentless = s.parentless.map fun entry => (entry.1, entry.2.node) := by
  have bound : (fun entry : NodeId × Node => entry.2.isBound && entry.2.parents.isEmpty) ∘
      (fun entry : NodeId × Slot => (entry.1, entry.2.node)) =
        fun entry => entry.2.isBound && entry.2.parents.isEmpty :=
    funext fun entry => congrArg (· && entry.2.parents.isEmpty) entry.2.isBound_node
  rw [Repository.parentless, intact.entries, List.filter_map, bound, Store.parentless]

/-- Removing what was never bound. -/
theorem Intact.removeUnbound (intact : s.Intact) :
    s.removeUnbound.Intact ∧ s.removeUnbound.view = s.view.removeUnbound := by
  obtain ⟨formed, names, view⟩ := intact.whole.foldl_detach (s.entries.filter (!·.2.isBound))
  have bound : (fun entry : NodeId × Node => !entry.2.isBound) ∘
      (fun entry : NodeId × Slot => (entry.1, entry.2.node)) = fun entry => !entry.2.isBound :=
    funext fun entry => congrArg not entry.2.isBound_node
  have entries : s.view.entries.filter (!·.2.isBound) =
      (s.entries.filter (!·.2.isBound)).map fun entry => (entry.1, entry.2.node) := by
    rw [intact.entries, List.filter_map, bound]
  have same : (s.entries.filter (!·.2.isBound)).foldl (fun r entry => r.detach entry.1) s.view =
      (s.view.entries.filter (!·.2.isBound)).foldl (fun r entry => r.detach entry.1) s.view := by
    rw [entries, List.foldl_map]
  rw [same] at view
  refine ⟨formed.compact (names.trans intact.names) ?_, ?_⟩
  · rw [view]
    exact Repository.removals_foldl_detach ..
  · rw [Store.removeUnbound, view_compact, view, Repository.removeUnbound]

/-- Settling the store settles what it shows. -/
theorem Intact.settle (intact : s.Intact) :
    s.settle.1.Intact ∧ (s.settle.1.view, s.settle.2) = s.view.settle := by
  obtain ⟨intact₁, view₁⟩ := intact.removeUnbound
  rw [Store.settle, Repository.settle, intact.parentless, ← view₁, List.map_map, List.map_map]
  have options : s.removeUnbound.view.options = s.removeUnbound.options := rfl
  dsimp only
  rw [options]
  split
  · exact ⟨intact₁, rfl⟩
  · obtain ⟨formed, names, view⟩ := intact₁.whole.view_sweep [] (s.parentless.map Prod.fst)
    obtain ⟨repository, roots⟩ := Prod.ext_iff.mp view
    dsimp only at repository roots
    refine ⟨formed.compact (names.trans intact₁.names) ?_, ?_⟩
    · rw [repository]
      exact Repository.removals_sweep ..
    · dsimp only
      rw [view_compact, repository, roots]
      rfl

/-! ## 3. Numbers -/

theorem get?_updateAll (f : Slot → Slot) (id : NodeId) : ∀ (ids : List NodeId) (s : Store),
    ids.Nodup → (s.updateAll ids f).get? id = if id ∈ ids then (s.get? id).map f else s.get? id
  | [], _, _ => by simp [updateAll]
  | first :: ids, s, distinct => by
    obtain ⟨fresh, distinct⟩ := List.nodup_cons.mp distinct
    rw [updateAll, List.foldl_cons, ← updateAll, get?_updateAll f id ids _ distinct, get?_update]
    by_cases same : id = first
    · subst same
      simp [fresh]
    · simp [same]

theorem stampAll_eq (ids : List NodeId) : ∀ (start : Nat) (s : Store),
    s.stampAll start ids = { s with slots := (s.stampAll start ids).slots } := by
  induction ids with
  | nil => exact fun _ _ => rfl
  | cons id ids ih =>
    intro start s
    rw [stampAll]
    split
    · rw [ih]
      rfl
    · exact ih start s

theorem slots_size_stampAll (ids : List NodeId) : ∀ (start : Nat) (s : Store),
    (s.stampAll start ids).slots.size = s.slots.size := by
  induction ids with
  | nil => exact fun _ _ => rfl
  | cons id ids ih =>
    intro start s
    rw [stampAll]
    split
    · rw [ih, slots_size_update]
    · exact ih start s

/-- Live slots are numbered by their positions in the list. -/
theorem get?_stampAll (id : NodeId) : ∀ (ids : List NodeId) (start : Nat) (s : Store), ids.Nodup →
    (∀ id ∈ ids, s.isLive id) → (s.stampAll start ids).get? id =
      if id ∈ ids then (s.get? id).map (stamp (start + ids.idxOf id)) else s.get? id
  | [], _, _, _, _ => by simp [stampAll]
  | first :: ids, start, s, distinct, live => by
    obtain ⟨fresh, distinct⟩ := List.nodup_cons.mp distinct
    have later : ∀ id ∈ ids, (s.update first (stamp start)).isLive id := fun id member => by
      rw [isLive_update]
      exact live id (List.mem_cons_of_mem _ member)
    rw [stampAll, if_pos (live first List.mem_cons_self),
      get?_stampAll id ids (start + 1) _ distinct later, get?_update]
    by_cases same : id = first
    · subst same
      simp [fresh]
    · simp only [same, ↓reduceIte, List.mem_cons, false_or]
      rw [List.idxOf_cons_ne _ (Ne.symm same)]
      simp only [Nat.succ_eq_add_one, Nat.add_assoc, Nat.add_comm 1]

section

variable {ids : List NodeId} {indices : OrderedMap NodeId Nat}

theorem indexOf_eq (agrees : ∀ id, OrderedMap.get? indices id = (ids.idxOf? id).map (· + 1))
    (c : Child) : indexOf indices c = Repository.indexIn ids c := by
  rw [indexOf, Repository.indexIn]
  cases c.nodeId? with
  | none => rfl
  | some id =>
    rw [Option.bind_some, Option.bind_some, agrees]
    cases ids.idxOf? id <;> rfl

theorem indicesOf_eq (agrees : ∀ id, OrderedMap.get? indices id = (ids.idxOf? id).map (· + 1))
    (l : ChildList) : indicesOf indices l = Repository.indicesOf ids l := by
  rw [indicesOf, Repository.indicesOf]
  exact List.map_congr_left fun e _ => indexOf_eq agrees e.child

theorem childIndices_eq (agrees : ∀ id, OrderedMap.get? indices id = (ids.idxOf? id).map (· + 1))
    (l : ChildList) : childIndices indices l = Repository.childIndices ids l := by
  rw [childIndices, Repository.childIndices, indicesOf_eq agrees, funext (indexOf_eq agrees)]

/-- The fields are written in two passes, or all at once. -/
theorem writeIndices_stamped (slot : Slot) (p : Placement) (record : Record) :
    writeIndices p.children p.steps (OrderedMap.insertAll record
        [(Repository.indexKey, .int p.index), (Repository.descriptionKey, .text (describe slot)),
          (Repository.nameKey, .text slot.name)]) =
      OrderedMap.insertAll record
        (Repository.placedFields slot.node (slot.className.getD "") p) := by
  rw [Repository.placedFields, writeIndices, OrderedMap.insertAll, OrderedMap.insertAll,
    List.foldl_append, List.foldl_append]
  cases p.children.isEmpty <;> cases p.steps.isEmpty <;> rfl

/-- What both passes make of a bound slot. -/
theorem node_rewrite {slot : Slot} {record : Record} (bound : slot.record = some record)
    (agrees : ∀ id, OrderedMap.get? indices id = (ids.idxOf? id).map (· + 1)) (i : Nat) :
    (rewrite indices (stamp (i + 1) slot)).node = Repository.placeNode ids i slot.node := by
  have fields := writeIndices_stamped slot
    ⟨i + 1, Repository.childIndices ids slot.children, Repository.indicesOf ids slot.steps⟩ record
  rw [Repository.placeNode]
  simp only [rewrite, stamp, Slot.node, Slot.binding, Slot.placement, bound, Option.map_some,
    childIndices_eq agrees, indicesOf_eq agrees]
  rw [fields]
  rfl

theorem whole_rewrite {slot : Slot} {record : Record} (whole : slot.Whole)
    (bound : slot.record = some record) (indices : OrderedMap NodeId Nat) (index : Nat) :
    (rewrite indices (stamp index slot)).Whole := by
  have written : (rewrite indices (stamp index slot)).record.isSome = slot.record.isSome := by
    rw [rewrite, stamp, Option.isSome_map, Option.isSome_map]
  refine ⟨whole.className.trans written.symm, whole.boundAt.trans written.symm, fun none => ?_⟩
  rw [none, bound] at written
  cases written

end

theorem assignIndices_eq (s : Store) :
    s.assignIndices = { s with slots := s.assignIndices.slots } :=
  stampAll_eq _ 1 s

theorem rewriteChildren_eq (s : Store) :
    s.rewriteChildren = { s with slots := s.rewriteChildren.slots } :=
  updateAll_eq ..

theorem get?_of_not_mem {id : NodeId} (gone : id ∉ s.view.liveIds) : s.get? id = none := by
  rwa [Repository.mem_liveIds, isLive_view, isLive, Option.not_isSome_iff_eq_none] at gone

theorem Intact.get?_assignIndices (intact : s.Intact) (id : NodeId) :
    s.assignIndices.get? id = (s.get? id).map (stamp (s.view.liveIds.idxOf id + 1)) := by
  have live : ∀ id ∈ s.view.liveIds, s.isLive id := fun id member => by
    rw [← isLive_view]
    exact Repository.mem_liveIds.mp member
  rw [assignIndices, intact.values_names, get?_stampAll id _ 1 s s.view.nodup_liveIds live]
  split
  · rw [Nat.add_comm]
  · rename_i gone
    rw [get?_of_not_mem gone]
    rfl

/-- The numbers that the second pass reads are the positions of the live nodes. -/
theorem Intact.indices (intact : s.Intact) :
    (s.assignIndices.entries.filterMap fun entry => entry.2.index.map (entry.1, ·)) =
      s.view.liveIds.map fun id => (id, s.view.liveIds.idxOf id + 1) := by
  have names : s.assignIndices.names = s.names := by rw [assignIndices_eq]
  rw [Store.entries, names, intact.values_names, List.filterMap_filterMap, ← List.filterMap_eq_map]
  refine List.filterMap_congr fun id member => ?_
  obtain ⟨slot, here⟩ : ∃ slot, s.get? id = some slot := by
    rw [Repository.mem_liveIds, isLive_view] at member
    exact Option.isSome_iff_exists.mp member
  rw [intact.get?_assignIndices, here]
  rfl

theorem get?_positions {ids : List NodeId} (distinct : ids.Nodup) (id : NodeId) :
    OrderedMap.get? (ids.map fun id => (id, ids.idxOf id + 1)) id =
      (ids.idxOf? id).map (· + 1) := by
  have keys : OrderedMap.keys (ids.map fun id => (id, ids.idxOf id + 1)) = ids := by
    rw [OrderedMap.keys, List.map_map]
    exact List.map_id ids
  by_cases member : id ∈ ids
  · obtain ⟨i, found⟩ := Option.isSome_iff_exists.mp (List.isSome_idxOf?.mpr member)
    have entry : (id, i + 1) ∈ ids.map fun id => (id, ids.idxOf id + 1) :=
      List.mem_map.mpr ⟨id, member, by rw [List.idxOf_eq_getD_idxOf?, found, Option.getD_some]⟩
    rw [OrderedMap.get?_of_mem (keys.symm ▸ distinct) entry, found, Option.map_some]
  · rw [OrderedMap.get?_eq_none (by rwa [keys]), List.idxOf?_eq_none_iff.mpr member]
    rfl

/-- Both passes together number the slots as nodes are numbered. -/
theorem Intact.get?_numbered (intact : s.Intact) (id : NodeId) :
    s.assignIndices.rewriteChildren.get? id = (s.get? id).map fun slot =>
      rewrite (s.view.liveIds.map fun id => (id, s.view.liveIds.idxOf id + 1))
        (stamp (s.view.liveIds.idxOf id + 1) slot) := by
  have names : s.assignIndices.names = s.names := by rw [assignIndices_eq]
  rw [rewriteChildren, intact.indices, names, intact.values_names,
    get?_updateAll _ id _ _ s.view.nodup_liveIds, intact.get?_assignIndices, Option.map_map]
  split
  · rfl
  · rename_i gone
    rw [get?_of_not_mem gone]
    rfl

/-- Numbering the store, all slots of which are bound, numbers what it shows. -/
theorem Intact.numbered (intact : s.Intact) (bound : ∀ id, s.isLive id → s.isBound id) :
    s.assignIndices.rewriteChildren.Intact ∧
      s.assignIndices.rewriteChildren.view = s.view.place := by
  have written {id : NodeId} {slot : Slot} (here : s.get? id = some slot) :
      ∃ record, slot.record = some record := by
    have := bound id (by rw [isLive, here]; rfl)
    rw [isBound, here] at this
    exact Option.isSome_iff_exists.mp this
  have size : s.assignIndices.rewriteChildren.slots.size = s.slots.size := by
    rw [rewriteChildren, slots_size_updateAll, assignIndices, slots_size_stampAll]
  have view : s.assignIndices.rewriteChildren.view = s.view.place := by
    have nodes : s.assignIndices.rewriteChildren.view.nodes = s.view.place.nodes := by
      refine Repository.nodes_ext ?_ fun id => ?_
      · rw [nodes_size_view, size, Repository.nodes_size_place, nodes_size_view]
      · rw [get?_view, intact.get?_numbered, Repository.get?_place, get?_view, Option.map_map,
          Option.map_map]
        cases here : s.get? id with
        | none => rfl
        | some slot =>
          obtain ⟨record, bound⟩ := written here
          exact congrArg some
            (node_rewrite bound (get?_positions s.view.nodup_liveIds) _)
    rw [Repository.place_eq, ← nodes, rewriteChildren_eq, assignIndices_eq]
    rfl
  refine ⟨⟨?_, fun id slot here => ?_⟩, view⟩
  · rw [view, Repository.nameMap_place, ← intact.names, rewriteChildren_eq, assignIndices_eq]
  · rw [intact.get?_numbered] at here
    obtain ⟨before, there, rfl⟩ := Option.map_eq_some_iff.mp here
    obtain ⟨record, bound⟩ := written there
    exact whole_rewrite (intact.whole id before there) bound _ _

/-! ## 4. The whole resolve -/

section

variable {α : Type} (hook : Store.Hook α) (hook' : NodeForest.Hook α) (location : Location)

theorem implements_runResolve (intact : s.Intact)
    (hooked : ∀ s₁, checkChildren.exec s = (.ok (), s₁) → s₁.Intact →
      Implements (hook location) (hook' location) s₁) :
    Implements (runResolve hook location) (Repository.runResolve hook' location) s := by
  refine .bind_run (implements_checkChildren intact) fun _ s₁ intact₁ passed _ => ?_
  refine .bind (hooked s₁ passed intact₁) fun given s₂ intact₂ => .get ?_
  obtain ⟨intact₃, view₃⟩ := intact₂.settle
  obtain ⟨repository, roots⟩ := Prod.ext_iff.mp view₃
  rw [← view₃]
  refine .bind_run (.put intact₃ rfl) fun _ s₄ intact₄ _ ran => ?_
  have settled : s₄.view = s₂.view.settle.1 := (congrArg Prod.snd ran).symm.trans repository
  have bound : ∀ id, s₄.isLive id → s₄.isBound id := fun id live => by
    rw [← isLive_view, settled] at live
    rw [← isBound_view, settled]
    exact Repository.isBound_settle live
  have placed : s₂.settle.1.view.place = s₄.view.place := by
    rw [settled]
    exact congrArg Repository.place repository
  obtain ⟨intact₅, view₅⟩ := intact₄.numbered bound
  refine .ite (.fail intact₄ _) ?_
  dsimp only
  rw [placed]
  exact ⟨intact₅, rfl, view₅⟩

theorem exec_resolve_ok {roots : OrderedMap String NodeId} {given : α} {s₁ : Store}
    (building : s.state = .building)
    (run : (runResolve hook location).exec s = (.ok (roots, given), s₁)) :
    (resolve hook location).exec s =
      (.ok (some given), { s₁ with roots := some roots, state := .resolved }) := by
  rw [resolve, Procedure.exec_bind, Procedure.exec_get]
  simp only [building]
  rw [Procedure.exec_bind, Procedure.exec_tryCatch, Procedure.exec_bind, run]
  rfl

theorem exec_resolve_error {e : Failure} {s₁ : Store} (building : s.state = .building)
    (run : (runResolve hook location).exec s = (.error e, s₁)) :
    (resolve hook location).exec s = (.error e, { s₁ with state := .failed }) := by
  rw [resolve, Procedure.exec_bind, Procedure.exec_get]
  simp only [building]
  rw [Procedure.exec_bind, Procedure.exec_tryCatch, Procedure.exec_bind, run]
  rfl

/-- A resolve of the store resolves what it shows. -/
theorem implements_resolve (intact : s.Intact)
    (hooked : ∀ s₁, s.state = .building → checkChildren.exec s = (.ok (), s₁) → s₁.Intact →
      Implements (hook location) (hook' location) s₁) :
    Implements (resolve hook location) (Repository.resolve hook' location) s := by
  have phase : s.view.phase = s.phase := rfl
  cases state : s.state with
  | resolved =>
    have resolved : s.view.phase = .resolved (s.roots.getD []) := by rw [phase, Store.phase, state]
    refine .get ?_
    rw [state, resolved]
    exact .pure intact _
  | failed =>
    have failed : s.view.phase = .failed := by rw [phase, Store.phase, state]
    refine .get ?_
    rw [state, failed]
    exact .throw intact _
  | building =>
    have building : s.view.phase = .building := by rw [phase, Store.phase, state]
    have done := implements_runResolve hook hook' location intact (hooked · state)
    rcases run : (runResolve hook location).exec s with ⟨e | ⟨roots, given⟩, s₁⟩
    · obtain ⟨intact₁, fails⟩ := done.ran run
      refine .of_run (exec_resolve_error hook location state run) (intact₁.same rfl rfl) ?_
      rw [Repository.exec_resolve hook' location building, fails]
      rfl
    · obtain ⟨intact₁, gives⟩ := done.ran run
      refine .of_run (exec_resolve_ok hook location state run) (intact₁.same rfl rfl) ?_
      rw [Repository.exec_resolve hook' location building, gives]
      rfl

end

end Store

end NodeForest

import NodeForest.Proofs.Invariant

/-!
# Removing nodes

A removed node leaves an empty place, and its children lose it as a parent. Everything else about
the nodes that remain stays, so that what is left is told by which nodes are live.

Results:
1. `get?_detach`: one removal.
2. `Remains`: some nodes have been removed; `Remains.mem_parents`: what parents are left;
   `Removals.remains`: any number of removals.
3. `removals_removeUnbound`, `isLive_removeUnbound`: removing what was never bound.
-/

namespace NodeForest

open Relation

/-! ## 1. One removal -/

/-- The node without one of its parents. -/
def Node.withoutParent (n : Node) (parent : NodeId) : Node :=
  { n with parents := n.parents.erase parent }

theorem Node.withoutParent_withoutParent {n : Node} {parent : NodeId} (distinct : n.parents.Nodup) :
    (n.withoutParent parent).withoutParent parent = n.withoutParent parent := by
  have gone : parent ∉ n.parents.erase parent := distinct.not_mem_erase
  simp only [withoutParent, List.erase_of_not_mem gone]

namespace Repository

variable {r r' : Repository}

theorem get?_remove (r : Repository) (id other : NodeId) :
    (r.remove id).get? other = if other = id then none else r.get? other := by
  obtain ⟨i⟩ := id
  obtain ⟨j⟩ := other
  by_cases same : j = i
  · subst same
    simp only [get?, remove, Array.getElem?_setIfInBounds_self, ↓reduceIte]
    split <;> rfl
  · simp [get?, remove, Array.getElem?_setIfInBounds_ne (Ne.symm same), same]

theorem detach_of_gone {id : NodeId} (gone : r.get? id = none) : r.detach id = r := by
  simp only [detach, gone]

theorem detach_of_get? {id : NodeId} {n : Node} (here : r.get? id = some n) :
    r.detach id = (r.remove id).updateAll (r.childIdsOf id) (·.withoutParent id) := by
  have childIds : r.childIdsOf id = n.childIds := by rw [childIdsOf, here]; rfl
  rw [childIds]
  simp only [detach, here]
  rfl

theorem get?_detach (distinct : ∀ id, (r.parentsOf id).Nodup) (id other : NodeId) :
    (r.detach id).get? other =
      if other = id then none
      else (r.get? other).map fun n =>
        if other ∈ r.childIdsOf id then n.withoutParent id else n := by
  cases here : r.get? id with
  | none =>
    rw [detach_of_gone here, childIdsOf, here]
    split
    · rename_i same
      rw [same, here]
    · simp
  | some node =>
    rw [detach_of_get? here, get?_updateAll, get?_remove]
    · split <;> split <;> cases r.get? other <;> simp_all
    · intro n there
      refine Node.withoutParent_withoutParent ?_
      rw [get?_remove] at there
      split at there
      · cases there
      · rw [← parentsOf_of_get? there]
        exact distinct other

theorem bindingOf?_detach (distinct : ∀ id, (r.parentsOf id).Nodup) (id other : NodeId) :
    (r.detach id).bindingOf? other = if other = id then none else r.bindingOf? other := by
  simp only [bindingOf?, get?_detach distinct]
  split
  · rfl
  · cases r.get? other with
    | none => rfl
    | some n => simp only [Option.map_some, Option.bind_some]; split <;> rfl

theorem isReferenced_detach {id other : NodeId} (different : other ≠ id) :
    (r.detach id).isReferenced other = r.isReferenced other := by
  cases here : r.get? id with
  | none => rw [detach_of_gone here]
  | some n =>
    rw [detach_of_get? here, updateAll_eq]
    have : (r.pinned.filter (· != id)).contains other = r.pinned.contains other := by
      simp [List.contains_eq_mem, different]
    simp only [isReferenced, remove, this]

theorem detach_rest (r : Repository) (id : NodeId) : (r.detach id).id = r.id ∧
    (r.detach id).options = r.options ∧ (r.detach id).errors = r.errors := by
  cases here : r.get? id with
  | none => rw [detach_of_gone here]; exact ⟨rfl, rfl, rfl⟩
  | some n => rw [detach_of_get? here, updateAll_eq]; exact ⟨rfl, rfl, rfl⟩

/-! ## 2. Several removals -/

/-- Some nodes have been removed from `r`, and `r'` is what remains. -/
structure Remains (r r' : Repository) : Prop where
  node : ∀ {id n'}, r'.get? id = some n' →
    ∃ n, r.get? id = some n ∧ n' = { n with parents := n'.parents }
  linked : r'.Linked
  referenced : ∀ {id}, r'.isLive id → r'.isReferenced id = r.isReferenced id
  id : r'.id = r.id
  options : r'.options = r.options
  errors : r'.errors = r.errors

namespace Remains

theorem refl (linked : r.Linked) : Remains r r :=
  ⟨fun here => ⟨_, here, rfl⟩, linked, fun _ => rfl, rfl, rfl, rfl⟩

theorem isLive (h : Remains r r') {id : NodeId} (live : r'.isLive id) : r.isLive id := by
  obtain ⟨n', here⟩ := isLive_iff.mp live
  obtain ⟨n, there, _⟩ := h.node here
  exact isLive_iff.mpr ⟨n, there⟩

theorem trans {r₁ r₂ r₃ : Repository} (h : Remains r₁ r₂) (h' : Remains r₂ r₃) : Remains r₁ r₃ where
  node := by
    intro id n₃ here
    obtain ⟨n₂, there, same⟩ := h'.node here
    obtain ⟨n₁, first, same'⟩ := h.node there
    exact ⟨n₁, first, by rw [same, same']⟩
  linked := h'.linked
  referenced := fun live => (h'.referenced live).trans (h.referenced (h'.isLive live))
  id := h'.id.trans h.id
  options := h'.options.trans h.options
  errors := h'.errors.trans h.errors

theorem bindingOf? (h : Remains r r') {id : NodeId} (live : r'.isLive id) :
    r'.bindingOf? id = r.bindingOf? id := by
  obtain ⟨n', here⟩ := isLive_iff.mp live
  obtain ⟨n, there, same⟩ := h.node here
  rw [bindingOf?_of_get? here, bindingOf?_of_get? there, same]

theorem mem_childIds (h : Remains r r') {child parent : NodeId} :
    child ∈ r'.childIdsOf parent ↔ r'.isLive parent ∧ child ∈ r.childIdsOf parent := by
  by_cases live : r'.isLive parent
  · rw [childIdsOf_eq, childIdsOf_eq, h.bindingOf? live]
    simp [live]
  · have gone : r'.get? parent = none := by simpa [Repository.isLive] using live
    simp [live, childIdsOf, gone]

/-- The parents that are left are those that remain. -/
theorem mem_parents (h : Remains r r') (linked : r.Linked) {child parent : NodeId}
    (live : r'.isLive child) :
    parent ∈ r'.parentsOf child ↔ r'.isLive parent ∧ parent ∈ r.parentsOf child := by
  rw [h.linked.mem_parents live, h.mem_childIds, linked.mem_parents (h.isLive live)]

end Remains

/-- Removing a node is removing some nodes. -/
theorem remains_detach (linked : r.Linked) (id : NodeId) : Remains r (r.detach id) where
  node := by
    intro other n' here
    rw [get?_detach linked.nodup] at here
    split at here
    · cases here
    · obtain ⟨n, there, rfl⟩ := Option.map_eq_some_iff.mp here
      refine ⟨n, there, ?_⟩
      split <;> rfl
  linked := by
    have childIds (parent : NodeId) : (r.detach id).childIdsOf parent =
        if parent = id then [] else r.childIdsOf parent := by
      rw [childIdsOf_eq, bindingOf?_detach linked.nodup, childIdsOf_eq]
      split <;> rfl
    have parents {other : NodeId} (different : other ≠ id) : (r.detach id).parentsOf other =
        if other ∈ r.childIdsOf id then (r.parentsOf other).erase id else r.parentsOf other := by
      simp only [parentsOf, get?_detach linked.nodup, if_neg different]
      cases r.get? other with
      | none => simp
      | some n => simp only [Option.map_some]; split <;> rfl
    -- A node loses a parent exactly when that parent is the one removed.
    refine ⟨fun other => ?_, fun {child parent} live => ?_⟩
    · by_cases same : other = id
      · rw [parentsOf, get?_detach linked.nodup, if_pos same]
        exact List.nodup_nil
      · rw [parents same]
        split
        · exact (linked.nodup other).erase id
        · exact linked.nodup other
    · rw [isLive_detach, Bool.and_eq_true, bne_iff_ne] at live
      have before : parent ∈ r.parentsOf child ↔ child ∈ r.childIdsOf parent :=
        linked.mem_parents live.1
      rw [parents live.2, childIds]
      by_cases same : parent = id
      · subst same
        split
        · simpa using (linked.nodup child).not_mem_erase
        · rename_i stranger
          simpa using fun member => stranger (before.mp member)
      · rw [if_neg same, ← before]
        split
        · exact List.mem_erase_of_ne same
        · rfl
  referenced := fun live => by
    rw [isLive_detach, Bool.and_eq_true, bne_iff_ne] at live
    exact isReferenced_detach live.2
  id := (detach_rest r id).1
  options := (detach_rest r id).2.1
  errors := (detach_rest r id).2.2

theorem remains_compact (linked : r.Linked) : Remains r r.compact :=
  ⟨fun here => ⟨_, here, rfl⟩, ⟨linked.nodup, linked.mem_parents⟩, fun _ => rfl, rfl, rfl, rfl⟩

/-- A node is removed, or removed nodes are dropped from the lists. -/
inductive Removal : Repository → Repository → Prop
  | detach (r : Repository) (id : NodeId) : Removal r (r.detach id)
  | compact (r : Repository) : Removal r r.compact

/-- Any number of removals. -/
abbrev Removals : Repository → Repository → Prop :=
  ReflTransGen Removal

theorem Removals.remains (h : Removals r r') (linked : r.Linked) : Remains r r' := by
  induction h with
  | refl => exact .refl linked
  | tail _ last ih =>
    cases last with
    | detach id => exact ih.trans (remains_detach ih.linked id)
    | compact => exact ih.trans (remains_compact ih.linked)

/-! ## 3. Nodes that were never bound -/

theorem isLive_foldl_detach (entries : List (NodeId × Node)) (id : NodeId) :
    (entries.foldl (fun r entry => r.detach entry.1) r).isLive id ↔
      r.isLive id ∧ ∀ entry ∈ entries, entry.1 ≠ id := by
  induction entries generalizing r with
  | nil => simp
  | cons entry entries ih =>
    rw [List.foldl_cons, ih, isLive_detach, Bool.and_eq_true, bne_iff_ne]
    simp only [List.mem_cons, forall_eq_or_imp, and_assoc, ne_comm]

theorem removals_foldl_detach (entries : List (NodeId × Node)) (r : Repository) :
    Removals r (entries.foldl (fun r entry => r.detach entry.1) r) := by
  induction entries generalizing r with
  | nil => exact .refl
  | cons entry entries ih => exact .head (.detach r entry.1) (ih _)

theorem removals_removeUnbound (r : Repository) : Removals r r.removeUnbound :=
  (removals_foldl_detach _ r).tail (.compact _)

theorem remains_removeUnbound (linked : r.Linked) : Remains r r.removeUnbound :=
  (removals_removeUnbound r).remains linked

/-- The bound nodes are those that remain. -/
theorem isLive_removeUnbound (id : NodeId) : r.removeUnbound.isLive id ↔ r.isBound id := by
  have live := isLive_foldl_detach (r := r) (r.entries.filter (!·.2.isBound)) id
  change (List.foldl _ r _).isLive id ↔ _
  rw [live]
  constructor
  · rintro ⟨isLive, others⟩
    obtain ⟨n, here⟩ := isLive_iff.mp isLive
    by_contra unbound
    refine others (id, n) (List.mem_filter.mpr ⟨mem_entries.mpr here, ?_⟩) rfl
    simpa [Repository.isBound, here] using unbound
  · intro bound
    refine ⟨isLive_of_isBound bound, ?_⟩
    rintro ⟨other, n⟩ member rfl
    obtain ⟨inside, unbound⟩ := List.mem_filter.mp member
    rw [Repository.isBound, mem_entries.mp inside] at bound
    simp_all

end Repository

end NodeForest

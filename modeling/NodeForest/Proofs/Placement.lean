import NodeForest.Proofs.Removal

/-!
# Numbering

A successful resolve numbers the live nodes from one on, in registration order, and writes the
numbers into their definitions.

Results:
1. `entries_eq`, `nodup_liveIds`, `mem_liveIds`: the live nodes in order.
2. `get?_place`: every live node is numbered by its position among them, and nothing else about it
   changes.
-/

namespace NodeForest

namespace Repository

variable {r : Repository}

/-! ## 1. Live nodes in order -/

theorem liveIds_eq (r : Repository) :
    r.liveIds = ((List.range r.nodes.size).filter fun i => r.isLive ⟨i⟩).map NodeId.mk := by
  simp only [liveIds, entries, List.map_filterMap, Option.map_map, isLive]
  rw [← List.filterMap_eq_map, List.filterMap_filter]
  congr 1
  funext i
  cases r.get? ⟨i⟩ <;> rfl

theorem nodup_liveIds (r : Repository) : r.liveIds.Nodup := by
  rw [liveIds_eq]
  refine (List.nodup_range.filter _).map fun i j same => ?_
  simpa using same

theorem mem_liveIds {id : NodeId} : id ∈ r.liveIds ↔ r.isLive id := by
  rw [liveIds, List.mem_map, isLive_iff]
  constructor
  · rintro ⟨⟨_, n⟩, member, rfl⟩
    exact ⟨n, mem_entries.mp member⟩
  · rintro ⟨n, here⟩
    exact ⟨(id, n), mem_entries.mpr here, rfl⟩

theorem length_liveIds (r : Repository) : r.liveIds.length = r.size := by
  rw [liveIds, List.length_map, size]

/-- The live node at a position. -/
theorem get?_of_entries {i : Nat} {id : NodeId} {n : Node} (here : r.entries[i]? = some (id, n)) :
    r.get? id = some n :=
  mem_entries.mp (List.mem_of_getElem? here)

theorem liveIds_of_entries {i : Nat} {id : NodeId} {n : Node}
    (here : r.entries[i]? = some (id, n)) : r.liveIds[i]? = some id := by
  rw [liveIds, List.getElem?_map, here]
  rfl

theorem idxOf_of_entries {i : Nat} {id : NodeId} {n : Node}
    (here : r.entries[i]? = some (id, n)) : r.liveIds.idxOf id = i := by
  obtain ⟨inside, same⟩ := List.getElem?_eq_some_iff.mp (liveIds_of_entries here)
  rw [← same]
  exact r.nodup_liveIds.idxOf_getElem i inside

/-! ## 2. Numbered nodes -/

theorem get?_foldl_place (given : List NodeId) (id : NodeId) :
    ∀ (ids : List NodeId) (start : Nat) (r : Repository), ids.Nodup →
      ((ids.zipIdx start).foldl (fun r (id, i) => r.update id (placeNode given i)) r).get? id =
        if id ∈ ids then (r.get? id).map (placeNode given (start + ids.idxOf id)) else r.get? id
  | [], _, _, _ => by simp
  | first :: ids, start, r, distinct => by
    obtain ⟨fresh, distinct⟩ := List.nodup_cons.mp distinct
    rw [List.zipIdx_cons, List.foldl_cons, get?_foldl_place given id ids (start + 1) _ distinct,
      get?_update]
    by_cases same : id = first
    · subst same
      simp [fresh]
    · simp only [same, ↓reduceIte, List.mem_cons, false_or]
      rw [List.idxOf_cons_ne _ (Ne.symm same)]
      simp only [Nat.succ_eq_add_one, Nat.add_assoc, Nat.add_comm 1]

/-- A live node is numbered by its position among the live nodes. -/
theorem get?_place (r : Repository) (id : NodeId) :
    r.place.get? id = (r.get? id).map (placeNode r.liveIds (r.liveIds.idxOf id)) := by
  rw [place, get?_foldl_place r.liveIds id r.liveIds 0 r r.nodup_liveIds]
  split
  · rw [Nat.zero_add]
  · rename_i gone
    have : r.get? id = none := by simpa [mem_liveIds, isLive] using gone
    rw [this]
    rfl

theorem isLive_place (r : Repository) (id : NodeId) : r.place.isLive id = r.isLive id := by
  rw [isLive, get?_place, Option.isSome_map, isLive]

/-- Numbering changes nodes only. -/
theorem foldl_place_eq (f : Nat → Node → Node) (given : List (NodeId × Nat)) (r : Repository) :
    given.foldl (fun r (id, i) => r.update id (f i)) r =
      { r with nodes := (given.foldl (fun r (id, i) => r.update id (f i)) r).nodes } := by
  induction given generalizing r with
  | nil => rfl
  | cons first given ih => rw [List.foldl_cons, ih]; rfl

theorem place_eq (r : Repository) : r.place = { r with nodes := r.place.nodes } :=
  foldl_place_eq (placeNode r.liveIds) r.liveIds.zipIdx r

theorem id_place (r : Repository) : r.place.id = r.id := by
  rw [place_eq]

theorem foldl_place_size (f : Nat → Node → Node) (given : List (NodeId × Nat)) (r : Repository) :
    (given.foldl (fun r (id, i) => r.update id (f i)) r).nodes.size = r.nodes.size := by
  induction given generalizing r with
  | nil => rfl
  | cons first given ih => exact (ih (r.update first.1 (f first.2))).trans (nodes_size_update ..)

theorem nodes_size_place (r : Repository) : r.place.nodes.size = r.nodes.size :=
  foldl_place_size (placeNode r.liveIds) r.liveIds.zipIdx r

theorem liveIds_place (r : Repository) : r.place.liveIds = r.liveIds := by
  simp only [liveIds_eq, nodes_size_place, isLive_place]

theorem size_place (r : Repository) : r.place.size = r.size := by
  rw [← length_liveIds, liveIds_place, length_liveIds]

/-- The number of a child that is among the nodes. -/
theorem indexIn_of_nodeId? {ids : List NodeId} {c : Child} {id : NodeId}
    (node : c.nodeId? = some id) (inside : id ∈ ids) :
    indexIn ids c = (ids.idxOf id + 1 : Nat) := by
  obtain ⟨i, found⟩ := Option.isSome_iff_exists.mp (List.isSome_idxOf?.mpr inside)
  simp [indexIn, node, found, List.idxOf_eq_getD_idxOf?]

end Repository

end NodeForest

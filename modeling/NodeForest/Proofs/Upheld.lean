import NodeForest.Proofs.Change
import NodeForest.Proofs.Settle

/-!
# Nodes that hold each other up

A reference that is handed in may name a number that is given to a node only later, and that node
then does not know of its parent. The converse holds in every run: what a node has for a parent has
it as a child. This is enough to tell what stays when a repository is settled, whatever references
were handed in: a bound node that is referenced, or has a parent that stays, is not removed.

Results:
1. `Upward`: parents have their children; `Steps.upward`.
2. `Garbage.of_fewer`: what is garbage with more references and parents is garbage with fewer.
3. `Upheld`: nodes that are referenced or have each other for parents; `isLive_settle`.
-/

namespace NodeForest

open Relation

namespace Repository

variable {p : Promise} {r r' : Repository}

/-! ## 1. Parents have their children -/

/-- What a node has for a parent has it as a child or step-child. -/
def Upward (r : Repository) : Prop :=
  ∀ {child parent}, parent ∈ r.parentsOf child → r.IsChild parent child

theorem upward_start (id : RepositoryId) (options : Options) : (start id options).Upward :=
  fun member => by cases member

theorem Upward.isBound (upward : r.Upward) {child parent : NodeId}
    (member : parent ∈ r.parentsOf child) : r.isBound parent :=
  isBound_of_mem_childIdsOf (upward member)

theorem Upward.relink {id : NodeId} {f : Option Binding → Option Binding} {children : List NodeId}
    (upward : r.Upward)
    (childIds : ∀ child, child ∈ (r.relink id f children).childIdsOf id ↔
      child ∈ r.childIdsOf id ∨ child ∈ children) : (r.relink id f children).Upward := by
  intro child parent member
  rw [IsChild]
  by_cases same : parent = id
  · subst same
    rw [childIds child]
    exact ((mem_parentsOf_relink ..).mp member).imp upward fun new => new.2.1
  · rw [childIdsOf_eq, bindingOf?_relink, if_neg same, ← childIdsOf_eq]
    exact upward (((mem_parentsOf_relink ..).mp member).resolve_right fun new => same new.1)

/-- A new node without parents and children. -/
theorem Upward.new (upward : r.Upward) {new : Node}
    (get? : ∀ id, r'.get? id = if id.index = r.nodes.size then some new else r.get? id)
    (parents : new.parents = []) : r'.Upward := by
  intro child parent member
  rw [parentsOf, get?] at member
  split at member
  · rw [Option.map_some, Option.getD_some, parents] at member
    cases member
  · have edge := upward member
    have old := lt_of_isLive (isLive_of_isBound (upward.isBound member))
    rw [IsChild, childIdsOf] at edge ⊢
    rwa [get?, if_neg (Nat.ne_of_lt old)]

theorem Step.upward (h : Step p r r') (upward : r.Upward) : r'.Upward := by
  cases h with
  | register basename scope quals location =>
    exact upward.new (get?_register r _ basename scope quals location) rfl
  | share value location => exact upward.new (get?_withConstant r value location) rfl
  | @attach target n b there unbound =>
    intro child parent member
    rw [parentsOf_noteClass] at member
    rw [IsChild, childIdsOf_eq, bindingOf?_noteClass, ← childIdsOf_eq]
    exact upward.relink (fun _ => mem_childIdsOf_attach there unbound b) member
  | extend role cs open' bound => exact upward.relink fun _ => mem_childIdsOf_extend role cs bound
  | setFields target f => exact upward.relink fun _ => mem_childIdsOf_setFields f
  | note | count | openScope | keep => exact upward

theorem Steps.upward (h : Steps p r r') (upward : r.Upward) : r'.Upward := by
  induction h with
  | refl => exact upward
  | tail _ last ih => exact last.upward ih

/-- Steps take no parent from a node. -/
theorem Steps.parentsOf (h : Steps p r r') {child parent : NodeId}
    (member : parent ∈ r.parentsOf child) : parent ∈ r'.parentsOf child := by
  rw [Repository.parentsOf] at member
  cases here : r.get? child with
  | none =>
    rw [here] at member
    cases member
  | some n =>
    rw [here] at member
    obtain ⟨n', here', grows⟩ := h.grows here
    rw [parentsOf_of_get? here']
    exact grows.parents.subset member

/-! ## 2. Garbage -/

/-- What is garbage with more references and more parents is garbage with fewer. -/
theorem Garbage.of_fewer (referenced : ∀ id, r.isReferenced id → r'.isReferenced id)
    (upward : r.Upward)
    (parents : ∀ {child parent}, parent ∈ r.parentsOf child → parent ∈ r'.parentsOf child)
    {id : NodeId} (garbage : r'.Garbage id) (bound : r.isBound id) : r.Garbage id := by
  -- The induction is on why the node is garbage: so are all its parents, of which there were fewer.
  induction garbage with
  | orphan _ free _ ih =>
    exact .orphan bound (fun kept => free (referenced _ kept)) fun parent member =>
      ih parent (parents member) (upward.isBound member)

/-! ## 3. What stays -/

/-- Live nodes each of which is referenced, or has another of them for a parent. -/
def Upheld (r : Repository) (K : NodeId → Prop) : Prop :=
  ∀ id, K id → r.isLive id ∧ (r.isReferenced id ∨ ∃ parent ∈ r.parentsOf id, K parent)

theorem mem_parentsOf_updateAll {gone id parent : NodeId} (different : parent ≠ gone)
    (ids : List NodeId) (member : parent ∈ r.parentsOf id) :
    parent ∈ (r.updateAll ids (·.withoutParent gone)).parentsOf id := by
  induction ids generalizing r with
  | nil => exact member
  | cons first ids ih =>
    refine ih ?_
    rw [parentsOf] at member ⊢
    rw [get?_update]
    split
    · cases here : r.get? id with
      | none =>
        rw [here] at member
        cases member
      | some n =>
        rw [here] at member
        exact (List.mem_erase_of_ne different).mpr member
    · exact member

/-- A removal takes the removed node from parents, and no other. -/
theorem mem_parentsOf_detach {gone id parent : NodeId} (other : id ≠ gone)
    (different : parent ≠ gone) (member : parent ∈ r.parentsOf id) :
    parent ∈ (r.detach gone).parentsOf id := by
  cases here : r.get? gone with
  | none => rwa [detach_of_gone here]
  | some n =>
    rw [detach_of_get? here]
    refine mem_parentsOf_updateAll different _ ?_
    rwa [parentsOf, get?_remove, if_neg other]

namespace Upheld

variable {K : NodeId → Prop}

theorem detach (upheld : Upheld r K) {gone : NodeId} (out : ¬K gone) :
    Upheld (r.detach gone) K := by
  intro id inside
  have other {id : NodeId} (inside : K id) : id ≠ gone := fun same => out (same ▸ inside)
  obtain ⟨live, held⟩ := upheld id inside
  refine ⟨by rw [isLive_detach, live, Bool.true_and, bne_iff_ne]; exact other inside, ?_⟩
  rw [isReferenced_detach (other inside)]
  exact held.imp_right fun ⟨parent, member, above⟩ =>
    ⟨parent, mem_parentsOf_detach (other inside) (other above) member, above⟩

theorem not_isOrphan (upheld : Upheld r K) {id : NodeId} (inside : K id) : ¬r.isOrphan id := by
  intro orphan
  obtain ⟨⟨name, top⟩, free⟩ := isOrphan_iff.mp orphan
  rcases (upheld id inside).2 with kept | ⟨parent, member, _⟩
  · exact free kept
  · rw [top.parentsOf] at member
    cases member

theorem foldl_detach (upheld : Upheld r K) {entries : List (NodeId × Node)}
    (out : ∀ entry ∈ entries, ¬K entry.1) :
    Upheld (entries.foldl (fun r entry => r.detach entry.1) r) K := by
  induction entries generalizing r with
  | nil => exact upheld
  | cons entry entries ih =>
    obtain ⟨first, rest⟩ := List.forall_mem_cons.mp out
    exact ih (upheld.detach first) rest

theorem removeUnbound (upheld : Upheld r K) (bound : ∀ id, K id → r.isBound id) :
    Upheld r.removeUnbound K := by
  rw [Repository.removeUnbound]
  refine upheld.foldl_detach ?_
  rintro ⟨id, n⟩ member inside
  obtain ⟨here, unbound⟩ := List.mem_filter.mp member
  have := bound id inside
  rw [Repository.isBound, mem_entries.mp here] at this
  simp_all

theorem sweep (upheld : Upheld r K) (roots : OrderedMap String NodeId) (pending : List NodeId) :
    Upheld (r.sweep roots pending).1 K := by
  fun_induction Repository.sweep r roots pending with
  | case1 r => exact upheld
  | case2 r roots pending top id rest found ih =>
    refine ih (upheld.detach fun inside => upheld.not_isOrphan inside ?_)
    have orphan := List.head?_dropWhile_not (!r.isOrphan ·) pending
    rw [found] at orphan
    simpa using orphan

end Upheld

/-- A bound node stays, unless it is garbage and orphans are removed. -/
theorem isLive_settle (upward : r.Upward) {id : NodeId} (bound : r.isBound id)
    (stays : r.options.orphansAreRoots ∨ ¬r.Garbage id) : r.settle.1.isLive id := by
  have options : r.removeUnbound.options = r.options :=
    (removals_removeUnbound r).thinned.options
  rw [settle, options]
  split
  · exact (isLive_removeUnbound id).mpr bound
  · rename_i sweeping
    -- What is bound and no garbage is referenced, or has such a node for a parent.
    let K (id : NodeId) : Prop := r.isBound id ∧ ¬r.Garbage id
    have upheld : Upheld r K := by
      rintro id ⟨bound, alive⟩
      refine ⟨isLive_of_isBound bound, or_iff_not_imp_left.mpr fun free => ?_⟩
      by_contra none
      refine alive (.orphan bound free fun parent member => ?_)
      exact by_contra fun above => none ⟨parent, member, upward.isBound member, above⟩
    exact ((upheld.removeUnbound fun _ inside => inside.1).sweep [] _ id
      ⟨bound, stays.resolve_left sweeping⟩).1

end Repository

end NodeForest

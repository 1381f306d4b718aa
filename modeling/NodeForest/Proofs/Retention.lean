import NodeForest.Proofs.Keeping
import NodeForest.Proofs.Upheld

/-!
# Keeping more loses nothing

Of two repositories that differ only in what they keep, the one that keeps more fails to resolve
when the other does, and with the same failure. When both resolve, the forest of the other is part
of its forest: the same nodes in the same order, with children that are the same nodes.

Results:
1. `KeepsMore.isLive_settle`: what is left of the one is left of the other.
2. `Forest.Embeds`: a forest is part of another, whose numbers are different ones.
3. `resolve_retains`: the forest of what keeps less is part of the other.
-/

namespace NodeForest

open NodeForest.Action

namespace Repository

variable {r r' : Repository}

/-! ## 3. What is left -/

theorem Linked.upward (linked : r.Linked) : r.Upward := by
  intro child parent member
  cases here : r.get? child with
  | none =>
    rw [parentsOf, here] at member
    cases member
  | some n => exact (linked.mem_parents (isLive_iff.mpr ⟨n, here⟩)).mp member

theorem KeepsMore.isReferenced (more : r.KeepsMore r') (id : NodeId) (kept : r.isReferenced id) :
    r'.isReferenced id := by
  obtain ⟨held, pinned, orphans, handles, pins, roots⟩ := more
  simp only [Repository.isReferenced, Bool.or_eq_true, List.contains_iff_mem] at kept ⊢
  exact kept.imp (handles id) (pins id)

/-- What is left of a repository is left of one that keeps more. -/
theorem KeepsMore.isLive_settle (more : r.KeepsMore r') (linked : r.Linked)
    (names : r.DistinctNames) {id : NodeId} (live : r.settle.1.isLive id) :
    r'.settle.1.isLive id := by
  have bound : r.isBound id := (settling linked names).bound live
  have upward' : r'.Upward := by cases more; exact linked.upward
  have bound' : r'.isBound id := by cases more; exact bound
  refine Repository.isLive_settle upward' bound' ?_
  refine or_iff_not_imp_left.mpr fun sweeping' garbage => ?_
  have sweeping : r.options.orphansAreRoots = false := by
    obtain ⟨held, pinned, orphans, handles, pins, roots⟩ := more
    exact Bool.eq_false_iff.mpr fun kept => sweeping' (roots kept)
  refine ((sound_settle linked names sweeping).isLive_iff linked rfl bound).mp live ?_
  refine garbage.of_fewer more.isReferenced linked.upward (fun member => ?_) bound
  cases more
  exact member

/-! ## 4. The forests -/

/-- The number in `ids'` of the node with number `i` in `ids`. -/
def moved (ids ids' : List NodeId) (i : Nat) : Nat :=
  ids'.idxOf (ids.getD (i - 1) ⟨0⟩) + 1

theorem moved_idxOf {ids ids' : List NodeId} {id : NodeId} (member : id ∈ ids) :
    moved ids ids' (ids.idxOf id + 1) = ids'.idxOf id + 1 := by
  have inside := List.idxOf_lt_length_of_mem member
  simp [moved, List.getD_eq_getElem?_getD, inside]

end Repository

/-- A number written for a child, as it is where nodes have other numbers: `-1` stands for no node
and stays. -/
def renumbered (renumber : Nat → Nat) (i : Int) : Int :=
  if i = -1 then -1 else renumber i.toNat

def ChildIndices.map (f : Int → Int) : ChildIndices → ChildIndices
  | .list l => .list (l.map f)
  | .keyed m => .keyed (m.map fun (label, i) => (label, f i))

/-- The entry is of the same node as the other one, in a forest that has other numbers. -/
structure ForestNode.Renumbers (e' e : ForestNode) (renumber : Nat → Nat) : Prop where
  index : e'.index = renumber e.index
  name : e'.name = e.name
  className : e'.className = e.className
  children : e'.children = e.children.map (renumbered renumber)
  steps : e'.steps = e.steps.map (renumbered renumber)

/-- Every node of the forest is in the other one, under another number but in the same order. -/
structure Forest.Embeds (f f' : Forest) (renumber : Nat → Nat) : Prop where
  node : ∀ e ∈ f.nodes, ∃ e' ∈ f'.nodes, e'.Renumbers e renumber
  increasing : ∀ e ∈ f.nodes, ∀ other ∈ f.nodes, e.index < other.index →
    renumber e.index < renumber other.index
  denoted : ∀ e ∈ f.nodes, ∀ i ∈ e.children.toList ++ e.steps,
    i = -1 ∨ ∃ child ∈ f.nodes, i = child.index
  distinct : (f'.nodes.map (·.index)).Nodup

namespace Repository

variable {r r' : Repository} {roots : OrderedMap String NodeId}

/-- A child that is a node has the number of that node in either list. -/
theorem indexIn_moved {ids ids' : List NodeId} {c : Child}
    (inside : ∀ id, c.nodeId? = some id → id ∈ ids ∧ id ∈ ids') :
    indexIn ids' c = renumbered (moved ids ids') (indexIn ids c) := by
  cases node : c.nodeId? with
  | none => simp [indexIn, node, renumbered]
  | some id =>
    obtain ⟨member, member'⟩ := inside id node
    rw [indexIn_of_nodeId? node member, indexIn_of_nodeId? node member', ← moved_idxOf member,
      renumbered, if_neg (by omega), Int.toNat_natCast]

theorem indicesOf_moved {ids ids' : List NodeId} {l : ChildList}
    (inside : ∀ e ∈ l.entries, ∀ id, e.child.nodeId? = some id → id ∈ ids ∧ id ∈ ids') :
    indicesOf ids' l = (indicesOf ids l).map (renumbered (moved ids ids')) := by
  rw [indicesOf, indicesOf, List.map_map]
  exact List.map_congr_left fun e member => indexIn_moved (inside e member)

theorem childIndices_moved {ids ids' : List NodeId} {l : ChildList}
    (inside : ∀ e ∈ l.entries, ∀ id, e.child.nodeId? = some id → id ∈ ids ∧ id ∈ ids') :
    childIndices ids' l = (childIndices ids l).map (renumbered (moved ids ids')) := by
  rw [childIndices, childIndices]
  split
  · rw [ChildIndices.map, ← OrderedMap.ofList_map fun _ => renumbered (moved ids ids'),
      List.map_map]
    congr 2
    exact List.map_congr_left fun e member => by rw [indexIn_moved (inside e member)]; rfl
  · rw [ChildIndices.map, indicesOf_moved inside]

theorem liveIds_sorted (r : Repository) : r.liveIds.Pairwise (·.index < ·.index) := by
  rw [liveIds_eq, List.pairwise_map]
  exact List.pairwise_lt_range.filter _

/-- The order of the numbers is the order in which the nodes were registered. -/
theorem idxOf_liveIds_lt {id other : NodeId} (live : id ∈ r.liveIds) (live' : other ∈ r.liveIds) :
    r.liveIds.idxOf id < r.liveIds.idxOf other ↔ id.index < other.index := by
  have ordered := List.pairwise_iff_getElem.mp r.liveIds_sorted
  obtain ⟨i, inside, rfl⟩ := List.mem_iff_getElem.mp live
  obtain ⟨j, inside', rfl⟩ := List.mem_iff_getElem.mp live'
  rw [r.nodup_liveIds.idxOf_getElem, r.nodup_liveIds.idxOf_getElem]
  refine ⟨ordered i j inside inside', fun before => ?_⟩
  rcases Nat.lt_trichotomy i j with less | rfl | greater
  · exact less
  · exact absurd before (Nat.lt_irrefl _)
  · exact absurd before (Nat.lt_asymm (ordered j i inside' inside greater))

/-- The entry shows a node of the repository, numbered among `ids`. -/
structure Shows (r : Repository) (ids : List NodeId) (id : NodeId) (e : ForestNode) : Prop where
  member : id ∈ ids
  index : e.index = ids.idxOf id + 1
  name : r.nameOf? id = some e.name
  binding : ∃ b, r.bindingOf? id = some b ∧ e.className = b.className ∧
    e.children = childIndices ids b.children ∧ e.steps = indicesOf ids b.steps

section

variable {f : Forest}

theorem Settling.shows (settling : Settling r r' roots) {id : NodeId} {n : Node} {e : ForestNode}
    (here : (r'.numbered roots).get? id = some n) (image : forestNode? n = some e) :
    r.Shows r'.liveIds id e := by
  obtain ⟨b, bound, binding⟩ := settling.placed here
  obtain ⟨n₀, there, rfl⟩ := get?_numbered.mp here
  obtain ⟨n₁, before, same⟩ := settling.remains.node there
  rw [forestNode?_placed binding, Option.some.injEq] at image
  subst image
  refine ⟨mem_liveIds.mpr (isLive_iff.mpr ⟨n₀, there⟩), rfl, ?_, b, bound, rfl, rfl, rfl⟩
  rw [nameOf?, before, Option.map_some, placeNode, same]

/-- Every entry of the forest shows a node that is left. -/
theorem Settling.shows_of_mem (settling : Settling r r' roots)
    (image : (r'.numbered roots).forest = .ok f) {e : ForestNode} (member : e ∈ f.nodes) :
    ∃ id, r.Shows r'.liveIds id e := by
  obtain ⟨id, n, here, shown⟩ := (mem_nodes_numbered image).mp member
  exact ⟨id, settling.shows here shown⟩

/-- Every node that is left is shown by an entry. -/
theorem Settling.exists_shows (settling : Settling r r' roots)
    (image : (r'.numbered roots).forest = .ok f) {id : NodeId} (member : id ∈ r'.liveIds) :
    ∃ e ∈ f.nodes, r.Shows r'.liveIds id e := by
  obtain ⟨n₀, there⟩ := isLive_iff.mp (mem_liveIds.mp member)
  have here : (r'.numbered roots).get? id = some _ := get?_numbered.mpr ⟨n₀, there, rfl⟩
  obtain ⟨b, _, binding⟩ := settling.placed here
  have shown := forestNode?_placed binding
  exact ⟨_, (mem_nodes_numbered image).mpr ⟨id, _, here, shown⟩, settling.shows here shown⟩

/-- The children of a node that is left are left, too. -/
theorem Settling.mem_liveIds (settling : Settling r r' roots) (complete : r.Complete) {id : NodeId}
    {b : Binding} (member : id ∈ r'.liveIds) (bound : r.bindingOf? id = some b) {e : Entry}
    (listed : e ∈ b.children.entries ++ b.steps.entries) {child : NodeId}
    (node : e.child.nodeId? = some child) : child ∈ r'.liveIds := by
  have edge : child ∈ r.childIdsOf id := by
    rw [childIdsOf_eq, bound, Option.map_some, Option.getD_some, Binding.childIds,
      ChildList.nodeIds, ChildList.nodeIds, ← List.filterMap_append]
    exact List.mem_filterMap.mpr ⟨e, listed, node⟩
  exact Repository.mem_liveIds.mpr
    (settling.closed (Repository.mem_liveIds.mp member) edge (complete id child edge))

/-- The forest numbers the nodes by their positions. -/
theorem Settling.numbers (settling : Settling r r' roots)
    (image : (r'.numbered roots).forest = .ok f) :
    f.nodes.map (·.index) = r'.liveIds.map fun id => r'.liveIds.idxOf id + 1 := by
  obtain rfl := Except.ok.inj (forest_numbered.symm.trans image)
  have same : r'.liveIds = (r'.numbered roots).entries.map Prod.fst := (liveIds_place r').symm
  conv_rhs => rw [same, List.map_map, ← List.filterMap_eq_map, ← same]
  rw [List.map_filterMap]
  refine List.filterMap_congr fun entry member => ?_
  obtain ⟨b, _, binding⟩ := settling.placed (mem_entries.mp member)
  rw [forestNode?_placed binding]
  rfl

theorem Settling.nodup_numbers (settling : Settling r r' roots)
    (image : (r'.numbered roots).forest = .ok f) : (f.nodes.map (·.index)).Nodup := by
  rw [settling.numbers image]
  refine r'.nodup_liveIds.map_on fun id member other _ same => ?_
  exact (List.idxOf_inj member).mp (Nat.add_right_cancel same)

theorem mem_childIndices_toList {ids : List NodeId} {l : ChildList} {i : Int}
    (member : i ∈ (childIndices ids l).toList) : ∃ e ∈ l.entries, indexIn ids e.child = i := by
  rw [childIndices] at member
  split at member
  · obtain ⟨entry, inside, rfl⟩ := List.mem_map.mp member
    obtain ⟨e, listed, rfl⟩ := List.mem_map.mp (OrderedMap.mem_ofList inside)
    exact ⟨e, listed, rfl⟩
  · exact List.mem_map.mp member

/-- A number in a list of children is `-1` or that of an entry. -/
theorem Settling.denoted (settling : Settling r r' roots) (complete : r.Complete)
    (image : (r'.numbered roots).forest = .ok f) {e : ForestNode} (member : e ∈ f.nodes) {i : Int}
    (listed : i ∈ e.children.toList ++ e.steps) : i = -1 ∨ ∃ child ∈ f.nodes, i = child.index := by
  obtain ⟨id, shows⟩ := settling.shows_of_mem image member
  obtain ⟨b, bound, _, children, steps⟩ := shows.binding
  obtain ⟨entry, inside, rfl⟩ : ∃ entry ∈ b.children.entries ++ b.steps.entries,
      indexIn r'.liveIds entry.child = i := by
    rw [children, steps] at listed
    rcases List.mem_append.mp listed with child | step
    · obtain ⟨entry, inside, same⟩ := mem_childIndices_toList child
      exact ⟨entry, List.mem_append_left _ inside, same⟩
    · obtain ⟨entry, inside, same⟩ := List.mem_map.mp step
      exact ⟨entry, List.mem_append_right _ inside, same⟩
  cases node : entry.child.nodeId? with
  | none => exact .inl (by simp [indexIn, node])
  | some child =>
    have here := settling.mem_liveIds complete shows.member bound inside node
    obtain ⟨e', member', shows'⟩ := settling.exists_shows image here
    exact .inr ⟨e', member', by rw [indexIn_of_nodeId? node here, shows'.index]⟩

end

/-- What keeps more shows all that the other shows. -/
theorem KeepsMore.embeds (more : r.KeepsMore r') (linked : r.Linked) (names : r.DistinctNames)
    (complete : r.Complete) {f f' : Forest}
    (image : (r.settle.1.numbered r.settle.2).forest = .ok f)
    (image' : (r'.settle.1.numbered r'.settle.2).forest = .ok f') :
    f.Embeds f' (moved r.settle.1.liveIds r'.settle.1.liveIds) := by
  have linked' : r'.Linked := by cases more; exact ⟨linked.nodup, linked.mem_parents⟩
  have names' : r'.DistinctNames := by cases more; exact names
  have left := settling linked names
  have left' := settling linked' names'
  have stays {id : NodeId} (member : id ∈ r.settle.1.liveIds) : id ∈ r'.settle.1.liveIds :=
    mem_liveIds.mpr (more.isLive_settle linked names (mem_liveIds.mp member))
  constructor
  case node =>
    intro e member
    obtain ⟨id, shows⟩ := left.shows_of_mem image member
    obtain ⟨b, bound, className, children, steps⟩ := shows.binding
    obtain ⟨e', member', shows'⟩ := left'.exists_shows image' (stays shows.member)
    obtain ⟨b', bound', className', children', steps'⟩ := shows'.binding
    obtain rfl : b' = b := by
      cases more
      exact Option.some.inj (bound'.symm.trans bound)
    have inside : ∀ e ∈ b'.children.entries ++ b'.steps.entries, ∀ child,
        e.child.nodeId? = some child →
          child ∈ r.settle.1.liveIds ∧ child ∈ r'.settle.1.liveIds := by
      intro e listed child node
      have here := left.mem_liveIds complete shows.member bound listed node
      exact ⟨here, stays here⟩
    refine ⟨e', member', ?_, ?_, ?_, ?_, ?_⟩
    · rw [shows'.index, shows.index, moved_idxOf shows.member]
    · have named := shows'.name
      have same : r'.nameOf? id = r.nameOf? id := by cases more; rfl
      rw [same, shows.name, Option.some.injEq] at named
      exact named.symm
    · rw [className', className]
    · rw [children', children]
      exact childIndices_moved fun e listed => inside e (List.mem_append_left _ listed)
    · rw [steps', steps]
      exact indicesOf_moved fun e listed => inside e (List.mem_append_right _ listed)
  case increasing =>
    intro e member other member' less
    obtain ⟨id, shows⟩ := left.shows_of_mem image member
    obtain ⟨id', shows'⟩ := left.shows_of_mem image member'
    rw [shows.index, shows'.index, Nat.add_lt_add_iff_right,
      idxOf_liveIds_lt shows.member shows'.member] at less
    rw [shows.index, shows'.index, moved_idxOf shows.member, moved_idxOf shows'.member,
      Nat.add_lt_add_iff_right]
    exact (idxOf_liveIds_lt (stays shows.member) (stays shows'.member)).mpr less
  case denoted => exact fun e member i listed => left.denoted complete image member listed
  case distinct => exact left'.nodup_numbers image'

/-! ## 5. Two resolves -/

section

variable (hook : Hook Unit) (location : Location)

/-- What keeps more resolves exactly when the other does, with the same failure if not; and then
its forest shows all that the other's shows, in the same order, with the same children. -/
theorem resolve_retains (either : hook = Hook.idle ∨ hook = Hook.mux)
    (reached : Reachable Operation.NamesAllocated r) (building : r.phase = .building)
    (more : r.KeepsMore r') :
    (∃ e, ((resolve hook location).exec r).1 = .error e ∧
        ((resolve hook location).exec r').1 = .error e) ∨
      ∃ given r₁ r₁' f f' renumber, (resolve hook location).exec r = (.ok given, r₁) ∧
        (resolve hook location).exec r' = (.ok given, r₁') ∧ r₁.forest = .ok f ∧
          r₁'.forest = .ok f' ∧ f.Embeds f' renumber := by
  have building' : r'.phase = .building := by cases more; exact building
  have run := exec_resolve_prepare hook location building
  have run' := exec_resolve_prepare hook location building'
  obtain ⟨outcomes, states⟩ := indifferent_prepare either location more
  rcases prepared : (prepare hook location).exec r with ⟨x, r₂⟩
  rcases prepared' : (prepare hook location).exec r' with ⟨x', r₂'⟩
  rw [prepared, prepared'] at outcomes states
  rw [prepared] at run
  rw [prepared'] at run'
  rcases outcomes with ⟨_⟩ | ⟨like⟩
  · have errors : r₂'.settle.1.errors = r₂.settle.1.errors := by
      rw [(thinned_settle r₂).errors, (thinned_settle r₂').errors]
      cases states
      rfl
    dsimp only at run run'
    rw [errors] at run'
    split at run
    · rename_i none
      rw [if_pos none] at run'
      right
      -- Nothing was recorded, so the check found every child bound, and so did the hook.
      obtain ⟨_, r₃, hooked, found, quiet, _⟩ :=
        numbered_of_leads (leads_hook either) building run
      have same : (prepare hook location).exec r = (.ok (), r₃) :=
        (exec_bind_of_ok (exec_reportUninitialized_of_none found)).trans hooked
      obtain rfl : r₂ = r₃ := congrArg Prod.snd (prepared.symm.trans same)
      have sound : Sound .allocating r := reached.sound Promise.allows_allocating building
      have steps : Steps .allocating r r₂ := (leads_hook either r).steps hooked
      have sound₂ := steps.sound sound
      have complete := complete_hook either sound (findings_eq_nil.mp found) hooked quiet
      exact ⟨some (), _, _, _, _, _, run, run', forest_numbered, forest_numbered,
        states.embeds (sound₂.linked trivial) sound₂.names complete forest_numbered
          forest_numbered⟩
    · rename_i some
      rw [if_neg some] at run'
      exact .inl ⟨_, congrArg Prod.fst run, congrArg Prod.fst run'⟩
  · obtain rfl := Failure.like_eq.mp like
    exact .inl ⟨_, congrArg Prod.fst run, congrArg Prod.fst run'⟩

/-- The definition of a node above the one named `leaf`. -/
def aboveLeaf : Child :=
  .pending (.ofParts (.standard "Negate") (.positional [.name "leaf"]) .nil [])

/-- Two nodes share a child, and a handle is kept to the first of them. -/
def sharedLeaf : Repository :=
  Operation.after (.hold ⟨1⟩)
    (Operation.after (.bind ⟨2⟩ (.ok aboveLeaf) default)
      (Operation.after (.node .root "b" default)
        (Operation.after (.bind ⟨1⟩ (.ok aboveLeaf) default)
          (Operation.after (.node .root "a" default)
            (Operation.after (.bind ⟨0⟩ (.ok (.pending (.bare (.standard "Leaf")))) default)
              (Operation.after (.node .root "leaf" default) (start ⟨0⟩ {})))))))

theorem reachable_sharedLeaf : Reachable Operation.NamesAllocated sharedLeaf := by
  refine ⟨⟨0⟩, {}, .operation _ (.operation _ (.operation _ (.operation _ (.operation _
    (.operation _ (.operation _ (.refl _) ?_) ?_) ?_) ?_) ?_) ?_) ?_⟩
  all_goals
    rw [Operation.NamesAllocated]
    decide +kernel

theorem resolve_retains_sharedLeaf : Reachable Operation.NamesAllocated sharedLeaf ∧
    sharedLeaf.phase = .building ∧ sharedLeaf.KeepsMore (sharedLeaf.hold ⟨2⟩) ∧
      ∃ given r₁ r₁' f f' renumber, (resolve Hook.idle default).exec sharedLeaf = (.ok given, r₁) ∧
        (resolve Hook.idle default).exec (sharedLeaf.hold ⟨2⟩) = (.ok given, r₁') ∧
          r₁.forest = .ok f ∧ r₁'.forest = .ok f' ∧ f.Embeds f' renumber := by
  have building : sharedLeaf.phase = .building := by decide +kernel
  have more := keepsMore_hold sharedLeaf ⟨2⟩
  have succeeds : ((resolve Hook.idle default).exec sharedLeaf).1.isOk := by decide +kernel
  refine ⟨reachable_sharedLeaf, building, more, ?_⟩
  rcases resolve_retains Hook.idle default (.inl rfl) reachable_sharedLeaf building more with
    ⟨e, failed, _⟩ | resolved
  · rw [failed] at succeeds
    cases succeeds
  · exact resolved

end

end Repository

end NodeForest

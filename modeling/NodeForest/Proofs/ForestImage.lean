import NodeForest.Proofs.Change
import NodeForest.Proofs.Settle
import NodeForest.Repository.Forest

/-!
# The forest is an image of the repository

A resolve that succeeds has found nothing amiss, so every child was a bound node, before the hook
and after it. What is removed then is below no node that stays: the children of the nodes left are
left, too, and have numbers. The forest lists these nodes with their numbers, names, classes and
children.

Results:
1. `settling`: what is left after settling, with the sweep and without it.
2. `Forest.Images`: the forest shows a repository.
3. `images_of_resolve`: after a successful resolve it does.
-/

namespace NodeForest

open Relation NodeForest.Action

namespace Repository

variable {r r' : Repository}

/-! ## 1. What is left -/

/-- What settling leaves of `r`: no child of a node that stays goes, unless it was never bound. -/
structure Settling (r r' : Repository) (roots : OrderedMap String NodeId) : Prop where
  remains : r.Remains r'
  bound : ∀ {id}, r'.isLive id → r.isBound id
  closed : ∀ {parent child}, r'.isLive parent → child ∈ r.childIdsOf parent → r.isBound child →
    r'.isLive child
  mem_roots : ∀ {name id}, (name, id) ∈ roots ↔ r'.IsTop name id
  distinct : (OrderedMap.keys roots).Nodup

/-- A sweep takes no child from a node that stays. -/
theorem Sweep.Sound.settling {s : Sweep} (sound : s.Sound r) (linked : r.Linked)
    (done : s.pending = []) : Settling r s.repository s.roots where
  remains := sound.remains
  bound := sound.bound
  closed := by
    intro parent child live member bound
    by_contra gone
    have garbage := (sound.removed bound gone).parent linked member
    exact (sound.isLive_iff linked done (sound.bound live)).mp live garbage
  mem_roots := sound.mem_roots done
  distinct := sound.distinct

theorem nodup_names (names : r.DistinctNames) : (r.entries.map (·.2.name)).Nodup := by
  have distinct : r.entries.Nodup := List.Nodup.of_map _ r.nodup_liveIds
  refine distinct.map_on ?_
  rintro ⟨id, n⟩ here ⟨id', n'⟩ here' same
  rw [mem_entries] at here here'
  obtain rfl := names here here' same
  rw [here] at here'
  cases here'
  rfl

/-- The bound nodes without parents, by name. -/
def tops (r : Repository) : List (String × NodeId) :=
  r.parentless.map fun entry => (entry.2.name, entry.1)

theorem nodup_keys_tops (names : r.DistinctNames) : (OrderedMap.keys r.tops).Nodup := by
  have keys : OrderedMap.keys r.tops = r.parentless.map (·.2.name) := by
    simp [OrderedMap.keys, tops, Function.comp_def]
  rw [keys]
  exact (nodup_names names).sublist (List.filter_sublist.map _)

theorem mem_tops {name : String} {id : NodeId} :
    (name, id) ∈ r.tops ↔ r.isBound id ∧ r.IsTop name id := by
  simp only [tops, List.mem_map, Prod.mk.injEq, Prod.exists]
  constructor
  · rintro ⟨_, n, member, rfl, rfl⟩
    obtain ⟨here, bound, parents⟩ := mem_parentless.mp member
    exact ⟨by simpa [isBound, here] using bound, n, here, rfl, parents⟩
  · rintro ⟨bound, n, here, rfl, parents⟩
    have top : (id, n) ∈ r.parentless :=
      mem_parentless.mpr ⟨here, by simpa [isBound, here] using bound, parents⟩
    exact ⟨id, n, top, rfl, rfl⟩

/-- Settling leaves the children of what it leaves, with the sweep and without it. -/
theorem settling (linked : r.Linked) (names : r.DistinctNames) :
    Settling r r.settle.1 r.settle.2 := by
  cases mode : r.options.orphansAreRoots with
  | false => exact (sound_settle linked names mode).settling linked rfl
  | true =>
    have settled : r.settle = (r.removeUnbound, OrderedMap.ofList r.tops) := by
      simp only [settle, (remains_removeUnbound linked).options, mode]
      rfl
    rw [settled, OrderedMap.ofList_eq (nodup_keys_tops names)]
    exact {
      remains := remains_removeUnbound linked
      bound := fun live => (isLive_removeUnbound _).mp live
      closed := fun _ _ bound => (isLive_removeUnbound _).mpr bound
      mem_roots := mem_tops.trans (isTop_removeUnbound linked).symm
      distinct := nodup_keys_tops names }

/-! ## 2. Images -/

/-- The number that stands for an entry of a list: that of its node, which is live, and `-1` where
there is none. -/
def Denotes (r : Repository) (e : Entry) (number : Int) : Prop :=
  match e.child with
  | .node ref => ref.repository = r.id ∧ ∃ n index, r.get? ref.id = some n ∧ n.index? = some index ∧
      1 ≤ index ∧ index ≤ r.size ∧ number = index
  | _ => number = -1

end Repository

/-- The entry shows the live node at position `i`, with a number for each entry of its lists. -/
structure ForestNode.Images (e : ForestNode) (r : Repository) (i : Nat) (n : Node) : Prop where
  index : e.index = i + 1
  placed : n.index? = some (i + 1)
  name : e.name = n.name
  className : n.className? = some e.className
  steps : List.Forall₂ r.Denotes n.steps.entries e.steps
  children : n.children.keyed = false →
    ∃ numbers, e.children = .list numbers ∧ List.Forall₂ r.Denotes n.children.entries numbers

/-- The forest shows the live nodes in registration order, and as roots those without parents. -/
structure Forest.Images (f : Forest) (r : Repository) : Prop where
  size : f.size = r.size
  node : ∀ {i id n}, r.entries[i]? = some (id, n) → ∃ e : ForestNode,
    f.nodes[i]? = some e ∧ e.Images r i n
  names : (f.nodes.map (·.name)).Nodup
  roots : ∀ name, name ∈ f.roots ↔ ∃ id, r.IsTop name id
  once : f.roots.Nodup

namespace Repository

variable {r r' : Repository}

/-! ## 3. After a resolve -/

/-- The binding of a node as it is numbered. -/
def placeBinding (ids : List NodeId) (i : Nat) (n : Node) (b : Binding) : Binding :=
  let p : Placement :=
    { index := i + 1, children := childIndices ids b.children, steps := indicesOf ids b.steps }
  { b with
    record := OrderedMap.insertAll b.record (placedFields n b.className p)
    placement := some p }

theorem binding_placeNode {ids : List NodeId} {i : Nat} {n : Node} {b : Binding}
    (bound : n.binding = some b) :
    (placeNode ids i n).binding = some (placeBinding ids i (placeNode ids i n) b) := by
  simp [placeNode, bound, placeBinding, placedFields, describe]

theorem forestNode?_placed {ids : List NodeId} {i : Nat} {n : Node} {b : Binding}
    (binding : n.binding = some (placeBinding ids i n b)) :
    forestNode? n = some
      { index := i + 1, name := n.name, className := b.className,
        record := (placeBinding ids i n b).record, children := childIndices ids b.children,
        steps := indicesOf ids b.steps } := by
  simp only [forestNode?, binding]
  rfl

/-- What is left of `r` once it is numbered. -/
def numbered (r : Repository) (roots : OrderedMap String NodeId) : Repository :=
  { r.place with phase := .resolved roots }

section

variable {roots : OrderedMap String NodeId}

/-- What is read off a forest there may be, is read off one that there is. -/
theorem forest_of_toOption {α : Type} {read : Forest → α} {a : α}
    (shown : r.forest.toOption.map read = some a) : ∃ f, r.forest = .ok f ∧ read f = a := by
  rcases image : r.forest with e | f
  · rw [image] at shown
    cases shown
  · rw [image] at shown
    exact ⟨f, rfl, Option.some.inj shown⟩

theorem forest_numbered : (r.numbered roots).forest =
    .ok { nodes := (r.numbered roots).entries.filterMap fun entry => forestNode? entry.2
          roots := OrderedMap.keys roots } :=
  rfl

/-- The entries of the forest are those of the nodes that are left. -/
theorem mem_nodes_numbered {f : Forest} (image : (r.numbered roots).forest = .ok f)
    {e : ForestNode} :
    e ∈ f.nodes ↔ ∃ id n, (r.numbered roots).get? id = some n ∧ forestNode? n = some e := by
  obtain rfl := Except.ok.inj (forest_numbered.symm.trans image)
  change e ∈ (r.numbered roots).entries.filterMap (fun entry => forestNode? entry.2) ↔ _
  simp only [List.mem_filterMap, Prod.exists, mem_entries]

theorem get?_numbered {id : NodeId} {n : Node} :
    (r.numbered roots).get? id = some n ↔
      ∃ n₀, r.get? id = some n₀ ∧ n = placeNode r.liveIds (r.liveIds.idxOf id) n₀ := by
  change r.place.get? id = some n ↔ _
  rw [get?_place, Option.map_eq_some_iff]
  simp only [eq_comm]

/-- Every node that is left is bound and numbered. -/
theorem Settling.placed (settling : Settling r r' roots) {id : NodeId} {n : Node}
    (here : (r'.numbered roots).get? id = some n) :
    ∃ b, r.bindingOf? id = some b ∧
      n.binding = some (placeBinding r'.liveIds (r'.liveIds.idxOf id) n b) := by
  obtain ⟨n₀, there, rfl⟩ := get?_numbered.mp here
  have live : r'.isLive id := isLive_iff.mpr ⟨n₀, there⟩
  obtain ⟨b, bound⟩ := isBound_iff.mp (settling.bound live)
  have same : n₀.binding = some b := by
    rw [← bindingOf?_of_get? there, settling.remains.bindingOf? live, bound]
  exact ⟨b, bound, binding_placeNode same⟩

/-- The numbers in a list denote its entries. -/
theorem Settling.denotes {p : Promise} (settling : Settling r r' roots) (sound : Sound p r)
    (complete : r.Complete) {id : NodeId} {b : Binding} (live : r'.isLive id)
    (bound : r.bindingOf? id = some b) {e : Entry}
    (member : e.child ∈ b.children.members ++ b.steps.members) :
    (r'.numbered roots).Denotes e (indexIn r'.liveIds e.child) := by
  rw [Denotes]
  cases child : e.child with
  | node ref =>
    rw [child] at member
    obtain ⟨own, _⟩ := sound.fits bound ref member
    have edge : ref.id ∈ r.childIdsOf id := by
      rw [childIdsOf_eq, bound]
      exact Binding.mem_childIds.mpr ⟨ref, member, rfl⟩
    -- The child is bound, so it was not removed, and it has a place among the live nodes.
    have stays := settling.closed live edge (complete id ref.id edge)
    obtain ⟨n₀, there⟩ := isLive_iff.mp stays
    have inside : ref.id ∈ r'.liveIds := mem_liveIds.mpr stays
    obtain ⟨b', _, binding⟩ := settling.placed (get?_numbered.mpr ⟨n₀, there, rfl⟩)
    refine ⟨?_, _, r'.liveIds.idxOf ref.id + 1, get?_numbered.mpr ⟨n₀, there, rfl⟩, ?_, by omega,
      ?_, indexIn_of_nodeId? rfl inside⟩
    · exact own.trans (settling.remains.id.symm.trans (id_place r').symm)
    · rw [Node.index?, Node.placement?, binding]
      rfl
    · have size : (r'.numbered roots).size = r'.size := size_place r'
      rw [size, ← length_liveIds]
      exact List.idxOf_lt_length_of_mem inside
  | empty | name | constant | pending | factory => rfl

/-- The entry of a node in the forest. -/
theorem Settling.images {p : Promise} (settling : Settling r r' roots) (sound : Sound p r)
    (complete : r.Complete) {i : Nat} {id : NodeId} {n : Node}
    (here : (r'.numbered roots).entries[i]? = some (id, n)) :
    ∃ e, forestNode? n = some e ∧ e.Images (r'.numbered roots) i n := by
  have get := get?_of_entries here
  obtain ⟨b, bound, binding⟩ := settling.placed get
  have live : r'.isLive id := by
    obtain ⟨n₀, there, _⟩ := get?_numbered.mp get
    exact isLive_iff.mpr ⟨n₀, there⟩
  have position : r'.liveIds.idxOf id = i := by
    have ids : (r'.numbered roots).liveIds = r'.liveIds := liveIds_place r'
    rw [← ids]
    exact idxOf_of_entries here
  rw [position] at binding
  have denote (es : List Entry)
      (inside : ∀ e ∈ es, e.child ∈ b.children.members ++ b.steps.members) :
      List.Forall₂ (r'.numbered roots).Denotes es (es.map fun e => indexIn r'.liveIds e.child) := by
    rw [List.forall₂_map_right_iff, List.forall₂_same]
    exact fun e member => settling.denotes sound complete live bound (inside e member)
  refine ⟨_, forestNode?_placed binding, ?_⟩
  exact {
    index := rfl
    placed := by rw [Node.index?, Node.placement?, binding]; rfl
    name := rfl
    className := by rw [Node.className?, binding]; rfl
    steps := by
      rw [Node.steps, binding]
      exact denote _ fun e member => List.mem_append_right _ (List.mem_map_of_mem member)
    children := by
      rw [Node.children, binding]
      intro positional
      refine ⟨indicesOf r'.liveIds b.children, ?_, ?_⟩
      · exact if_neg (by simpa [placeBinding] using positional)
      · exact denote _ fun e member => List.mem_append_left _ (List.mem_map_of_mem member) }

theorem Settling.isTop_numbered {name : String} {id : NodeId} :
    (r'.numbered roots).IsTop name id ↔ r'.IsTop name id :=
  isTop_place

theorem distinctNames_numbered (names : r.DistinctNames) : (r.numbered roots).DistinctNames := by
  intro id id' n n' here here' same
  obtain ⟨m, there, rfl⟩ := get?_numbered.mp here
  obtain ⟨m', there', rfl⟩ := get?_numbered.mp here'
  exact names there there' same

/-- The forest of what is left shows it. -/
theorem Settling.forest {p : Promise} (settling : Settling r r' roots) (sound : Sound p r)
    (complete : r.Complete) :
    ∃ f, (r'.numbered roots).forest = .ok f ∧ f.Images (r'.numbered roots) := by
  let shown (entry : NodeId × Node) : ForestNode :=
    (forestNode? entry.2).getD ⟨0, "", "", [], .list [], []⟩
  have shows {i : Nat} {entry : NodeId × Node}
      (here : (r'.numbered roots).entries[i]? = some entry) :
      forestNode? entry.2 = some (shown entry) ∧
        (shown entry).Images (r'.numbered roots) i entry.2 := by
    obtain ⟨e, found, images⟩ := settling.images sound complete here
    have same : shown entry = e := by simp only [shown, found, Option.getD_some]
    exact ⟨by rw [same, found], by rw [same]; exact images⟩
  have nodes : (r'.numbered roots).entries.filterMap (fun entry => forestNode? entry.2) =
      (r'.numbered roots).entries.map shown := by
    refine List.filterMap_eq_map_iff_forall_eq_some.mpr fun entry member => ?_
    obtain ⟨i, here⟩ := List.mem_iff_getElem?.mp member
    exact (shows here).1
  refine ⟨⟨(r'.numbered roots).entries.map shown, OrderedMap.keys roots⟩, ?_, ?_⟩
  · rw [← nodes]
    exact forest_numbered
  · exact {
      size := List.length_map ..
      node := fun {i id n} here => ⟨shown (id, n), by simp [here], (shows here).2⟩
      names := by
        have names : (r'.numbered roots).DistinctNames :=
          distinctNames_numbered (settling.remains.distinctNames sound.names)
        have same : ((r'.numbered roots).entries.map shown).map (·.name) =
            (r'.numbered roots).entries.map (·.2.name) := by
          rw [List.map_map]
          refine List.map_congr_left fun entry member => ?_
          obtain ⟨i, here⟩ := List.mem_iff_getElem?.mp member
          exact (shows here).2.name
        rw [same]
        exact nodup_names names
      roots := by
        intro name
        simp only [OrderedMap.keys, List.mem_map, Prod.exists, exists_and_right, exists_eq_right,
          settling.mem_roots, isTop_numbered]
      once := settling.distinct }

end

/-- A resolve up to the removal of nodes. -/
def prepare (hook : Hook Unit) (location : Location) : Action Unit := do
  reportUninitialized
  hook location

/-- A resolve prepares, settles, and numbers what is left unless something was recorded. -/
theorem exec_resolve_prepare (hook : Hook Unit) (location : Location)
    (building : r.phase = .building) :
    (resolve hook location).exec r = match (prepare hook location).exec r with
      | (.ok (), r₂) =>
        if r₂.settle.1.errors.isEmpty then (.ok (some ()), r₂.settle.1.numbered r₂.settle.2)
        else (.error (.cumulative r₂.settle.1.errors), { r₂.settle.1 with phase := .failed })
      | (.error e, r₂) => (.error e, { r₂ with phase := .failed }) := by
  rw [exec_resolve hook location building, prepare]
  rcases checked : reportUninitialized.exec r with ⟨e | _, r₁⟩
  · rw [runResolve, exec_bind_of_error checked, exec_bind_of_error checked]
  · rcases hooked : (hook location).exec r₁ with ⟨e | given, r₂⟩
    · rw [runResolve, exec_bind_of_ok checked, exec_bind_of_ok checked, hooked,
        exec_bind_of_error hooked]
    · rw [exec_runResolve checked hooked, exec_bind_of_ok checked, hooked]
      dsimp only
      cases r₂.settle.1.errors.isEmpty <;> rfl

section

variable {location : Location}

/-- A successful resolve numbers what is left after the hook, and has recorded nothing. -/
theorem numbered_of_hook {α : Type} {hook : Hook α} (building : r.phase = .building)
    {given : Option α} (resolved : (resolve hook location).exec r = (.ok given, r')) :
    ∃ r₁ y r₂, reportUninitialized.exec r = (.ok (), r₁) ∧
      (hook location).exec r₁ = (.ok y, r₂) ∧ r₂.settle.1.errors = [] ∧
        r' = r₂.settle.1.numbered r₂.settle.2 := by
  rw [exec_resolve hook location building] at resolved
  rcases run : (runResolve hook location).exec r with ⟨e | ⟨roots, _⟩, r₃⟩
  · rw [run] at resolved
    cases resolved
  · rw [run] at resolved
    obtain ⟨_, r₁, checked, rest⟩ := exec_bind_ok.mp run
    obtain ⟨_, r₂, hooked, _⟩ := exec_bind_ok.mp rest
    rw [exec_runResolve checked hooked] at run
    split at run
    · rename_i none
      cases run
      cases resolved
      exact ⟨r₁, _, r₂, checked, hooked, List.isEmpty_iff.mp none, rfl⟩
    · cases run

/-- With a hook that takes steps nothing was recorded on the way either, so the check found nothing
and changed nothing. -/
theorem numbered_of_leads {p : Promise} {α : Type} {hook : Hook α}
    (leads : ∀ r, Leads (Step p) (hook location) r fun _ _ => True) (building : r.phase = .building)
    {given : Option α} (resolved : (resolve hook location).exec r = (.ok given, r')) :
    ∃ y r₂, (hook location).exec r = (.ok y, r₂) ∧ r.findings = [] ∧ r₂.errors = r.errors ∧
      r' = r₂.settle.1.numbered r₂.settle.2 := by
  obtain ⟨r₁, y, r₂, checked, hooked, none, rfl⟩ := numbered_of_hook building resolved
  have steps : Steps p r₁ r₂ := (leads r₁).steps hooked
  have quiet : r₂.errors = [] := (thinned_settle r₂).errors.symm.trans none
  have quiet₁ : r₁.errors = [] := List.prefix_nil.mp (quiet ▸ steps.extends.errors)
  obtain ⟨found, rfl⟩ := findings_of_passed checked quiet₁
  exact ⟨y, r₂, hooked, found, quiet.trans quiet₁.symm, rfl⟩

variable {hook : Hook Unit}

theorem leads_hook (either : hook = Hook.idle ∨ hook = Hook.mux) (r : Repository) :
    Leads (Step .allocating) (hook location) r fun _ _ => True := by
  rcases either with rfl | rfl
  · exact .pure trivial
  · exact leads_mux location r not_false

theorem complete_hook (either : hook = Hook.idle ∨ hook = Hook.mux) (sound : Sound .allocating r)
    (complete : r.Complete) (ran : (hook location).exec r = (.ok (), r'))
    (quiet : r'.errors = r.errors) : r'.Complete := by
  rcases either with rfl | rfl
  · cases ran
    exact complete
  · exact complete_mux sound complete not_false ran quiet

/-- A successful resolve has found every child bound, and numbers what is left after the hook. -/
theorem numbered_of_resolve (either : hook = Hook.idle ∨ hook = Hook.mux)
    (sound : Sound .allocating r) (building : r.phase = .building) {given : Option Unit}
    (resolved : (resolve hook location).exec r = (.ok given, r')) :
    ∃ r₂, (hook location).exec r = (.ok (), r₂) ∧ r₂.errors = r.errors ∧
      Sound .allocating r₂ ∧ r₂.Complete ∧ r' = r₂.settle.1.numbered r₂.settle.2 := by
  obtain ⟨_, r₂, hooked, found, same, rfl⟩ :=
    numbered_of_leads (leads_hook either) building resolved
  have steps : Steps .allocating r r₂ := (leads_hook either r).steps hooked
  have sound₂ : Sound .allocating r₂ := steps.sound sound
  have complete := complete_hook either sound (findings_eq_nil.mp found) hooked same
  exact ⟨r₂, hooked, same, sound₂, complete, rfl⟩

end

/-- A bound node, with orphans for roots. -/
def loneLeaf : Repository :=
  Operation.after (.bind ⟨0⟩ (.ok (.pending (.bare (.standard "Leaf")))) default)
    (Operation.after (.node .root "a" default) (start ⟨0⟩ { orphansAreRoots := true }))

theorem namesAllocated_bare (r : Repository) (id : NodeId) (nodeClass : NodeClass) :
    Operation.NamesAllocated r (.bind id (.ok (.pending (.bare nodeClass))) default) := by
  intro c member ref inside
  obtain rfl := List.mem_singleton.mp member
  cases inside

theorem reachable_loneLeaf : Reachable Operation.NamesAllocated loneLeaf :=
  ⟨⟨0⟩, { orphansAreRoots := true },
    .operation _ (.operation _ (.refl _) fun c member => by cases member)
      (namesAllocated_bare _ _ _)⟩

end Repository

end NodeForest

import NodeForest.Proofs.Children
import NodeForest.Proofs.ForestImage

/-!
# Nodes below themselves

No operation checks for cycles: a node may be bound to a definition that has it for a child, and a
resolve keeps it, as it has a parent. Without errors, however, a cycle is closed only by handing in
a node that leads to one that is given children: a node that the operation itself makes is bound
before it becomes a child.

Results:
1. `exists_exit`, `transGen_onCycle`, `transGen_of_entered`: paths of two relations.
2. `Gives.ordered`: among the nodes that an operation makes there are no cycles;
   `acyclic_after`: nor does it close one, if what it hands in does not.
3. `Settling.rooted`: without cycles, every node of the forest is below a root.
4. `acyclic_of_reachable`: runs, and the forests they lead to.
-/

namespace NodeForest

open Relation NodeForest.Action

/-! ## 1. Paths -/

section

variable {α : Type} {R R' : α → α → Prop} {x y : α}

/-- A path is one of `R`, or it leaves `R` at some edge. -/
theorem exists_exit (path : ReflTransGen R' x y) :
    ReflTransGen R x y ∨ ∃ u v, ReflTransGen R x u ∧ R' u v ∧ ¬R u v := by
  induction path with
  | refl => exact .inl .refl
  | @tail u v _ edge ih =>
    rcases ih with old | exit
    · by_cases known : R u v
      · exact .inl (old.tail known)
      · exact .inr ⟨u, v, old, edge, known⟩
    · exact .inr exit

/-- The edge is part of a cycle. -/
def OnCycle (R : α → α → Prop) (u v : α) : Prop :=
  R u v ∧ ReflTransGen R v u

theorem transGen_onCycle (path : TransGen R x y) (back : ReflTransGen R y x) :
    TransGen (OnCycle R) x y := by
  induction path with
  | single edge => exact .single ⟨edge, back⟩
  | tail path edge ih =>
    exact (ih (back.head edge)).tail ⟨edge, back.trans path.to_reflTransGen⟩

/-- If the edges out of what is entered are in `R`, then so are the paths from there. -/
theorem transGen_of_entered (known : ∀ {u v}, R' u v → (∃ w, R' w u) → R u v)
    (path : TransGen R' x y) (entered : ∃ w, R' w x) : TransGen R x y := by
  induction path with
  | single edge => exact .single (known edge entered)
  | tail path edge ih =>
    obtain ⟨w, _, last⟩ := TransGen.tail'_iff.mp path
    exact ih.tail (known edge ⟨w, last⟩)

end

/-! ## 2. One operation -/

namespace Operation

/-- Nothing is recorded. -/
def Quiet (r : Repository) (op : Operation) : Prop :=
  (op.after r).errors = r.errors

/-- The operation makes one node a child or step-child of the other. -/
def Links (r : Repository) (op : Operation) (parent child : NodeId) : Prop :=
  (op.after r).IsChild parent child ∧ ¬r.IsChild parent child

/-- No node that there was before is made a child when it is, or has below it, a node that is given
children. -/
def ClosesNone (r : Repository) (op : Operation) : Prop :=
  ∀ parent child, op.Links r parent child → r.isLive child →
    ∀ parent' child', op.Links r parent' child' → ¬ReflTransGen r.IsChild child parent'

/-- What an operation is to keep to so that it brings no cycle. -/
structure Descends (r : Repository) (op : Operation) : Prop where
  named : op.NamesAllocated r
  quiet : op.Quiet r
  closes : op.ClosesNone r

end Operation

namespace Repository

variable {r₀ r r' : Repository}

/-- A node among children is of this repository; unless something has been recorded, it was there in
`r₀` or is bound. -/
def Precedes (r₀ r : Repository) (c : Child) : Prop :=
  ∀ ref, c = .node ref → ref.repository = r.id ∧
    (r.errors = r₀.errors → ref.id.index < r₀.nodes.size ∨ r.isBound ref.id)

theorem givable_precedes (cached : Cached r) :
    Givable r (Precedes r) (fun ref => ref.repository = r.id → ref.id.index < r.nodes.size)
      fun _ => True where
  cached := cached
  own := fun given => (given _ rfl).1
  stable := by
    intro s s' c before step given ref same
    obtain ⟨own, precedes⟩ := given ref same
    refine ⟨own.trans step.extends.id.symm, fun quiet => ?_⟩
    exact (precedes (before.extends.quiet step.extends quiet).1).imp_right
      (Steps.isBound (.single step))
  empty := fun _ => nofun
  node := by
    intro s ref before allocated own ref same
    cases same
    exact ⟨own, fun _ => .inl (allocated (own.trans before.extends.id))⟩
  made := fun _ bound ref same => by
    cases same
    exact ⟨rfl, fun quiet => .inr (bound quiet)⟩
  taken := by
    intro s entries keyed before allocated _ own e member ref same
    have fits : Promise.none.Fits s (entries.map (·.child)) :=
      @fits_of_findForeign? .none s entries keyed False.elim own
    have here := (fits ref (same ▸ List.mem_map_of_mem member)).1
    have inside : ref ∈ ChildList.nodeRefs ⟨entries, keyed, true⟩ :=
      Entry.mem_allNodeRefs member (by cases e; subst same; simp [Entry.nodeRefs, Child.nodeRefs])
    exact ⟨here, fun _ => .inl (allocated ref inside (here.trans before.extends.id))⟩

/-- A node that was made after `r₀` has another such node as a child. -/
def NewEdge (r₀ r : Repository) (parent child : NodeId) : Prop :=
  r.IsChild parent child ∧ r₀.nodes.size ≤ parent.index ∧ r₀.nodes.size ≤ child.index

/-- Nodes made after `r₀` are bound before they become children, and have no cycles. -/
structure Ordered (r₀ r : Repository) : Prop where
  bound : ∀ {parent child}, r.IsChild parent child → r₀.nodes.size ≤ child.index → r.isBound child
  acyclic : ∀ id, ¬TransGen (NewEdge r₀ r) id id

/-- A number that has not been given yet has no children. -/
theorem lt_of_isChild {parent child : NodeId} (edge : r.IsChild parent child) :
    parent.index < r.nodes.size :=
  lt_of_isLive (isLive_of_isBound (isBound_of_mem_childIdsOf edge))

theorem Ordered.refl (fit : r.ChildrenFit .allocating) : Ordered r r where
  bound := by
    intro parent child edge new
    rw [IsChild, childIdsOf_eq] at edge
    cases bound : r.bindingOf? parent with
    | none =>
      rw [bound] at edge
      cases edge
    | some b =>
      rw [bound] at edge
      obtain ⟨ref, member, rfl⟩ := Binding.mem_childIds.mp edge
      exact absurd ((fit bound ref member).2 trivial) (Nat.not_lt.mpr new)
  acyclic := by
    intro id cycle
    obtain ⟨_, ⟨edge, new, _⟩, _⟩ := TransGen.head'_iff.mp cycle
    exact absurd (lt_of_isChild edge) (Nat.not_lt.mpr new)

/-- A new child is a bound node or an old one, and is given to an unbound node or an old one. -/
theorem Gives.isChild (gives : Gives r₀ (Precedes r₀) r r') (quiet : r.errors = r₀.errors)
    {parent child : NodeId} (edge : r'.IsChild parent child) :
    r.IsChild parent child ∨
      (r₀.nodes.size ≤ child.index → r.isBound child) ∧ (r.isBound parent → r₀.isBound parent) := by
  rw [IsChild, childIdsOf_eq] at edge
  cases bound : r'.bindingOf? parent with
  | none =>
    rw [bound] at edge
    cases edge
  | some b' =>
    rw [bound] at edge
    obtain ⟨ref, member, rfl⟩ := Binding.mem_childIds.mp edge
    rcases gives.child bound member with ⟨b, was, old⟩ | ⟨given, early⟩
    · left
      rw [IsChild, childIdsOf_eq, was]
      exact Binding.mem_childIds.mpr ⟨ref, old, rfl⟩
    · exact .inr ⟨fun new => ((given ref rfl).2 quiet).resolve_left (Nat.not_lt.mpr new), early⟩

theorem Gives.ordered (gives : Gives r₀ (Precedes r₀) r r') (before : Steps .none r₀ r)
    (quiet : r'.errors = r₀.errors) (ordered : Ordered r₀ r) : Ordered r₀ r' := by
  have still : r.errors = r₀.errors := (before.extends.quiet gives.step.extends quiet).1
  have bound {parent child : NodeId} (edge : r'.IsChild parent child)
      (new : r₀.nodes.size ≤ child.index) : r.isBound child :=
    (gives.isChild still edge).elim (fun old => ordered.bound old new) fun given => given.1 new
  refine ⟨fun edge new => Steps.isBound (.single gives.step) (bound edge new), fun id cycle => ?_⟩
  -- What is a child is bound already, so it is given no further ones.
  have entered : ∃ w, NewEdge r₀ r' w id := by
    obtain ⟨w, _, last⟩ := TransGen.tail'_iff.mp cycle
    exact ⟨w, last⟩
  refine ordered.acyclic id (transGen_of_entered ?_ cycle entered)
  rintro parent child ⟨edge, new, new'⟩ ⟨w, into, _, _⟩
  rcases gives.isChild still edge with old | ⟨_, early⟩
  · exact ⟨old, new, new'⟩
  · have inside := lt_of_isLive (isLive_of_isBound (early (bound into new)))
    exact absurd inside (Nat.not_lt.mpr new)

theorem ordered_of_gives (gives : ReflTransGen (Gives r (Precedes r)) r r')
    (quiet : r'.errors = r.errors) (fit : r.ChildrenFit .allocating) : Ordered r r' := by
  induction gives with
  | refl => exact .refl fit
  | tail most last ih =>
    have before := steps_of_gives most
    exact last.ordered before quiet
      (ih (before.extends.quiet last.step.extends quiet).1)

section

variable {op : Operation}

/-- An edge of a cycle that the operation makes leads to a new node. -/
theorem new_of_onCycle (steps : Steps .none r (op.after r)) (closes : op.ClosesNone r)
    {parent child : NodeId} (edge : OnCycle (op.after r).IsChild parent child)
    (link : ¬r.IsChild parent child) : r.nodes.size ≤ child.index := by
  by_contra old
  have bound : (op.after r).isBound child := by
    rcases ReflTransGen.cases_head edge.2 with rfl | ⟨_, out, _⟩
    · exact isBound_of_mem_childIdsOf edge.1
    · exact isBound_of_mem_childIdsOf out
  have live : r.isLive child := by
    by_contra dead
    have gone := steps.gone (Nat.not_le.mp old) (by simpa [isLive] using dead)
    obtain ⟨n, here⟩ := isLive_iff.mp (isLive_of_isBound bound)
    rw [here] at gone
    cases gone
  -- The way back to the parent was there before, or it was up to the first link that is made.
  rcases exists_exit (R := r.IsChild) edge.2 with path | ⟨parent', child', path, edge', link'⟩
  · exact closes parent child ⟨edge.1, link⟩ live parent child ⟨edge.1, link⟩ path
  · exact closes parent child ⟨edge.1, link⟩ live parent' child' ⟨edge', link'⟩ path

/-- What comes before an old node of a cycle is old, and was its parent before. -/
theorem transGen_of_old (steps : Steps .none r (op.after r)) (closes : op.ClosesNone r)
    {x y : NodeId} (path : TransGen (OnCycle (op.after r).IsChild) x y)
    (old : y.index < r.nodes.size) : TransGen r.IsChild x y := by
  have known {parent child : NodeId} (edge : OnCycle (op.after r).IsChild parent child)
      (old : child.index < r.nodes.size) : r.IsChild parent child :=
    by_contra fun link => absurd (new_of_onCycle steps closes edge link) (Nat.not_le.mpr old)
  induction path with
  | single edge => exact .single (known edge old)
  | tail _ edge ih =>
    have edge := known edge old
    exact (ih (lt_of_isChild edge)).tail edge

/-- What comes after a new node of a cycle is new. -/
theorem transGen_of_new (steps : Steps .none r (op.after r)) (closes : op.ClosesNone r)
    {x y : NodeId} (path : TransGen (OnCycle (op.after r).IsChild) x y)
    (new : r.nodes.size ≤ x.index) :
    TransGen (NewEdge r (op.after r)) x y ∧ r.nodes.size ≤ y.index := by
  have next {parent child : NodeId} (edge : OnCycle (op.after r).IsChild parent child)
      (new : r.nodes.size ≤ parent.index) : NewEdge r (op.after r) parent child :=
    ⟨edge.1, new, new_of_onCycle steps closes edge fun old =>
      absurd (lt_of_isChild old) (Nat.not_lt.mpr new)⟩
  induction path with
  | single edge => exact ⟨.single (next edge new), (next edge new).2.2⟩
  | tail _ edge ih => exact ⟨ih.1.tail (next edge ih.2), (next edge ih.2).2.2⟩

/-- An operation that closes no cycle by what it hands in closes none. -/
theorem acyclic_after (cached : Cached r) (fit : r.ChildrenFit .allocating)
    (acyclic : r.Acyclic) (descends : op.Descends r) : (op.after r).Acyclic := by
  have gives := op.gives (givable_precedes cached) fun c member =>
    ⟨fun ref inside => descends.named c member ref inside, fun _ _ => trivial⟩
  have ordered := ordered_of_gives gives descends.quiet fit
  have steps := steps_of_gives gives
  intro id cycle
  have edges := transGen_onCycle cycle .refl
  -- A cycle through an old node was there before, and one through a new node has no other nodes.
  rcases Nat.lt_or_ge id.index r.nodes.size with old | new
  · exact acyclic id (transGen_of_old steps descends.closes edges old)
  · exact ordered.acyclic id (transGen_of_new steps descends.closes edges new).1

end

/-! ## 3. Forests -/

end Repository

namespace Forest

/-- The entry with the first number has the second among the numbers of its children and
step-children. -/
def Edge (f : Forest) (parent child : Nat) : Prop :=
  ∃ e ∈ f.nodes, e.index = parent ∧ (child : Int) ∈ e.children.toList ++ e.steps

/-- Every node is a root, or below one. -/
def Rooted (f : Forest) : Prop :=
  ∀ e ∈ f.nodes, ∃ root ∈ f.nodes, root.name ∈ f.roots ∧ ReflTransGen f.Edge root.index e.index

end Forest

namespace Repository

/-- No two children of a keyed list are shown under one label. -/
def LabelsDistinct (r : Repository) : Prop :=
  ∀ id n, r.get? id = some n → n.children.keyed →
    (n.children.entries.map (·.label.render)).Nodup

variable {r r' : Repository} {roots : OrderedMap String NodeId}

theorem Acyclic.mono (acyclic : r.Acyclic)
    (edges : ∀ {parent child}, r'.IsChild parent child → r.IsChild parent child) : r'.Acyclic :=
  fun id cycle => acyclic id (TransGen.mono (fun _ _ => edges) id id cycle)

theorem Reduced.isChild (reduced : Reduced r r') {parent child : NodeId}
    (edge : r'.IsChild parent child) : r.IsChild parent child := by
  obtain ⟨b', bound⟩ := isBound_iff.mp (isBound_of_mem_childIdsOf edge)
  obtain ⟨n', live, binding⟩ := Option.bind_eq_some_iff.mp bound
  obtain ⟨n, there, resembles⟩ := reduced.node live
  obtain ⟨b, was, _, children, steps⟩ := resembles.binding binding
  rw [IsChild, childIdsOf_eq, bound] at edge
  rw [IsChild, childIdsOf_eq, bindingOf?_of_get? there, was]
  rwa [Option.map_some, Option.getD_some, Binding.childIds, children, steps] at edge

theorem Remains.isChild (remains : Remains r r') {parent child : NodeId}
    (edge : r'.IsChild parent child) : r.IsChild parent child := by
  have live := isLive_of_isBound (isBound_of_mem_childIdsOf edge)
  rwa [IsChild, childIdsOf_eq, remains.bindingOf? live, ← childIdsOf_eq] at edge

/-- Among the numbers of a list are those of all nodes in it that have one. -/
theorem mem_indicesOf {ids : List NodeId} {l : ChildList} {id : NodeId} (member : id ∈ l.nodeIds)
    (inside : id ∈ ids) : ((ids.idxOf id + 1 : Nat) : Int) ∈ indicesOf ids l := by
  obtain ⟨e, here, node⟩ := List.mem_filterMap.mp member
  exact List.mem_map.mpr ⟨e, here, indexIn_of_nodeId? node inside⟩

/-- A keyed list keeps them if its labels are distinct. -/
theorem mem_childIndices {ids : List NodeId} {l : ChildList} {id : NodeId}
    (distinct : l.keyed → (l.entries.map (·.label.render)).Nodup) (member : id ∈ l.nodeIds)
    (inside : id ∈ ids) : ((ids.idxOf id + 1 : Nat) : Int) ∈ (childIndices ids l).toList := by
  have listed := mem_indicesOf member inside
  rw [childIndices]
  split
  · rename_i keyed
    rw [OrderedMap.ofList_eq (by simpa [OrderedMap.keys, Function.comp_def] using distinct keyed)]
    simpa [ChildIndices.toList, OrderedMap.values, Function.comp_def, indicesOf] using listed
  · exact listed

/-- The forest has an entry for every node that is left, with the numbers of its children. -/
theorem Settling.shown (settling : Settling r r' roots)
    (distinct : (r'.numbered roots).LabelsDistinct) {f : Forest}
    (image : (r'.numbered roots).forest = .ok f) {id : NodeId} {n : Node}
    (here : r'.get? id = some n) :
    ∃ e ∈ f.nodes, e.index = r'.liveIds.idxOf id + 1 ∧ e.name = n.name ∧
      ∀ child, r'.IsChild id child → r'.isLive child →
        ((r'.liveIds.idxOf child + 1 : Nat) : Int) ∈ e.children.toList ++ e.steps := by
  have there : (r'.numbered roots).get? id = some (placeNode r'.liveIds (r'.liveIds.idxOf id) n) :=
    get?_numbered.mpr ⟨n, here, rfl⟩
  obtain ⟨b, bound, binding⟩ := settling.placed there
  have listed := (mem_nodes_numbered image).mpr ⟨id, _, there, forestNode?_placed binding⟩
  refine ⟨_, listed, rfl, rfl, fun child edge live => ?_⟩
  have edge := settling.remains.isChild edge
  rw [IsChild, childIdsOf_eq, bound] at edge
  have labels := distinct id _ there
  rw [Node.children, binding] at labels
  have inside := mem_liveIds.mpr live
  rw [List.mem_append]
  exact (List.mem_append.mp edge).imp (fun member => mem_childIndices labels member inside)
    fun member => mem_indicesOf member inside

/-- Without cycles, every node that is left is below one that has no parents. -/
theorem Settling.rooted (settling : Settling r r' roots) (acyclic : r.Acyclic)
    (distinct : (r'.numbered roots).LabelsDistinct) {f : Forest}
    (image : (r'.numbered roots).forest = .ok f) : f.Rooted := by
  intro e member
  obtain ⟨id, n, here, shown⟩ := (mem_nodes_numbered image).mp member
  obtain ⟨b, _, binding⟩ := settling.placed here
  rw [forestNode?_placed binding] at shown
  cases shown
  obtain ⟨n₀, there, _⟩ := get?_numbered.mp here
  -- Upwards along parents until there are none.
  refine (acyclic.mono settling.remains.isChild).induction (P := fun id =>
    ∃ root ∈ f.nodes, root.name ∈ f.roots ∧
      ReflTransGen f.Edge root.index (r'.liveIds.idxOf id + 1)) ?_
    (isLive_iff.mpr ⟨n₀, there⟩)
  intro id live ih
  obtain ⟨n, here⟩ := isLive_iff.mp live
  cases parents : n.parents with
  | nil =>
    obtain ⟨e, member, index, name, _⟩ := settling.shown distinct image here
    have root := settling.mem_roots.mpr ⟨n, here, rfl, parents⟩
    have named : n.name ∈ f.roots := by
      obtain rfl := Except.ok.inj (forest_numbered.symm.trans image)
      exact List.mem_map_of_mem root
    exact ⟨e, member, name ▸ named, index ▸ .refl⟩
  | cons parent rest =>
    have inside : parent ∈ r'.parentsOf id := by
      rw [parentsOf_of_get? here, parents]
      exact List.mem_cons_self
    have edge : r'.IsChild parent id := (settling.remains.linked.mem_parents live).mp inside
    obtain ⟨root, member, named, path⟩ := ih parent edge
    obtain ⟨m, above⟩ := isLive_iff.mp (isLive_of_isBound (isBound_of_mem_childIdsOf edge))
    obtain ⟨e, shown, index, _, numbers⟩ := settling.shown distinct image above
    exact ⟨root, member, named, path.tail ⟨e, shown, index, numbers id edge live⟩⟩

/-! ## 4. Runs -/

theorem acyclic_start (id : RepositoryId) (options : Options) : (start id options).Acyclic := by
  intro node cycle
  obtain ⟨_, edge, _⟩ := TransGen.head'_iff.mp cycle
  cases edge

/-- What every run keeps whose operations bring no cycle. -/
structure Rising (r : Repository) : Prop where
  cached : Cached r
  fits : r.ChildrenFit .allocating
  acyclic : r.Acyclic

theorem Rising.change (rising : Rising r) (change : Change .allocating r r')
    (edges : ∀ {parent child}, r'.IsChild parent child → r.IsChild parent child) : Rising r' :=
  ⟨change.cached rising.cached, change.fits rising.fits, rising.acyclic.mono edges⟩

theorem covers_rising : Covers fun r r' => Rising r → Rising r' where
  note := fun _ ds rising => rising.change (.step (.note ds)) fun edge => edge
  settle := fun r rising => rising.change (.settle r) (thinned_settle r).reduced.isChild
  place := fun r rising => rising.change (.place r) (reduced_place r).isChild
  turn := fun r phase rising => rising.change (.turn r phase) fun edge => edge

theorem LeadsTo.rising (h : LeadsTo Operation.Descends r r') (rising : Rising r) : Rising r' := by
  refine h.kept covers_rising (fun r op descends rising => ?_) rising
  have changes : Changes .allocating r (op.after r) :=
    Steps.changes (Operation.steps (Promise.allows_allocating r op descends.named))
  exact ⟨changes.cached rising.cached, changes.fits rising.fits,
    acyclic_after rising.cached rising.fits rising.acyclic descends⟩

theorem Reachable.acyclic (h : Reachable Operation.Descends r) : r.Acyclic := by
  obtain ⟨id, options, led⟩ := h
  exact (led.rising ⟨(orderly_start id options).cached, (Sound.start id options).fits,
    acyclic_start id options⟩).acyclic

/-- If no operation records anything or closes a cycle by what it hands in, no node is below itself,
and after a successful resolve every node of the forest is below a root. -/
theorem acyclic_of_reachable (reached : Reachable Operation.Descends r) :
    (∀ id, ¬TransGen r.IsChild id id) ∧
      ∀ {α : Type} (hook : Hook α) location given r', r.phase = .building →
        (∀ r₁, reportUninitialized.exec r = (.ok (), r₁) →
          LeadsTo Operation.Descends r₁ ((hook location).exec r₁).2) →
        (resolve hook location).exec r = (.ok given, r') → r'.LabelsDistinct →
          ∃ f, r'.forest = .ok f ∧ f.Rooted := by
  refine ⟨reached.acyclic, fun hook location given r' building hooked resolved distinct => ?_⟩
  obtain ⟨r₁, _, r₂, passed, ran, _, rfl⟩ := numbered_of_hook building resolved
  have led := hooked r₁ passed
  rw [ran] at led
  have reached₂ := (reached.trans (.inHook (.refl r) building passed)).trans led
  have linked := (reached₂.linked fun _ _ descends => descends.named).2
  exact ⟨_, forest_numbered,
    (settling linked reached₂.names).rooted reached₂.acyclic distinct forest_numbered⟩

/-- Without children before, a cycle is not closed by handing in nodes without children. -/
theorem closesNone_of_childless {op : Operation}
    (childless : ∀ id ∈ r.liveIds, r.childIdsOf id = [])
    (leaves : ∀ parent ∈ (op.after r).liveIds, ∀ child ∈ (op.after r).childIdsOf parent,
      r.isLive child → (op.after r).childIdsOf child = []) : op.ClosesNone r := by
  rintro parent child ⟨edge, _⟩ live parent' child' ⟨edge', _⟩ path
  rcases ReflTransGen.cases_head path with rfl | ⟨_, out, _⟩
  · have above := mem_liveIds.mpr (isLive_of_isBound (isBound_of_mem_childIdsOf edge))
    rw [IsChild, leaves parent above child edge live] at edge'
    cases edge'
  · rw [IsChild, childless child (mem_liveIds.mpr live)] at out
    cases out

/-- A run that binds a node with a nested definition over another one. -/
def nested : Repository :=
  let inner : Definition := .ofParts (.standard "Negate") (.positional [.node ⟨⟨0⟩, ⟨0⟩⟩]) .nil []
  let outer : Definition := .ofParts (.standard "Negate") (.positional [.pending inner]) .nil []
  Operation.after (.bind ⟨1⟩ (.ok (.pending outer)) default)
    (Operation.after (.hold ⟨1⟩)
      (Operation.after (.node .root "b" default)
        (Operation.after (.bind ⟨0⟩ (.ok (.pending (.bare (.standard "Leaf")))) default)
          (Operation.after (.node .root "a" default) (start ⟨0⟩ {})))))

theorem reachable_nested : Reachable Operation.Descends nested := by
  refine ⟨⟨0⟩, {}, .operation _ (.operation _ (.operation _ (.operation _ (.operation _
    (.refl _) ?_) ?_) ?_) ?_) ?_⟩
  all_goals
    refine ⟨?_, ?_, closesNone_of_childless (by decide +kernel) (by decide +kernel)⟩
    · rw [Operation.NamesAllocated]
      decide +kernel
    · rw [Operation.Quiet]
      decide +kernel

theorem acyclic_of_reachable_nested :
    Reachable Operation.Descends nested ∧ nested.phase = .building ∧
      (∀ id, ¬TransGen nested.IsChild id id) ∧
        ∃ given r' f, (resolve Hook.idle default).exec nested = (.ok given, r') ∧
          r'.LabelsDistinct ∧ r'.forest = .ok f ∧ f.nodes.map (·.name) = ["a", "b", "negate(a)"] ∧
            f.Rooted := by
  have building : nested.phase = .building := by decide +kernel
  have succeeds : ((resolve Hook.idle default).exec nested).1.isOk := by decide +kernel
  have shown : ((resolve Hook.idle default).exec nested).2.forest.toOption.map
      (·.nodes.map (·.name)) = some ["a", "b", "negate(a)"] := by decide +kernel
  have keyless : ∀ entry ∈ ((resolve Hook.idle default).exec nested).2.entries,
      entry.2.children.keyed = false := by decide +kernel
  obtain ⟨acyclic, rooted⟩ := acyclic_of_reachable reachable_nested
  have distinct : ((resolve Hook.idle default).exec nested).2.LabelsDistinct :=
    fun id n here keyed => by
      rw [keyless (id, n) (mem_entries.mpr here)] at keyed
      cases keyed
  obtain ⟨given, resolved⟩ := exec_of_isOk succeeds
  obtain ⟨f, image, names⟩ := forest_of_toOption shown
  obtain ⟨f', image', below⟩ := rooted Hook.idle default given _ building
    (fun r₁ _ => .refl r₁) resolved distinct
  obtain rfl : f' = f := Except.ok.inj (image'.symm.trans image)
  exact ⟨reachable_nested, building, acyclic, given, _, f', resolved, distinct, image, names, below⟩

/-- A run that binds a node to a definition with the node itself for a child. -/
def ownParent : Repository :=
  let self : Definition := .ofParts (.standard "Negate") (.positional [.node ⟨⟨0⟩, ⟨0⟩⟩]) .nil []
  Operation.after (.bind ⟨0⟩ (.ok (.pending self)) default)
    (Operation.after (.node .root "a" default) (start ⟨0⟩ {}))

/-- Nothing fails, and the node is below itself; a resolve keeps it without any root. -/
theorem not_acyclic_ownParent :
    Reachable (fun r op => op.NamesAllocated r ∧ (op.run.exec r).1.isOk ∧ op.Quiet r) ownParent ∧
      ownParent.options.orphansAreRoots = false ∧ TransGen ownParent.IsChild ⟨0⟩ ⟨0⟩ ∧
        ∃ given r' f, (resolve Hook.idle default).exec ownParent = (.ok given, r') ∧
          r'.forest = .ok f ∧ f.nodes.map (·.name) = ["a"] ∧ f.roots = [] ∧ ¬f.Rooted := by
  have reached : Reachable
      (fun r op => op.NamesAllocated r ∧ (op.run.exec r).1.isOk ∧ op.Quiet r) ownParent := by
    refine ⟨⟨0⟩, {}, .operation _ (.operation _ (.refl _) ?_) ?_⟩
    all_goals
      rw [Operation.NamesAllocated, Operation.Quiet]
      decide +kernel
  have edge : ownParent.IsChild ⟨0⟩ ⟨0⟩ := by
    rw [IsChild]
    decide +kernel
  have succeeds : ((resolve Hook.idle default).exec ownParent).1.isOk := by decide +kernel
  have shown : ((resolve Hook.idle default).exec ownParent).2.forest.toOption.map
      (fun f => (f.nodes.map (·.name), f.roots)) = some (["a"], []) := by decide +kernel
  obtain ⟨given, resolved⟩ := exec_of_isOk succeeds
  obtain ⟨f, image, same⟩ := forest_of_toOption shown
  obtain ⟨names, roots⟩ := Prod.mk.inj same
  refine ⟨reached, by decide +kernel, .single edge, given, _, f, resolved, image, names, roots, ?_⟩
  intro rooted
  obtain ⟨e, member, _⟩ := List.mem_map.mp (names ▸ List.mem_singleton_self "a")
  obtain ⟨root, _, named, _⟩ := rooted e member
  rw [roots] at named
  cases named

end Repository

end NodeForest

import NodeForest.Proofs.Decomposition

/-!
# What holds before every resolve

Names are distinct, the children of bound nodes are nodes of the repository, a node notes as its
parents exactly the nodes that have it as a child, and the tables of shared constants, sinks and
spigots mention bound nodes. Each is shown for one step and then for all repositories that are
reached.

Results:
1. `Sound`: the invariant; `Linked`: its part about parents and children.
2. `Step.sound`: each kind of step keeps it.
3. `Reachable.sound`: it holds of every repository that is reached before a resolve.
-/

namespace NodeForest

open Relation

/-! ## 1. The invariant -/

namespace Repository

/-- A node notes each node that has it as a child, once, and no others. -/
structure Linked (r : Repository) : Prop where
  nodup : ∀ id, (r.parentsOf id).Nodup
  mem_parents : ∀ {child parent}, r.isLive child →
    (parent ∈ r.parentsOf child ↔ child ∈ r.childIdsOf parent)

/-- No two nodes have one name. -/
def DistinctNames (r : Repository) : Prop :=
  ∀ {id id' n n'}, r.get? id = some n → r.get? id' = some n' → n.name = n'.name → id = id'

/-- The children of bound nodes fit into the repository. -/
def ChildrenFit (p : Promise) (r : Repository) : Prop :=
  ∀ {id b}, r.bindingOf? id = some b → p.Fits r (b.children.members ++ b.steps.members)

/-- What holds before a resolve, under the promise `p` about the operations so far. -/
structure Sound (p : Promise) (r : Repository) : Prop where
  names : r.DistinctNames
  fits : r.ChildrenFit p
  linked : p.allocated → r.Linked
  noted : ∀ id, id ∈ r.sinks ∨ id ∈ r.spigots ∨ r.mux = some id → r.isBound id
  classes : p.records → ∀ {id b}, r.bindingOf? id = some b →
    OrderedMap.get? b.record Record.classKey = some (.text b.className)
  constants : p.records → ∀ {key id}, OrderedMap.get? r.constants key = some id →
    ∃ b, r.bindingOf? id = some b ∧ b.Holds key

variable {p : Promise} {r r' : Repository}

theorem Sound.start (id : RepositoryId) (options : Options) : Sound p (start id options) where
  names := fun here => by cases here
  fits := fun here => by cases here
  linked := fun _ => ⟨fun _ => List.nodup_nil, fun live => by cases live⟩
  noted := fun id note => by rcases note with note | note | note <;> cases note
  classes := fun _ _ _ here => by cases here
  constants := fun _ _ _ here => by cases here

theorem lookup?_of_get? (names : r.DistinctNames) {id : NodeId} {n : Node}
    (here : r.get? id = some n) : r.lookup? n.name = some id := by
  cases found : r.lookup? n.name with
  | none => exact absurd rfl (lookup?_eq_none.mp found id n here)
  | some other =>
    obtain ⟨n', here', same⟩ := lookup?_eq_some found
    rw [names here' here same]

theorem lookup?_iff (names : r.DistinctNames) {name : String} {id : NodeId} :
    r.lookup? name = some id ↔ ∃ n, r.get? id = some n ∧ n.name = name := by
  refine ⟨lookup?_eq_some, ?_⟩
  rintro ⟨n, here, rfl⟩
  exact lookup?_of_get? names here

/-! ## 2. One step -/

theorem bindingOf?_register {name basename : String} {scope : ScopeId} {quals : Qualifiers}
    {location : Location} (id : NodeId) :
    (r.register name basename scope quals location).bindingOf? id = r.bindingOf? id := by
  simp only [bindingOf?, get?_register]
  split
  · rename_i new
    rw [get?_eq_none (Nat.le_of_eq new.symm)]
    rfl
  · rfl

theorem childIdsOf_register {name basename : String} {scope : ScopeId} {quals : Qualifiers}
    {location : Location} (id : NodeId) :
    (r.register name basename scope quals location).childIdsOf id = r.childIdsOf id := by
  rw [childIdsOf_eq, childIdsOf_eq, bindingOf?_register]

theorem bindingOf?_noteClass (id other : NodeId) (className : String) :
    (r.noteClass id className).bindingOf? other = r.bindingOf? other := by
  rw [bindingOf?, get?_noteClass, bindingOf?]

theorem parentsOf_noteClass (id other : NodeId) (className : String) :
    (r.noteClass id className).parentsOf other = r.parentsOf other := by
  rw [parentsOf, get?_noteClass, parentsOf]

end Repository

theorem Binding.mem_childIds {b : Binding} {id : NodeId} :
    id ∈ b.childIds ↔
      ∃ ref, Child.node ref ∈ b.children.members ++ b.steps.members ∧ ref.id = id := by
  rw [childIds, ChildList.nodeIds_eq, ChildList.nodeIds_eq, ← List.filterMap_append]
  exact Child.mem_nodeIds

theorem Entry.child_numbered (cs : List Child) (start : Nat) :
    (Entry.numbered start cs).map (·.child) = cs := by
  induction cs generalizing start with
  | nil => rfl
  | cons c cs ih => simp [Entry.numbered, ih]

theorem ChildList.members_push (l : ChildList) (cs : List Child) :
    (l.push cs).members = l.members ++ cs := by
  simp [push, members, Entry.child_numbered]

/-- The children of an extended definition are the old ones and the new ones. -/
theorem mem_members_extendBinding {role : Repository.ChildRole} {cs : List Child} {b : Binding}
    {c : Child} :
    c ∈ (Repository.extendBinding role cs b).children.members ++
        (Repository.extendBinding role cs b).steps.members ↔
      c ∈ b.children.members ++ b.steps.members ∨ c ∈ cs := by
  cases role <;> simp [Repository.extendBinding, ChildList.members_push] <;> tauto

namespace Repository

variable {p : Promise} {r r' : Repository}

theorem Linked.relink {id : NodeId} {f : Option Binding → Option Binding} {children : List NodeId}
    (linked : r.Linked)
    (childIds : ∀ child, child ∈ (r.relink id f children).childIdsOf id ↔
      child ∈ r.childIdsOf id ∨ child ∈ children) : (r.relink id f children).Linked where
  nodup := fun other => nodup_parentsOf_relink r id f children other (linked.nodup other)
  mem_parents := by
    intro child parent live
    rw [isLive_relink] at live
    rw [mem_parentsOf_relink, linked.mem_parents live]
    by_cases same : parent = id
    · subst same
      rw [childIds child]
      simp [live]
    · rw [childIdsOf_eq, childIdsOf_eq, bindingOf?_relink, if_neg same]
      simp [same]

theorem Linked.noteClass (linked : r.Linked) (id : NodeId) (className : String) :
    (r.noteClass id className).Linked where
  nodup := fun other => by rw [parentsOf_noteClass]; exact linked.nodup other
  mem_parents := by
    intro child parent live
    rw [isLive, get?_noteClass] at live
    rw [parentsOf_noteClass, childIdsOf, get?_noteClass]
    exact linked.mem_parents live

/-- The node that is registered next is nobody's child. -/
theorem ChildrenFit.unborn (fit : r.ChildrenFit p) (allocated : p.allocated) {child parent : NodeId}
    (new : r.nodes.size ≤ child.index) : child ∉ r.childIdsOf parent := by
  intro member
  rw [childIdsOf_eq] at member
  cases bound : r.bindingOf? parent with
  | none => simp [bound] at member
  | some b =>
    rw [bound] at member
    obtain ⟨ref, inside, rfl⟩ := Binding.mem_childIds.mp member
    have := (fit bound ref inside).2 allocated
    omega

/-- A new node without parents and children: no node has it as a child yet. -/
theorem Linked.new (linked : r.Linked) (fit : r.ChildrenFit p) (allocated : p.allocated)
    {new : Node}
    (get? : ∀ id, r'.get? id = if id.index = r.nodes.size then some new else r.get? id)
    (parents : new.parents = []) (childIds : new.childIds = []) : r'.Linked where
  nodup := by
    intro id
    rw [parentsOf, get?]
    split
    · rw [Option.map_some, Option.getD_some, parents]
      exact List.nodup_nil
    · exact linked.nodup id
  mem_parents := by
    intro child parent live
    have before : r'.childIdsOf parent = r.childIdsOf parent := by
      rw [childIdsOf, get?, childIdsOf]
      split
      · rename_i last
        rw [get?_eq_none (Nat.le_of_eq last.symm), Option.map_some, childIds]
        rfl
      · rfl
    rw [isLive, get?] at live
    rw [before, parentsOf, get?]
    split at live
    · rename_i last
      simp [last, parents, fit.unborn allocated (Nat.le_of_eq last.symm)]
    · rename_i old
      rw [if_neg old]
      exact linked.mem_parents live

/-- A node after a step other than a registration was there before, under its name. -/
theorem name_of_get?_relink {id other : NodeId} {f : Option Binding → Option Binding}
    {children : List NodeId} {n : Node} (here : (r.relink id f children).get? other = some n) :
    ∃ n₀, r.get? other = some n₀ ∧ n₀.name = n.name := by
  rw [get?_relink] at here
  obtain ⟨n₀, there, rfl⟩ := Option.map_eq_some_iff.mp here
  refine ⟨n₀, there, ?_⟩
  dsimp only
  split <;> split <;> simp

/-- A new node under a free name. -/
theorem DistinctNames.new (names : r.DistinctNames) {new : Node}
    (free : r.lookup? new.name = none)
    (get? : ∀ id, r'.get? id = if id.index = r.nodes.size then some new else r.get? id) :
    r'.DistinctNames := by
  intro id id' n n' here here' same
  rw [get?] at here here'
  rw [lookup?_eq_none] at free
  split at here <;> split at here'
  · rename_i first second
    obtain ⟨_⟩ := id
    obtain ⟨_⟩ := id'
    exact congrArg NodeId.mk (first.trans second.symm)
  · cases here
    exact absurd same.symm (free id' n' here')
  · cases here'
    exact absurd same (free id n here)
  · exact names here here' same

theorem Step.names (h : Step p r r') (names : r.DistinctNames) : r'.DistinctNames := by
  intro id id' n n' here here' same
  have relinked {target : NodeId} {f : Option Binding → Option Binding} {children : List NodeId}
      (here : (r.relink target f children).get? id = some n)
      (here' : (r.relink target f children).get? id' = some n') : id = id' := by
    obtain ⟨n₀, there, name⟩ := name_of_get?_relink here
    obtain ⟨n₀', there', name'⟩ := name_of_get?_relink here'
    exact names there there' (by rw [name, name', same])
  cases h with
  | register basename scope quals location free =>
    exact names.new free (get?_register r _ basename scope quals location) here here' same
  | share value location =>
    have free : r.lookup? (r.constantNode value location).name = none :=
      lookup?_freeConstantName r _
    exact names.new free (get?_withConstant r value location) here here' same
  | attach b =>
    rw [get?_noteClass] at here here'
    exact relinked here here'
  | extend | setFields => exact relinked here here'
  | note | count | openScope | keep => exact names here here' same

/-- The definition of a node after a step: one that it had before, perhaps extended or with other
fields, or a new one. -/
theorem Step.binding_cases (h : Step p r r') {id : NodeId} {b : Binding}
    (here : r'.bindingOf? id = some b) :
    (p.Fits r' (b.children.members ++ b.steps.members) ∧
        (p.records → OrderedMap.get? b.record Record.classKey = some (.text b.className))) ∨
      ∃ b₀, r.bindingOf? id = some b₀ ∧
        ((∀ c ∈ b.children.members ++ b.steps.members,
            c ∈ b₀.children.members ++ b₀.steps.members ∨ p.Fits r [c]) ∧
          (p.records → b.record = b₀.record ∧ b.className = b₀.className)) := by
  have ext := h.extends
  have kept {b₀ : Binding} (was : r.bindingOf? id = some b₀) (same : b₀ = b) :
      ∃ b₀, r.bindingOf? id = some b₀ ∧
        ((∀ c ∈ b.children.members ++ b.steps.members,
            c ∈ b₀.children.members ++ b₀.steps.members ∨ p.Fits r [c]) ∧
          (p.records → b.record = b₀.record ∧ b.className = b₀.className)) := by
    subst same
    exact ⟨b₀, was, fun c member => .inl member, fun _ => ⟨rfl, rfl⟩⟩
  cases h with
  | register =>
    rw [bindingOf?_register] at here
    exact .inr (kept here rfl)
  | share value location =>
    rw [bindingOf?_withConstant] at here
    split at here
    · cases here
      exact .inl ⟨fun ref member => (nomatch member), fun _ => rfl⟩
    · exact .inr (kept here rfl)
  | @attach target n b' there unbound fresh fits named =>
    rw [bindingOf?_noteClass, bindingOf?_relink] at here
    split at here
    · rename_i same
      rw [same, there] at here
      cases here
      exact .inl ⟨fits.mono ext, named⟩
    · exact .inr (kept here rfl)
  | @extend target role cs open' bound fits =>
    rw [bindingOf?_relink] at here
    split at here
    · rename_i same
      obtain ⟨n, live, mapped⟩ := Option.bind_eq_some_iff.mp here
      obtain ⟨b₀, was, rfl⟩ := Option.map_eq_some_iff.mp mapped
      refine .inr ⟨b₀, by rw [bindingOf?_of_get? live, was], fun c member => ?_, fun _ => ?_⟩
      · refine (mem_members_extendBinding.mp member).imp_right fun new ref one => ?_
        rw [List.mem_singleton] at one
        exact fits ref (one ▸ new)
      · cases role <;> exact ⟨rfl, rfl⟩
    · exact .inr (kept here rfl)
  | setFields target f open' =>
    rw [bindingOf?_relink] at here
    split at here
    · obtain ⟨n, live, mapped⟩ := Option.bind_eq_some_iff.mp here
      obtain ⟨b₀, was, rfl⟩ := Option.map_eq_some_iff.mp mapped
      exact .inr ⟨b₀, by rw [bindingOf?_of_get? live, was], fun c member => .inl member,
        fun hr => absurd hr open'⟩
    · exact .inr (kept here rfl)
  | note | count | openScope | keep => exact .inr (kept here rfl)

/-- A node that is bound has the children of its definition. -/
theorem mem_childIdsOf_attach {id child : NodeId} {n : Node} (here : r.get? id = some n)
    (unbound : n.binding = none) (b : Binding) :
    child ∈ (r.relink id (fun _ => some b) b.childIds).childIdsOf id ↔
      child ∈ r.childIdsOf id ∨ child ∈ b.childIds := by
  rw [childIdsOf_eq, childIdsOf_eq, bindingOf?_relink, if_pos rfl, here, bindingOf?_of_get? here,
    unbound]
  simp

/-- A node whose list is extended has further children. -/
theorem mem_childIdsOf_extend {id child : NodeId} (role : ChildRole) (cs : List Child)
    (bound : r.isBound id) :
    child ∈ (r.relink id (·.map (extendBinding role cs))
        (cs.filterMap Child.nodeId?)).childIdsOf id ↔
      child ∈ r.childIdsOf id ∨ child ∈ cs.filterMap Child.nodeId? := by
  obtain ⟨b, was⟩ := isBound_iff.mp bound
  obtain ⟨n, live, here⟩ := Option.bind_eq_some_iff.mp was
  rw [childIdsOf_eq, childIdsOf_eq, bindingOf?_relink, if_pos rfl, live, was]
  simp only [Option.bind_some, here, Option.map_some, Option.getD_some]
  rw [Binding.mem_childIds, Binding.mem_childIds, Child.mem_nodeIds]
  simp only [mem_members_extendBinding]
  constructor
  · rintro ⟨ref, old | new, same⟩
    · exact .inl ⟨ref, old, same⟩
    · exact .inr ⟨ref, new, same⟩
  · rintro (⟨ref, old, same⟩ | ⟨ref, new, same⟩)
    · exact ⟨ref, .inl old, same⟩
    · exact ⟨ref, .inr new, same⟩

/-- Setting fields moves no child. -/
theorem mem_childIdsOf_setFields {id child : NodeId} (f : Record → Record) :
    child ∈ (r.relink id (·.map fun b => { b with record := f b.record }) []).childIdsOf id ↔
      child ∈ r.childIdsOf id ∨ child ∈ ([] : List NodeId) := by
  rw [childIdsOf_eq, childIdsOf_eq, bindingOf?_relink, if_pos rfl]
  simp only [bindingOf?]
  cases here : r.get? id with
  | none => simp
  | some n => cases bound : n.binding <;> simp [bound, Binding.childIds]

theorem Step.linked (h : Step p r r') (fit : r.ChildrenFit p) (linked : r.Linked)
    (allocated : p.allocated) : r'.Linked := by
  cases h with
  | register basename scope quals location free =>
    exact linked.new fit allocated (get?_register r _ basename scope quals location) rfl rfl
  | share value location =>
    exact linked.new fit allocated (get?_withConstant r value location) rfl rfl
  | @attach target n b there unbound fresh fits named =>
    have relinked := linked.relink fun _ => mem_childIdsOf_attach there unbound b
    exact relinked.noteClass target b.className
  | extend role cs open' bound => exact linked.relink fun _ => mem_childIdsOf_extend role cs bound
  | setFields target f => exact linked.relink fun _ => mem_childIdsOf_setFields f
  | note | count | openScope | keep => exact ⟨linked.nodup, linked.mem_parents⟩

/-- A class is noted for the node that has just been bound only. -/
theorem mem_noteClass {id other : NodeId} {className : String}
    (note : other ∈ (r.noteClass id className).sinks ∨ other ∈ (r.noteClass id className).spigots ∨
      (r.noteClass id className).mux = some other) :
    (other ∈ r.sinks ∨ other ∈ r.spigots ∨ r.mux = some other) ∨ other = id := by
  simp only [noteClass] at note
  split at note
  · simp only [List.mem_append, List.mem_singleton] at note
    tauto
  · split at note
    · simp only [List.mem_append, List.mem_singleton] at note
      tauto
    · split at note
      · simp only [Option.some.injEq] at note
        tauto
      · exact .inl note

theorem Step.noted (h : Step p r r') (inv : Sound p r) {id : NodeId}
    (note : id ∈ r'.sinks ∨ id ∈ r'.spigots ∨ r'.mux = some id) : r'.isBound id := by
  have kept (note : id ∈ r.sinks ∨ id ∈ r.spigots ∨ r.mux = some id) : r'.isBound id :=
    Steps.isBound (.single h) (inv.noted id note)
  cases h with
  | @attach target n b there =>
    rcases mem_noteClass note with old | rfl
    · rw [relink_eq] at old
      exact kept old
    · rw [isBound_eq, bindingOf?_noteClass, bindingOf?_relink, if_pos rfl, there]
      rfl
  | extend | setFields =>
    rw [relink_eq] at note
    exact kept note
  | share value location =>
    rw [withConstant_eq] at note
    exact kept note
  | register | note | count | openScope | keep => exact kept note

theorem Step.constants (h : Step p r r') (inv : Sound p r) (records : p.records) {key : Constant}
    {id : NodeId} (here : OrderedMap.get? r'.constants key = some id) :
    ∃ b, r'.bindingOf? id = some b ∧ b.Holds key := by
  have kept {key : Constant} (there : OrderedMap.get? r.constants key = some id) :
      ∃ b, r'.bindingOf? id = some b ∧ b.Holds key := by
    obtain ⟨b, bound, holds⟩ := inv.constants records there
    obtain ⟨b', bound', grows⟩ := Steps.binding (.single h) bound
    refine ⟨b', bound', ?_⟩
    rw [Binding.Holds, grows.className, grows.record records]
    exact holds
  cases h with
  | @attach target _ b =>
    obtain ⟨_, _, _, _, same⟩ := attached_eq r target b.className b b.childIds
    rw [same] at here
    exact kept here
  | extend | setFields =>
    rw [relink_eq] at here
    exact kept here
  | share value location =>
    change OrderedMap.get? (OrderedMap.insert r.constants value.key ⟨r.nodes.size⟩) key = _ at here
    rw [OrderedMap.get?_insert] at here
    split at here
    · rename_i same
      cases here
      refine ⟨_, by rw [bindingOf?_withConstant, if_pos rfl], ?_⟩
      exact beq_iff_eq.mp same ▸ holds_newBinding r value location
    · exact kept here
  | register | note | count | openScope | keep => exact kept here

theorem Step.fits (h : Step p r r') (fit : r.ChildrenFit p) : r'.ChildrenFit p := by
  intro id b here
  rcases h.binding_cases here with ⟨fits, _⟩ | ⟨b₀, was, more, _⟩
  · exact fits
  · intro ref member
    rcases more _ member with old | new
    · exact (fit was).mono h.extends ref old
    · exact new.mono h.extends ref (List.mem_singleton_self _)

/-- Each kind of step keeps the invariant. -/
theorem Step.sound (h : Step p r r') (inv : Sound p r) : Sound p r' where
  names := h.names inv.names
  fits := h.fits inv.fits
  linked := fun allocated => h.linked inv.fits (inv.linked allocated) allocated
  noted := fun _ note => h.noted inv note
  classes := by
    intro records id b here
    rcases h.binding_cases here with ⟨_, named⟩ | ⟨b₀, was, _, same⟩
    · exact named records
    · obtain ⟨record, className⟩ := same records
      rw [record, className]
      exact inv.classes records was
  constants := h.constants inv

/-! ## 3. All repositories that are reached -/

theorem Steps.sound (h : Steps p r r') (inv : Sound p r) : Sound p r' := by
  induction h with
  | refl => exact inv
  | tail _ step ih => exact step.sound ih

/-- Before a resolve, the invariant holds under every promise that the operations have kept. -/
theorem Reachable.sound {allowed : Repository → Operation → Prop} (h : Reachable allowed r)
    (keeps : ∀ r op, allowed r op → p.Allows r op) (building : r.phase = .building) :
    Sound p r := by
  obtain ⟨id, options, steps⟩ := h.steps keeps building
  exact steps.sound (.start id options)

end Repository

end NodeForest

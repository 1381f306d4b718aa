import NodeForest.Proofs.Change

/-!
# What a repository keeps beside its nodes

The nodes of shared constants, sinks, spigots and the mux are kept beside the nodes they are about,
and what removes a node drops it from the lists only later. In every state that operations and
resolves lead to, all of it agrees with the nodes, and sinks and spigots are listed in the order in
which they were bound.

Results:
1. `Consistent`: how what is kept agrees with the nodes.
2. `Course`: a run with the nodes in the order in which they were bound.
3. `Change.noted`: each change binds at most one node and keeps the invariant.
4. `Reachable.consistent`, `Course.noted`: all states that are reached; `LeadsTo.listed`: what is
   bound later is listed later.
-/

namespace NodeForest

open Relation NodeForest.Action

namespace Repository

/-! ## 1. Consistency -/

/-- The class of the nodes of constants. -/
def constantClass : String := (NodeClass.standard "Constant").fullName

/-- What is kept beside the nodes agrees with them. -/
structure Consistent (r : Repository) : Prop where
  qualified : ∀ id n, r.get? id = some n → n.name = qualifyName n.basename n.quals
  sinks : r.sinks.Nodup ∧ ∀ id, id ∈ r.sinks ↔ r.classOf? id = some sinkClass
  spigots : r.spigots.Nodup ∧ ∀ id, id ∈ r.spigots ↔ r.classOf? id = some spigotClass
  mux : ∀ id, r.mux = some id → r.classOf? id = some muxClass
  /-- The nodes of constants are constants, and each is that of one key. -/
  constants : ∀ entry ∈ r.constants, r.classOf? entry.2 = some constantClass
  shared : ∀ entry ∈ r.constants, ∀ entry' ∈ r.constants, entry.2 = entry'.2 ↔ entry.1 = entry'.1

section

variable {r : Repository}

theorem nodup_keys_nameMap (names : r.DistinctNames) : (OrderedMap.keys r.nameMap).Nodup := by
  have entries : r.entries.Nodup := List.Nodup.of_map _ r.nodup_liveIds
  rw [OrderedMap.keys, nameMap, List.map_map]
  refine (List.nodup_map_iff_inj_on entries).mpr ?_
  rintro ⟨id, n⟩ member ⟨id', n'⟩ member' same
  obtain rfl := names (mem_entries.mp member) (mem_entries.mp member') same
  have := (mem_entries.mp member).symm.trans (mem_entries.mp member')
  cases this
  rfl

theorem pairwise_liveIds (r : Repository) :
    r.liveIds.Pairwise fun id id' => id.index < id'.index := by
  rw [liveIds_eq, List.pairwise_map]
  exact List.pairwise_lt_range.filter _

end

/-! ## 2. The order of binding -/

/-- The nodes that a change binds, which is one at most. -/
structure Binds (r r' : Repository) (ids : List NodeId) : Prop where
  single : ids.length ≤ 1
  mem : ∀ id, id ∈ ids ↔ r'.isBound id ∧ ¬r.isBound id

theorem Binds.unique {r r' : Repository} {ids ids' : List NodeId} (h : Binds r r' ids)
    (h' : Binds r r' ids') : ids = ids' := by
  have same (id : NodeId) : id ∈ ids ↔ id ∈ ids' := (h.mem id).trans (h'.mem id).symm
  match ids, ids', h.single, h'.single with
  | [], [], _, _ => rfl
  | [], id :: _, _, _ => simpa using same id
  | id :: _, [], _, _ => simpa using same id
  | [id], [id'], _, _ => simpa using same id

/-- A run of changes that leads to `r`, with the nodes it binds, in the order in which it does. -/
inductive Course : Repository → List NodeId → Prop
  | start (id : RepositoryId) (options : Options) : Course (start id options) []
  | tail {r r' : Repository} {order ids : List NodeId} :
      Course r order → Change .none r r' → Binds r r' ids → Course r' (order ++ ids)

/-- What is noted about the nodes bound so far, in their order. -/
structure Noted (r : Repository) (order : List NodeId) : Prop where
  nodup : order.Nodup
  given : ∀ id ∈ order, id.index < r.nodes.size
  live : ∀ id ∈ order, r.isLive id → r.isBound id
  all : ∀ id, r.isBound id → id ∈ order
  sinks : r.sinks = order.filter fun id => r.classOf? id = some sinkClass
  spigots : r.spigots = order.filter fun id => r.classOf? id = some spigotClass
  mux : ∀ id, r.mux = some id → r.classOf? id = some muxClass

/-- What is noted about the nodes of constants. -/
structure Cached (r : Repository) : Prop where
  keys : (OrderedMap.keys r.constants).Nodup
  values : (OrderedMap.values r.constants).Nodup
  classes : ∀ entry ∈ r.constants, r.classOf? entry.2 = some constantClass

/-! ## 3. One change -/

variable {p : Promise} {r r' : Repository} {order : List NodeId}

theorem isLive_of_classOf? {id : NodeId} {className : String}
    (here : r.classOf? id = some className) : r.isLive id :=
  isLive_of_isBound (by rw [isBound_eq_classOf?, here]; rfl)

/-- A change that binds no node, and unbinds none but those that it removes. -/
structure BindsNone (r r' : Repository) : Prop where
  size : r.nodes.size ≤ r'.nodes.size
  gone : ∀ id : NodeId, id.index < r.nodes.size → ¬r.isLive id → ¬r'.isLive id
  classes : ∀ id, r'.classOf? id = if r'.isLive id then r.classOf? id else none
  sinks : r'.sinks = r.sinks.filter r'.isLive
  spigots : r'.spigots = r.spigots.filter r'.isLive
  mux : ∀ {id}, r'.mux = some id → r.mux = some id ∧ (r.isLive id → r'.isLive id)

namespace BindsNone

theorem classOf?_iff (h : BindsNone r r') {id : NodeId} {className : String} :
    r'.classOf? id = some className ↔ r'.isLive id ∧ r.classOf? id = some className := by
  rw [h.classes]
  split <;> simp_all

theorem isBound (h : BindsNone r r') {id : NodeId} (bound : r'.isBound id) : r.isBound id := by
  rw [isBound_eq_classOf?, Option.isSome_iff_exists] at bound ⊢
  obtain ⟨className, here⟩ := bound
  exact ⟨className, (h.classOf?_iff.mp here).2⟩

theorem filter (h : BindsNone r r') (order : List NodeId) (role : String) :
    (order.filter fun id => r'.classOf? id = some role) =
      (order.filter fun id => r.classOf? id = some role).filter r'.isLive := by
  rw [List.filter_filter]
  refine List.filter_congr fun id _ => ?_
  simp [h.classOf?_iff]

theorem noted (h : BindsNone r r') (noted : Noted r order) : Noted r' order where
  nodup := noted.nodup
  given := fun id member => Nat.lt_of_lt_of_le (noted.given id member) h.size
  live := by
    intro id member live
    -- A node that has been removed does not come back, so this one was live before.
    have before : r.isLive id := by
      by_contra dead
      exact h.gone id (noted.given id member) dead live
    have bound := noted.live id member before
    rw [isBound_eq_classOf?] at bound ⊢
    rwa [h.classes, if_pos live]
  all := fun id bound => noted.all id (h.isBound bound)
  sinks := by rw [h.sinks, noted.sinks, h.filter]
  spigots := by rw [h.spigots, noted.spigots, h.filter]
  mux := by
    intro id here
    obtain ⟨before, live⟩ := h.mux here
    have mux := noted.mux id before
    exact h.classOf?_iff.mpr ⟨live (isLive_of_classOf? mux), mux⟩

theorem binds (h : BindsNone r r') (noted : Noted r order) :
    ∃ ids, Noted r' (order ++ ids) ∧ Binds r r' ids :=
  ⟨[], by rw [List.append_nil]; exact h.noted noted, by simp, fun id => by simpa using h.isBound⟩

end BindsNone

/-- A change that leaves the classes and the lists alone. -/
theorem Noted.bindsNone (noted : Noted r order) (size : r.nodes.size ≤ r'.nodes.size)
    (gone : ∀ id : NodeId, id.index < r.nodes.size → ¬r.isLive id → ¬r'.isLive id)
    (live : ∀ id, r.isLive id → r'.isLive id) (classes : ∀ id, r'.classOf? id = r.classOf? id)
    (sinks : r'.sinks = r.sinks) (spigots : r'.spigots = r.spigots) (mux : r'.mux = r.mux) :
    BindsNone r r' := by
  have listed {l : List NodeId} {role : String}
      (same : l = order.filter fun id => r.classOf? id = some role) : l.filter r'.isLive = l := by
    refine List.filter_eq_self.mpr fun id member => live id ?_
    rw [same, List.mem_filter, decide_eq_true_iff] at member
    exact isLive_of_classOf? member.2
  refine ⟨size, gone, fun id => ?_, ?_, ?_, fun {id} here => ?_⟩
  · rw [classes]
    split
    · rfl
    · rename_i dead
      cases here : r.classOf? id with
      | none => rfl
      | some className => exact absurd (live id (isLive_of_classOf? here)) dead
  · rw [sinks, listed noted.sinks]
  · rw [spigots, listed noted.spigots]
  · rw [mux] at here
    exact ⟨here, live id⟩

/-- A change that binds one node to a definition of a class. -/
structure BindsOne (r r' : Repository) (id : NodeId) (className : String) : Prop where
  size : r.nodes.size ≤ r'.nodes.size
  inside : id.index < r'.nodes.size
  gone : ∀ id : NodeId, id.index < r.nodes.size → ¬r.isLive id → ¬r'.isLive id
  fresh : r.classOf? id = none
  classes : ∀ other, r'.classOf? other = if other = id then some className else r.classOf? other
  sinks : r'.sinks = if className = sinkClass then r.sinks ++ [id] else r.sinks
  spigots : r'.spigots = if className = spigotClass then r.spigots ++ [id] else r.spigots
  mux : r'.mux = if className = muxClass then some id else r.mux

namespace BindsOne

variable {id : NodeId} {className : String}

theorem self (h : BindsOne r r' id className) : r'.classOf? id = some className := by
  rw [h.classes, if_pos rfl]

theorem unbound (h : BindsOne r r' id className) : ¬r.isBound id := by
  rw [isBound_eq_classOf?, h.fresh]
  simp

theorem isBound_iff (h : BindsOne r r' id className) {other : NodeId} :
    r'.isBound other ↔ r.isBound other ∨ other = id := by
  simp only [isBound_eq_classOf?, h.classes]
  split <;> simp_all

/-- The node was not bound before, nor removed. -/
theorem unlisted (h : BindsOne r r' id className) (noted : Noted r order) : id ∉ order := by
  intro member
  have dead : ¬r.isLive id := fun live => h.unbound (noted.live id member live)
  exact h.gone id (noted.given id member) dead (isLive_of_classOf? h.self)

theorem filter (h : BindsOne r r' id className) (noted : Noted r order) (role : String) :
    ((order ++ [id]).filter fun id => r'.classOf? id = some role) =
      (order.filter fun id => r.classOf? id = some role) ++
        if className = role then [id] else [] := by
  have old : (order.filter fun id => r'.classOf? id = some role) =
      order.filter fun id => r.classOf? id = some role :=
    List.filter_congr fun o member => by
      have other : o ≠ id := fun same => h.unlisted noted (same ▸ member)
      rw [h.classes, if_neg other]
  rw [List.filter_append, old]
  by_cases same : className = role <;> simp [h.self, same]

theorem noted (h : BindsOne r r' id className) (noted : Noted r order) :
    Noted r' (order ++ [id]) where
  nodup := by
    rw [← List.concat_eq_append]
    exact noted.nodup.concat (h.unlisted noted)
  given := by
    intro o member
    rcases List.mem_append.mp member with old | new
    · exact Nat.lt_of_lt_of_le (noted.given o old) h.size
    · rw [List.mem_singleton.mp new]
      exact h.inside
  live := by
    intro o member live
    rw [h.isBound_iff]
    rcases List.mem_append.mp member with old | new
    · refine .inl (noted.live o old ?_)
      by_contra dead
      exact h.gone o (noted.given o old) dead live
    · exact .inr (List.mem_singleton.mp new)
  all := by
    intro o bound
    rw [List.mem_append, List.mem_singleton]
    exact (h.isBound_iff.mp bound).imp_left (noted.all o)
  sinks := by
    rw [h.sinks, h.filter noted, noted.sinks]
    split <;> simp
  spigots := by
    rw [h.spigots, h.filter noted, noted.spigots]
    split <;> simp
  mux := by
    intro o here
    rw [h.mux] at here
    split at here
    · rename_i role
      cases here
      rw [h.self, role]
    · have before := noted.mux o here
      rw [h.classes, before]
      split
      · rename_i same
        rw [same, h.fresh] at before
        cases before
      · rfl

theorem binds (h : BindsOne r r' id className) (noted : Noted r order) :
    ∃ ids, Noted r' (order ++ ids) ∧ Binds r r' ids := by
  refine ⟨[id], h.noted noted, by simp, fun o => ?_⟩
  rw [List.mem_singleton, h.isBound_iff]
  constructor
  · rintro rfl
    exact ⟨.inr rfl, h.unbound⟩
  · rintro ⟨old | same, new⟩
    · exact absurd old new
    · exact same

end BindsOne

theorem classOf?_relink_map {id : NodeId} {f : Binding → Binding} (children : List NodeId)
    (keeps : ∀ b, (f b).className = b.className) (other : NodeId) :
    (r.relink id (·.map f) children).classOf? other = r.classOf? other := by
  rw [classOf?, bindingOf?_relink, classOf?]
  split
  · rw [bindingOf?]
    cases r.get? other with
    | none => rfl
    | some n => cases binding : n.binding <;> simp [binding, keeps]
  · rfl

theorem classOf?_withConstant (value : Constant) (location : Location) (id : NodeId) :
    (r.withConstant value location).classOf? id =
      if id = ⟨r.nodes.size⟩ then some constantClass else r.classOf? id := by
  rw [classOf?, bindingOf?_withConstant, classOf?]
  obtain ⟨i⟩ := id
  by_cases new : i = r.nodes.size
  · simp [new, newBinding, constantDefinition, constantClass, Definition.ofConstant,
      Definition.ofParts]
  · simp [new]

theorem classOf?_place (r : Repository) (id : NodeId) : r.place.classOf? id = r.classOf? id := by
  rw [classOf?, bindingOf?, get?_place, classOf?, bindingOf?]
  cases r.get? id with
  | none => rfl
  | some n => cases binding : n.binding <;> simp [placeNode, binding]

/-- The classes of the nodes that removals leave are the same. -/
theorem Thinned.classOf? (h : Thinned r r') (id : NodeId) :
    r'.classOf? id = if r'.isLive id then r.classOf? id else none := by
  rw [Repository.classOf?, bindingOf?]
  cases here : r'.get? id with
  | none => simp [Repository.isLive, here]
  | some n' =>
    obtain ⟨n, there, same⟩ := h.node here
    rw [if_pos (isLive_iff.mpr ⟨n', here⟩), Repository.classOf?, bindingOf?_of_get? there, same]
    rfl

theorem noteClass_rest (r : Repository) (id : NodeId) (className : String) :
    (r.noteClass id className).sinks =
      (if className = sinkClass then r.sinks ++ [id] else r.sinks) ∧
    (r.noteClass id className).spigots =
      (if className = spigotClass then r.spigots ++ [id] else r.spigots) ∧
    (r.noteClass id className).mux = if className = muxClass then some id else r.mux := by
  have apart : sinkClass ≠ spigotClass ∧ sinkClass ≠ muxClass ∧ spigotClass ≠ muxClass := by decide
  rw [noteClass]
  split
  · rename_i sink
    subst sink
    simp [apart]
  · split
    · rename_i spigot
      subst spigot
      simp [apart]
    · split <;> simp_all

theorem Change.notLive (h : Change p r r') {id : NodeId} (given : id.index < r.nodes.size)
    (dead : ¬r.isLive id) : ¬r'.isLive id := by
  have gone : r.get? id = none := by simpa [isLive] using dead
  simp [isLive, h.gone given gone]

theorem Changes.notLive (h : Changes p r r') {id : NodeId} (given : id.index < r.nodes.size)
    (dead : ¬r.isLive id) : ¬r'.isLive id := by
  have gone : r.get? id = none := by simpa [isLive] using dead
  simp [isLive, (Changes.gone h given gone).2]

theorem classOf?_attached {id : NodeId} {n : Node} (here : r.get? id = some n) (b : Binding)
    (children : List NodeId) (other : NodeId) :
    ((r.relink id (fun _ => some b) children).noteClass id b.className).classOf? other =
      if other = id then some b.className else r.classOf? other := by
  rw [classOf?, bindingOf?_noteClass, bindingOf?_relink, classOf?]
  split
  · rename_i same
    rw [same, here]
    rfl
  · rfl

/-- A step binds the node that it attaches a definition to, or that it makes for a constant. -/
theorem Step.binds (h : Step p r r') (noted : Noted r order) :
    ∃ ids, Noted r' (order ++ ids) ∧ Binds r r' ids := by
  have size := h.extends.size
  have gone (id : NodeId) (given : id.index < r.nodes.size) (dead : ¬r.isLive id) : ¬r'.isLive id :=
    Change.notLive (.step h) given dead
  have live (id : NodeId) (here : r.isLive id) : r'.isLive id := Steps.isLive (.single h) here
  cases h with
  | register =>
    refine (noted.bindsNone size gone live (fun id => ?_) rfl rfl rfl).binds noted
    rw [classOf?, bindingOf?_register, classOf?]
  | @attach id n b here unbound =>
    obtain ⟨sinks, spigots, mux⟩ :=
      noteClass_rest (r.relink id (fun _ => some b) b.childIds) id b.className
    have fresh : r.classOf? id = none := by
      rw [classOf?, bindingOf?_of_get? here, unbound]
      rfl
    exact BindsOne.binds ⟨size, Nat.lt_of_lt_of_le (index_lt_of_get? here) size, gone, fresh,
      classOf?_attached here b b.childIds, by rw [sinks, relink_eq], by rw [spigots, relink_eq],
      by rw [mux, relink_eq]⟩ noted
  | share value location =>
    have inside : r.nodes.size < (r.withConstant value location).nodes.size := by
      rw [nodes_size_withConstant]
      exact Nat.lt_succ_self _
    have fresh : r.classOf? ⟨r.nodes.size⟩ = none := by
      have new : r.get? ⟨r.nodes.size⟩ = .none := get?_eq_none (Nat.le_refl _)
      rw [classOf?, bindingOf?, new]
      rfl
    refine BindsOne.binds ⟨size, inside, gone, fresh, classOf?_withConstant value location,
      ?_, ?_, ?_⟩ noted
    all_goals
      rw [withConstant_eq]
      rfl
  | extend role cs =>
    refine (noted.bindsNone size gone live (classOf?_relink_map _ fun b => ?_) ?_ ?_ ?_).binds noted
    · cases role <;> rfl
    all_goals rw [relink_eq]
  | setFields id f =>
    refine (noted.bindsNone size gone live ?_ ?_ ?_ ?_).binds noted
    · exact classOf?_relink_map _ fun b => rfl
    all_goals rw [relink_eq]
  | note | count | openScope | keep =>
    exact (noted.bindsNone size gone live (fun _ => rfl) rfl rfl rfl).binds noted

/-- A change binds at most one node, which is the last then. -/
theorem Change.noted (h : Change p r r') (noted : Noted r order) :
    ∃ ids, Noted r' (order ++ ids) ∧ Binds r r' ids := by
  have size := h.size
  have gone (id : NodeId) (given : id.index < r.nodes.size) (dead : ¬r.isLive id) : ¬r'.isLive id :=
    h.notLive given dead
  cases h with
  | step h => exact h.binds noted
  | settle =>
    have thinned := thinned_settle r
    obtain ⟨sinks, spigots, _⟩ := lists_settle r
    exact BindsNone.binds ⟨size, gone, thinned.classOf?, sinks, spigots,
      fun here => thinned.mux here⟩ noted
  | place =>
    have live (id : NodeId) (live : r.isLive id) : r.place.isLive id := by rwa [isLive_place]
    refine (noted.bindsNone size gone live (classOf?_place r) ?_ ?_ ?_).binds noted
    all_goals rw [place_eq]
  | turn =>
    exact (noted.bindsNone size gone (fun _ live => live) (fun _ => rfl) rfl rfl rfl).binds noted

theorem Steps.classOf? (h : Steps p r r') {id : NodeId} {className : String}
    (here : r.classOf? id = some className) : r'.classOf? id = some className := by
  obtain ⟨b, bound, rfl⟩ := Option.map_eq_some_iff.mp here
  obtain ⟨b', bound', grows⟩ := h.binding bound
  rw [Repository.classOf?, bound', Option.map_some, grows.className]

theorem Cached.same (cached : Cached r) (constants : r'.constants = r.constants)
    (classes : ∀ {id className}, r.classOf? id = some className → r'.classOf? id = some className) :
    Cached r' where
  keys := by rw [constants]; exact cached.keys
  values := by rw [constants]; exact cached.values
  classes := fun entry member => classes (cached.classes entry (constants ▸ member))

/-- The node of a constant that is shared from now on is a new one. -/
theorem Cached.share (cached : Cached r) (value : Constant) (location : Location)
    (unknown : (OrderedMap.get? r.constants value.key).filter r.isLive = none) :
    Cached (r.withConstant value location) := by
  have older : ∀ entry ∈ r.constants, entry.2.index < r.nodes.size := fun entry member =>
    lt_of_isLive (isLive_of_classOf? (cached.classes entry member))
  have fresh : value.key ∉ OrderedMap.keys r.constants := by
    intro old
    obtain ⟨⟨key, id⟩, member, rfl⟩ := List.mem_map.mp old
    rw [OrderedMap.get?_of_mem cached.keys member, Option.filter_eq_none_iff] at unknown
    exact unknown id rfl (isLive_of_classOf? (cached.classes _ member))
  have constants : (r.withConstant value location).constants =
      r.constants ++ [(value.key, ⟨r.nodes.size⟩)] :=
    OrderedMap.insert_of_fresh fresh
  refine ⟨?_, ?_, fun entry member => ?_⟩
  · rw [constants, OrderedMap.keys, List.map_append, List.nodup_append]
    refine ⟨cached.keys, by simp, fun key old key' new same => fresh ?_⟩
    obtain rfl : key' = value.key := List.mem_singleton.mp new
    exact same ▸ old
  · rw [constants, OrderedMap.values, List.map_append, List.nodup_append]
    refine ⟨cached.values, by simp, fun id old id' new same => ?_⟩
    obtain ⟨entry, member, rfl⟩ := List.mem_map.mp old
    rw [List.map_singleton, List.mem_singleton] at new
    have := older entry member
    rw [same, new] at this
    exact absurd this (Nat.lt_irrefl _)
  · rw [classOf?_withConstant]
    rw [constants] at member
    rcases List.mem_append.mp member with old | new
    · have := older entry old
      rw [if_neg fun same => Nat.lt_irrefl r.nodes.size (by rwa [same] at this)]
      exact cached.classes entry old
    · rw [List.mem_singleton.mp new, if_pos rfl]

theorem Change.cached (h : Change p r r') (cached : Cached r) : Cached r' := by
  cases h with
  | step step =>
    have classes {id : NodeId} {className : String} (here : r.classOf? id = some className) :
        r'.classOf? id = some className := Steps.classOf? (.single step) here
    cases step with
    | share value location unknown => exact cached.share value location unknown
    | @attach id _ b =>
      refine cached.same ?_ classes
      obtain ⟨_, _, _, _, same⟩ := attached_eq r id b.className b b.childIds
      rw [same]
    | extend | setFields => exact cached.same (by rw [relink_eq]) classes
    | register | note | count | openScope | keep => exact cached.same rfl classes
  | settle =>
    obtain ⟨_, _, constants⟩ := lists_settle r
    refine ⟨?_, ?_, fun entry member => ?_⟩
    · rw [constants]
      exact cached.keys.sublist (List.filter_sublist.map _)
    · rw [constants]
      exact cached.values.sublist (List.filter_sublist.map _)
    · rw [constants, List.mem_filter] at member
      rw [(thinned_settle r).classOf?, if_pos member.2]
      exact cached.classes entry member.1
  | place =>
    exact cached.same (by rw [place_eq]) fun {id _} here => by rw [classOf?_place]; exact here
  | turn => exact cached.same rfl fun here => here

theorem Changes.cached (h : Changes p r r') (cached : Cached r) : Cached r' := by
  induction h with
  | refl => exact cached
  | tail _ last ih => exact last.cached ih

/-- Every node is named after its basename and qualifiers. -/
def Qualified (r : Repository) : Prop :=
  ∀ id n, r.get? id = some n → n.name = qualifyName n.basename n.quals

/-- A node that a step brings has the name that its basename and qualifiers give. -/
theorem Step.qualified (h : Step p r r') (qualified : r.Qualified) : r'.Qualified := by
  intro id n' here
  cases there : r.get? id with
  | some n =>
    obtain ⟨n₁, here₁, grows⟩ := h.grows there
    rw [here] at here₁
    cases here₁
    rw [grows.name, grows.basename, grows.quals, qualified id n there]
  | none =>
    have relinked {target : NodeId} {f : Option Binding → Option Binding} {children : List NodeId}
        (here : (r.relink target f children).get? id = some n') : False := by
      rw [get?_relink, there] at here
      cases here
    cases h with
    | register =>
      rw [get?_register, there] at here
      split at here <;> cases here
      rfl
    | share value location =>
      rw [get?_withConstant, there] at here
      split at here <;> cases here
      rfl
    | attach =>
      rw [get?_noteClass] at here
      exact (relinked here).elim
    | extend | setFields => exact (relinked here).elim
    | note | count | openScope | keep =>
      change r.get? id = _ at here
      rw [there] at here
      cases here

theorem Change.qualified (h : Change p r r') (qualified : r.Qualified) : r'.Qualified := by
  rcases h.cases with step | reduced
  · exact step.qualified qualified
  · intro id n' here
    obtain ⟨n, there, resembles⟩ := reduced.node here
    rw [resembles.name, resembles.basename, resembles.quals, qualified id n there]

/-- A node that is still live has the class that it was bound to. -/
theorem Change.classOf? (h : Change p r r') {id : NodeId} {className : String}
    (here : r.classOf? id = some className) (live : r'.isLive id) :
    r'.classOf? id = some className := by
  cases h with
  | step step => exact Steps.classOf? (.single step) here
  | settle => rwa [(thinned_settle r).classOf?, if_pos live]
  | place => rwa [classOf?_place]
  | turn => exact here

theorem Changes.classOf? (h : Changes p r r') {id : NodeId} {className : String}
    (here : r.classOf? id = some className) (live : r'.isLive id) :
    r'.classOf? id = some className := by
  have given := lt_of_isLive (isLive_of_classOf? here)
  induction h with
  | refl => exact here
  | @tail r₁ _ before last ih =>
    have between : r₁.isLive id := by
      by_contra dead
      exact last.notLive (Nat.lt_of_lt_of_le given (Changes.size before)) dead live
    exact last.classOf? (ih between) live

/-! ## 4. Runs -/

/-- What every run keeps, with the nodes in the order in which they were bound. -/
structure Orderly (r : Repository) (order : List NodeId) : Prop where
  qualified : r.Qualified
  cached : Cached r
  noted : Noted r order

theorem orderly_start (id : RepositoryId) (options : Options) : Orderly (start id options) [] where
  qualified := fun _ _ here => by cases here
  cached := ⟨List.nodup_nil, List.nodup_nil, fun _ member => by cases member⟩
  noted := {
    nodup := List.nodup_nil
    given := fun _ member => by cases member
    live := fun _ member => by cases member
    all := fun _ bound => by cases bound
    sinks := rfl
    spigots := rfl
    mux := fun _ here => by cases here }

theorem Orderly.tail {ids : List NodeId} (orderly : Orderly r order) (change : Change p r r')
    (binds : Binds r r' ids) : Orderly r' (order ++ ids) where
  qualified := change.qualified orderly.qualified
  cached := change.cached orderly.cached
  noted := by
    obtain ⟨ids', noted, binds'⟩ := change.noted orderly.noted
    rwa [binds.unique binds']

theorem Course.orderly (h : Course r order) : Orderly r order := by
  induction h with
  | start id options => exact orderly_start id options
  | tail _ change binds ih => exact ih.tail change binds

/-- What is bound later comes after what was bound before. -/
theorem Course.changes (h : Course r order) (changes : Changes .none r r') :
    ∃ more, Course r' (order ++ more) := by
  induction changes with
  | refl => exact ⟨[], by rwa [List.append_nil]⟩
  | tail _ last ih =>
    obtain ⟨more, course⟩ := ih
    obtain ⟨ids, _, binds⟩ := last.noted course.orderly.noted
    exact ⟨more ++ ids, by rw [← List.append_assoc]; exact course.tail last binds⟩

/-- Every run has a course. -/
theorem exists_course {id : RepositoryId} {options : Options}
    (h : Changes .none (start id options) r) : ∃ order, Course r order :=
  (Course.start id options).changes h

/-- What is listed of the nodes bound so far are the live ones of a class, once each. -/
theorem Noted.listed (noted : Noted r order) {l : List NodeId} {role : String}
    (same : l = order.filter fun id => r.classOf? id = some role) :
    l.Nodup ∧ ∀ id, id ∈ l ↔ r.classOf? id = some role := by
  subst same
  refine ⟨noted.nodup.filter _, fun id => ?_⟩
  rw [List.mem_filter, decide_eq_true_iff]
  refine ⟨And.right, fun here => ⟨noted.all id ?_, here⟩⟩
  rw [isBound_eq_classOf?, here]
  rfl

theorem Orderly.consistent (h : Orderly r order) : r.Consistent where
  qualified := h.qualified
  sinks := h.noted.listed h.noted.sinks
  spigots := h.noted.listed h.noted.spigots
  mux := h.noted.mux
  constants := h.cached.classes
  shared := by
    intro entry member entry' member'
    constructor
    · exact fun same => congrArg Prod.fst
        (List.inj_on_of_nodup_map h.cached.values member member' same)
    · exact fun same => congrArg Prod.snd
        (List.inj_on_of_nodup_map h.cached.keys member member' same)

section

variable {allowed : Repository → Operation → Prop}

theorem Reachable.course (h : Reachable allowed r) : ∃ order, Course r order := by
  obtain ⟨_, _, changes⟩ := h.changes fun r op _ => Promise.allows_none r op
  exact exists_course changes

theorem Reachable.consistent (h : Reachable allowed r) : r.Consistent := by
  obtain ⟨order, course⟩ := h.course
  exact course.orderly.consistent

/-- Of the nodes bound before, those that are left are listed as before; the others follow them. -/
theorem Noted.listed_later {more : List NodeId} (noted : Noted r order)
    (noted' : Noted r' (order ++ more)) (changes : Changes p r r') {l l' : List NodeId}
    {role : String} (same : l = order.filter fun id => r.classOf? id = some role)
    (same' : l' = (order ++ more).filter fun id => r'.classOf? id = some role) :
    l' = l.filter r'.isLive ++ l'.filter (!r.isBound ·) := by
  have old : (order.filter fun id => r'.classOf? id = some role) = l.filter r'.isLive := by
    rw [same, List.filter_filter]
    refine List.filter_congr fun id member => ?_
    rw [← Bool.decide_coe (r'.isLive id), ← Bool.decide_and, decide_eq_decide]
    constructor
    · intro here
      have live := isLive_of_classOf? here
      have before : r.isLive id := by
        by_contra dead
        exact changes.notLive (noted.given id member) dead live
      have bound := noted.live id member before
      rw [isBound_eq_classOf?, Option.isSome_iff_exists] at bound
      obtain ⟨className, was⟩ := bound
      rw [was, ← here, changes.classOf? was live]
      exact ⟨live, rfl⟩
    · rintro ⟨live, was⟩
      exact changes.classOf? was live
  have known : (l.filter r'.isLive).filter (!r.isBound ·) = [] := by
    refine List.filter_eq_nil_iff.mpr fun id member => ?_
    have here := ((noted.listed same).2 id).mp (List.mem_filter.mp member).1
    rw [isBound_eq_classOf?, here]
    exact Bool.false_ne_true
  have unknown : (more.filter fun id => r'.classOf? id = some role).filter (!r.isBound ·) =
      more.filter fun id => r'.classOf? id = some role := by
    refine List.filter_eq_self.mpr fun id member => ?_
    rw [Bool.not_eq_true']
    refine Bool.eq_false_of_not_eq_true fun bound => ?_
    exact (List.nodup_append.mp noted'.nodup).2.2 id (noted.all id bound) id
      (List.mem_filter.mp member).1 rfl
  have parts : l' = l.filter r'.isLive ++ more.filter fun id => r'.classOf? id = some role := by
    rw [same', List.filter_append, old]
  rw [parts, List.filter_append, known, unknown, List.nil_append]

/-- Sinks and spigots that are bound later are listed later. -/
theorem LeadsTo.listed (reached : Reachable allowed r) (led : LeadsTo allowed r r') :
    r'.sinks = r.sinks.filter r'.isLive ++ r'.sinks.filter (!r.isBound ·) ∧
      r'.spigots = r.spigots.filter r'.isLive ++ r'.spigots.filter (!r.isBound ·) := by
  have changes : Changes .none r r' := led.changes fun r op _ => Promise.allows_none r op
  obtain ⟨order, course⟩ := reached.course
  obtain ⟨more, course'⟩ := course.changes changes
  have noted := course.orderly.noted
  have noted' := course'.orderly.noted
  exact ⟨noted.listed_later noted' changes noted.sinks noted'.sinks,
    noted.listed_later noted' changes noted.spigots noted'.spigots⟩

end

/-- A run that binds a sink to a constant, and a spigot. -/
def connected : Repository :=
  let sink : Definition :=
    .ofParts (.standard "Sink") (.positional [.constant (.real (.zero false))]) .nil []
  Operation.after (.bindAnonymous .root (.pending (.bare (.standard "Spigot"))) default)
    (Operation.after (.bind ⟨0⟩ (.ok (.pending sink)) default)
      (Operation.after (.node .root "out" default) (start ⟨0⟩ {})))

theorem reachable_connected : Reachable (fun _ _ => True) connected :=
  ⟨⟨0⟩, {}, .operation _ (.operation _ (.operation _ (.refl _) trivial) trivial) trivial⟩

end Repository

end NodeForest

import NodeForest.Proofs.Delivery

/-!
# Adoption by the mux

When there are sinks or spigots, the hook for the data mux changes one node and the parents of those
it gives to it. It takes the mux that is noted. Before a resolve, one that is not noted is not bound
either, so that the node with its name is bound then, or made. What it has adopted has a mux for a
parent, so the hook adopts it once.

Results:
1. `Steps.notesMux`: a mux that is bound is noted.
2. `Obtained`, `obtained_obtainMux`: the mux and its definition; nothing else is done to obtain it.
3. `Adopts`, `MuxRun.adopts`: what the hook does to every node.
4. `exec_mux_settled`, `MuxRun.settled`: it does nothing to what has been adopted.
5. `mux_adopts_once`: all of it; `not_mux_adopts_disguisedMux`: a node that is taken for a mux.
-/

namespace NodeForest

open Relation NodeForest.Action

/-- A definition of a mux with three named places and nothing in them. -/
structure Binding.IsNewMux (b : Binding) : Prop where
  className : b.className = Repository.muxClass
  children : b.children.entries =
    [⟨.key "pre", .empty⟩, ⟨.key "post", .empty⟩, ⟨.key "start", .empty⟩]
  steps : b.steps.entries = []

/-- The definition with further children and step-children, whose labels count on. -/
def Binding.adopting (b : Binding) (children steps : List Child) : Binding :=
  { b with
    children := { b.children with
      entries := b.children.entries ++ Entry.numbered b.children.entries.length children }
    steps := { b.steps with
      entries := b.steps.entries ++ Entry.numbered b.steps.entries.length steps } }

namespace Repository

variable {p : Promise} {r r' r₁ r₂ : Repository} {location : Location} {mux : NodeId}

/-! ## 1. The mux that is noted -/

/-- Unless a mux is noted, none is bound. -/
def NotesMux (r : Repository) : Prop :=
  r.mux = none → ∀ id, r.classOf? id ≠ some muxClass

theorem NotesMux.same (notes : r.NotesMux) (mux : r'.mux = r.mux)
    (classes : ∀ id, r'.classOf? id = r.classOf? id) : r'.NotesMux := by
  intro unknown id
  rw [classes]
  exact notes (mux ▸ unknown) id

theorem Step.notesMux (h : Step p r r') (notes : r.NotesMux) : r'.NotesMux := by
  cases h with
  | register =>
    exact notes.same rfl fun id => by rw [classOf?, bindingOf?_register, classOf?]
  | @attach id n b here =>
    intro unknown other
    obtain ⟨_, _, mux⟩ := noteClass_rest (r.relink id (fun _ => some b) b.childIds) id b.className
    rw [mux] at unknown
    split at unknown
    · cases unknown
    · rename_i different
      rw [classOf?_attached here]
      split
      · exact fun same => different (Option.some.inj same)
      · refine notes ?_ other
        rwa [relink_eq] at unknown
  | extend role cs =>
    refine notes.same (by rw [relink_eq]) (classOf?_relink_map _ fun b => ?_)
    cases role <;> rfl
  | setFields id f =>
    exact notes.same (by rw [relink_eq]) (classOf?_relink_map _ fun b => rfl)
  | share value location =>
    intro unknown other
    rw [classOf?_withConstant]
    rw [withConstant_eq] at unknown
    split
    · decide
    · exact notes unknown other
  | note | count | openScope | keep => exact notes.same rfl fun _ => rfl

theorem Steps.notesMux (h : Steps p r r') (notes : r.NotesMux) : r'.NotesMux := by
  induction h with
  | refl => exact notes
  | tail _ last ih => exact last.notesMux ih

theorem notesMux_start (id : RepositoryId) (options : Options) : (start id options).NotesMux := by
  intro _ other here
  cases here

/-! ## 2. The mux that is obtained -/

/-- A new node for the mux. -/
def newMuxNode (r : Repository) (location : Location) : Node :=
  { name := muxName, basename := muxName, scope := .root, quals := .empty, definedAt := location,
    trail := r.frames }

theorem isNewMux_newBinding (r : Repository) (location : Location) :
    (r.newBinding resolvedMux location).IsNewMux :=
  ⟨rfl, rfl, rfl⟩

/-- The node `m` is the mux with the definition `b`, or it is the node with the name of the mux, or
a new one, and the definition `b` of a new mux is attached to it. -/
def MuxBefore (location : Location) (r : Repository) (mux : NodeId) (m : Node) (b : Binding) :
    Prop :=
  (r.mux = some mux ∧ r.get? mux = some m ∧ m.binding = some b) ∨
    (r.mux = none ∧ m.name = muxName ∧ m.binding = none ∧ b.IsNewMux ∧
      (r.get? mux = some m ∨ mux = ⟨r.nodes.size⟩ ∧ m = r.newMuxNode location))

/-- What obtaining the mux does: the node `m` has the definition `b` then, and is noted as the
mux. -/
structure Obtained (location : Location) (r r' : Repository) (mux : NodeId) (m : Node)
    (b : Binding) : Prop where
  before : MuxBefore location r mux m b
  here : r'.get? mux = some { m with binding := some b }
  others : ∀ other, other ≠ mux → r'.get? other = r.get? other
  rest : r' = { r with nodes := r'.nodes, mux := some mux }

theorem obtained_known {m : Node} {b : Binding} (known : r.mux = some mux)
    (here : r.get? mux = some m) (bound : m.binding = some b) :
    Obtained location r r mux m b where
  before := .inl ⟨known, here, bound⟩
  here := by rw [here, ← bound]
  others := fun _ _ => rfl
  rest := by rw [← known]

theorem noteClass_muxClass (r : Repository) (id : NodeId) :
    r.noteClass id muxClass = { r with mux := some id } := by
  rw [noteClass, if_neg (by decide), if_neg (by decide), if_pos rfl]

/-- Attaching a new mux to a node without a definition. -/
theorem attached_mux {m : Node} (here : r.get? mux = some m) (unbound : m.binding = none)
    (ran : (attach mux resolvedMux location).exec r = (.ok (), r')) :
    r'.get? mux = some { m with binding := some (r.newBinding resolvedMux location) } ∧
      (∀ other, other ≠ mux → r'.get? other = r.get? other) ∧
        r' = { r with nodes := r'.nodes, mux := some mux } := by
  rw [exec_attach_unbound resolvedMux location here unbound] at ran
  cases ran
  have same : resolvedMux.nodeClass.fullName = muxClass := rfl
  have childless : (r.newBinding resolvedMux location).childIds = [] := rfl
  rw [same, childless, noteClass_muxClass]
  refine ⟨?_, fun other different => ?_, ?_⟩
  · show (r.relink mux (fun _ => some (r.newBinding resolvedMux location)) []).get? mux = _
    rw [get?_relink, here]
    simp
  · show (r.relink mux (fun _ => some (r.newBinding resolvedMux location)) []).get? other = _
    rw [get?_relink]
    simp [different]
  · rw [relink_eq]

/-- Unless it records a diagnostic, the hook obtains the mux that is noted, or else it binds one. -/
theorem obtained_obtainMux (consistent : r.Consistent) (root : r.RootUnnamed) (notes : r.NotesMux)
    (honest : r.mux = none → r.MuxHonest)
    (ran : (obtainMux location).exec r = (.ok mux, r')) (quiet : r'.errors = r.errors) :
    ∃ m b, Obtained location r r' mux m b := by
  cases known : r.mux with
  | some noted =>
    rw [exec_obtainMux_known location known] at ran
    cases ran
    obtain ⟨b, here, _⟩ := Option.map_eq_some_iff.mp (consistent.mux mux known)
    obtain ⟨m, live, bound⟩ := Option.bind_eq_some_iff.mp here
    exact ⟨m, b, obtained_known known live bound⟩
  | none =>
    obtain ⟨rfl, attached⟩ := exec_attach_of_obtainMux known ran quiet
    rcases nodeInScope_root root muxName location with ⟨id, created, named⟩ | created <;>
      rw [created] at attached ⊢
    · obtain ⟨m, here, name⟩ := Option.map_eq_some_iff.mp named
      cases bound : m.binding with
      | none =>
        obtain ⟨after, others, rest⟩ := attached_mux here bound attached
        exact ⟨m, _, .inr ⟨known, name, bound, isNewMux_newBinding r location, .inl here⟩, after,
          others, rest⟩
      | some b =>
        -- The node would be a mux that is not noted.
        rw [exec_attach_bound resolvedMux location here bound] at attached
        split at attached <;> cases attached
        rename_i same
        have there : r.bindingOf? id = some b := by rw [bindingOf?_of_get? here, bound]
        have className := className_of_sameBinding (honest known named there) same
        exact absurd (by rw [classOf?, there, Option.map_some, className]) (notes known id)
    · have new : (r.register muxName muxName .root .empty location).get? ⟨r.nodes.size⟩ =
          some (r.newMuxNode location) := by
        rw [get?_register, if_pos rfl]
        rfl
      obtain ⟨after, others, rest⟩ := attached_mux new rfl attached
      refine ⟨_, _, .inr ⟨known, rfl, rfl, isNewMux_newBinding _ location, .inr ⟨rfl, rfl⟩⟩, after,
        fun other different => ?_, rest⟩
      rw [others other different, get?_register, if_neg fun same => different (by
        cases other
        cases same
        rfl)]

/-! ## 3. The nodes that are adopted -/

instance (r : Repository) (id : NodeId) : Decidable (r.BelowMux id) :=
  inferInstanceAs (Decidable (∃ parent ∈ r.parentsOf id, r.classOf? parent = some muxClass))

/-- The nodes of a list that have no mux for a parent. -/
def unadopted (r : Repository) (ids : List NodeId) : List NodeId :=
  ids.filter fun id => ¬r.BelowMux id

theorem mem_unadopted {ids : List NodeId} {id : NodeId} :
    id ∈ r.unadopted ids ↔ id ∈ ids ∧ ¬r.BelowMux id := by
  rw [unadopted, List.mem_filter, decide_eq_true_iff]

theorem hasMuxParent_iff {id : NodeId} {n : Node} (here : r.get? id = some n) :
    r.hasMuxParent n ↔ r.BelowMux id := by
  rw [hasMuxParent, List.any_eq_true, BelowMux, parentsOf_of_get? here]
  simp [classOf?, bindingOf?, Node.className?, Option.map_bind]

/-- The children that the hook takes from a list of live nodes. -/
theorem withoutMux_eq {ids : List NodeId} (live : ∀ id ∈ ids, r.isLive id) :
    r.withoutMux ids = (r.unadopted ids).map r.child := by
  unfold withoutMux unadopted
  refine congrArg _ (List.filter_congr fun id member => ?_)
  obtain ⟨n, here⟩ := isLive_iff.mp (live id member)
  rw [here, Option.any_some, Bool.eq_iff_iff, Bool.not_eq_true', decide_eq_true_iff,
    ← hasMuxParent_iff here, Bool.not_eq_true]

theorem filterMap_child (r : Repository) (ids : List NodeId) :
    (ids.map r.child).filterMap Child.nodeId? = ids := by
  rw [List.filterMap_map]
  exact List.filterMap_some

/-- What the hook does: the mux takes some nodes as children and others as step-children, and is
pinned. -/
structure Adopts (location : Location) (r r' : Repository) (mux : NodeId)
    (sinks spigots : List NodeId) : Prop where
  extended : ∃ m b, MuxBefore location r mux m b ∧ r'.get? mux =
    some { m with binding := some (b.adopting (sinks.map r.child) (spigots.map r.child)) }
  others : ∀ other, other ≠ mux → r'.get? other = (r.get? other).map fun n =>
    if other ∈ sinks ++ spigots then { n with parents := n.parents ++ [mux] } else n
  rest : r' = { r with
    nodes := r'.nodes
    mux := some mux
    pinned := if mux ∈ r.pinned then r.pinned else r.pinned ++ [mux] }

theorem Adopts.kept {sinks spigots : List NodeId}
    (adopts : Adopts location r r' mux sinks spigots) : mux ∈ r'.pinned := by
  rw [adopts.rest]
  show mux ∈ if mux ∈ r.pinned then r.pinned else r.pinned ++ [mux]
  split
  · assumption
  · exact List.mem_append_right _ List.mem_cons_self

/-- Obtaining the mux gives no node a mux for a parent, and takes none from any. -/
theorem Obtains.belowMux_iff (obtains : Obtains r r₁ mux) (steps : Steps p r r₁)
    (upward : r.Upward) {id : NodeId} : r₁.BelowMux id ↔ r.BelowMux id := by
  refine ⟨obtains.belowMux steps upward, ?_⟩
  rintro ⟨parent, member, className⟩
  exact ⟨parent, steps.parentsOf member, steps.classOf? className⟩

/-- The mux is no parent of what it adopts. -/
theorem Obtains.not_mem_parents (obtains : Obtains r r₁ mux) (steps : Steps p r r₁)
    (upward : r.Upward) {id : NodeId} (free : ¬r.BelowMux id) : mux ∉ r.parentsOf id :=
  fun member => free ((obtains.belowMux_iff steps upward).mp
    ⟨mux, steps.parentsOf member, obtains.className⟩)

/-- The mux is neither a sink nor a spigot. -/
theorem Obtains.not_listed (obtains : Obtains r r₁ mux) (steps : Steps p r r₁)
    (consistent : r.Consistent) : mux ∉ r.sinks ∧ mux ∉ r.spigots := by
  constructor
  · intro member
    have := steps.classOf? ((consistent.sinks.2 mux).mp member)
    rw [obtains.className] at this
    exact absurd (Option.some.inj this) (by decide)
  · intro member
    have := steps.classOf? ((consistent.spigots.2 mux).mp member)
    rw [obtains.className] at this
    exact absurd (Option.some.inj this) (by decide)

theorem pin_of_isLive (live : r.isLive mux) :
    r.pin mux = { r with pinned := if mux ∈ r.pinned then r.pinned else r.pinned ++ [mux] } := by
  rw [pin, live, Bool.true_and]
  by_cases known : mux ∈ r.pinned <;> simp [known]

/-- The children that the hook takes from a list, after it has obtained and pinned the mux. -/
theorem Obtains.withoutMux (obtains : Obtains r r₁ mux) (steps : Steps p r r₁) (upward : r.Upward)
    {ids : List NodeId} (bound : ∀ id ∈ ids, r.isBound id) :
    (r₁.pin mux).withoutMux ids = (r.unadopted ids).map r.child := by
  have more : Steps p r (r₁.pin mux) := steps.trans (steps_pin r₁ mux)
  have child : (r₁.pin mux).child = r.child := by
    funext id
    rw [Repository.child, Repository.child, more.extends.id]
  have below (id : NodeId) : (r₁.pin mux).BelowMux id ↔ r.BelowMux id := by
    obtain ⟨_, pinned⟩ := pin_eq r₁ mux
    rw [pinned]
    exact obtains.belowMux_iff steps upward
  rw [withoutMux_eq fun id member => isLive_of_isBound (more.isBound (bound id member)), child]
  unfold unadopted
  exact congrArg _ (List.filter_congr fun id _ => by simp only [below id])

/-- A mux that takes children takes each list without those that have a mux for a parent. -/
theorem MuxRun.takes (run : MuxRun location r r' mux r₁ r₂) (obtains : Obtains r r₁ mux)
    (steps : Steps p r r₁) (upward : r.Upward) (sound : Sound .none r) :
    r₂ = (r₁.pin mux).relink mux
        (·.map (extendBinding .child ((r.unadopted r.sinks).map r.child))) (r.unadopted r.sinks) ∧
      r' = r₂.relink mux
        (·.map (extendBinding .step ((r.unadopted r.spigots).map r.child)))
          (r.unadopted r.spigots) := by
  have second : Steps .none (r₁.pin mux) r₂ := run.second not_false
  obtain ⟨_, pinned⟩ := pin_eq r₁ mux
  have lists : (r₁.pin mux).sinks = r.sinks ∧ (r₁.pin mux).spigots = r.spigots := by
    rw [pinned]
    exact ⟨obtains.sinks, obtains.spigots⟩
  obtain ⟨_, sinks⟩ := exec_extendChildren_ok settled_withoutMux run.sinks
  obtain ⟨_, spigots⟩ := exec_extendChildren_ok
    (fun c member => (settled_withoutMux c member).mono second) run.spigots
  rw [lists.1, obtains.withoutMux steps upward fun id member => sound.noted id (.inl member),
    filterMap_child] at sinks
  rw [lists.2, obtains.withoutMux steps upward fun id member => sound.noted id (.inr (.inl member)),
    filterMap_child] at spigots
  exact ⟨sinks, spigots⟩

theorem get?_pin (r : Repository) (id other : NodeId) : (r.pin id).get? other = r.get? other := by
  obtain ⟨_, pinned⟩ := pin_eq r id
  rw [pinned]
  rfl

/-- A run of the hook adopts what has no mux for a parent. -/
theorem MuxRun.adopts {m : Node} {b : Binding} (run : MuxRun location r r' mux r₁ r₂)
    (obtained : Obtained location r r₁ mux m b) (obtains : Obtains r r₁ mux)
    (sound : Sound .none r) (upward : r.Upward) (consistent : r.Consistent) :
    Adopts location r r' mux (r.unadopted r.sinks) (r.unadopted r.spigots) := by
  have first : Steps .none r r₁ := run.first
  obtain ⟨sinks, spigots⟩ := run.takes obtains first upward sound
  obtain ⟨noSink, noSpigot⟩ := obtains.not_listed first consistent
  have notTaken : mux ∉ r.unadopted r.sinks ∧ mux ∉ r.unadopted r.spigots :=
    ⟨fun member => noSink (mem_unadopted.mp member).1,
      fun member => noSpigot (mem_unadopted.mp member).1⟩
  refine ⟨⟨m, b, obtained.before, ?_⟩, fun other different => ?_, ?_⟩
  · rw [spigots, get?_relink, sinks, get?_relink, get?_pin, obtained.here]
    simp only [Option.map_some, if_pos, if_neg notTaken.1, if_neg notTaken.2]
    rfl
  · rw [spigots, get?_relink, sinks, get?_relink, get?_pin, obtained.others other different,
      Option.map_map]
    cases here : r.get? other with
    | none => rfl
    | some n =>
      have taken (member : other ∈ r.unadopted r.sinks ∨ other ∈ r.unadopted r.spigots) :
          n.withParent mux = { n with parents := n.parents ++ [mux] } := by
        have free : ¬r.BelowMux other := member.elim
          (fun sink => (mem_unadopted.mp sink).2) fun spigot => (mem_unadopted.mp spigot).2
        have absent := obtains.not_mem_parents first upward free
        rw [parentsOf_of_get? here] at absent
        rw [Node.withParent, if_neg (by simpa using absent)]
      simp only [Option.map_some, Function.comp, if_neg different, List.mem_append]
      by_cases either : other ∈ r.unadopted r.sinks ∨ other ∈ r.unadopted r.spigots
      · rw [if_pos either, ← taken either]
        by_cases sink : other ∈ r.unadopted r.sinks
        · simp only [if_pos sink, Node.withParent_withParent, ite_self]
        · simp only [if_neg sink, if_pos (either.resolve_left sink)]
      · obtain ⟨noSink, noSpigot⟩ := not_or.mp either
        rw [if_neg either, if_neg noSink, if_neg noSpigot]
  · have live : r₁.isLive mux := isLive_of_classOf? obtains.className
    have last : r' = { r₂ with nodes := r'.nodes } := by
      rw [spigots]
      exact relink_eq ..
    obtain ⟨_, same₂⟩ : ∃ nodes, r₂ = { r₁.pin mux with nodes } := ⟨_, sinks.trans (relink_eq ..)⟩
    obtain ⟨_, same₁⟩ : ∃ nodes, r₁ = { r with nodes, mux := some mux } := ⟨_, obtained.rest⟩
    rw [same₂, pin_of_isLive live, same₁] at last
    exact last

/-! ## 4. What has been adopted -/

/-- An extension by nothing changes nothing. -/
theorem relink_nothing (r : Repository) (id : NodeId) (role : ChildRole) :
    r.relink id (·.map (extendBinding role [])) [] = r := by
  have same (n : Node) :
      { n with binding := n.binding.map (extendBinding role []) } = n := by
    have id (b : Binding) : extendBinding role [] b = b := by
      have push (l : ChildList) : l.push [] = l := by
        cases l
        rw [ChildList.push, Entry.numbered, List.append_nil]
      cases role with
      | child => rw [extendBinding, push]
      | step => rw [extendBinding, push]
    rw [show extendBinding role [] = fun b => b from funext id, Option.map_id']
  show r.update id _ = r
  unfold update
  simp only [same, Option.map_id']
  have nodes : r.nodes.modify id.index (fun slot => slot) = r.nodes := by
    refine Array.ext (Array.size_modify ..) fun i _ _ => ?_
    rw [Array.getElem_modify, ite_self]
  rw [nodes]

/-- Where all sinks and spigots have a mux for a parent, and the mux is pinned, the hook does
nothing. -/
theorem exec_mux_settled (known : r.mux = some mux) (bound : r.isBound mux) (kept : mux ∈ r.pinned)
    (listed : ¬(r.sinks.isEmpty && r.spigots.isEmpty)) (sinks : r.withoutMux r.sinks = [])
    (spigots : r.withoutMux r.spigots = []) (location : Location) :
    (Hook.mux location).exec r = (.ok (), r) := by
  have pinned : r.pin mux = r := by
    rw [pin_of_isLive (isLive_of_isBound bound), if_pos kept]
  have nothing (role : ChildRole) : (extendChildren role mux [] location).exec r = (.ok (), r) := by
    rw [exec_extendChildren_settled location (by simp) bound, List.filterMap_nil, relink_nothing]
  rw [Hook.mux, exec_bind_of_ok (exec_get r)]
  dsimp only
  rw [if_neg listed, exec_bind_of_ok (exec_obtainMux_known location known),
    exec_bind_of_ok (exec_modify _ r), exec_bind_of_ok (exec_get _), pinned, sinks, spigots]
  rw [addChildren, exec_bind_of_ok (nothing .child)]
  exact nothing .step

theorem withoutMux_eq_nil {ids : List NodeId} (live : ∀ id ∈ ids, r.isLive id)
    (below : ∀ id ∈ ids, r.BelowMux id) : r.withoutMux ids = [] := by
  rw [withoutMux_eq live, List.map_eq_nil_iff, List.eq_nil_iff_forall_not_mem]
  intro id member
  obtain ⟨listed, free⟩ := mem_unadopted.mp member
  exact free (below id listed)

/-- A second run of the hook does nothing. -/
theorem MuxRun.settled {sinks spigots : List NodeId} (run : MuxRun location r r' mux r₁ r₂)
    (obtains : Obtains r r₁ mux) (adopts : Adopts location r r' mux sinks spigots)
    (sound : Sound .none r) (upward : r.Upward) (listed : ¬(r.sinks.isEmpty && r.spigots.isEmpty))
    (location' : Location) : (Hook.mux location').exec r' = (.ok (), r') := by
  have rest : Steps .none r₁ r' := run.rest not_false
  have steps : Steps .none r r' := run.first.trans rest
  have className : r'.classOf? mux = some muxClass := rest.classOf? obtains.className
  obtain ⟨sameSinks, sameSpigots⟩ : r'.sinks = r.sinks ∧ r'.spigots = r.spigots := by
    rw [adopts.rest]
    exact ⟨rfl, rfl⟩
  have live (id : NodeId) (member : id ∈ r.sinks ∨ id ∈ r.spigots) : r'.isLive id :=
    isLive_of_isBound (steps.isBound (sound.noted id (member.imp_right .inl)))
  have below (id : NodeId) (member : id ∈ r.sinks ∨ id ∈ r.spigots) : r'.BelowMux id := by
    rcases run.adopted obtains sound upward member with taken | ⟨parent, above, was⟩
    · exact ⟨mux, taken, className⟩
    · exact ⟨parent, steps.parentsOf above, steps.classOf? was⟩
  refine exec_mux_settled (by rw [adopts.rest]) (by rw [isBound_eq_classOf?, className]; rfl)
    adopts.kept (by rwa [sameSinks, sameSpigots]) ?_ ?_ location'
  · rw [sameSinks]
    exact withoutMux_eq_nil (fun id sink => live id (.inl sink)) fun id sink => below id (.inl sink)
  · rw [sameSpigots]
    exact withoutMux_eq_nil (fun id spigot => live id (.inr spigot)) fun id spigot =>
      below id (.inr spigot)

/-! ## 5. The hook -/

/-- A bound sink or spigot is listed as one. -/
theorem listed_of_bound (consistent : r.Consistent)
    (role : ∃ id, r.classOf? id = some sinkClass ∨ r.classOf? id = some spigotClass) :
    ¬(r.sinks.isEmpty && r.spigots.isEmpty) := by
  obtain ⟨id, role⟩ := role
  replace role := role.imp (consistent.sinks.2 id).mpr (consistent.spigots.2 id).mpr
  rw [Bool.and_eq_true, List.isEmpty_iff, List.isEmpty_iff]
  rintro ⟨sinks, spigots⟩
  rw [sinks, spigots] at role
  rcases role with role | role <;> cases role

/-- In the order of binding, the sinks and spigots to adopt are those without a mux for a parent. -/
theorem Course.unadopted {order : List NodeId} (course : Course r order) :
    r.unadopted r.sinks =
        (order.filter fun id => r.classOf? id = some sinkClass ∧ ¬r.BelowMux id) ∧
      r.unadopted r.spigots =
        order.filter fun id => r.classOf? id = some spigotClass ∧ ¬r.BelowMux id := by
  have noted := course.orderly.noted
  unfold Repository.unadopted
  rw [noted.sinks, noted.spigots, List.filter_filter, List.filter_filter]
  constructor <;> refine List.filter_congr fun id _ => ?_ <;>
    rw [Bool.decide_and, Bool.and_comm]

/-- Before a resolve, a run of the hook that has sinks or spigots and records nothing gives the mux
those that have no mux for a parent, in the order of binding, and does nothing else but bind the mux
and pin it. A second run does nothing. -/
theorem mux_adopts_once (reached : Reachable (fun _ _ => True) r) (building : r.phase = .building)
    (honest : r.mux = none → r.MuxHonest)
    (role : ∃ id, r.classOf? id = some sinkClass ∨ r.classOf? id = some spigotClass)
    (ran : (Hook.mux location).exec r = (.ok (), r')) (quiet : r'.errors = r.errors) :
    ∃ mux sinks spigots, Adopts location r r' mux sinks spigots ∧
      r'.classOf? mux = some muxClass ∧ mux ∈ r'.pinned ∧
      (∃ order, Course r order) ∧
      (∀ order, Course r order →
        sinks = (order.filter fun id => r.classOf? id = some sinkClass ∧ ¬r.BelowMux id) ∧
        spigots = order.filter fun id => r.classOf? id = some spigotClass ∧ ¬r.BelowMux id) ∧
      ∀ location', (Hook.mux location').exec r' = (.ok (), r') := by
  have sound := reached.sound (fun r op _ => Promise.allows_none r op) building
  have consistent := reached.consistent
  obtain ⟨_, _, before⟩ := reached.steps (fun r op _ => Promise.allows_none r op) building
  obtain ⟨_, _, changes⟩ := reached.changes fun r op _ => Promise.allows_none r op
  have root := before.rootUnnamed (rootUnnamed_start _ _)
  have upward : r.Upward := before.upward (upward_start _ _)
  have notes : r.NotesMux := before.notesMux (notesMux_start _ _)
  obtain ⟨mux, r₁, r₂, run⟩ := exec_mux_ok (listed_of_bound consistent role) ran
  obtain ⟨m, b, obtained⟩ :=
    obtained_obtainMux consistent root notes honest run.obtained (run.quiet quiet)
  have obtains : Obtains r r₁ mux :=
    obtains_obtainMux consistent root honest run.obtained (run.quiet quiet)
  have adopts := run.adopts obtained obtains sound upward consistent
  have rest : Steps .none r₁ r' := run.rest not_false
  refine ⟨mux, _, _, adopts, rest.classOf? obtains.className, adopts.kept, exists_course changes,
    fun order course => course.unadopted, ?_⟩
  exact run.settled obtains adopts sound upward (listed_of_bound consistent role)

theorem mux_adopts_once_connected :
    Reachable (fun _ _ => True) connected ∧ connected.phase = .building ∧ connected.MuxHonest ∧
      connected.classOf? ⟨0⟩ = some sinkClass ∧
        ∃ r' mux, (Hook.mux default).exec connected = (.ok (), r') ∧
          r'.errors = connected.errors ∧ Adopts default connected r' mux [⟨0⟩] [⟨2⟩] ∧
          r'.classOf? mux = some muxClass ∧ (Hook.mux default).exec r' = (.ok (), r') := by
  have building : connected.phase = .building := by decide +kernel
  have honest : connected.MuxHonest := muxHonest_of_lookup? (by decide +kernel)
  have sink : connected.classOf? ⟨0⟩ = some sinkClass := by decide +kernel
  have free : connected.unadopted connected.sinks = [⟨0⟩] ∧
      connected.unadopted connected.spigots = [⟨2⟩] := by decide +kernel
  have succeeds : ((Hook.mux default).exec connected).1.isOk := by decide +kernel
  have quiet : ((Hook.mux default).exec connected).2.errors = connected.errors := by decide +kernel
  obtain ⟨_, ran⟩ := exec_of_isOk succeeds
  obtain ⟨mux, sinks, spigots, adopts, className, -, ⟨order, course⟩, ordered, again⟩ :=
    mux_adopts_once reachable_connected building (fun _ => honest) ⟨⟨0⟩, .inl sink⟩ ran quiet
  obtain ⟨rfl, rfl⟩ := ordered order course
  rw [← course.unadopted.1, ← course.unadopted.2, free.1, free.2] at adopts
  exact ⟨reachable_connected, building, honest, sink, _, mux, ran, quiet, adopts, className,
    again default⟩

/-- The hook takes the node for a mux, without noting it, and is refused when it is run again. -/
theorem not_mux_adopts_disguisedMux :
    Reachable (fun _ _ => True) disguisedMux ∧ disguisedMux.phase = .building ∧
      disguisedMux.classOf? ⟨1⟩ = some sinkClass ∧
        ∃ r', (Hook.mux default).exec disguisedMux = (.ok (), r') ∧
          r'.errors = disguisedMux.errors ∧ r'.mux = none ∧ r'.classOf? ⟨0⟩ = some "MeqFake" ∧
            ((Hook.mux default).exec r').2.errors ≠ r'.errors := by
  have reached : Reachable (fun _ _ => True) disguisedMux := by
    obtain ⟨id, options, led⟩ := reachable_disguisedMux
    exact ⟨id, options, led.mono fun _ _ _ => trivial⟩
  have succeeds : ((Hook.mux default).exec disguisedMux).1.isOk := by decide +kernel
  have refused : ((Hook.mux default).exec ((Hook.mux default).exec disguisedMux).2).2.errors ≠
      ((Hook.mux default).exec disguisedMux).2.errors := by decide +kernel
  obtain ⟨_, ran⟩ := exec_of_isOk succeeds
  exact ⟨reached, by decide +kernel, by decide +kernel, _, ran, by decide +kernel,
    by decide +kernel, by decide +kernel, refused⟩

end Repository

end NodeForest

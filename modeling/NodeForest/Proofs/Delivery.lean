import NodeForest.Proofs.Consistency
import NodeForest.Proofs.FailedResolve
import NodeForest.Proofs.ForestImage
import NodeForest.Proofs.Upheld

/-!
# Sinks and spigots reach the engine

The hook for the data mux looks at each sink and spigot once: one that has no mux for a parent is
taken by the mux that was bound last, or by a new one, and that mux is kept. One that has a mux for
a parent is left to it, so it reaches the engine only if such a mux stays.

Results:
1. `obtains_obtainMux`: the mux is of the class it should be, and obtaining it gives no node a
   parent.
2. `connects_mux`: after the hook, what had no mux for a parent is below the mux that is kept.
3. `delivers_numbered`: what is below a mux that stays is in the forest with it;
   `delivered_of_resolve`: what a resolve brings to the engine; `not_delivered_abandonedMux` and
   `not_delivered_disguisedMux`: what it does not.
-/

namespace NodeForest

open Relation NodeForest.Action

namespace Repository

variable {p : Promise} {r r' : Repository} {location : Location}

/-! ## 1. The mux -/

/-- The root scope is there and has no name. -/
def RootUnnamed (r : Repository) : Prop :=
  ∃ s, r.scopes[0]? = some s ∧ s.name = none

theorem Step.rootUnnamed (h : Step p r r') (root : r.RootUnnamed) : r'.RootUnnamed := by
  obtain ⟨s, there, unnamed⟩ := root
  cases h with
  | @attach id _ b =>
    obtain ⟨_, _, _, _, same⟩ := attached_eq r id b.className b b.childIds
    rw [same]
    exact ⟨s, there, unnamed⟩
  | extend | setFields =>
    rw [relink_eq]
    exact ⟨s, there, unnamed⟩
  | share =>
    rw [withConstant_eq]
    exact ⟨s, there, unnamed⟩
  | @count s' scope name here =>
    rw [RootUnnamed, Array.getElem?_setIfInBounds]
    split
    · rename_i first
      rw [first, there] at here
      cases here
      rw [first, if_pos (Array.getElem?_eq_some_iff.mp there).1]
      exact ⟨_, rfl, unnamed⟩
    · exact ⟨s, there, unnamed⟩
  | openScope =>
    have inside := (Array.getElem?_eq_some_iff.mp there).1
    refine ⟨s, ?_, unnamed⟩
    rw [Array.getElem?_push_lt inside, ← Array.getElem?_eq_getElem inside]
    exact there
  | register | note | keep => exact ⟨s, there, unnamed⟩

theorem Steps.rootUnnamed (h : Steps p r r') (root : r.RootUnnamed) : r'.RootUnnamed := by
  induction h with
  | refl => exact root
  | tail _ last ih => exact last.rootUnnamed ih

/-- The root scope gives names as they are. -/
theorem RootUnnamed.scopedName (root : r.RootUnnamed) (name : String) :
    r.scopedName .root name = name := by
  obtain ⟨s, there, unnamed⟩ := root
  have none : r.scopeName? .root = none := by
    rw [scopeName?]
    exact (congrArg (·.bind (·.name)) there).trans unnamed
  rw [Repository.scopedName, none]

/-- What obtaining a mux does: it gives no node a parent, and refers to none. -/
structure Obtains (r r' : Repository) (mux : NodeId) : Prop where
  last : ∀ known, r.mux = some known → known = mux
  className : r'.classOf? mux = some muxClass
  parents : ∀ {child parent}, parent ∈ r'.parentsOf child → parent ∈ r.parentsOf child
  sinks : r'.sinks = r.sinks
  spigots : r'.spigots = r.spigots
  referenced : ∀ id, r'.isReferenced id = r.isReferenced id

/-- Definitions are compared by their records, so one that agrees with a mux is one if its record
tells its class. -/
theorem className_of_sameBinding {b : Binding}
    (honest : OrderedMap.get? b.record Record.classKey = some (.text b.className))
    (same : sameBinding b resolvedMux.children resolvedMux.steps resolvedMux.record) :
    b.className = muxClass := by
  simp only [sameBinding, Bool.and_eq_true] at same
  have named := Record.get?_text_of_equal same.1.1 honest
  have fixed : OrderedMap.get? resolvedMux.record Record.classKey = some (.text muxClass) := rfl
  rw [fixed] at named
  exact (Value.text.inj (Option.some.inj named)).symm

/-- Attaching a mux makes one, unless it is refused. -/
theorem obtains_attach {id : NodeId} (none : r.mux = none) (live : r.isLive id)
    (honest : ∀ b, r.bindingOf? id = some b →
      OrderedMap.get? b.record Record.classKey = some (.text b.className))
    (ran : (attach id resolvedMux location).exec r = (.ok (), r')) : Obtains r r' id := by
  obtain ⟨n, here⟩ := isLive_iff.mp live
  have last : ∀ known, r.mux = some known → known = id := fun _ noted => by
    rw [none] at noted
    cases noted
  cases binding : n.binding with
  | some b =>
    rw [exec_attach_bound resolvedMux location here binding] at ran
    split at ran <;> cases ran
    rename_i same
    have bound : r.bindingOf? id = some b := by rw [bindingOf?_of_get? here, binding]
    have className := className_of_sameBinding (honest b bound) same
    exact ⟨last, by rw [classOf?, bound, Option.map_some, className], fun member => member, rfl,
      rfl, fun _ => rfl⟩
  | none =>
    rw [exec_attach_unbound resolvedMux location here binding] at ran
    cases ran
    have noted := noteClass_rest (r.relink id (fun _ => some (r.newBinding resolvedMux location))
      (r.newBinding resolvedMux location).childIds) id resolvedMux.nodeClass.fullName
    have apart : ¬resolvedMux.nodeClass.fullName = sinkClass ∧
      ¬resolvedMux.nodeClass.fullName = spigotClass := by decide
    rw [if_neg apart.1, if_neg apart.2, relink_eq] at noted
    refine ⟨last, ?_, fun member => ?_, ?_, ?_, fun other => ?_⟩
    · rw [classOf?, bindingOf?_noteClass, bindingOf?_relink, if_pos rfl, here]
      rfl
    · rw [parentsOf_noteClass, mem_parentsOf_relink] at member
      exact member.resolve_right fun new => by cases new.2.1
    · rw [relink_eq]
      exact noted.1
    · rw [relink_eq]
      exact noted.2.1
    · obtain ⟨_, _, _, _, same⟩ := attached_eq r id resolvedMux.nodeClass.fullName
        (r.newBinding resolvedMux location) (r.newBinding resolvedMux location).childIds
      rw [same]
      rfl

/-- A field that tells the class tells the right one, for a node that has the name of a new mux. -/
def MuxHonest (r : Repository) : Prop :=
  ∀ {id b}, r.nameOf? id = some muxName → r.bindingOf? id = some b →
    OrderedMap.get? b.record Record.classKey = some (.text b.className)

/-- A name in the root scope is that of a node, or of the one that is registered for it. -/
theorem nodeInScope_root (root : r.RootUnnamed) (name : String) (location : Location) :
    (∃ id, r.nodeInScope .root name location = (id, r) ∧ r.nameOf? id = some name) ∨
      r.nodeInScope .root name location =
        (⟨r.nodes.size⟩, r.register name name .root .empty location) := by
  rw [nodeInScope, root.scopedName, getOrCreate]
  cases found : r.lookup? name with
  | some id =>
    obtain ⟨n, here, named⟩ := lookup?_eq_some found
    exact .inl ⟨id, rfl, by rw [nameOf?, here, Option.map_some, named]⟩
  | none => exact .inr rfl

/-- Unless it records a diagnostic, the hook obtains a mux. -/
theorem obtains_obtainMux (consistent : r.Consistent) (root : r.RootUnnamed)
    (honest : r.mux = none → r.MuxHonest) {mux : NodeId}
    (ran : (obtainMux location).exec r = (.ok mux, r'))
    (quiet : r'.errors = r.errors) : Obtains r r' mux := by
  cases known : r.mux with
  | some noted =>
    rw [exec_obtainMux_known location known] at ran
    cases ran
    exact ⟨fun _ same => Option.some.inj (same.symm.trans known), consistent.mux mux known,
      fun member => member, rfl, rfl, fun _ => rfl⟩
  | none =>
    obtain ⟨rfl, attached⟩ := exec_attach_of_obtainMux known ran quiet
    have live := live_nodeInScope r .root muxName location
    -- The name may be that of a node already, which has parents perhaps; a new one has none.
    rcases nodeInScope_root root muxName location with ⟨id, created, named⟩ | created <;>
      rw [created] at attached live ⊢
    · exact obtains_attach known live (fun b => honest known named) attached
    · have attached : Obtains (r.register muxName muxName .root .empty location) r'
          ⟨r.nodes.size⟩ := by
        refine obtains_attach known live (fun b new => ?_) attached
        have gone : r.get? ⟨r.nodes.size⟩ = none := get?_eq_none (Nat.le_refl _)
        rw [bindingOf?_register, bindingOf?, gone] at new
        cases new
      refine { attached with parents := fun {child parent} member => ?_ }
      have before := attached.parents member
      rw [parentsOf, get?_register] at before
      split at before
      · cases before
      · exact before

/-- The node has a mux for a parent. -/
def BelowMux (r : Repository) (id : NodeId) : Prop :=
  ∃ parent ∈ r.parentsOf id, r.classOf? parent = some muxClass

/-- What has a mux for a parent then had it before: a new mux has no children. -/
theorem Obtains.belowMux {mux : NodeId} (obtains : Obtains r r' mux) (steps : Steps p r r')
    (upward : r.Upward) {id : NodeId} (has : r'.BelowMux id) : r.BelowMux id := by
  obtain ⟨parent, member, className⟩ := has
  have before := obtains.parents member
  have bound := upward.isBound before
  rw [isBound_eq_classOf?, Option.isSome_iff_exists] at bound
  obtain ⟨was, here⟩ := bound
  rw [steps.classOf? here, Option.some.injEq] at className
  exact ⟨parent, before, className ▸ here⟩

/-! ## 2. The hook -/

/-- What the hook does when there are sinks or spigots. -/
structure Connects (r r' : Repository) (mux : NodeId) : Prop where
  steps : Steps .none r r'
  last : ∀ known, r.mux = some known → known = mux
  className : r'.classOf? mux = some muxClass
  kept : r'.isReferenced mux
  referenced : ∀ id, r.isReferenced id → r'.isReferenced id
  adopted : ∀ id, id ∈ r.sinks ∨ id ∈ r.spigots → mux ∈ r'.parentsOf id ∨ r.BelowMux id

/-- A node of a list is taken, or has a mux for a parent. -/
theorem mem_withoutMux_or {ids : List NodeId} {id : NodeId} (member : id ∈ ids)
    (live : r.isLive id) : r.child id ∈ r.withoutMux ids ∨ r.BelowMux id := by
  obtain ⟨n, here⟩ := isLive_iff.mp live
  by_cases has : r.hasMuxParent n
  · obtain ⟨parent, inside, class'⟩ := List.any_eq_true.mp has
    refine .inr ⟨parent, by rwa [parentsOf_of_get? here], ?_⟩
    simpa [classOf?, bindingOf?, Node.className?, Option.map_bind, Function.comp_def] using class'
  · refine .inl (List.mem_map_of_mem (List.mem_filter.mpr ⟨member, ?_⟩))
    simpa [here] using has

/-- Children that are appended have the node for a parent. -/
theorem mem_parentsOf_extend {role : ChildRole} {id : NodeId} {cs : List Child} {ref : NodeRef}
    (member : .node ref ∈ cs) (live : r.isLive ref.id) :
    id ∈ (r.relink id (·.map (extendBinding role cs))
      (cs.filterMap Child.nodeId?)).parentsOf ref.id :=
  (mem_parentsOf_relink ..).mpr (.inr ⟨rfl, Child.mem_nodeIds.mpr ⟨ref, member, rfl⟩, live⟩)

theorem pin_eq (r : Repository) (id : NodeId) : ∃ pinned, r.pin id = { r with pinned } := by
  rw [pin]
  split <;> exact ⟨_, rfl⟩

theorem isReferenced_pin {id other : NodeId} (live : r.isLive id) :
    (r.pin id).isReferenced other ↔ r.isReferenced other ∨ other = id := by
  simp only [pin, isReferenced, live, Bool.true_and]
  cases known : r.pinned.contains id with
  | true =>
    have member : id ∈ r.pinned := List.contains_iff_mem.mp known
    simp only [Bool.not_true, Bool.false_eq_true, ↓reduceIte, Bool.or_eq_true]
    exact ⟨.inl, fun either => either.elim (fun kept => kept) fun same => .inr (same ▸ known)⟩
  | false => simp [or_assoc]

theorem isReferenced_relink {id other : NodeId} {f : Option Binding → Option Binding}
    {children : List NodeId} :
    (r.relink id f children).isReferenced other = r.isReferenced other := by
  rw [relink_eq]
  rfl

section

variable {mux : NodeId} {r₁ r₂ : Repository}

theorem MuxRun.isReferenced (run : MuxRun location r r' mux r₁ r₂) (obtains : Obtains r r₁ mux)
    (id : NodeId) : r'.isReferenced id ↔ r.isReferenced id ∨ id = mux := by
  have live : r₁.isLive mux := isLive_of_classOf? obtains.className
  have second : Steps .none (r₁.pin mux) r₂ := run.second not_false
  obtain ⟨_, sinks⟩ := exec_extendChildren_ok settled_withoutMux run.sinks
  obtain ⟨_, spigots⟩ := exec_extendChildren_ok
    (fun c member => (settled_withoutMux c member).mono second) run.spigots
  rw [spigots, isReferenced_relink, sinks, isReferenced_relink, isReferenced_pin live,
    obtains.referenced]

/-- Each list is looked through before the mux takes from it, so a mux that a node has for a parent
then is an earlier one. -/
theorem MuxRun.adopted (run : MuxRun location r r' mux r₁ r₂) (obtains : Obtains r r₁ mux)
    (sound : Sound .none r) (upward : r.Upward) {id : NodeId}
    (listed : id ∈ r.sinks ∨ id ∈ r.spigots) : mux ∈ r'.parentsOf id ∨ r.BelowMux id := by
  have first : Steps .none r r₁ := run.first
  have second : Steps .none (r₁.pin mux) r₂ := run.second not_false
  have third : Steps .none r₂ r' := run.third not_false
  obtain ⟨_, sinks⟩ := exec_extendChildren_ok settled_withoutMux run.sinks
  obtain ⟨_, spigots⟩ := exec_extendChildren_ok
    (fun c member => (settled_withoutMux c member).mono second) run.spigots
  obtain ⟨_, pinned⟩ := pin_eq r₁ mux
  have isLive : (r₁.pin mux).isLive id := isLive_of_isBound
    (Steps.isBound (first.trans (steps_pin r₁ mux)) (sound.noted id (listed.imp_right .inl)))
  have earlier : (r₁.pin mux).BelowMux id → r.BelowMux id := by
    rw [pinned]
    exact obtains.belowMux first upward
  rcases listed with sink | spigot
  · have member : id ∈ (r₁.pin mux).sinks := by rw [pinned]; exact obtains.sinks ▸ sink
    refine (mem_withoutMux_or member isLive).imp (fun taken => ?_) earlier
    have above := @mem_parentsOf_extend _ .child mux _ _ taken isLive
    rw [← sinks] at above
    exact third.parentsOf above
  · have member : id ∈ (r₁.pin mux).spigots := by rw [pinned]; exact obtains.spigots ▸ spigot
    refine (mem_withoutMux_or member isLive).imp (fun taken => ?_) earlier
    have above := @mem_parentsOf_extend r₂ .step mux _ _ taken (second.isLive isLive)
    rwa [← spigots] at above

end

end Repository

/-! ## 3. After a resolve -/

/-- The forest has an entry for the node. -/
def Forest.Shows (f : Forest) (n : Node) : Prop :=
  ∃ e ∈ f.nodes, e.name = n.name ∧ n.className? = some e.className ∧ n.index? = some e.index

/-- The forest of `r` has an entry for the node, and one for a mux that has the node as a child or
step-child. -/
def Forest.Delivers (f : Forest) (r : Repository) (id : NodeId) : Prop :=
  ∃ n mux m, r.get? id = some n ∧ f.Shows n ∧ r.get? mux = some m ∧ f.Shows m ∧
    m.className? = some Repository.muxClass ∧ r.child id ∈ m.children.members ++ m.steps.members

namespace Repository

variable {r r' : Repository} {location : Location}

/-- The mux that keeps a sink or spigot in the forest, if one does: the one bound last, or one that
is not garbage. -/
def StaysBelowMux (r : Repository) (id : NodeId) : Prop :=
  ∃ parent ∈ r.parentsOf id, r.classOf? parent = some muxClass ∧
    (r.options.orphansAreRoots ∨ r.mux = some parent ∨ ¬r.Garbage parent)

/-- After the hook, a sink or spigot has a mux for a parent that stays. -/
theorem Connects.stays {mux : NodeId} (connects : Connects r r' mux) (upward : r.Upward)
    {id : NodeId} (listed : id ∈ r.sinks ∨ id ∈ r.spigots)
    (kept : r.BelowMux id → r.StaysBelowMux id) :
    ∃ parent ∈ r'.parentsOf id, r'.classOf? parent = some muxClass ∧
      (r'.options.orphansAreRoots ∨ ¬r'.Garbage parent) := by
  have free : ¬r'.Garbage mux := fun garbage => by
    cases garbage with
    | orphan _ free => exact free connects.kept
  rcases connects.adopted id listed with taken | below
  · exact ⟨mux, taken, connects.className, .inr free⟩
  · obtain ⟨parent, member, className, stays⟩ := kept below
    refine ⟨parent, connects.steps.parentsOf member, connects.steps.classOf? className, ?_⟩
    rcases stays with keeping | last | here
    · exact .inl (connects.steps.extends.options ▸ keeping)
    · exact .inr (connects.last parent last ▸ free)
    · exact .inr fun garbage => here (garbage.of_fewer connects.referenced upward
        connects.steps.parentsOf (upward.isBound member))

theorem rootUnnamed_start (id : RepositoryId) (options : Options) :
    (start id options).RootUnnamed :=
  ⟨{}, rfl, rfl⟩

theorem muxHonest_of_lookup? (none : r.lookup? muxName = none) : r.MuxHonest := by
  intro id b named _
  obtain ⟨n, here, same⟩ := Option.map_eq_some_iff.mp named
  exact absurd same (lookup?_eq_none.mp none id n here)

/-- A run that binds a node with the name of a new mux to another class, with the same places, and
then sets the field that tells its class. -/
def disguisedMux : Repository :=
  let empty : ChildList := .ofKeyed [("pre", .empty), ("post", .empty), ("start", .empty)]
  Operation.after (.bind ⟨1⟩ (.ok (.pending (.bare (.standard "Sink")))) default)
    (Operation.after (.node .root "sink" default)
      (Operation.after (.setOptions ⟨0⟩ [(Record.classKey, .text muxClass)] default)
        (Operation.after
          (.bind ⟨0⟩ (.ok (.pending (.ofParts (.standard "Fake") empty .nil []))) default)
          (Operation.after (.node .root muxName default) (start ⟨0⟩ {})))))

theorem reachable_disguisedMux : Reachable Operation.NamesAllocated disguisedMux := by
  refine ⟨⟨0⟩, {}, .operation _ (.operation _ (.operation _ (.operation _ (.operation _
    (.refl _) ?_) ?_) ?_) ?_) ?_⟩
  all_goals
    rw [Operation.NamesAllocated]
    decide +kernel

/-- The hook takes the node for a mux, so that there is none in the forest. -/
theorem not_delivered_disguisedMux :
    Reachable Operation.NamesAllocated disguisedMux ∧ disguisedMux.phase = .building ∧
      disguisedMux.classOf? ⟨1⟩ = some sinkClass ∧ ¬disguisedMux.BelowMux ⟨1⟩ ∧
        ∃ given r' f, (resolve Hook.mux default).exec disguisedMux = (.ok given, r') ∧
          r'.forest = .ok f ∧ f.nodes.map (·.className) = ["MeqFake", sinkClass] ∧
            ¬f.Delivers r' ⟨1⟩ := by
  have succeeds : ((resolve Hook.mux default).exec disguisedMux).1.isOk := by decide +kernel
  have shown : ((resolve Hook.mux default).exec disguisedMux).2.forest.toOption.map
      (·.nodes.map (·.className)) = some ["MeqFake", sinkClass] := by decide +kernel
  have alone : disguisedMux.parentsOf ⟨1⟩ = [] := by decide +kernel
  have free : ¬disguisedMux.BelowMux ⟨1⟩ := by
    rintro ⟨parent, member, _⟩
    rw [alone] at member
    cases member
  obtain ⟨given, resolved⟩ := exec_of_isOk succeeds
  obtain ⟨f, image, classes⟩ := forest_of_toOption shown
  refine ⟨reachable_disguisedMux, by decide +kernel, by decide +kernel, free, given, _, f, resolved,
    image, classes, ?_⟩
  rintro ⟨_, _, m, _, _, _, ⟨e, member, _, same, _⟩, className, _⟩
  have inside : e.className ∈ ["MeqFake", sinkClass] := classes ▸ List.mem_map_of_mem member
  rw [className, Option.some.injEq] at same
  rw [← same] at inside
  exact absurd inside (by decide)

end Repository

end NodeForest

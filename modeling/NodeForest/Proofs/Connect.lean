import NodeForest.Proofs.Check
import NodeForest.Proofs.GeneratedName
import NodeForest.Proofs.Invariant
import NodeForest.Repository.Mux

/-!
# Connecting sinks and spigots

The hook for the data mux is made of public operations, so it takes steps. Unless it records a
diagnostic, the children that it adds are bound nodes, so that a check that was passed before it is
passed after it, too.

Results:
1. `exec_resolveChildren_settled`: children that are resolved already stay as they are.
2. `Complete.attach`, `Complete.extendChildren`: what adds children keeps all of them bound.
3. `leads_mux`: the hook takes steps; `exec_mux_ok`: which; `complete_mux`: all children stay bound.
-/

namespace NodeForest

open Relation NodeForest.Action

namespace Repository

variable {p : Promise} {r r' : Repository}

/-! ## 1. Resolved children -/

/-- What resolving leaves as it is: an empty place, or a live node of the repository. -/
def Settled (r : Repository) (c : Child) : Prop :=
  c = .empty ∨ ∃ id, c = r.child id ∧ r.isLive id

section

variable (location : Location) (scope : ScopeId)

theorem exec_resolveChild_settled {c : Child} (label : Label) (settled : r.Settled c) :
    (resolveChild location scope label c).exec r = (.ok c, r) := by
  rcases settled with rfl | ⟨id, rfl, live⟩
  · rw [resolveChild]
    rfl
  · rw [child, exec_resolveChild_node, if_pos rfl, if_pos live]

theorem exec_resolveEntries_settled :
    ∀ {es : List Entry}, (∀ e ∈ es, r.Settled e.child) →
      (resolveEntries location scope es).exec r = (.ok es, r)
  | [], _ => by
    rw [resolveEntries]
    rfl
  | ⟨label, c⟩ :: es, settled => by
    have first : (resolveEntry location scope ⟨label, c⟩).exec r = (.ok ⟨label, c⟩, r) := by
      rw [resolveEntry, exec_bind_of_ok
        (exec_resolveChild_settled location scope label (settled _ List.mem_cons_self))]
      rfl
    rw [resolveEntries, exec_bind_of_ok first, exec_bind_of_ok
      (exec_resolveEntries_settled fun e member => settled e (List.mem_cons_of_mem _ member))]
    rfl

/-- Children that are resolved already stay as they are. -/
theorem exec_resolveChildren_settled {es : List Entry} {keyed : Bool}
    (settled : ∀ e ∈ es, r.Settled e.child) :
    (resolveChildren location scope ⟨es, keyed, false⟩).exec r = (.ok ⟨es, keyed, true⟩, r) := by
  rw [resolveChildren, if_neg Bool.false_ne_true,
    exec_bind_of_ok (exec_resolveEntries_settled location scope settled)]
  rfl

end

/-! ## 2. What adds children -/

theorem Complete.of_binding (complete : r.Complete) (grows : ∀ {id}, r.isBound id → r'.isBound id)
    (childIds : ∀ {parent child}, child ∈ r'.childIdsOf parent →
      child ∈ r.childIdsOf parent ∨ r.isBound child) : r'.Complete := by
  intro parent child member
  rcases childIds member with old | bound
  · exact grows (complete parent child old)
  · exact grows bound

theorem Complete.register (complete : r.Complete) (name basename : String) (scope : ScopeId)
    (quals : Qualifiers) (location : Location) :
    (r.register name basename scope quals location).Complete := by
  refine complete.of_binding (fun bound => ?_) fun member => .inl ?_
  · rwa [isBound_eq, bindingOf?_register, ← isBound_eq]
  · rwa [childIdsOf_register] at member

theorem Complete.nodeInScope (complete : r.Complete) (scope : ScopeId) (name : String)
    (location : Location) : (r.nodeInScope scope name location).2.Complete := by
  rw [Repository.nodeInScope, getOrCreate]
  split
  · exact complete
  · exact complete.register _ _ _ _ _

/-- Attaching to a live node binds it, if it is not bound yet, and is refused only if it is. -/
theorem exec_attach_cases (d : Definition) (location : Location) {id : NodeId}
    (live : r.isLive id) :
    (∃ r', (attach id d location).exec r = (.ok (), r') ∧ r'.isBound id) ∨
      ∃ e, (attach id d location).exec r = (.error (.diagnostic e), r) ∧ r.isBound id := by
  obtain ⟨n, here⟩ := isLive_iff.mp live
  cases binding : n.binding with
  | some b =>
    have bound : r.isBound id := isBound_iff.mpr ⟨b, by rw [bindingOf?_of_get? here, binding]⟩
    rw [exec_attach_bound d location here binding]
    split
    · exact .inl ⟨r, rfl, bound⟩
    · exact .inr ⟨_, rfl, bound⟩
  | none =>
    rw [exec_attach_unbound d location here binding]
    refine .inl ⟨_, rfl, ?_⟩
    rw [isBound_eq, bindingOf?_noteClass, bindingOf?_relink, if_pos rfl, here]
    rfl

/-- An attached definition whose children are bound. -/
theorem Complete.attach (complete : r.Complete) {id : NodeId} {d : Definition} {location : Location}
    (ran : (attach id d location).exec r = (.ok (), r'))
    (bound : ∀ child ∈ d.children.nodeIds ++ d.steps.nodeIds, r.isBound child) : r'.Complete := by
  cases here : r.get? id with
  | none =>
    rw [exec_attach_gone d location here] at ran
    cases ran
    exact complete
  | some n =>
    cases binding : n.binding with
    | some b =>
      rw [exec_attach_bound d location here binding] at ran
      split at ran <;> cases ran
      exact complete
    | none =>
      rw [exec_attach_unbound d location here binding] at ran
      cases ran
      have bindings (other : NodeId) := bindingOf?_noteClass (r := r.relink id
        (fun _ => some (r.newBinding d location)) (r.newBinding d location).childIds) id other
        d.nodeClass.fullName
      refine complete.of_binding (fun isBound => ?_) fun {parent child} member => ?_
      · rw [isBound_eq, bindings, ← isBound_eq]
        exact isBound_relink (fun _ => rfl) isBound
      · rw [childIdsOf_eq, bindings, bindingOf?_relink] at member
        split at member
        · rename_i same
          rw [same, here] at member
          exact .inr (bound child member)
        · rw [← childIdsOf_eq] at member
          exact .inl member

/-- Children that are resolved already are appended to a bound node as they are. -/
theorem exec_extendChildren_settled {role : ChildRole} {id : NodeId} {cs : List Child}
    (location : Location) (settled : ∀ c ∈ cs, r.Settled c) (bound : r.isBound id) :
    (extendChildren role id cs location).exec r =
      (.ok (), r.relink id (·.map (extendBinding role cs)) (cs.filterMap Child.nodeId?)) := by
  obtain ⟨b, was⟩ := isBound_iff.mp bound
  obtain ⟨node, here, binding⟩ := Option.bind_eq_some_iff.mp was
  have found : (r.get? id).filter (·.isBound) = some node := by
    rw [here, Option.filter_some, if_pos (by simp [Node.isBound, binding])]
  have all : ∀ e ∈ Entry.numbered 0 cs, r.Settled e.child := fun e member =>
    settled _ (Entry.child_numbered cs 0 ▸ List.mem_map_of_mem member)
  rw [extendChildren, exec_bind_of_ok (exec_get r), found]
  dsimp only
  rw [ChildList.positional, exec_bind_of_ok (exec_resolveChildren_settled _ _ all)]
  dsimp only
  rw [ChildList.nodeIds_eq, ChildList.members]
  dsimp only
  rw [Entry.child_numbered]
  rfl

theorem exec_extendChildren_ok {role : ChildRole} {id : NodeId} {cs : List Child}
    {location : Location} (settled : ∀ c ∈ cs, r.Settled c)
    (ran : (extendChildren role id cs location).exec r = (.ok (), r')) :
    r.isBound id ∧
      r' = r.relink id (·.map (extendBinding role cs)) (cs.filterMap Child.nodeId?) := by
  have bound : r.isBound id := by
    cases found : (r.get? id).filter (·.isBound) with
    | none =>
      rw [extendChildren, exec_bind_of_ok (exec_get r), found] at ran
      cases ran
    | some node =>
      obtain ⟨here, bound⟩ := Option.filter_eq_some_iff.mp found
      simpa [isBound, here] using bound
  rw [exec_extendChildren_settled location settled bound] at ran
  exact ⟨bound, (congrArg Prod.snd ran).symm⟩

/-- A list extended with bound nodes. -/
theorem Complete.extendChildren (complete : r.Complete) {role : ChildRole} {id : NodeId}
    {ids : List NodeId} {location : Location} (bound : ∀ child ∈ ids, r.isBound child)
    (ran : (extendChildren role id (ids.map r.child) location).exec r = (.ok (), r')) :
    r'.Complete := by
  have settled : ∀ c ∈ ids.map r.child, r.Settled c := by
    intro c member
    obtain ⟨child, inside, rfl⟩ := List.mem_map.mp member
    exact .inr ⟨child, rfl, isLive_of_isBound (bound child inside)⟩
  obtain ⟨parentBound, rfl⟩ := exec_extendChildren_ok settled ran
  obtain ⟨b, was⟩ := isBound_iff.mp parentBound
  obtain ⟨n, here, binding⟩ := Option.bind_eq_some_iff.mp was
  refine complete.of_binding (isBound_relink fun _ => rfl) fun {parent child} member => ?_
  · rw [childIdsOf_eq, bindingOf?_relink] at member
    split at member
    · rename_i same
      subst same
      rw [here] at member
      simp only [Option.bind_some, binding, Option.map_some, Option.getD_some] at member
      obtain ⟨ref, inside, rfl⟩ := Binding.mem_childIds.mp member
      rcases mem_members_extendBinding.mp inside with old | new
      · refine .inl ?_
        rw [childIdsOf_eq, was]
        exact Binding.mem_childIds.mpr ⟨ref, old, rfl⟩
      · obtain ⟨id, given, same⟩ := List.mem_map.mp new
        rw [child, Child.node.injEq] at same
        subst same
        exact .inr (bound id given)
    · rw [← childIdsOf_eq] at member
      exact .inl member

/-! ## 3. The hook -/

theorem mem_withoutMux {ids : List NodeId} {c : Child} (member : c ∈ r.withoutMux ids) :
    ∃ id ∈ ids, c = r.child id ∧ r.isLive id := by
  obtain ⟨id, inside, rfl⟩ := List.mem_map.mp member
  obtain ⟨given, lives⟩ := List.mem_filter.mp inside
  obtain ⟨n, here, _⟩ := (Option.any_eq_true _ _).mp lives
  exact ⟨id, given, rfl, isLive_iff.mpr ⟨n, here⟩⟩

theorem settled_withoutMux {ids : List NodeId} : ∀ c ∈ r.withoutMux ids, r.Settled c := by
  intro c member
  obtain ⟨id, _, rfl, live⟩ := mem_withoutMux member
  exact .inr ⟨id, rfl, live⟩

theorem allocates_withoutMux {ids : List NodeId} :
    ∀ c ∈ r.withoutMux ids, Allocates p r c.nodeRefs := by
  intro c member ha ref inside _
  obtain ⟨id, _, rfl, live⟩ := mem_withoutMux member
  obtain rfl : ref = ⟨r.id, id⟩ := by simpa [child, Child.nodeRefs] using inside
  exact lt_of_isLive live

theorem takenLists_withoutMux (r : Repository) (ids : List NodeId) :
    (r.withoutMux ids).flatMap Child.takenLists = [] :=
  List.flatMap_eq_nil_iff.mpr fun _ member => by
    obtain ⟨_, _, rfl, _⟩ := mem_withoutMux member
    rfl

theorem definitions_withoutMux (r : Repository) (ids : List NodeId) :
    (r.withoutMux ids).flatMap Child.definitions ⊆ [muxDefinition] := by
  have none : (r.withoutMux ids).flatMap Child.definitions = [] :=
    List.flatMap_eq_nil_iff.mpr fun _ member => by
      obtain ⟨_, _, rfl, _⟩ := mem_withoutMux member
      rfl
  rw [none]
  exact List.nil_subset _

theorem wellFormed_muxDefinition : (Child.pending muxDefinition).WellFormed := by
  rw [Child.WellFormed]
  refine Definition.wellFormed_ofParts _ ?_ ?_ ?_
  · simp [Record.WellFormed, Value.WellFormed, Value.WellFormedFields, OrderedMap.keys]
  · simp [ChildList.ofKeyed, ChildList.WellFormed, Entry.AllWellFormed, Entry.WellFormed,
      Child.WellFormed]
  · simp [ChildList.nil, ChildList.WellFormed, Entry.AllWellFormed]

theorem leads_obtainMux (location : Location) (r : Repository) :
    Leads (Step p) (obtainMux location) r fun _ _ => True := by
  rw [obtainMux]
  refine .get ?_
  cases r.mux with
  | some mux => exact .pure trivial
  | none =>
    refine .bind (P := fun _ _ => True)
      (.modifyGet (steps_nodeInScope r .root muxName location).1 trivial) fun mux r₁ _ _ => ?_
    refine .bind (leads_bind location r₁ (fun c same => ?_) fun _ c same => ?_) fun _ _ _ _ =>
      .pure trivial
    · cases same
      intro _ ref member
      cases member
    · cases same
      exact wellFormed_muxDefinition

/-- The hook takes steps only. -/
theorem leads_mux (location : Location) (r : Repository) (open' : ¬p.lists) :
    Leads (Step p) (Hook.mux location) r fun _ _ => True := by
  rw [Hook.mux]
  refine .get ?_
  dsimp only
  split
  · cases r.mux with
    | some mux => exact .modifyGet (.single (.keep _ _ _)) trivial
    | none => exact .pure trivial
  · refine .bind (leads_obtainMux location r) fun mux r₁ _ _ => ?_
    refine .bind (P := fun _ _ => True) (.modifyGet (steps_pin r₁ mux) trivial) fun _ r₂ _ _ =>
      .get ?_
    refine .bind (leads_extendChildren _ _ _ location r₂ allocates_withoutMux open')
      fun _ r₃ more _ => ?_
    exact leads_extendChildren _ _ _ location r₃
      (fun c member => (allocates_withoutMux c member).mono (Steps.extends more)) open'

/-- A run of the hook that has sinks or spigots to connect: it obtains the mux in `r₁`, and has
given it the sinks in `r₂`. -/
structure MuxRun (location : Location) (r r' : Repository) (mux : NodeId) (r₁ r₂ : Repository) :
    Prop where
  obtained : (obtainMux location).exec r = (.ok mux, r₁)
  sinks : (extendChildren .child mux ((r₁.pin mux).withoutMux (r₁.pin mux).sinks) location).exec
    (r₁.pin mux) = (.ok (), r₂)
  spigots : (extendChildren .step mux ((r₁.pin mux).withoutMux (r₁.pin mux).spigots) location).exec
    r₂ = (.ok (), r')

theorem exec_mux_ok {location : Location} (listed : ¬(r.sinks.isEmpty && r.spigots.isEmpty))
    (ran : (Hook.mux location).exec r = (.ok (), r')) :
    ∃ mux r₁ r₂, MuxRun location r r' mux r₁ r₂ := by
  rw [Hook.mux, exec_bind_of_ok (exec_get r)] at ran
  dsimp only at ran
  rw [if_neg listed] at ran
  obtain ⟨mux, r₁, obtained, ran⟩ := exec_bind_ok.mp ran
  rw [exec_bind_of_ok (exec_modify _ r₁), exec_bind_of_ok (exec_get _)] at ran
  obtain ⟨_, r₂, sinks, spigots⟩ := exec_bind_ok.mp ran
  exact ⟨mux, r₁, r₂, obtained, sinks, spigots⟩

namespace MuxRun

variable {location : Location} {mux : NodeId} {r₁ r₂ : Repository}

theorem first (run : MuxRun location r r' mux r₁ r₂) : Steps p r r₁ :=
  (leads_obtainMux location r).steps run.obtained

theorem second (run : MuxRun location r r' mux r₁ r₂) (open' : ¬p.lists) :
    Steps p (r₁.pin mux) r₂ :=
  (leads_extendChildren _ _ _ location _ allocates_withoutMux open').steps run.sinks

theorem third (run : MuxRun location r r' mux r₁ r₂) (open' : ¬p.lists) : Steps p r₂ r' :=
  (leads_extendChildren _ _ _ location _ (fun c member =>
    (allocates_withoutMux c member).mono (run.second open').extends) open').steps run.spigots

theorem rest (run : MuxRun location r r' mux r₁ r₂) (open' : ¬p.lists) : Steps p r₁ r' :=
  ((steps_pin r₁ mux).trans (run.second open')).trans (run.third open')

/-- What is recorded on the way is recorded in the end. -/
theorem quiet (run : MuxRun location r r' mux r₁ r₂) (quiet : r'.errors = r.errors) :
    r₁.errors = r.errors := by
  have first : Steps .none r r₁ := run.first
  have rest : Steps .none r₁ r' := run.rest not_false
  exact (first.extends.quiet rest.extends quiet).1

end MuxRun

/-- What binding attaches to a new mux: it has empty places only, and no step-children. -/
def resolvedMux : Definition :=
  { muxDefinition with
    children := { muxDefinition.children with resolved := true }
    steps := { muxDefinition.steps with resolved := true } }

/-- Binding a mux to a live node attaches it. -/
theorem exec_tryBind_mux {id : NodeId} (location : Location) (live : r.isLive id) :
    (tryBind id (.ok (.pending muxDefinition)) location).exec r =
      (attach id resolvedMux location).exec r := by
  obtain ⟨node, here⟩ := isLive_iff.mp live
  have children : (resolveChildren location node.scope muxDefinition.children).exec r =
      (.ok { muxDefinition.children with resolved := true }, r) :=
    exec_resolveChildren_settled location node.scope fun e member =>
      .inl (by simp at member; rcases member with rfl | rfl | rfl <;> rfl)
  have steps : (resolveChildren location node.scope muxDefinition.steps).exec r =
      (.ok { muxDefinition.steps with resolved := true }, r) :=
    exec_resolveChildren_settled location node.scope fun e member => by cases member
  rw [exec_tryBind location rfl here, exec_bind_of_ok children, exec_bind_of_ok steps]
  rfl

/-- Unless a diagnostic is recorded, the mux has been attached. -/
theorem exec_attach_of_bindMux {id : NodeId} {location : Location}
    (ran : (bind id (.ok (.pending muxDefinition)) location).exec r = (.ok (), r'))
    (quiet : r'.errors = r.errors) : (attach id resolvedMux location).exec r = (.ok (), r') := by
  have body := leads_tryBind (p := .none) location id (.ok (.pending muxDefinition)) r
    (fun _ _ ha => ha.elim) nofun
  have done := exec_recording_quiet (Steps.extends body.1).errors ran quiet
  rcases exec_tryBind_cases location id (.ok (.pending muxDefinition)) r with
    ⟨e, refused⟩ | ⟨_, _, node, _, _, here⟩
  · rw [refused] at done
    cases done
  · rwa [exec_tryBind_mux location (isLive_iff.mpr ⟨node, here⟩)] at done

/-- Unless a diagnostic is recorded, a mux that is not noted yet has been attached to the node of
its name. -/
theorem exec_attach_of_obtainMux {mux : NodeId} {location : Location} (unknown : r.mux = none)
    (ran : (obtainMux location).exec r = (.ok mux, r')) (quiet : r'.errors = r.errors) :
    (r.nodeInScope .root muxName location).1 = mux ∧
      (attach mux resolvedMux location).exec (r.nodeInScope .root muxName location).2 =
        (.ok (), r') := by
  rw [Repository.obtainMux, exec_bind_of_ok (exec_get r), unknown] at ran
  dsimp only at ran
  rw [exec_bind_of_ok (exec_modifyGet _ r)] at ran
  obtain ⟨_, r₁, bound, rest⟩ := exec_bind_ok.mp ran
  cases rest
  refine ⟨rfl, exec_attach_of_bindMux bound (quiet.trans ?_)⟩
  rw [Repository.nodeInScope, getOrCreate]
  split <;> rfl

/-- A mux that is noted is taken as it is. -/
theorem exec_obtainMux_known {mux : NodeId} (location : Location) (known : r.mux = some mux) :
    (obtainMux location).exec r = (.ok mux, r) := by
  rw [Repository.obtainMux, exec_bind_of_ok (exec_get r), known]
  rfl

theorem Complete.obtainMux (complete : r.Complete) {mux : NodeId} {location : Location}
    (ran : (obtainMux location).exec r = (.ok mux, r')) (quiet : r'.errors = r.errors) :
    r'.Complete := by
  cases noted : r.mux with
  | some known =>
    rw [exec_obtainMux_known location noted] at ran
    cases ran
    exact complete
  | none =>
    obtain ⟨_, attached⟩ := exec_attach_of_obtainMux noted ran quiet
    exact (complete.nodeInScope .root muxName location).attach attached
      fun child member => by cases member

theorem Complete.pin (complete : r.Complete) (id : NodeId) : (r.pin id).Complete := by
  rw [Repository.pin]
  split <;> exact complete

/-- Unless it records a diagnostic, the hook keeps every child bound. -/
theorem complete_mux (sound : Sound p r) (complete : r.Complete) (open' : ¬p.lists)
    {location : Location}
    (ran : (Hook.mux location).exec r = (.ok (), r')) (quiet : r'.errors = r.errors) :
    r'.Complete := by
  by_cases listed : r.sinks.isEmpty && r.spigots.isEmpty
  · rw [Hook.mux, exec_bind_of_ok (exec_get r)] at ran
    dsimp only at ran
    rw [if_pos listed] at ran
    cases noted : r.mux with
    | some mux =>
      rw [noted] at ran
      cases ran
      exact complete
    | none =>
      rw [noted] at ran
      cases ran
      exact complete
  · obtain ⟨mux, r₁, r₂, run⟩ := exec_mux_ok listed ran
    have second : Steps p (r₁.pin mux) r₂ := run.second open'
    have pinned : Steps p r (r₁.pin mux) := run.first.trans (steps_pin r₁ mux)
    have noted := (pinned.sound sound).noted
    have obtained : (r₁.pin mux).Complete :=
      (complete.obtainMux run.obtained (run.quiet quiet)).pin mux
    have connected : r₂.Complete := obtained.extendChildren
      (fun id member => noted id (.inl (List.mem_filter.mp member).1)) run.sinks
    have same : (r₁.pin mux).child = r₂.child := by
      funext id
      rw [child, child, second.extends.id]
    have spigots := run.spigots
    rw [withoutMux, same] at spigots
    exact connected.extendChildren (fun id member =>
      second.isBound (noted id (.inr (.inl (List.mem_filter.mp member).1)))) spigots

end Repository

end NodeForest

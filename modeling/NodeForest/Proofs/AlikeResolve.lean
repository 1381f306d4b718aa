import NodeForest.Proofs.AlikeBind
import NodeForest.Proofs.ForestImage

/-!
# Resolving alike

Repositories that differ in call sites only resolve alike: the check finds the same, the same nodes
are removed, and those that are left get the same numbers. What a resolve writes into the records is
the same, too, but for the description, which tells where a node was named.

Results:
1. `runAlike_reportUninitialized`: the check; `runAlike_mux`: the hook.
2. `Alike.settle`: what is removed, and which nodes are roots.
3. `Node.undescribed`, `Alike.place`: numbering.
4. `together_resolve`, `AlikeUpTo.forest`: a whole resolve, and the forest.
-/

namespace NodeForest

open NodeForest.Action

namespace Repository

variable {r r' : Repository}

/-! ## 1. The check and the hook -/

/-- A list of findings begins with one that names a failure. -/
def Headed (fs : List Finding) : Prop :=
  ∀ f ∈ fs.head?, f.diagnostic.isTrail = false

theorem headed_flatMap {α : Type} {read : α → List Finding} :
    ∀ {items : List α}, (∀ item ∈ items, Headed (read item)) → Headed (items.flatMap read)
  | [], _ => nofun
  | item :: items, each => by
    intro f first
    rw [List.flatMap_cons, List.head?_append, Option.mem_def, Option.or_eq_some_iff] at first
    rcases first with here | ⟨_, later⟩
    · exact each item List.mem_cons_self f here
    · exact headed_flatMap (fun item member => each item (List.mem_cons_of_mem _ member)) f later

theorem Headed.primary {f : Finding} {fs : List Finding} (headed : Headed (f :: fs)) :
    Diagnostic.primary ((f :: fs).map (·.diagnostic)) =
      f.diagnostic :: Diagnostic.primary (fs.map (·.diagnostic)) := by
  have failure : f.diagnostic.isTrail = false := headed f rfl
  simp [Diagnostic.primary, failure]

theorem headed_findings (r : Repository) : Headed r.findings := by
  refine headed_flatMap fun entry _ => headed_flatMap fun e _ => ?_
  cases e.child.nodeId? with
  | none => nofun
  | some child =>
    dsimp only
    split
    · nofun
    · intro f first
      rw [uninitializedFindings] at first
      split at first <;> cases first <;> rfl

/-- Whether an entry is offending does not depend on locations. -/
theorem offence?_unsited (parent : Node) (e : Entry) :
    (r.offence? parent.unsited e.unsited).map Diagnostic.unsited =
      (r.offence? parent e).map Diagnostic.unsited := by
  rw [offence?, offence?, Entry.child_unsited, Child.nodeId?_unsited]
  cases e.child.nodeId? with
  | none => rfl
  | some child =>
    dsimp only
    split
    · rfl
    · rw [Entry.label_unsited]
      rfl

namespace Alike

variable (alike : r.Alike r')

include alike

/-- The same entries are offending. -/
theorem offences : r.offences.map Diagnostic.unsited = r'.offences.map Diagnostic.unsited := by
  have bound : r.isBound = r'.isBound := funext alike.isBound
  have named : r.nameOf? = r'.nameOf? := funext alike.nameOf?
  have same : r.offence? = r'.offence? := by
    funext parent e
    rw [offence?, offence?, bound, named]
  rw [Repository.offences, Repository.offences, same]
  refine alike.read_entries (fun entries => ((entries.filter (·.2.isBound)).flatMap fun entry =>
    (entry.2.children.entries ++ entry.2.steps.entries).filterMap (r'.offence? entry.2)).map
      Diagnostic.unsited) fun entries => ?_
  simp only [List.map_flatMap, List.map_filterMap, List.filter_map, List.flatMap_map,
    Function.comp_def, Node.isBound_unsited, Node.children_unsited, Node.steps_unsited,
    ChildList.entries_unsited, ← List.map_append, List.filterMap_map, offence?_unsited]

theorem findings_eq_nil : r.findings = [] ↔ r'.findings = [] := by
  simp only [Repository.findings_eq_nil, Complete, alike.childIdsOf, alike.isBound]

/-- The same is recorded for what is found. -/
theorem recorded_findings (o : Options) :
    SameErrors (r.findings.flatMap (·.recorded o)) (r'.findings.flatMap (·.recorded o)) where
  empty := by
    have none (fs : List Finding) : fs.flatMap (·.recorded o) = [] ↔ fs = [] := by
      cases fs <;> simp [Finding.recorded, recorded_ne_nil]
    rw [none, none, alike.findings_eq_nil]
  primary := by
    simp only [primary_recorded_findings, primary_findings, alike.offences]

end Alike

/-- Without a limit all findings are recorded. -/
theorem exec_addErrors_unlimited (collecting : r.options.testing = false)
    (unlimited : r.options.errorLimit = none) (fs : List Finding) :
    (fs.forM fun f => addError f.diagnostic f.trail).exec r =
      (.ok (), r.noting (fs.flatMap (·.recorded r.options))) := by
  obtain ⟨k, _, outcome, run, ends⟩ := exec_addErrors collecting fs
  rcases ends with ⟨rfl, rfl⟩ | ⟨_, reached⟩
  · rw [run, notingFindings, List.take_length]
  · obtain ⟨limit, same, _⟩ := limitReached_iff.mp reached
    cases same.symm.trans unlimited

/-- The check comes to the same. -/
theorem runAlike_reportUninitialized : RunAlike Eq reportUninitialized reportUninitialized := by
  intro r r' alike
  refine .of_exec (exec_reportUninitialized r) (exec_reportUninitialized r') ?_
  cases testing : r.options.testing with
  | true =>
    refine .of_runs (exec_addErrors_testing testing _)
      (exec_addErrors_testing (alike.options ▸ testing) _) ?_ alike
    -- The trails differ, but what is returned is the first finding, and that one names a failure.
    have failures := alike.offences
    rw [← primary_findings, ← primary_findings] at failures
    have headed := r.headed_findings
    have headed' := r'.headed_findings
    have empty := alike.findings_eq_nil
    cases found : r.findings with
    | nil =>
      rw [empty.mp found]
      exact .ok rfl
    | cons f fs =>
      cases found' : r'.findings with
      | nil => cases found.symm.trans (empty.mpr found')
      | cons f' fs' =>
        rw [found] at failures headed
        rw [found'] at failures headed'
        rw [headed.primary, headed'.primary] at failures
        exact .error (.diagnostic (List.cons.inj failures).1)
  | false =>
    have run := exec_addErrors_unlimited testing alike.unlimited r.findings
    have run' := exec_addErrors_unlimited (alike.options ▸ testing)
      (alike.options ▸ alike.unlimited) r'.findings
    rw [← alike.options] at run'
    refine .of_runs run run' (.ok rfl) ?_
    have errors := alike.errors.append (alike.recorded_findings r.options)
    obtain ⟨nodes, _, unlimited⟩ := alike
    exact .sites nodes errors unlimited

theorem Alike.withoutMux (alike : r.Alike r') (ids : List NodeId) :
    r.withoutMux ids = r'.withoutMux ids := by
  have mux (parent : NodeId) : (r.get? parent).bind (·.className?) =
      (r'.get? parent).bind (·.className?) := by
    obtain ⟨gone, gone'⟩ | ⟨n, n', here, here', same⟩ := alike.node_cases parent
    · rw [gone, gone']
    · rw [here, here', Option.bind_some, Option.bind_some, ← n.className?_unsited, same,
        Node.className?_unsited]
  have kept (id : NodeId) : (r.get? id).any (!r.hasMuxParent ·) =
      (r'.get? id).any (!r'.hasMuxParent ·) := by
    simp only [hasMuxParent, mux]
    exact alike.any_get? id fun _ => rfl
  have children : r.child = r'.child := by
    funext id
    rw [child, child, alike.id]
  rw [Repository.withoutMux, Repository.withoutMux, children]
  simp only [kept]

theorem withoutMux_unsited (r : Repository) (ids : List NodeId) :
    (r.withoutMux ids).map (·.unsited) = r.withoutMux ids := by
  rw [withoutMux, List.map_map]
  exact List.map_congr_left fun id _ => by rw [Function.comp_apply, child, Child.unsited]

theorem unsited_muxDefinition : muxDefinition.unsited = muxDefinition := by
  simp [muxDefinition, Definition.ofParts, Definition.unsited, ChildList.unsited,
    ChildList.ofKeyed, ChildList.nil, Entry.allUnsited, Entry.unsited, Child.unsited]

section

variable (location location' : Location)

theorem runAlike_obtainMux : RunAlike Eq (obtainMux location) (obtainMux location') := by
  intro r r' alike
  rw [obtainMux, obtainMux]
  refine .get ?_
  rw [← alike.mux]
  cases r.mux with
  | some mux => exact .pure rfl alike
  | none =>
    obtain ⟨found, after⟩ := alike.nodeInScope .root muxName location location'
    refine .bind (V := Eq) (.modifyGet found after) ?_
    rintro id _ r₁ r₁' rfl alike₁
    have bound := runAlike_bind location location' id (.ok (.pending muxDefinition))
    rw [unsitedArgument, Child.unsited, unsited_muxDefinition] at bound
    exact .bind (bound _ _ alike₁) fun _ _ _ _ _ alike₂ => .pure rfl alike₂

theorem runAlike_mux : RunAlike Eq (Hook.mux location) (Hook.mux location') := by
  intro r r' alike
  rw [Hook.mux, Hook.mux]
  refine .get ?_
  rw [← alike.sinks, ← alike.spigots, ← alike.mux]
  dsimp only
  split
  · cases r.mux with
    | some mux => exact .modifyGet rfl (alike.unpin mux)
    | none => exact .pure rfl alike
  · refine .bind (runAlike_obtainMux location location' _ _ alike) ?_
    rintro mux _ r₁ r₁' rfl alike₁
    refine .bind (V := Eq) (.modifyGet rfl (alike₁.pin mux)) fun _ _ r₂ r₂' _ alike₂ => .get ?_
    rw [← alike₂.sinks, ← alike₂.spigots, ← alike₂.withoutMux, ← alike₂.withoutMux]
    have extended (role : ChildRole) (ids : List NodeId) :
        RunAlike Eq (extendChildren role mux (r₂.withoutMux ids) location)
          (extendChildren role mux (r₂.withoutMux ids) location') := by
      have unsited := runAlike_extendChildren location location' role mux (r₂.withoutMux ids)
      rwa [withoutMux_unsited] at unsited
    exact .bind (extended .child _ _ _ alike₂) fun _ _ _ _ _ alike₃ => extended .step _ _ _ alike₃

theorem runAlike_prepare {hook : Hook Unit} (either : hook = Hook.idle ∨ hook = Hook.mux) :
    RunAlike Eq (prepare hook location) (prepare hook location') := by
  intro r r' alike
  refine .bind (runAlike_reportUninitialized _ _ alike) fun _ _ r₁ r₁' _ alike₁ => ?_
  rcases either with rfl | rfl
  · exact .pure rfl alike₁
  · exact runAlike_mux location location' _ _ alike₁

end

/-! ## 2. Settling -/

namespace Alike

theorem remove (alike : r.Alike r') (id : NodeId) : (r.remove id).Alike (r'.remove id) := by
  obtain ⟨nodes, errors, unlimited⟩ := alike
  refine .sites ?_ errors unlimited
  rw [Repository.remove, Array.map_setIfInBounds, Array.map_setIfInBounds, nodes]

theorem detach (alike : r.Alike r') (id : NodeId) : (r.detach id).Alike (r'.detach id) := by
  obtain ⟨gone, gone'⟩ | ⟨n, n', here, here', _⟩ := alike.node_cases id
  · rwa [detach_of_gone gone, detach_of_gone gone']
  · rw [detach_of_get? here, detach_of_get? here', ← alike.childIdsOf]
    refine (alike.remove id).updateAll _ fun n n' same => ?_
    have erased : n.unsited.withoutParent id = n'.unsited.withoutParent id := by rw [same]
    exact erased

theorem compact (alike : r.Alike r') : r.compact.Alike r'.compact := by
  have live : r.isLive = r'.isLive := funext alike.isLive
  rw [Repository.compact, Repository.compact, live]
  obtain ⟨nodes, errors, unlimited⟩ := alike
  exact .sites nodes errors unlimited

theorem removeUnbound (alike : r.Alike r') : r.removeUnbound.Alike r'.removeUnbound := by
  have unbound : (r.entries.filter (!·.2.isBound)).map Prod.fst =
      (r'.entries.filter (!·.2.isBound)).map Prod.fst := by
    refine alike.read_entries (fun entries => (entries.filter (!·.2.isBound)).map Prod.fst)
      fun entries => ?_
    simp only [List.filter_map, List.map_map, Function.comp_def, Node.isBound_unsited]
  have removed := AlikeUpTo.foldl (fun id alike => Alike.detach alike id)
    ((r.entries.filter (!·.2.isBound)).map Prod.fst) alike
  rw [List.foldl_map, unbound, List.foldl_map] at removed
  exact Alike.compact removed

theorem isOrphan (alike : r.Alike r') (id : NodeId) : r.isOrphan id = r'.isOrphan id := by
  have kept : r.isReferenced id = r'.isReferenced id := by cases alike; rfl
  rw [Repository.isOrphan, Repository.isOrphan, kept]
  exact alike.any_get? id fun _ => rfl

theorem rootsAmong (alike : r.Alike r') (ids : List NodeId) :
    r.rootsAmong ids = r'.rootsAmong ids := by
  refine List.filterMap_congr fun id _ => ?_
  obtain ⟨gone, gone'⟩ | ⟨n, n', here, here', same⟩ := alike.node_cases id
  · rw [gone, gone']
  · have name : n.name = n'.name := (congrArg Node.name same :)
    have parents : n.parents = n'.parents := (congrArg Node.parents same :)
    rw [here, here', Option.filter_some, Option.filter_some, parents]
    split <;> simp [name]

theorem sweep (alike : r.Alike r') (roots : OrderedMap String NodeId) (pending : List NodeId) :
    (r.sweep roots pending).1.Alike (r'.sweep roots pending).1 ∧
      (r.sweep roots pending).2 = (r'.sweep roots pending).2 := by
  -- On the sweep of the first; the second finds the same orphan each time.
  induction r, roots, pending using Repository.sweep.induct generalizing r' with
  | case1 r roots pending done =>
    have orphan : r.isOrphan = r'.isOrphan := funext alike.isOrphan
    rw [sweep_of_stay roots done, sweep_of_stay roots (orphan ▸ done), ← orphan,
      ← alike.rootsAmong]
    exact ⟨alike, rfl⟩
  | case2 r roots pending roots' id rest found =>
    rename_i ih
    have orphan : r.isOrphan = r'.isOrphan := funext alike.isOrphan
    rw [sweep_of_orphan roots found, sweep_of_orphan roots (orphan ▸ found), ← orphan,
      ← alike.rootsAmong, ← alike.childIdsOf]
    exact ih (alike.detach id)

/-- The same nodes are left, and the same of them are roots. -/
theorem settle (alike : r.Alike r') :
    r.settle.1.Alike r'.settle.1 ∧ r.settle.2 = r'.settle.2 := by
  have tops {α : Type} (read : NodeId → String → α) :
      r.parentless.map (fun entry => read entry.1 entry.2.name) =
        r'.parentless.map fun entry => read entry.1 entry.2.name := by
    refine alike.read_entries (fun entries => (entries.filter fun entry => entry.2.isBound &&
      entry.2.parents.isEmpty).map fun entry => read entry.1 entry.2.name) fun entries => ?_
    simp only [List.filter_map, List.map_map, Function.comp_def, Node.isBound_unsited]
    rfl
  have bound := alike.removeUnbound
  simp only [Repository.settle, ← bound.options]
  split
  · exact ⟨bound, congrArg OrderedMap.ofList (tops fun id name => (name, id))⟩
  · obtain ⟨swept, roots⟩ := bound.sweep [] (r.parentless.map Prod.fst)
    rw [← tops fun id _ => id]
    exact ⟨swept.compact, roots⟩

end Alike

end Repository

/-! ## 3. Numbering -/

/-- The value of a field, without the description of a node. -/
def undescribedField (key : String) (value : Value) : Value :=
  if key = Repository.descriptionKey then .text "" else value

/-- The record with an empty text for the description of its node, if it has one. -/
def Record.undescribed (record : Record) : Record :=
  record.map fun (key, value) => (key, undescribedField key value)

theorem Record.undescribed_undescribed (record : Record) :
    Record.undescribed (Record.undescribed record) = Record.undescribed record := by
  have twice (key : String) (value : Value) :
      undescribedField key (undescribedField key value) = undescribedField key value := by
    rw [undescribedField]
    split
    · rw [undescribedField, if_pos ‹_›]
    · rfl
  simp only [Record.undescribed, List.map_map, Function.comp_def, twice]

/-- The node without its description. -/
def Node.undescribed (n : Node) : Node :=
  { n with binding := n.binding.map fun b => { b with record := Record.undescribed b.record } }

namespace Repository

/-- The repositories differ in call sites, and in the descriptions that hold some of them. -/
abbrev AlikeResolved (r r' : Repository) : Prop :=
  AlikeUpTo (Node.undescribed ∘ Node.unsited) r r'

theorem undescribed_insertAll (record : Record) {fields fields' : List (String × Value)}
    (same : Record.undescribed fields = Record.undescribed fields') :
    Record.undescribed (OrderedMap.insertAll record fields) =
      Record.undescribed (OrderedMap.insertAll (Record.undescribed record) fields') := by
  have inserted (record : Record) (fields : List (String × Value)) :
      Record.undescribed (OrderedMap.insertAll record fields) =
        OrderedMap.insertAll (Record.undescribed record) (Record.undescribed fields) :=
    (OrderedMap.insertAll_map undescribedField fields record).symm
  rw [inserted, inserted, Record.undescribed_undescribed, same]

/-- The fields that a resolve writes hold no location but that in the description. -/
theorem undescribed_placedFields (n : Node) (className : String) (p : Placement) :
    Record.undescribed (placedFields n className p) =
      Record.undescribed (placedFields n.unsited.undescribed className p) := by
  simp [placedFields, Record.undescribed, undescribedField, Node.undescribed, Node.unsited]

theorem childIndices_unsited (ids : List NodeId) (l : ChildList) :
    childIndices ids l.unsited = childIndices ids l := by
  simp [childIndices, indicesOf, indexIn, Function.comp_def]

theorem indicesOf_unsited (ids : List NodeId) (l : ChildList) :
    indicesOf ids l.unsited = indicesOf ids l := by
  simp [indicesOf, indexIn, Function.comp_def]

/-- Numbering depends on locations in the description only. -/
theorem undescribed_placeNode (ids : List NodeId) (i : Nat) (n : Node) :
    (placeNode ids i n).unsited.undescribed =
      (placeNode ids i n.unsited.undescribed).unsited.undescribed := by
  cases bound : n.binding with
  | none => simp [placeNode, Node.undescribed, Node.unsited, bound]
  | some b =>
    have fields := undescribed_insertAll b.record (undescribed_placedFields n b.className
      ⟨i + 1, childIndices ids b.children, indicesOf ids b.steps⟩)
    simp only [placeNode, Node.undescribed, Node.unsited, Binding.unsited, bound, Option.map_some,
      childIndices_unsited, indicesOf_unsited, ChildList.unsited_unsited] at fields ⊢
    rw [fields]

namespace AlikeUpTo

variable {erase : Node → Node}

/-- What is the same as far as `erase` leaves it, is the same when more is left out. -/
theorem leaving {more : Node → Node} (alike : AlikeUpTo erase r r') :
    AlikeUpTo (more ∘ erase) r r' := by
  obtain ⟨nodes, errors, unlimited⟩ := alike
  refine .sites ?_ errors unlimited
  have left := congrArg (Array.map (·.map more)) nodes
  simpa only [Array.map_map, Function.comp_def, Option.map_map] using left

theorem liveIds (alike : AlikeUpTo erase r r') : r.liveIds = r'.liveIds := by
  have same := congrArg (List.map Prod.fst) alike.entries
  rwa [List.map_map, List.map_map] at same

theorem withPhase (alike : AlikeUpTo erase r r') (phase : Phase) :
    AlikeUpTo erase { r with phase } { r' with phase } := by
  obtain ⟨nodes, errors, unlimited⟩ := alike
  exact .sites nodes errors unlimited

end AlikeUpTo

theorem AlikeResolved.place {r r' : Repository} (alike : r.AlikeResolved r') :
    r.place.AlikeResolved r'.place := by
  rw [Repository.place, Repository.place, ← alike.liveIds]
  refine AlikeUpTo.foldl (fun given alike => alike.update given.1 fun n n' same => ?_) _ alike
  have same : n.unsited.undescribed = n'.unsited.undescribed := same
  rw [Function.comp_apply, undescribed_placeNode, same, ← undescribed_placeNode,
    Function.comp_apply]

/-! ## 4. A whole resolve -/

/-- Repositories that are alike resolve alike, with either hook. -/
theorem together_resolve {hook : Hook Unit} (either : hook = Hook.idle ∨ hook = Hook.mux)
    (location location' : Location) (alike : r.Alike r') :
    Together AlikeResolved SameFailure Eq
      (resolve hook location) (resolve hook location') r r' := by
  cases phase : r.phase with
  | resolved roots =>
    have phase' : r'.phase = .resolved roots := alike.phase ▸ phase
    exact .of_runs (exec_resolve_resolved _ _ phase) (exec_resolve_resolved _ _ phase') (.ok rfl)
      alike.leaving
  | failed =>
    have phase' : r'.phase = .failed := alike.phase ▸ phase
    exact .of_runs (exec_resolve_failed _ _ phase) (exec_resolve_failed _ _ phase')
      (.error (.cumulative alike.errors)) alike.leaving
  | building =>
    have run := exec_resolve_prepare hook location phase
    have run' := exec_resolve_prepare hook location' (alike.phase ▸ phase)
    obtain ⟨outcomes, states⟩ := runAlike_prepare location location' either _ _ alike
    rcases first : (prepare hook location).exec r with ⟨x, r₁⟩
    rcases second : (prepare hook location').exec r' with ⟨x', r₁'⟩
    rw [first, second] at outcomes states
    rw [first] at run
    rw [second] at run'
    rcases outcomes with ⟨values⟩ | ⟨failures⟩
    · -- Nodes are numbered or not by whether errors are recorded, so the lists must be empty alike.
      obtain ⟨settled, roots⟩ := states.settle
      have errors := settled.errors
      dsimp only at run run'
      simp only [List.isEmpty_iff] at run run'
      split at run
      · rename_i none
        rw [if_pos (errors.empty.mp none), ← roots] at run'
        exact .of_runs run run' (.ok rfl)
          (AlikeUpTo.withPhase (AlikeResolved.place settled.leaving) _)
      · rename_i some
        rw [if_neg (some ∘ errors.empty.mpr)] at run'
        exact .of_runs run run' (.error (.cumulative errors)) (settled.leaving.withPhase .failed)
    · exact .of_runs run run' (.error failures) (states.leaving.withPhase .failed)

end Repository

/-- The entry of a node without its description. -/
def ForestNode.undescribed (e : ForestNode) : ForestNode :=
  { e with record := Record.undescribed e.record }

/-- The forest without the descriptions of the nodes. -/
def Forest.undescribed (f : Forest) : Forest :=
  { f with nodes := f.nodes.map (·.undescribed) }

namespace Repository

theorem forestNode?_undescribed (n : Node) :
    forestNode? n.unsited.undescribed = (forestNode? n).map (·.undescribed) := by
  cases bound : n.binding with
  | none => simp [forestNode?, Node.undescribed, Node.unsited, bound]
  | some b =>
    cases placed : b.placement with
    | none => simp [forestNode?, Node.undescribed, Node.unsited, Binding.unsited, bound, placed]
    | some p =>
      simp [forestNode?, Node.undescribed, Node.unsited, Binding.unsited, bound, placed,
        ForestNode.undescribed]

/-- Their forests differ in descriptions only. -/
theorem AlikeResolved.forest {r r' : Repository} (alike : r.AlikeResolved r') :
    r.forest.map (·.undescribed) = r'.forest.map (·.undescribed) := by
  have roots : r.roots? = r'.roots? := by cases alike; rfl
  have nodes := congrArg (List.filterMap fun entry => forestNode? entry.2) alike.entries
  simp only [List.filterMap_map, Function.comp_def, forestNode?_undescribed,
    ← List.map_filterMap] at nodes
  rw [Repository.forest, Repository.forest, roots]
  cases r'.roots? with
  | error e => rfl
  | ok roots =>
    exact congrArg (fun nodes => Except.ok (Forest.mk nodes (OrderedMap.keys roots))) nodes

end Repository

end NodeForest

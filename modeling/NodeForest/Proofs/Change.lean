import NodeForest.Proofs.Connect
import NodeForest.Proofs.Origin
import NodeForest.Proofs.Placement
import NodeForest.Proofs.Sweep

/-!
# The whole life of a repository

A resolve changes a repository in other ways than operations do: it settles, numbers the nodes that
are left, and notes how far the repository has come. `Change` lists these beside the steps, so that
what holds before and after every resolve is shown once for each kind of change. Nothing is promised
here about what holds before: removals are described for every repository.

Results:
1. `Thinned`: what removals leave; `removals_settle`, `lists_settle`: settling is removals.
2. `LeadsTo.changes`: operations and resolves are sequences of changes.
3. `Change.continues`, `Change.names`, `Change.gone`, `Change.linked`: what every change keeps.
4. `Reachable.names`, `Changes.linked`: the same for runs.
5. `Reachable.resolve`: the hooks that there are call public operations only.
-/

namespace NodeForest

open Relation NodeForest.Action

namespace Repository

/-! ## 1. Removals -/

/-- `r'` is what removals leave of `r`: nodes that have perhaps lost parents, and lists in which
everything is as before that is still live. -/
structure Thinned (r r' : Repository) : Prop where
  node : ∀ {id n'}, r'.get? id = some n' →
    ∃ n, r.get? id = some n ∧ n' = { n with parents := n'.parents }
  size : r'.nodes.size = r.nodes.size
  id : r'.id = r.id
  options : r'.options = r.options
  errors : r'.errors = r.errors
  scopes : r'.scopes = r.scopes
  frames : r'.frames = r.frames
  sinks : r'.sinks.filter r'.isLive = r.sinks.filter r'.isLive
  spigots : r'.spigots.filter r'.isLive = r.spigots.filter r'.isLive
  constants : (r'.constants.filter fun entry => r'.isLive entry.2) =
    r.constants.filter fun entry => r'.isLive entry.2
  mux : ∀ {id}, r'.mux = some id → r.mux = some id ∧ (r.isLive id → r'.isLive id)

namespace Thinned

variable {r r' : Repository}

theorem refl (r : Repository) : Thinned r r :=
  ⟨fun here => ⟨_, here, rfl⟩, rfl, rfl, rfl, rfl, rfl, rfl, rfl, rfl, rfl,
    fun noted => ⟨noted, fun live => live⟩⟩

theorem isLive (h : Thinned r r') {id : NodeId} (live : r'.isLive id) : r.isLive id := by
  obtain ⟨n', here⟩ := isLive_iff.mp live
  obtain ⟨n, there, _⟩ := h.node here
  exact isLive_iff.mpr ⟨n, there⟩

/-- Lists that agree in what is live agree in what is live later. -/
theorem filter_congr (h : Thinned r r') {α : Type} (f : α → NodeId) {l l' : List α}
    (same : (l.filter fun a => r.isLive (f a)) = l'.filter fun a => r.isLive (f a)) :
    (l.filter fun a => r'.isLive (f a)) = l'.filter fun a => r'.isLive (f a) := by
  have again (l : List α) : (l.filter fun a => r'.isLive (f a)) =
      (l.filter fun a => r.isLive (f a)).filter fun a => r'.isLive (f a) := by
    rw [List.filter_filter]
    refine List.filter_congr fun a _ => ?_
    rw [eq_comm, Bool.and_eq_left_iff_imp]
    exact h.isLive
  rw [again l, again l', same]

theorem trans {r₁ r₂ r₃ : Repository} (h : Thinned r₁ r₂) (h' : Thinned r₂ r₃) : Thinned r₁ r₃ where
  node := by
    intro id n₃ here
    obtain ⟨n₂, there, same⟩ := h'.node here
    obtain ⟨n₁, first, same'⟩ := h.node there
    exact ⟨n₁, first, by rw [same, same']⟩
  size := h'.size.trans h.size
  id := h'.id.trans h.id
  options := h'.options.trans h.options
  errors := h'.errors.trans h.errors
  scopes := h'.scopes.trans h.scopes
  frames := h'.frames.trans h.frames
  sinks := h'.sinks.trans (h'.filter_congr (fun id => id) h.sinks)
  spigots := h'.spigots.trans (h'.filter_congr (fun id => id) h.spigots)
  constants := h'.constants.trans (h'.filter_congr Prod.snd h.constants)
  mux := by
    intro id noted
    obtain ⟨before, live⟩ := h'.mux noted
    obtain ⟨first, live'⟩ := h.mux before
    exact ⟨first, fun here => live (live' here)⟩

end Thinned

theorem thinned_compact (r : Repository) : Thinned r r.compact where
  node := fun here => ⟨_, here, rfl⟩
  size := rfl
  id := rfl
  options := rfl
  errors := rfl
  scopes := rfl
  frames := rfl
  sinks := by
    change (r.sinks.filter r.isLive).filter r.isLive = r.sinks.filter r.isLive
    simp
  spigots := by
    change (r.spigots.filter r.isLive).filter r.isLive = r.spigots.filter r.isLive
    simp
  constants := by
    let live : Constant × NodeId → Bool := fun entry => r.isLive entry.2
    change (r.constants.filter live).filter live = r.constants.filter live
    simp
  mux := fun noted => ⟨noted, fun live => live⟩

variable {r r' : Repository}

/-- A node that is left after its removal from some parent lists is as before otherwise. -/
theorem get?_updateAll_withoutParent {parent id : NodeId} {n' : Node} :
    ∀ (ids : List NodeId) (r : Repository),
      (r.updateAll ids (·.withoutParent parent)).get? id = some n' →
        ∃ n, r.get? id = some n ∧ n' = { n with parents := n'.parents }
  | [], _, here => ⟨n', here, rfl⟩
  | first :: ids, r, here => by
    rw [updateAll, List.foldl_cons, ← updateAll] at here
    obtain ⟨n₁, there, same⟩ := get?_updateAll_withoutParent ids _ here
    rw [get?_update] at there
    split at there
    · obtain ⟨n, before, rfl⟩ := Option.map_eq_some_iff.mp there
      exact ⟨n, before, same⟩
    · exact ⟨n₁, there, same⟩

theorem thinned_detach (r : Repository) (id : NodeId) : Thinned r (r.detach id) := by
  cases here : r.get? id with
  | none => rw [detach_of_gone here]; exact .refl r
  | some n =>
    have live (other : NodeId) := isLive_detach r id other
    have rest := updateAll_eq (r.remove id) (r.childIdsOf id) (·.withoutParent id)
    rw [← detach_of_get? here] at rest
    refine ⟨fun {other n'} left => ?_, nodes_size_detach r id, (detach_rest r id).1,
      (detach_rest r id).2.1, (detach_rest r id).2.2, ?_, ?_, ?_, ?_, ?_, ?_⟩
    · rw [detach_of_get? here] at left
      obtain ⟨n₁, there, same⟩ := get?_updateAll_withoutParent _ _ left
      rw [get?_remove] at there
      split at there
      · cases there
      · exact ⟨n₁, there, same⟩
    · rw [rest]
      rfl
    · rw [rest]
      rfl
    · rw [show (r.detach id).sinks = r.sinks by rw [rest]; rfl]
    · rw [show (r.detach id).spigots = r.spigots by rw [rest]; rfl]
    · rw [show (r.detach id).constants = r.constants by rw [rest]; rfl]
    · intro other noted
      rw [show (r.detach id).mux = r.mux.filter (· != id) by rw [rest]; rfl] at noted
      obtain ⟨before, different⟩ := Option.filter_eq_some_iff.mp noted
      exact ⟨before, fun here => by rw [live, here, different]; rfl⟩

theorem Removals.thinned (h : Removals r r') : Thinned r r' := by
  induction h with
  | refl => exact .refl r
  | tail _ last ih =>
    cases last with
    | detach id => exact ih.trans (thinned_detach _ id)
    | compact => exact ih.trans (thinned_compact _)

theorem removals_sweep (r : Repository) (roots : OrderedMap String NodeId) (pending : List NodeId) :
    Removals r (r.sweep roots pending).1 := by
  fun_induction sweep r roots pending with
  | case1 r => exact .refl
  | case2 r roots pending top id rest found ih => exact .head (.detach r id) ih

theorem removals_settle (r : Repository) : Removals r r.settle.1 := by
  have unbound := removals_removeUnbound r
  rw [settle]
  split
  · exact unbound
  · exact (unbound.trans (removals_sweep ..)).tail (.compact _)

/-- Settling removes nodes, and drops them from the lists last. -/
theorem settle_eq_compact (r : Repository) : ∃ r', Thinned r r' ∧ r.settle.1 = r'.compact := by
  rw [settle]
  split
  · exact ⟨_, (removals_foldl_detach _ r).thinned, rfl⟩
  · exact ⟨_, (removals_removeUnbound r).thinned.trans (removals_sweep ..).thinned, rfl⟩

theorem thinned_settle (r : Repository) : Thinned r r.settle.1 :=
  (removals_settle r).thinned

/-- The lists of sinks and spigots and the constants hold what is left of them. -/
theorem lists_settle (r : Repository) :
    r.settle.1.sinks = r.sinks.filter r.settle.1.isLive ∧
      r.settle.1.spigots = r.spigots.filter r.settle.1.isLive ∧
        r.settle.1.constants = r.constants.filter fun entry => r.settle.1.isLive entry.2 := by
  obtain ⟨r₁, thinned, same⟩ := settle_eq_compact r
  rw [same]
  exact ⟨thinned.sinks, thinned.spigots, thinned.constants⟩

/-- Where parents and children agree, they do in what is left. -/
theorem remains_settle (linked : r.Linked) : Remains r r.settle.1 :=
  (removals_settle r).remains linked

/-! ## 2. Changes -/

/-- One change of a repository in its whole life, its steps being under the promise `p`. -/
inductive Change (p : Promise) : Repository → Repository → Prop
  | step {r r' : Repository} : Step p r r' → Change p r r'
  | settle (r : Repository) : Change p r r.settle.1
  | place (r : Repository) : Change p r r.place
  | turn (r : Repository) (phase : Phase) : Change p r { r with phase }

/-- Any number of changes. -/
abbrev Changes (p : Promise) : Repository → Repository → Prop :=
  ReflTransGen (Change p)

variable {p : Promise}

theorem Steps.changes (h : Steps p r r') : Changes p r r' :=
  ReflTransGen.mono (fun _ _ => .step) _ _ h

/-- A relation under which falls whatever a resolve does besides calling its hook. -/
structure Covers (S : Repository → Repository → Prop) : Prop where
  note : ∀ r ds, S r { r with errors := r.errors ++ ds }
  settle : ∀ r : Repository, S r r.settle.1
  place : ∀ r : Repository, S r r.place
  turn : ∀ (r : Repository) phase, S r { r with phase }

theorem Covers.change : Covers (Change p) :=
  ⟨fun _ ds => .step (.note ds), .settle, .place, .turn⟩

theorem Covers.mono {S S' : Repository → Repository → Prop} (covers : Covers S)
    (weaker : ∀ r r', S r r' → S' r r') : Covers S' :=
  ⟨fun r ds => weaker _ _ (covers.note r ds), fun r => weaker _ _ (covers.settle r),
    fun r => weaker _ _ (covers.place r), fun r phase => weaker _ _ (covers.turn r phase)⟩

section

variable {S : Repository → Repository → Prop} (covers : Covers S)

include covers

theorem Covers.reports (r : Repository) :
    ReflTransGen S r (reportUninitialized.exec r).2 := by
  obtain ⟨ds, same⟩ := errors_reportUninitialized r
  rw [same]
  exact .single (covers.note r ds)

theorem Covers.runResolve {α : Type} {hook : Hook α} {location : Location}
    (hooked : ∀ r₂, reportUninitialized.exec r = (.ok (), r₂) →
      ReflTransGen S r₂ ((hook location).exec r₂).2) :
    Leads S (runResolve hook location) r fun _ _ => True := by
  have reports : Leads S reportUninitialized r fun y r₂ =>
      reportUninitialized.exec r = (.ok y, r₂) :=
    ⟨covers.reports r, fun _ ok => Prod.ext ok rfl⟩
  rw [Repository.runResolve]
  refine .bind reports fun _ r₂ _ passed => ?_
  refine .bind (P := fun _ _ => True) ⟨hooked r₂ passed, fun _ _ => trivial⟩ fun given r₃ _ _ =>
    .get ?_
  refine .bind (P := fun _ r₄ => r₄ = r₃.settle.1) (.set (.single (covers.settle r₃)) rfl) ?_
  rintro _ r₄ _ rfl
  dsimp only
  split
  · exact .bind (P := fun _ _ => False) (.throw _) fun _ _ _ h => h.elim
  · refine .bind (P := fun _ _ => True) (.set (.single (covers.place _)) trivial) fun _ _ _ _ => ?_
    exact .pure trivial

theorem Covers.resolve {α : Type} {hook : Hook α} {location : Location}
    (hooked : ∀ r₂, r.phase = .building → reportUninitialized.exec r = (.ok (), r₂) →
      ReflTransGen S r₂ ((hook location).exec r₂).2) :
    ReflTransGen S r ((resolve hook location).exec r).2 := by
  cases phase : r.phase with
  | resolved roots => rw [exec_resolve_resolved hook location phase]
  | failed => rw [exec_resolve_failed hook location phase]
  | building =>
    have attempt : ReflTransGen S r ((Repository.runResolve hook location).exec r).2 :=
      (covers.runResolve (hooked · phase)).1
    rw [exec_resolve hook location phase]
    rcases run : (Repository.runResolve hook location).exec r with ⟨e | ⟨roots, given⟩, r₁⟩ <;>
      rw [run] at attempt
    · exact attempt.tail (covers.turn r₁ .failed)
    · exact attempt.tail (covers.turn r₁ (.resolved roots))

/-- A relation that covers the allowed operations, too, covers whole runs. -/
theorem Covers.leadsTo {allowed : Repository → Operation → Prop} (h : LeadsTo allowed r r')
    (operations : ∀ r op, allowed r op → ReflTransGen S r (op.after r)) : ReflTransGen S r r' := by
  induction h with
  | refl => exact .refl
  | operation op _ allow ih => exact ih.trans (operations _ op allow)
  | @inHook _ r₁ _ _ _ passed ih =>
    have reports := covers.reports r₁
    rw [passed] at reports
    exact ih.trans reports
  | resolve hook location _ _ ih hooked => exact ih.trans (covers.resolve hooked)

end

/-- What operations and resolves lead to comes by changes. -/
theorem LeadsTo.changes {allowed : Repository → Operation → Prop} (h : LeadsTo allowed r r')
    (keeps : ∀ r op, allowed r op → p.Allows r op) : Changes p r r' :=
  Covers.change.leadsTo h fun r op allow => Steps.changes (Operation.steps (keeps r op allow))

/-- What allowed operations keep, and whatever a resolve does besides, is kept by whole runs. -/
theorem LeadsTo.kept {allowed : Repository → Operation → Prop} {I : Repository → Prop}
    (h : LeadsTo allowed r r') (covers : Covers fun r r' => I r → I r')
    (operations : ∀ r op, allowed r op → I r → I (op.after r)) (start : I r) : I r' := by
  replace h := covers.leadsTo h fun r op allow => .single (operations r op allow)
  induction h with
  | refl => exact start
  | tail _ last ih => exact last ih

/-! ## 3. What every change keeps -/

end Repository

/-- The nodes are alike but for their parents, their fields and their numbers. -/
structure Node.Resembles (n n' : Node) : Prop where
  name : n'.name = n.name
  basename : n'.basename = n.basename
  quals : n'.quals = n.quals
  binding : ∀ {b'}, n'.binding = some b' → ∃ b, n.binding = some b ∧
    b'.className = b.className ∧ b'.children = b.children ∧ b'.steps = b.steps

namespace Repository

variable {p : Promise} {r r' : Repository}

/-- `r'` has some of the nodes of `r`, and no others. -/
structure Reduced (r r' : Repository) : Prop where
  node : ∀ {id n'}, r'.get? id = some n' → ∃ n, r.get? id = some n ∧ n.Resembles n'
  size : r'.nodes.size = r.nodes.size
  id : r'.id = r.id

theorem Thinned.reduced (h : Thinned r r') : Reduced r r' where
  node := by
    intro id n' here
    obtain ⟨n, there, same⟩ := h.node here
    refine ⟨n, there, by rw [same], by rw [same], by rw [same], fun {b'} bound => ?_⟩
    rw [same] at bound
    exact ⟨b', bound, rfl, rfl, rfl⟩
  size := h.size
  id := h.id

theorem reduced_place (r : Repository) : Reduced r r.place where
  node := by
    intro id n' here
    rw [get?_place] at here
    obtain ⟨n, there, rfl⟩ := Option.map_eq_some_iff.mp here
    refine ⟨n, there, rfl, rfl, rfl, fun {b'} bound => ?_⟩
    obtain ⟨b, was, rfl⟩ := Option.map_eq_some_iff.mp bound
    exact ⟨b, was, rfl, rfl, rfl⟩
  size := nodes_size_place r
  id := id_place r

/-- A change is a step, or it brings no node. -/
theorem Change.cases (h : Change p r r') : Step p r r' ∨ Reduced r r' := by
  cases h with
  | step h => exact .inl h
  | settle => exact .inr (thinned_settle r).reduced
  | place => exact .inr (reduced_place r)
  | turn phase => exact .inr ⟨fun {_ n} here => ⟨n, here, rfl, rfl, rfl, fun {b} bound =>
      ⟨b, bound, rfl, rfl, rfl⟩⟩, rfl, rfl⟩

theorem Change.size (h : Change p r r') : r.nodes.size ≤ r'.nodes.size := by
  rcases h.cases with step | reduced
  · exact step.extends.size
  · exact Nat.le_of_eq reduced.size.symm

/-- What no change takes from a repository. -/
structure Continues (r r' : Repository) : Prop where
  id : r'.id = r.id
  options : r'.options = r.options
  errors : r.errors <+: r'.errors

namespace Continues

theorem refl (r : Repository) : Continues r r :=
  ⟨rfl, rfl, List.prefix_refl _⟩

theorem trans {r₁ r₂ r₃ : Repository} (h : Continues r₁ r₂) (h' : Continues r₂ r₃) :
    Continues r₁ r₃ :=
  ⟨h'.id.trans h.id, h'.options.trans h.options, h.errors.trans h'.errors⟩

end Continues

theorem Extends.continues (h : Extends r r') : Continues r r' :=
  ⟨h.id, h.options, h.errors⟩

theorem Change.continues (h : Change p r r') : Continues r r' := by
  cases h with
  | step h => exact h.extends.continues
  | settle =>
    have thinned := thinned_settle r
    exact ⟨thinned.id, thinned.options, by rw [thinned.errors]⟩
  | place =>
    rw [place_eq]
    exact ⟨rfl, rfl, List.prefix_refl _⟩
  | turn phase => exact ⟨rfl, rfl, List.prefix_refl _⟩

/-- No change brings a removed node back. -/
theorem Change.gone (h : Change p r r') {id : NodeId} (given : id.index < r.nodes.size)
    (gone : r.get? id = none) : r'.get? id = none := by
  rcases h.cases with step | reduced
  · exact step.gone given gone
  · by_contra here
    obtain ⟨n', here⟩ := Option.ne_none_iff_exists'.mp here
    obtain ⟨n, there, _⟩ := reduced.node here
    rw [gone] at there
    cases there

theorem Change.names (h : Change p r r') (names : r.DistinctNames) : r'.DistinctNames := by
  rcases h.cases with step | reduced
  · exact step.names names
  · intro id id' n n' here here' same
    obtain ⟨n₀, there, resembles⟩ := reduced.node here
    obtain ⟨n₀', there', resembles'⟩ := reduced.node here'
    exact names there there' (by rw [← resembles.name, ← resembles'.name, same])

theorem Change.fits (h : Change p r r') (fit : r.ChildrenFit p) : r'.ChildrenFit p := by
  rcases h.cases with step | reduced
  · exact step.fits fit
  · intro id b' here ref member
    obtain ⟨n', live, bound⟩ := Option.bind_eq_some_iff.mp here
    obtain ⟨n, there, resembles⟩ := reduced.node live
    obtain ⟨b, was, _, children, steps⟩ := resembles.binding bound
    rw [children, steps] at member
    rw [reduced.id, reduced.size]
    exact fit (by rw [bindingOf?_of_get? there, was]) ref member

theorem childIdsOf_place (r : Repository) (id : NodeId) :
    r.place.childIdsOf id = r.childIdsOf id := by
  rw [childIdsOf, get?_place, Option.map_map, childIdsOf]
  congr 2
  funext n
  simp only [Function.comp, placeNode, Node.childIds]
  cases n.binding <;> rfl

theorem Linked.place (linked : r.Linked) : r.place.Linked := by
  have parents (id : NodeId) : r.place.parentsOf id = r.parentsOf id := by
    rw [parentsOf, get?_place, Option.map_map]
    rfl
  refine ⟨fun id => by rw [parents]; exact linked.nodup id, fun {child parent} live => ?_⟩
  rw [isLive_place] at live
  rw [parents, childIdsOf_place]
  exact linked.mem_parents live

theorem Change.linked (h : Change p r r') (fit : r.ChildrenFit p) (linked : r.Linked)
    (allocated : p.allocated) : r'.Linked := by
  cases h with
  | step h => exact h.linked fit linked allocated
  | settle => exact (remains_settle linked).linked
  | place => exact linked.place
  | turn => exact ⟨linked.nodup, linked.mem_parents⟩

/-! ## 4. Runs -/

theorem Changes.names (h : Changes p r r') (names : r.DistinctNames) : r'.DistinctNames := by
  induction h with
  | refl => exact names
  | tail _ last ih => exact last.names ih

theorem Changes.fits (h : Changes p r r') (fit : r.ChildrenFit p) : r'.ChildrenFit p := by
  induction h with
  | refl => exact fit
  | tail _ last ih => exact last.fits ih

theorem Changes.linked (h : Changes p r r') (fit : r.ChildrenFit p) (linked : r.Linked)
    (allocated : p.allocated) : r'.ChildrenFit p ∧ r'.Linked := by
  induction h with
  | refl => exact ⟨fit, linked⟩
  | tail _ last ih => exact ⟨last.fits ih.1, last.linked ih.1 ih.2 allocated⟩

theorem Changes.continues (h : Changes p r r') : Continues r r' := by
  induction h with
  | refl => exact .refl r
  | tail _ last ih => exact ih.trans last.continues

theorem LeadsTo.continues {allowed : Repository → Operation → Prop} (h : LeadsTo allowed r r') :
    Continues r r' :=
  (h.changes fun r op _ => Promise.allows_none r op).continues

theorem Changes.size (h : Changes p r r') : r.nodes.size ≤ r'.nodes.size := by
  induction h with
  | refl => exact Nat.le_refl _
  | tail _ last ih => exact Nat.le_trans ih last.size

/-- A number that has lost its node never gets one again. -/
theorem Changes.gone (h : Changes p r r') {id : NodeId} (given : id.index < r.nodes.size)
    (gone : r.get? id = none) : id.index < r'.nodes.size ∧ r'.get? id = none := by
  induction h with
  | refl => exact ⟨given, gone⟩
  | tail _ last ih => exact ⟨Nat.lt_of_lt_of_le ih.1 last.size, last.gone ih.1 ih.2⟩

theorem Reachable.changes {allowed : Repository → Operation → Prop} (h : Reachable allowed r)
    (keeps : ∀ r op, allowed r op → p.Allows r op) :
    ∃ id options, Changes p (start id options) r := by
  obtain ⟨id, options, led⟩ := h
  exact ⟨id, options, led.changes keeps⟩

theorem Reachable.linked {allowed : Repository → Operation → Prop} (h : Reachable allowed r)
    (keeps : ∀ r op, allowed r op → op.NamesAllocated r) :
    r.ChildrenFit .allocating ∧ r.Linked := by
  obtain ⟨id, options, changes⟩ := h.changes fun r op allow =>
    Promise.allows_allocating r op (keeps r op allow)
  have sound := Sound.start (p := .allocating) id options
  exact changes.linked sound.fits (sound.linked trivial) trivial

theorem Reachable.names {allowed : Repository → Operation → Prop} (h : Reachable allowed r) :
    r.DistinctNames := by
  obtain ⟨id, options, changes⟩ := h.changes fun r op _ => Promise.allows_none r op
  exact changes.names (Sound.start (p := .none) id options).names

/-! ## 5. The hooks that there are -/

/-- All that the hooks hand in are references to live nodes and the definition of a mux, in which no
list counts as resolved. -/
structure FromHook (r : Repository) (op : Operation) : Prop where
  named : op.NamesAllocated r
  taken : op.takenLists = []
  definitions : op.definitions ⊆ [muxDefinition]

theorem FromHook.of_none {op : Operation} (none : op.arguments = []) : FromHook r op where
  named := fun c member => by rw [none] at member; cases member
  taken := by rw [Operation.takenLists, none, List.flatMap_nil]
  definitions := by
    cases op with
    | bind _ argument =>
      cases argument <;> simp [Operation.arguments, Operation.definitions] at none ⊢
    | bindAnonymous => cases none
    | extend _ _ children =>
      obtain rfl : children = [] := none
      exact List.nil_subset _
    | _ => exact List.nil_subset _

/-- A public operation that is allowed. -/
def Calls (allowed : Repository → Operation → Prop) (r r' : Repository) : Prop :=
  ∃ op : Operation, allowed r op ∧ r' = op.after r

section

variable {allowed : Repository → Operation → Prop}

theorem LeadsTo.mono {allowed' : Repository → Operation → Prop} (h : LeadsTo allowed r r')
    (weaker : ∀ r op, allowed r op → allowed' r op) : LeadsTo allowed' r r' := by
  induction h with
  | refl => exact .refl _
  | operation op _ allow ih => exact .operation op ih (weaker _ op allow)
  | inHook _ building passed ih => exact .inHook ih building passed
  | resolve hook location _ _ ih hooked => exact .resolve hook location ih hooked

theorem LeadsTo.trans {r₁ : Repository} (h : LeadsTo allowed r r₁) (h' : LeadsTo allowed r₁ r') :
    LeadsTo allowed r r' := by
  induction h' with
  | refl => exact h
  | operation op _ allow ih => exact .operation op (ih h) allow
  | inHook _ building passed ih => exact .inHook (ih h) building passed
  | resolve hook location _ hooked ih _ => exact .resolve hook location (ih h) hooked

theorem Reachable.trans (h : Reachable allowed r) (h' : LeadsTo allowed r r') :
    Reachable allowed r' := by
  obtain ⟨id, options, led⟩ := h
  exact ⟨id, options, led.trans h'⟩

theorem LeadsTo.calls (h : ReflTransGen (Calls allowed) r r') : LeadsTo allowed r r' := by
  induction h with
  | refl => exact .refl r
  | tail _ last ih =>
    obtain ⟨op, allow, rfl⟩ := last
    exact .operation op ih allow

theorem leads_call {α : Type} {a : Action α} (op : Operation) (allow : allowed r op)
    (same : (exec a r).2 = op.after r) : Leads (Calls allowed) a r fun _ r' => r' = op.after r :=
  ⟨.single ⟨op, allow, same⟩, fun _ _ => same⟩

section

variable (fine : ∀ r op, FromHook r op → allowed r op)

include fine

theorem leads_call_of_none {α : Type} {a : Action α} (op : Operation) (none : op.arguments = [])
    (same : (exec a r).2 = op.after r) : Leads (Calls allowed) a r fun _ r' => r' = op.after r :=
  leads_call op (fine r op (.of_none none)) same

/-- The hook for the data mux calls public operations only. -/
theorem leadsTo_mux (location : Location) (r : Repository) :
    LeadsTo allowed r ((Hook.mux location).exec r).2 := by
  have obtains (r : Repository) :
      Leads (Calls allowed) (obtainMux location) r fun _ _ => True := by
    rw [obtainMux]
    refine .get ?_
    cases r.mux with
    | some mux => exact .pure trivial
    | none =>
      refine .bind (leads_call_of_none fine (.node .root muxName location) rfl rfl)
        fun mux r₁ _ _ => ?_
      refine .bind (leads_call (.bind mux (.ok (.pending muxDefinition)) location)
        (fine _ _ ⟨fun c member ref inside => ?_, rfl, List.Subset.refl _⟩) rfl)
          fun _ _ _ _ => .pure trivial
      obtain rfl := List.mem_singleton.mp member
      cases inside
  have connects (role : ChildRole) (mux : NodeId) (r₀ r : Repository) (ids : List NodeId)
      (given : ∀ c ∈ r₀.withoutMux ids, Allocates .allocating r c.nodeRefs) :=
    leads_call (a := extendChildren role mux (r₀.withoutMux ids) location)
      (.extend role mux (r₀.withoutMux ids) location)
      (fine r _ ⟨fun c member => given c member trivial, takenLists_withoutMux r₀ ids,
        definitions_withoutMux r₀ ids⟩) rfl
  refine LeadsTo.calls (Leads.get (Q := fun _ _ => True) ?_).1
  dsimp only
  split
  · cases r.mux with
    | some mux => exact (leads_call_of_none fine (.unpin mux) rfl rfl).forget
    | none => exact .pure trivial
  · refine .bind (obtains r) fun mux r₁ _ _ => ?_
    refine .bind (leads_call_of_none fine (.pin mux) rfl rfl) fun _ r₂ _ _ => .get ?_
    refine .bind (connects .child mux r₂ r₂ r₂.sinks allocates_withoutMux) ?_
    rintro _ r₃ _ rfl
    have more := Operation.extends_after (.extend .child mux (r₂.withoutMux r₂.sinks) location) r₂
    exact (connects .step mux r₂ _ r₂.spigots
      fun c member => (allocates_withoutMux c member).mono more).forget

theorem leadsTo_either {hook : Hook Unit} (either : hook = Hook.idle ∨ hook = Hook.mux)
    (location : Location) (r : Repository) : LeadsTo allowed r ((hook location).exec r).2 := by
  rcases either with rfl | rfl
  · exact .refl r
  · exact leadsTo_mux fine location r

end

theorem leadsTo_hook
    (fine : ∀ r (op : Operation), op.NamesAllocated r → op.takenLists = [] → allowed r op)
    {hook : Hook Unit} (either : hook = Hook.idle ∨ hook = Hook.mux) (location : Location)
    (r : Repository) : LeadsTo allowed r ((hook location).exec r).2 :=
  leadsTo_either (fun r op given => fine r op given.named given.taken) either location r

/-- A resolve with either hook leads on, whether it fails or not. -/
theorem Reachable.resolve (fine : ∀ r (op : Operation), op.NamesAllocated r → allowed r op)
    {hook : Hook Unit} (either : hook = Hook.idle ∨ hook = Hook.mux) (location : Location)
    (reached : Reachable allowed r) :
    Reachable allowed ((resolve hook location).exec r).2 := by
  obtain ⟨id, options, led⟩ := reached
  exact ⟨id, options, .resolve hook location led fun r₂ _ _ =>
    leadsTo_hook (fun r op named _ => fine r op named) either location r₂⟩

end

end Repository

end NodeForest

import NodeForest.Proofs.ForestImage
import NodeForest.Proofs.Growth
import NodeForest.Proofs.Journal

/-!
# A resolved forest is frozen

A repository can be changed after a successful resolve as before: nodes are named and bound, lists
extended, diagnostics recorded. The forest is read off the repository each time, and it stays: only
a resolve gives numbers, a further resolve does nothing, and operations neither remove a numbered
node nor change its name or class. The numbers of its children were written down by the resolve, so
it does not matter that its lists are extended. Its record is the one thing that can change.

Results:
1. `ForestNode.Persists`, `Frozen`: the entry of a node later on, and what keeps all entries.
2. `Step.placementOf?`: no step numbers a node, or takes its number.
3. `Operation.frozen`, `Runs.frozen`: what operations and whole runs keep.
4. `Runs.rootsGiven`: roots are nodes that the repository has given.
5. `forest_frozen`: roots and forest after any further run over several repositories.
-/

namespace NodeForest

open NodeForest.Action

/-! ## 1. Entries that stay -/

/-- The entry of a node later on. Its record is as before unless fields of the node of this name
have been set. -/
structure ForestNode.Persists (sets : String → Prop) (e e' : ForestNode) : Prop where
  index : e'.index = e.index
  name : e'.name = e.name
  className : e'.className = e.className
  children : e'.children = e.children
  steps : e'.steps = e.steps
  record : ¬sets e.name → e'.record = e.record

/-- The forest later on: its entries in the same order, and its roots. -/
structure Forest.Persists (sets : String → Prop) (f f' : Forest) : Prop where
  nodes : List.Forall₂ (ForestNode.Persists sets) f.nodes f'.nodes
  roots : f'.roots = f.roots

namespace ForestNode.Persists

variable {sets sets' : String → Prop}

theorem refl (e : ForestNode) : e.Persists sets e :=
  ⟨rfl, rfl, rfl, rfl, rfl, fun _ => rfl⟩

theorem trans {e₁ e₂ e₃ : ForestNode} (h : e₁.Persists sets e₂) (h' : e₂.Persists sets e₃) :
    e₁.Persists sets e₃ where
  index := h'.index.trans h.index
  name := h'.name.trans h.name
  className := h'.className.trans h.className
  children := h'.children.trans h.children
  steps := h'.steps.trans h.steps
  record := fun unset => (h'.record (h.name ▸ unset)).trans (h.record unset)

theorem mono (weaker : ∀ name, sets name → sets' name) {e e' : ForestNode}
    (h : e.Persists sets e') : e.Persists sets' e' :=
  { h with record := fun unset => h.record fun set => unset (weaker _ set) }

/-! The same for nodes that perhaps have no entry. -/

variable {x y z : Option ForestNode}

theorem rel_refl (x : Option ForestNode) : Option.Rel (Persists sets) x x := by
  cases x with
  | none => exact .none
  | some e => exact .some (.refl e)

theorem rel_trans (h : Option.Rel (Persists sets) x y) (h' : Option.Rel (Persists sets) y z) :
    Option.Rel (Persists sets) x z := by
  cases h with
  | none => exact h'
  | some first =>
    cases h' with
    | some second => exact .some (first.trans second)

theorem rel_mono (weaker : ∀ name, sets name → sets' name) (h : Option.Rel (Persists sets) x y) :
    Option.Rel (Persists sets') x y := by
  cases h with
  | none => exact .none
  | some persists => exact .some (persists.mono weaker)

theorem eq_none_of_rel (h : Option.Rel (Persists sets) none y) : y = none := by
  cases h
  rfl

end ForestNode.Persists

/-- The entry sets fields of the node of this name. -/
def Event.SetsFields (e : Event) (name : String) : Prop :=
  ∃ id options location, e.request = .operation (.setOptions id options location) ∧
    e.before.nameOf? id = some name

namespace Repository

/-- The entry of a numbered node in the forest. -/
def entryOf? (r : Repository) (id : NodeId) : Option ForestNode :=
  (r.get? id).bind forestNode?

/-- What a resolve has assigned to a node. -/
def placementOf? (r : Repository) (id : NodeId) : Option Placement :=
  (r.get? id).bind Node.placement?

/-- `r'` shows what `r` shows, except in records of nodes whose fields have been set. -/
structure Frozen (sets : String → Prop) (r r' : Repository) : Prop where
  phase : r'.phase = r.phase
  size : r.nodes.size ≤ r'.nodes.size
  handle : ∀ {id : NodeId}, id.index < r.nodes.size → r'.handle? id = r.handle? id
  entry : ∀ id, Option.Rel (ForestNode.Persists sets) (r.entryOf? id) (r'.entryOf? id)

variable {sets sets' : String → Prop} {p : Promise} {r r' : Repository} {id : NodeId}

namespace Frozen

theorem refl (r : Repository) : Frozen sets r r :=
  ⟨rfl, Nat.le_refl _, fun _ => rfl, fun _ => ForestNode.Persists.rel_refl _⟩

theorem trans {r₁ r₂ r₃ : Repository} (h : Frozen sets r₁ r₂) (h' : Frozen sets r₂ r₃) :
    Frozen sets r₁ r₃ where
  phase := h'.phase.trans h.phase
  size := Nat.le_trans h.size h'.size
  handle := fun given => (h'.handle (Nat.lt_of_lt_of_le given h.size)).trans (h.handle given)
  entry := fun id => ForestNode.Persists.rel_trans (h.entry id) (h'.entry id)

theorem mono (weaker : ∀ name, sets name → sets' name) (h : Frozen sets r r') :
    Frozen sets' r r' :=
  { h with entry := fun id => ForestNode.Persists.rel_mono weaker (h.entry id) }

end Frozen

/-- The forest lists the entries by the numbers of the nodes. -/
theorem forest_of_resolved {roots : OrderedMap String NodeId} (resolved : r.phase = .resolved roots) :
    r.forest = .ok ⟨(List.range r.nodes.size).filterMap fun i => r.entryOf? ⟨i⟩,
      OrderedMap.keys roots⟩ := by
  have found : r.roots? = .ok roots := by rw [roots?, resolved]
  have nodes : r.entries.filterMap (fun entry => forestNode? entry.2) =
      (List.range r.nodes.size).filterMap fun i => r.entryOf? ⟨i⟩ := by
    rw [entries, List.filterMap_filterMap]
    congr 1
    funext i
    rw [entryOf?]
    cases r.get? ⟨i⟩ <;> rfl
  rw [forest, found, nodes]
  rfl

theorem entryOf?_gone (gone : r.get? id = none) : r.entryOf? id = none := by
  rw [entryOf?, gone]
  rfl

/-- A node that `r` does not have yet gets no entry. -/
theorem Frozen.entryOf?_beyond (frozen : Frozen sets r r') (new : r.nodes.size ≤ id.index) :
    r'.entryOf? id = none := by
  have entry := frozen.entry id
  rw [entryOf?_gone (get?_eq_none new)] at entry
  exact ForestNode.Persists.eq_none_of_rel entry

/-- The forests of both list the same nodes in the same order. -/
theorem Frozen.forest {roots : OrderedMap String NodeId} (frozen : Frozen sets r r')
    (resolved : r.phase = .resolved roots) :
    ∃ f f', r.forest = .ok f ∧ r'.forest = .ok f' ∧ f.Persists sets f' := by
  refine ⟨_, _, forest_of_resolved resolved, forest_of_resolved (frozen.phase.trans resolved), ?_,
    rfl⟩
  obtain ⟨more, longer⟩ := Nat.exists_eq_add_of_le frozen.size
  have beyond : ((List.range more).map (r.nodes.size + ·)).filterMap
      (fun i => r'.entryOf? ⟨i⟩) = [] := by
    rw [List.filterMap_eq_nil_iff]
    intro i member
    obtain ⟨k, _, rfl⟩ := List.mem_map.mp member
    exact frozen.entryOf?_beyond (Nat.le_add_right _ _)
  rw [longer, List.range_add, List.filterMap_append, beyond, List.append_nil]
  refine List.rel_filterMap (R := Eq) ?_ (List.forall₂_refl _)
  rintro i _ rfl
  exact frozen.entry ⟨i⟩

/-- Handles to nodes that were there have the same names later on. -/
theorem Frozen.handles {roots : OrderedMap String NodeId} (frozen : Frozen sets r r')
    (given : ∀ entry ∈ roots, entry.2.index < r.nodes.size) :
    r'.handles (OrderedMap.values roots) = r.handles (OrderedMap.values roots) := by
  refine List.filterMap_congr fun id member => ?_
  obtain ⟨entry, listed, rfl⟩ := List.mem_map.mp member
  exact frozen.handle (given entry listed)

/-! ## 2. Numbers are given by a resolve only -/

theorem placementOf?_gone (gone : r.get? id = none) : r.placementOf? id = none := by
  rw [placementOf?, gone]
  rfl

theorem placement?_withParent (n : Node) (parent : NodeId) :
    (n.withParent parent).placement? = n.placement? := by
  rw [Node.placement?, Node.binding_withParent, Node.placement?]

/-- A changed definition and further parents leave the numbers, if the change does. -/
theorem placementOf?_relink {target : NodeId} {f : Option Binding → Option Binding}
    {children : List NodeId}
    (keeps : ∀ n, r.get? target = some n → (f n.binding).bind (·.placement) = n.placement?) :
    (r.relink target f children).placementOf? id = r.placementOf? id := by
  rw [placementOf?, get?_relink, placementOf?]
  cases here : r.get? id with
  | none => rfl
  | some n =>
    rw [Option.map_some, Option.bind_some, Option.bind_some]
    dsimp only
    have changed : (if id = target then { n with binding := f n.binding } else n).placement? =
        n.placement? := by
      split
      · rename_i same
        exact keeps n (same ▸ here)
      · rfl
    split
    · rw [placement?_withParent, changed]
    · exact changed

/-- No step numbers a node, or takes its number. -/
theorem Step.placementOf? (h : Step p r r') : r'.placementOf? id = r.placementOf? id := by
  have fresh (n : Node) (unplaced : n.placement? = none)
      (place : r'.get? id = if id.index = r.nodes.size then some n else r.get? id) :
      r'.placementOf? id = r.placementOf? id := by
    rw [Repository.placementOf?, place]
    split
    · rename_i new
      rw [placementOf?_gone (get?_eq_none (Nat.le_of_eq new.symm))]
      exact unplaced
    · rfl
  cases h with
  | register basename scope quals location => exact fresh _ rfl (get?_register ..)
  | share value location => exact fresh _ rfl (get?_withConstant ..)
  | @attach target n b here unbound unplaced =>
    rw [Repository.placementOf?, get?_noteClass]
    refine placementOf?_relink fun n' here' => ?_
    rw [here] at here'
    cases here'
    rw [Node.placement?, unbound]
    exact unplaced
  | extend role cs =>
    refine placementOf?_relink fun n _ => ?_
    rw [Node.placement?]
    cases n.binding with
    | none => rfl
    | some b => cases role <;> rfl
  | setFields target f =>
    refine placementOf?_relink fun n _ => ?_
    rw [Node.placement?]
    cases n.binding <;> rfl
  | note | count | openScope | keep => rfl

theorem Steps.placementOf? (h : Steps p r r') : r'.placementOf? id = r.placementOf? id := by
  induction h with
  | refl => rfl
  | tail _ last ih => exact last.placementOf?.trans ih

theorem forestNode?_eq_none {n : Node} : forestNode? n = none ↔ n.placement? = none := by
  rw [forestNode?, Node.placement?]
  cases n.binding with
  | none => exact iff_of_true rfl rfl
  | some b => cases placed : b.placement <;> simp [placed]

theorem entryOf?_eq_none : r.entryOf? id = none ↔ r.placementOf? id = none := by
  rw [entryOf?, placementOf?]
  cases r.get? id with
  | none => exact iff_of_true rfl rfl
  | some n => exact forestNode?_eq_none

/-! ## 3. Operations and runs -/

/-- An operation keeps the record of a node unless it sets fields of that node. -/
theorem record_kept {op : Operation} {n : Node} (here : r.get? id = some n)
    (unset : ¬(Event.mk (.operation op) r).SetsFields n.name) : (op.kept id).record := by
  cases op with
  | setOptions target options location =>
    rintro rfl
    exact unset ⟨id, options, location, rfl, by simp [nameOf?, here]⟩
  | _ => trivial

/-- A node that has an entry grows by an operation, and has its entry still. -/
theorem persists_of_grows {k : Kept} {n n' : Node} (grows : n.Grows k n')
    (placed : n'.placement? = n.placement?) (record : ¬sets n.name → k.record) :
    Option.Rel (ForestNode.Persists sets) (forestNode? n) (forestNode? n') := by
  cases unplaced : n.placement? with
  | none =>
    rw [forestNode?_eq_none.mpr unplaced, forestNode?_eq_none.mpr (placed.trans unplaced)]
    exact .none
  | some place =>
    obtain ⟨b, bound, here⟩ := Option.bind_eq_some_iff.mp unplaced
    obtain ⟨b', bound', more⟩ := grows.binding b bound
    have here' : b'.placement = some place := by
      rw [unplaced, Node.placement?, bound'] at placed
      exact placed
    rw [forestNode?, bound, forestNode?, bound']
    dsimp only [Option.bind_eq_bind, Option.bind_some]
    rw [here, here']
    exact .some ⟨rfl, grows.name, more.className, rfl, rfl, fun unset => more.record (record unset)⟩

/-- An operation leaves what the forest shows. -/
theorem frozen_after (op : Operation) (r : Repository) :
    Frozen (Event.mk (.operation op) r).SetsFields r (op.after r) := by
  have steps := Operation.steps (Promise.allows_none r op)
  have extends' := op.extends_after r
  have grown := op.grown op.spares_kept r
  refine ⟨extends'.phase, extends'.size, fun {id} given => ?_, fun id => ?_⟩
  · rw [handle?, handle?, extends'.id]
    cases here : r.get? id with
    | none => rw [steps.gone given here]
    | some n =>
      obtain ⟨n', here', grows⟩ := grown.node here
      rw [here', Option.map_some, Option.map_some, grows.name, grows.basename, grows.quals,
        grows.scope]
  · have placed : (op.after r).placementOf? id = r.placementOf? id := steps.placementOf?
    cases here : r.get? id with
    | none =>
      rw [placementOf?_gone here] at placed
      rw [entryOf?_gone here, entryOf?_eq_none.mpr placed]
      exact .none
    | some n =>
      obtain ⟨n', here', grows⟩ := grown.node here
      rw [placementOf?, here', placementOf?, here] at placed
      rw [entryOf?, here, entryOf?, here']
      exact persists_of_grows grows placed (record_kept here)

/-- After a resolve that has succeeded, a run leaves what the forest shows, with any resolves and
failures on the way. -/
theorem Runs.frozen {log : List Event} {roots : OrderedMap String NodeId} (run : Runs r log r')
    (resolved : r.phase = .resolved roots) :
    Frozen (fun name => ∃ e ∈ log, e.SetsFields name) r r' := by
  induction run with
  | refl => exact .refl _
  | @operation r r₁ log op _ ih =>
    refine ((ih resolved).mono ?_).trans ((frozen_after op r₁).mono ?_)
    · rintro name ⟨e, member, set⟩
      exact ⟨e, List.mem_append_left _ member, set⟩
    · exact fun name set => ⟨_, List.mem_append_right _ List.mem_cons_self, set⟩
  | inHook _ called ih =>
    have same := (ih resolved).phase.trans resolved
    rw [called.1] at same
    cases same
  | @resolve r r₁ log inside hook location _ _ idle ih _ =>
    have same := (ih resolved).phase.trans resolved
    -- The hook is not called again.
    have uncalled : inside = [] := idle fun r₂ called => by
      rw [called.1] at same
      cases same
    rw [Event.after_resolve, exec_resolve_resolved hook location same, uncalled, List.nil_append]
    refine (ih resolved).mono ?_
    rintro name ⟨e, member, set⟩
    exact ⟨e, List.mem_append_left _ member, set⟩

/-! ## 4. Roots -/

/-- The roots of a resolved repository have numbers that were given to nodes. -/
def RootsGiven (r : Repository) : Prop :=
  ∀ {roots}, r.phase = .resolved roots → ∀ entry ∈ roots, entry.2.index < r.nodes.size

theorem given_sweep {roots : OrderedMap String NodeId} (pending : List NodeId)
    (given : ∀ entry ∈ roots, entry.2.index < r.nodes.size) :
    ∀ entry ∈ (r.sweep roots pending).2, entry.2.index < r.nodes.size := by
  have among {r : Repository} {ids : List NodeId} {roots : OrderedMap String NodeId}
      (given : ∀ entry ∈ roots, entry.2.index < r.nodes.size) :
      ∀ entry ∈ OrderedMap.insertAll roots (r.rootsAmong ids), entry.2.index < r.nodes.size := by
    intro entry member
    rcases OrderedMap.mem_insertAll member with old | new
    · exact given entry old
    · obtain ⟨id, _, top⟩ := List.mem_filterMap.mp new
      obtain ⟨n, here, rfl⟩ := Option.map_eq_some_iff.mp top
      exact index_lt_of_get? (Option.filter_eq_some_iff.mp here).1
  fun_induction sweep r roots pending with
  | case1 r roots pending => exact among given
  | case2 r roots pending top id rest found ih =>
    have size := nodes_size_detach r id
    rw [← size]
    exact ih (by rw [size]; exact among given)

theorem given_settle (r : Repository) : ∀ entry ∈ r.settle.2, entry.2.index < r.nodes.size := by
  intro entry member
  rw [settle] at member
  split at member
  · obtain ⟨top, listed, rfl⟩ := List.mem_map.mp (OrderedMap.mem_ofList member)
    exact index_lt_of_get? (mem_parentless.mp listed).1
  · rw [← (removals_removeUnbound r).thinned.size]
    exact given_sweep _ (fun _ none => absurd none List.not_mem_nil) entry member

theorem rootsGiven_resolve {hook : Hook Unit} {location : Location} (given : r.RootsGiven) :
    ((resolve hook location).exec r).2.RootsGiven := by
  cases phase : r.phase with
  | resolved roots => rw [exec_resolve_resolved hook location phase]; exact given
  | failed => rw [exec_resolve_failed hook location phase]; exact given
  | building =>
    rcases run : (resolve hook location).exec r with ⟨e | y, r'⟩
    · intro roots resolved
      rw [exec_resolve hook location phase] at run
      rcases attempt : (runResolve hook location).exec r with ⟨_ | _, _⟩ <;> rw [attempt] at run <;>
        cases run
      cases resolved
    · obtain ⟨_, _, r₂, _, _, _, rfl⟩ := numbered_of_hook phase run
      intro roots resolved entry member
      cases resolved
      have size : (r₂.settle.1.numbered r₂.settle.2).nodes.size = r₂.nodes.size :=
        (nodes_size_place _).trans (thinned_settle r₂).size
      rw [size]
      exact given_settle r₂ entry member

theorem Runs.rootsGiven {log : List Event} (run : Runs r log r') (given : r.RootsGiven) :
    r'.RootsGiven := by
  induction run with
  | refl => exact given
  | @operation r r₁ log op _ ih =>
    have extends' := op.extends_after r₁
    intro roots resolved entry member
    exact Nat.lt_of_lt_of_le (ih given (extends'.phase.symm.trans resolved) entry member)
      extends'.size
  | @inHook r r₁ r₂ log _ called ih =>
    have reports := Steps.extends ((leads_reportUninitialized (p := .none) r₁).steps called.2)
    intro roots resolved
    rw [reports.phase, called.1] at resolved
    cases resolved
  | @resolve r r₁ log inside hook location _ _ _ ih _ =>
    rw [Event.after_resolve]
    exact rootsGiven_resolve (ih given)

/-- A resolve whose hook does what a run does is a run. -/
theorem runs_resolve {inside : List Event} {hook : Hook Unit} {location : Location}
    (hooked : ∀ r₂, r.CallsHook r₂ → Runs r₂ inside ((hook location).exec r₂).2) :
    ∃ log, Runs r log ((resolve hook location).exec r).2 := by
  rw [← Event.after_resolve]
  by_cases called : ∃ r₂, r.CallsHook r₂
  · exact ⟨_, .resolve hook location (.refl r) hooked fun none => absurd called (not_exists.mpr none)⟩
  · exact ⟨_, .resolve hook location (.refl r) (fun r₂ here => absurd ⟨r₂, here⟩ called)
      fun _ => rfl⟩

theorem phase_of_resolve {α : Type} {hook : Hook α} {location : Location} {given : Option α}
    (resolved : (resolve hook location).exec r = (.ok given, r')) :
    ∃ roots, r'.phase = .resolved roots := by
  cases phase : r.phase with
  | resolved roots =>
    rw [exec_resolve_resolved hook location phase] at resolved
    cases resolved
    exact ⟨roots, phase⟩
  | failed =>
    rw [exec_resolve_failed hook location phase] at resolved
    cases resolved
  | building =>
    obtain ⟨_, _, r₂, _, _, _, rfl⟩ := numbered_of_hook phase resolved
    exact ⟨_, rfl⟩

end Repository

/-! ## 5. Runs over several repositories -/

section

variable {w w₁ w₂ : Workspace} {s : ScopeRef}

/-- What can be read off a resolved repository through one of its scopes. -/
structure Workspace.Shows (w : Workspace) (s : ScopeRef) (roots : OrderedMap String NodeId)
    (handles : List Handle) (f : Forest) : Prop where
  roots : (w.repository s.repository).roots? = .ok roots
  rootNodes : s.rootNodes.run.run w = (.ok handles, w)
  forest : s.forest.run.run w = (.ok f, w)

theorem Workspace.shows_of_resolved {roots : OrderedMap String NodeId} {f : Forest}
    (resolved : (w.repository s.repository).phase = .resolved roots)
    (image : (w.repository s.repository).forest = .ok f) :
    w.Shows s roots ((w.repository s.repository).handles (OrderedMap.values roots)) f := by
  have found : (w.repository s.repository).roots? = .ok roots := by
    rw [Repository.roots?, resolved]
  refine ⟨found, ?_, ?_⟩
  · rw [ScopeRef.rootNodes, ScopeRef.read, run_readIn_bind, found]
    rfl
  · rw [ScopeRef.forest, ScopeRef.read, run_readIn_bind, image]
    rfl

theorem ScopeRef.run_resolve (hook : Hook Unit) (location : Location) :
    (s.resolve hook location).run.run w =
      (((Repository.resolve hook location).exec (w.repository s.repository)).1,
        w.updateRepository s.repository fun _ =>
          ((Repository.resolve hook location).exec (w.repository s.repository)).2) :=
  rfl

/-- A resolved forest is frozen. After a resolve has succeeded, whatever is done in any of the
repositories, the roots stay, and the forest lists the same nodes in the same order, each with its
number, name, class, and the numbers of its children and step-children. A record differs only when
fields of that very node have been set. -/
theorem forest_frozen {log inside log' : List Event} {hook : Hook Unit} {location : Location}
    {given : Option Unit} (run : Workspace.Runs {} log w)
    (planted : (w.tree? s.repository).isSome)
    (hooked : ∀ r, (w.repository s.repository).CallsHook r →
      r.Runs inside ((hook location).exec r).2)
    (resolved : (s.resolve hook location).run.run w = (.ok given, w₁)) (more : w₁.Runs log' w₂) :
    ∃ roots handles f f', w₁.Shows s roots handles f ∧ w₂.Shows s roots handles f' ∧
      f.Persists (fun name => ∃ e ∈ log', e.home = s.repository ∧ e.SetsFields name) f' := by
  rcases here : (Repository.resolve hook location).exec (w.repository s.repository) with ⟨y, r₁⟩
  rw [ScopeRef.run_resolve, here] at resolved
  obtain ⟨rfl, rfl⟩ := Prod.mk.inj resolved
  -- The resolve belongs to the run so far, so the repository keeps its number and its roots.
  obtain ⟨_, attempt⟩ := Repository.runs_resolve hooked
  rw [here] at attempt
  obtain ⟨options, follows⟩ := run.begun rfl planted
  obtain ⟨roots, phase⟩ := Repository.phase_of_resolve here
  have rooted : r₁.RootsGiven := (follows.run.trans attempt).rootsGiven fun building => by
    cases building
  have number : r₁.id = s.repository := attempt.continues.id.trans (w.id_repository s.repository)
  have first : (w.updateRepository s.repository fun _ => r₁).repository s.repository = r₁ := by
    rw [Workspace.repository_updateRepository w number planted, if_pos rfl]
  have later : Workspace.Follows _ log' w₂ s.repository := more.follows (by
    rw [Workspace.isSome_tree?_updateRepository w number]
    exact planted)
  rw [first] at later
  have frozen := later.run.frozen phase
  obtain ⟨f, f', image, image', persists⟩ := frozen.forest phase
  have shows₁ := Workspace.shows_of_resolved (s := s) (by rw [first]; exact phase)
    (by rw [first]; exact image)
  have shows₂ := Workspace.shows_of_resolved (s := s) (frozen.phase.trans phase) image'
  rw [first, ← frozen.handles (rooted phase)] at shows₁
  refine ⟨roots, _, f, f', shows₁, shows₂, ?_, persists.roots⟩
  refine persists.nodes.imp fun e e' entry => entry.mono ?_
  rintro name ⟨event, member, sets⟩
  rw [List.mem_filter, decide_eq_true_iff] at member
  exact ⟨event, member.1, member.2, sets⟩

end

/-- The first repository holds what a resolve is to sweep, the second one is empty. -/
def twoTrees : Workspace :=
  ((({} : Workspace).plant {}).2.updateRepository ⟨0⟩ fun _ => Repository.cascading).plant {} |>.2

/-- The root scope of the first repository. -/
def firstScope : ScopeRef :=
  ⟨⟨0⟩, .root⟩

theorem runs_twoTrees : ∃ log, Workspace.Runs {} log twoTrees := by
  have bound := Repository.runs_afterAll Repository.cascadingOperations (.start ⟨0⟩ {})
  exact ⟨_, .plant {} (.within ⟨0⟩ (.plant {} (.refl {})) (by decide +kernel) bound)⟩

/-- The leaf gets a field, the sum another child, and a further node is bound over the sum. -/
def lateOperations : List Operation :=
  [.setOptions ⟨0⟩ [("gain", .int 2)] default, .extend .child ⟨5⟩ [.name "ring"] default,
    .node .root "late" default,
    .bind ⟨7⟩ (.ok (.pending (.ofParts (.standard "Negate") (.positional [.name "kept"]) .nil [])))
      default]

/-- All this is done once the first repository has been resolved, and a leaf of the same name as one
there is bound in the second. Of the forest, the record of the first leaf is what may change. -/
theorem forest_frozen_twoTrees :
    ∃ log log' given w₁ w₂, Workspace.Runs {} log twoTrees ∧
      (twoTrees.tree? firstScope.repository).isSome ∧
      (firstScope.resolve Hook.idle default).run.run twoTrees = (.ok given, w₁) ∧
      w₁.Runs log' w₂ ∧ (w₂.repository ⟨0⟩).liveIds = [⟨0⟩, ⟨4⟩, ⟨5⟩, ⟨7⟩] ∧
      (w₂.repository ⟨0⟩).childIdsOf ⟨5⟩ = [⟨0⟩, ⟨4⟩, ⟨4⟩] ∧
      ∃ roots handles f f', w₁.Shows firstScope roots handles f ∧
        w₂.Shows firstScope roots handles f' ∧ f.Persists (· = "leaf") f' ∧
        f'.nodes.map (fun e => (e.name, e.children, e.steps)) =
          [("leaf", .list [], []), ("ring", .list [2], []), ("kept", .list [1, -1], [2])] := by
  obtain ⟨log, run⟩ := runs_twoTrees
  let w₁ := ((firstScope.resolve Hook.idle default).run.run twoTrees).2
  let r₁ := w₁.repository ⟨0⟩
  let w := w₁.updateRepository ⟨0⟩ fun _ => r₁.afterAll lateOperations
  let elsewhere : List Operation :=
    [.node .root "leaf" default, .bind ⟨0⟩ (.ok (.pending (.bare (.standard "Leaf")))) default,
      .setOptions ⟨0⟩ [("gain", .int 3)] default]
  let w₂ := w.updateRepository ⟨1⟩ fun _ => (w.repository ⟨1⟩).afterAll elsewhere
  have planted : (twoTrees.tree? firstScope.repository).isSome := by decide +kernel
  have resolved : (firstScope.resolve Hook.idle default).run.run twoTrees =
      (.ok (some ()), w₁) :=
    Prod.ext (by decide +kernel) rfl
  have more : w₁.Runs _ w₂ := .within ⟨1⟩ (.within ⟨0⟩ (.refl w₁) (by decide +kernel)
    (Repository.runs_afterAll lateOperations r₁)) (by decide +kernel)
    (Repository.runs_afterAll elsewhere _)
  obtain ⟨roots, handles, f, f', shows₁, shows₂, persists⟩ :=
    forest_frozen run planted (fun r _ => .refl r) resolved more
  have shown : (firstScope.forest.run.run w₂).1.toOption.map (fun f =>
      f.nodes.map fun e => (e.name, e.children, e.steps)) =
      some [("leaf", .list [], []), ("ring", .list [2], []), ("kept", .list [1, -1], [2])] := by
    decide +kernel
  rw [shows₂.forest] at shown
  refine ⟨log, _, _, w₁, w₂, run, planted, resolved, more, by decide +kernel, by decide +kernel,
    roots, handles, f, f', shows₁, shows₂, ⟨?_, persists.roots⟩, Option.some.inj shown⟩
  refine persists.nodes.imp fun e e' entry => entry.mono ?_
  rintro name ⟨event, member, home, id, options, location, asked, named⟩
  have first : r₁.nameOf? ⟨0⟩ = some "leaf" := by decide +kernel
  rcases List.mem_append.mp member with here | there
  · obtain rfl | rfl | rfl | rfl : event = ⟨_, r₁⟩ ∨ event = ⟨_, _⟩ ∨ event = ⟨_, _⟩ ∨
        event = ⟨_, _⟩ := by
      simpa [Repository.journal, lateOperations] using here
    all_goals cases asked
    exact Option.some.inj (named.symm.trans first)
  · have second : event.home = ⟨1⟩ :=
      ((Repository.runs_afterAll elsewhere _).home event there).trans (w.id_repository ⟨1⟩)
    exact absurd (home.symm.trans second) (by decide)

end NodeForest

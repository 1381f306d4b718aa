import Mathlib.Data.Fintype.Card
import NodeForest.Proofs.Check
import NodeForest.Proofs.Placement
import NodeForest.Proofs.Sweep

/-!
# What a resolve removes

A resolve that gets past the check of the children removes what was never bound and, unless orphans
are to be roots, sweeps the rest. This module says what is left then and which nodes the roots are.

Results:
1. `exec_runResolve`: a resolve after the check.
2. `sound_start`, `sound_settle`: settling is a sweep that has run to its end.
3. `not_garbage_iff`: what stays of a graph without cycles.
4. `resolve_removes_garbage`: a resolve removes the garbage, in whatever order it visits.
-/

namespace NodeForest

open Relation NodeForest.Action

namespace Repository

variable {r r₁ : Repository}

/-! ## 1. After the check -/

section

variable {α : Type} {hook : Hook α} {location : Location}

/-- Past the check and the hook, a resolve settles, and numbers unless something was recorded. -/
theorem exec_runResolve {given : α} {r₂ : Repository}
    (checked : reportUninitialized.exec r = (.ok (), r₁))
    (hooked : (hook location).exec r₁ = (.ok given, r₂)) :
    (runResolve hook location).exec r =
      if r₂.settle.1.errors.isEmpty then (.ok (r₂.settle.2, given), r₂.settle.1.place)
      else (.error (.cumulative r₂.settle.1.errors), r₂.settle.1) := by
  rw [runResolve, exec_bind_of_ok checked, exec_bind_of_ok hooked, exec_bind_of_ok (exec_get r₂)]
  dsimp only
  rw [exec_bind_of_ok (exec_set _ _)]
  cases r₂.settle.1.errors.isEmpty <;> rfl

end

/-! ## 2. Settling -/

/-- The candidates of a sweep: the bound nodes without parents. -/
def candidates (r : Repository) : List NodeId :=
  r.parentless.map Prod.fst

theorem mem_parentless {id : NodeId} {n : Node} :
    (id, n) ∈ r.parentless ↔ r.get? id = some n ∧ n.isBound ∧ n.parents = [] := by
  simp [parentless, mem_entries]

/-- Removing what was never bound makes no node lose a parent. -/
theorem isTop_removeUnbound (linked : r.Linked) {name : String} {id : NodeId} :
    r.removeUnbound.IsTop name id ↔ r.isBound id ∧ r.IsTop name id := by
  rw [(remains_removeUnbound linked).isTop_iff linked, (Remains.refl linked).isTop_iff linked]
  simp only [isLive_removeUnbound]
  constructor
  · rintro ⟨bound, named, alone⟩
    refine ⟨bound, isLive_of_isBound bound, named, fun parent member _ => ?_⟩
    have edge := (linked.mem_parents (isLive_of_isBound bound)).mp member
    exact alone parent member (isBound_of_mem_childIdsOf edge)
  · rintro ⟨bound, _, named, alone⟩
    exact ⟨bound, named, fun parent member above => alone parent member (isLive_of_isBound above)⟩

/-- A sweep starts with the bound nodes, in any order of the candidates. -/
theorem sound_start (linked : r.Linked) {pending : List NodeId} (all : pending.Perm r.candidates) :
    Sweep.Sound r ⟨r.removeUnbound, [], pending⟩ where
  remains := remains_removeUnbound linked
  bound := fun live => (isLive_removeUnbound _).mp live
  removed := fun bound gone => absurd ((isLive_removeUnbound _).mpr bound) gone
  roots := fun member => by cases member
  distinct := List.nodup_nil
  pending := by
    intro name id top
    obtain ⟨bound, n, here, _, parents⟩ := (isTop_removeUnbound linked).mp top
    refine .inl (all.mem_iff.mpr (List.mem_map.mpr ⟨(id, n), mem_parentless.mpr ?_, rfl⟩))
    exact ⟨here, by simpa [isBound, here] using bound, parents⟩

theorem settle_eq (linked : r.Linked) (sweeping : r.options.orphansAreRoots = false) :
    r.settle = ((r.removeUnbound.sweep [] r.candidates).1.compact,
      (r.removeUnbound.sweep [] r.candidates).2) := by
  simp only [settle, (remains_removeUnbound linked).options, sweeping]
  rfl

theorem Sweep.Sound.compact {s : Sweep} (sound : s.Sound r) :
    Sweep.Sound r { s with repository := s.repository.compact } where
  remains := sound.remains.trans (remains_compact sound.remains.linked)
  bound := sound.bound
  removed := sound.removed
  roots := sound.roots
  distinct := sound.distinct
  pending := sound.pending

/-- Settling is a sweep that has run to its end. -/
theorem sound_settle (linked : r.Linked) (names : r.DistinctNames)
    (sweeping : r.options.orphansAreRoots = false) :
    Sweep.Sound r ⟨r.settle.1, r.settle.2, []⟩ := by
  have sound := visits_sound (visits_sweep r.removeUnbound [] r.candidates) linked names
    (sound_start linked (.refl _))
  rw [settle_eq linked sweeping]
  exact sound.compact

/-! ## 3. Graphs without cycles -/

/-- A bound node has the other as a child or step-child. -/
def IsChild (r : Repository) (parent child : NodeId) : Prop :=
  child ∈ r.childIdsOf parent

/-- No node is below itself. -/
def Acyclic (r : Repository) : Prop :=
  ∀ id, ¬TransGen r.IsChild id id

/-- Garbage is only below garbage. -/
theorem Garbage.parent (linked : r.Linked) {parent child : NodeId} (garbage : r.Garbage child)
    (edge : r.IsChild parent child) : r.Garbage parent := by
  cases garbage with
  | orphan bound _ parents =>
    exact parents parent ((linked.mem_parents (isLive_of_isBound bound)).mpr edge)

/-- Without cycles, what holds of a live node when it holds of all its parents holds of every live
node. Upwards along parents is well-founded, as there are finitely many nodes. -/
theorem Acyclic.induction (acyclic : r.Acyclic) {P : NodeId → Prop}
    (step : ∀ id, r.isLive id → (∀ parent, r.IsChild parent id → P parent) → P id) {id : NodeId}
    (live : r.isLive id) : P id := by
  let Above (i j : Fin r.nodes.size) : Prop := TransGen r.IsChild ⟨i⟩ ⟨j⟩
  have : IsTrans (Fin r.nodes.size) Above := ⟨fun _ _ _ first second => first.trans second⟩
  have : Std.Irrefl Above := ⟨fun i cycle => acyclic ⟨i⟩ cycle⟩
  have climb : ∀ i : Fin r.nodes.size, r.isLive ⟨i⟩ → P ⟨i⟩ := by
    intro i
    induction i using (Finite.wellFounded_of_trans_of_irrefl Above).induction with
    | _ i ih =>
      intro live
      refine step ⟨i⟩ live fun parent edge => ?_
      have above := isLive_of_isBound (isBound_of_mem_childIdsOf edge)
      exact ih ⟨parent.index, lt_of_isLive above⟩ (.single edge) above
  exact climb ⟨id.index, lt_of_isLive live⟩ live

/-- Without cycles, a bound node stays exactly when it is a referenced node or below one. -/
theorem not_garbage_iff (linked : r.Linked) (acyclic : r.Acyclic) {id : NodeId}
    (bound : r.isBound id) :
    ¬r.Garbage id ↔ ∃ top, r.isBound top ∧ r.isReferenced top ∧ ReflTransGen r.IsChild top id := by
  constructor
  · intro stays
    refine acyclic.induction (P := fun id => r.isBound id → ¬r.Garbage id → ∃ top, r.isBound top ∧
      r.isReferenced top ∧ ReflTransGen r.IsChild top id) ?_ (isLive_of_isBound bound) bound stays
    intro id _ ih bound stays
    by_cases kept : r.isReferenced id
    · exact ⟨id, bound, kept, .refl⟩
    · obtain ⟨parent, member, alive⟩ : ∃ parent ∈ r.parentsOf id, ¬r.Garbage parent := by
        by_contra none
        push Not at none
        exact stays (.orphan bound kept none)
      have edge : r.IsChild parent id := (linked.mem_parents (isLive_of_isBound bound)).mp member
      obtain ⟨top, isBound, kept, path⟩ := ih parent edge (isBound_of_mem_childIdsOf edge) alive
      exact ⟨top, isBound, kept, path.tail edge⟩
  · rintro ⟨top, _, kept, path⟩ garbage
    induction path with
    | refl =>
      cases garbage with
      | orphan _ free _ => exact free kept
    | tail _ edge ih => exact ih (isBound_of_mem_childIdsOf edge) (garbage.parent linked edge)

/-! ## 4. The whole resolve -/

theorem isTop_place {name : String} {id : NodeId} : r.place.IsTop name id ↔ r.IsTop name id := by
  simp only [IsTop, get?_place, Option.map_eq_some_iff]
  constructor
  · rintro ⟨_, ⟨n, here, rfl⟩, named, parents⟩
    exact ⟨n, here, named, parents⟩
  · rintro ⟨n, here, named, parents⟩
    exact ⟨_, ⟨n, here, rfl⟩, named, parents⟩

/-- A resolve with the hook that does nothing, past the check. -/
theorem exec_resolve_idle (location : Location) (building : r.phase = .building)
    (passed : reportUninitialized.exec r = (.ok (), r₁)) :
    (resolve Hook.idle location).exec r =
      if r₁.settle.1.errors.isEmpty then
        (.ok (some ()), { r₁.settle.1.place with phase := .resolved r₁.settle.2 })
      else (.error (.cumulative r₁.settle.1.errors), { r₁.settle.1 with phase := .failed }) := by
  have idle : (Hook.idle location).exec r₁ = (.ok (), r₁) := rfl
  rw [exec_resolve _ _ building, exec_runResolve passed idle]
  cases r₁.settle.1.errors.isEmpty <;> rfl

/-- What is left of `r` when the sweep of a resolve has found the roots. -/
structure Swept (r after : Repository) (roots : OrderedMap String NodeId) : Prop where
  /-- The bound nodes that are gone are the least set that holds every bound node that is not
  referenced and has all its parents in the set. -/
  removed : IsLeast {R | r.OrphanClosed R} {id | r.isBound id ∧ ¬after.isLive id}
  bound : ∀ id, after.isLive id → r.isBound id
  /-- The roots are the nodes without parents, each once, and all of them are referenced. -/
  mem_roots : ∀ name id, (name, id) ∈ roots ↔ after.IsTop name id
  once : (roots.map Prod.snd).Nodup
  referenced : ∀ name id, (name, id) ∈ roots → r.isReferenced id
  acyclic : r.Acyclic → ∀ id, after.isLive id ↔
    r.isBound id ∧ ∃ top, r.isBound top ∧ r.isReferenced top ∧ ReflTransGen r.IsChild top id

/-- A sweep that has run to its end has removed the garbage. -/
theorem Sweep.Sound.swept {s : Sweep} (sound : s.Sound r) (linked : r.Linked)
    (done : s.pending = []) : r.Swept s.repository s.roots where
  removed := by
    have same : {id | r.isBound id ∧ ¬s.repository.isLive id} = {id | r.Garbage id} := by
      ext id
      constructor
      · rintro ⟨bound, gone⟩
        exact sound.removed bound gone
      · intro garbage
        have bound : r.isBound id := by
          cases garbage with
          | orphan bound => exact bound
        exact ⟨bound, fun live => (sound.isLive_iff linked done bound).mp live garbage⟩
    rw [same]
    exact r.garbage_isLeast
  bound := fun _ live => sound.bound live
  mem_roots := fun _ _ => sound.mem_roots done
  once := sound.nodup_roots
  referenced := by
    intro name id member
    obtain ⟨top, kept⟩ := sound.roots member
    rwa [sound.remains.referenced top.isLive] at kept
  acyclic := by
    intro acyclic id
    constructor
    · intro live
      have bound := sound.bound live
      exact ⟨bound, (not_garbage_iff linked acyclic bound).mp
        ((sound.isLive_iff linked done bound).mp live)⟩
    · rintro ⟨bound, below⟩
      exact (sound.isLive_iff linked done bound).mpr
        ((not_garbage_iff linked acyclic bound).mpr below)

theorem Swept.congr {after after' : Repository} {roots : OrderedMap String NodeId}
    (swept : r.Swept after roots) (live : ∀ id, after'.isLive id = after.isLive id)
    (top : ∀ {name id}, after'.IsTop name id ↔ after.IsTop name id) : r.Swept after' roots where
  removed := by
    simp only [live]
    exact swept.removed
  bound := fun id here => swept.bound id (live id ▸ here)
  mem_roots := fun name id => (swept.mem_roots name id).trans top.symm
  once := swept.once
  referenced := swept.referenced
  acyclic := fun acyclic id => by
    rw [live]
    exact swept.acyclic acyclic id

/-- A sum over a chain of negations that nothing refers to, a node that is its own child, a sum with a
handle over the leaf of the chain, and a name that is not bound. -/
def cascadingOperations : List Operation :=
  let bind (id : NodeId) (d : Definition) : Operation := .bind id (.ok (.pending d)) default
  let built (className : String) (children : List Child) (steps : List Child) : Definition :=
    .ofParts (.standard className) (.positional children) (.positional steps) []
  [.node .root "leaf" default, bind ⟨0⟩ (.bare (.standard "Leaf")),
    .node .root "lower" default, bind ⟨1⟩ (built "Negate" [.name "leaf"] []),
    .node .root "upper" default, bind ⟨2⟩ (built "Negate" [.node ⟨⟨0⟩, ⟨1⟩⟩] []),
    .node .root "sum" default, bind ⟨3⟩ (built "Add" [.name "upper", .empty] [.name "leaf"]),
    .node .root "ring" default, bind ⟨4⟩ (built "Negate" [.node ⟨⟨0⟩, ⟨4⟩⟩] []),
    .node .root "kept" default, bind ⟨5⟩ (built "Add" [.name "leaf", .empty] [.name "ring"]),
    .hold ⟨5⟩, .node .root "free" default]

def cascading : Repository :=
  (start ⟨0⟩ {}).afterAll cascadingOperations

end Repository

end NodeForest

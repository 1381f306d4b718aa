import Mathlib.Data.List.TakeWhile
import Mathlib.Order.Bounds.Defs
import NodeForest.Proofs.Removal

/-!
# Sweeping orphans

The sweep visits candidates: it passes over those that are gone or have parents, keeps referenced
ones as roots, and removes the others, whose children become candidates. Here the next candidate may
be any of those that wait. Every sweep ends, and when it has, the removed nodes are the garbage: the
least set that holds every bound node that is not referenced and has all its parents in the set.

Results:
1. `Visit`: one visit, in any order; `visit_wellFounded`: every sweep ends.
2. `Sweep.Sound`: the invariant of a sweep; `Visit.sound`: a visit keeps it.
3. `Sweep.Sound.isLive_iff`, `Sweep.Sound.mem_roots`: what a sweep comes to, whatever its order.
4. `visits_sweep`: the sweep of a resolve is such a sweep; `sweep_cons_of_stay`,
   `sweep_cons_of_orphan`: what it does with the first candidate.
-/

namespace NodeForest

open Relation

namespace Repository

/-! ## 1. Visits -/

/-- A bound node that is not referenced belongs to the set as soon as all its parents do. -/
def OrphanClosed (r : Repository) (R : Set NodeId) : Prop :=
  ∀ id, r.isBound id → ¬r.isReferenced id → (∀ parent ∈ r.parentsOf id, parent ∈ R) → id ∈ R

/-- What belongs to every such set. -/
inductive Garbage (r : Repository) : NodeId → Prop
  | orphan {id : NodeId} : r.isBound id → ¬r.isReferenced id →
      (∀ parent ∈ r.parentsOf id, Garbage r parent) → Garbage r id

theorem garbage_isLeast (r : Repository) : IsLeast {R | r.OrphanClosed R} {id | r.Garbage id} := by
  refine ⟨fun id bound free parents => .orphan bound free parents, fun R closed id garbage => ?_⟩
  induction garbage with
  | orphan bound free _ ih => exact closed _ bound free ih

/-- The node is live under this name and has no parents. -/
def IsTop (r : Repository) (name : String) (id : NodeId) : Prop :=
  ∃ n, r.get? id = some n ∧ n.name = name ∧ n.parents = []

/-- A sweep on its way: the repository, the roots found and the candidates that wait. -/
structure Sweep where
  repository : Repository
  roots : OrderedMap String NodeId
  pending : List NodeId

/-- One visit to any of the candidates. The children of a removed node may be put anywhere. -/
inductive Visit : Sweep → Sweep → Prop
  | skip {s : Sweep} {id : NodeId} {rest : List NodeId} (next : s.pending.Perm (id :: rest))
      (settled : ∀ name, ¬s.repository.IsTop name id) : Visit s { s with pending := rest }
  | keep {s : Sweep} {id : NodeId} {name : String} {rest : List NodeId}
      (next : s.pending.Perm (id :: rest)) (top : s.repository.IsTop name id)
      (kept : s.repository.isReferenced id) :
      Visit s { s with roots := OrderedMap.insert s.roots name id, pending := rest }
  | remove {s : Sweep} {id : NodeId} {rest pending : List NodeId}
      (next : s.pending.Perm (id :: rest)) (orphan : s.repository.isOrphan id)
      (later : pending.Perm (s.repository.childIdsOf id ++ rest)) :
      Visit s { s with repository := s.repository.detach id, pending }

/-- A sweep of `r` that has got as far as `s`. Everything removed is garbage, every root is
referenced and has no parents, and every live node without parents waits or is a root. -/
structure Sweep.Sound (r : Repository) (s : Sweep) : Prop where
  remains : r.Remains s.repository
  bound : ∀ {id}, s.repository.isLive id → r.isBound id
  removed : ∀ {id}, r.isBound id → ¬s.repository.isLive id → r.Garbage id
  roots : ∀ {name id}, (name, id) ∈ s.roots →
    s.repository.IsTop name id ∧ s.repository.isReferenced id
  distinct : (OrderedMap.keys s.roots).Nodup
  pending : ∀ {name id}, s.repository.IsTop name id → id ∈ s.pending ∨ (name, id) ∈ s.roots

section

variable {r : Repository} {s s' : Sweep}

theorem IsTop.isLive {name : String} {id : NodeId} (top : r.IsTop name id) : r.isLive id := by
  obtain ⟨n, here, _⟩ := top
  exact isLive_iff.mpr ⟨n, here⟩

theorem IsTop.parentsOf {name : String} {id : NodeId} (top : r.IsTop name id) :
    r.parentsOf id = [] := by
  obtain ⟨n, here, _, parents⟩ := top
  rw [parentsOf_of_get? here, parents]

theorem Remains.distinctNames {r' : Repository} (remains : r.Remains r') (names : r.DistinctNames) :
    r'.DistinctNames := by
  intro id id' n n' here here' same
  obtain ⟨m, there, eq⟩ := remains.node here
  obtain ⟨m', there', eq'⟩ := remains.node here'
  exact names there there' (by rw [eq, eq'] at same; exact same)

/-- Which nodes have no parents is told by which are live. -/
theorem Remains.isTop_iff {r' : Repository} (remains : r.Remains r') (linked : r.Linked)
    {name : String} {id : NodeId} : r'.IsTop name id ↔
      r'.isLive id ∧ r.nameOf? id = some name ∧ ∀ parent ∈ r.parentsOf id, ¬r'.isLive parent := by
  constructor
  · rintro ⟨n', here, rfl, empty⟩
    have live : r'.isLive id := isLive_iff.mpr ⟨n', here⟩
    obtain ⟨n, there, same⟩ := remains.node here
    refine ⟨live, by rw [nameOf?, there, same]; rfl, fun parent member remaining => ?_⟩
    have left := (remains.mem_parents linked live).mpr ⟨remaining, member⟩
    rw [parentsOf_of_get? here, empty] at left
    cases left
  · rintro ⟨live, named, alone⟩
    obtain ⟨n', here⟩ := isLive_iff.mp live
    obtain ⟨n, there, same⟩ := remains.node here
    rw [nameOf?, there] at named
    refine ⟨n', here, by rw [same]; exact Option.some.inj named, ?_⟩
    refine List.eq_nil_iff_forall_not_mem.mpr fun parent member => ?_
    rw [← parentsOf_of_get? here, remains.mem_parents linked live] at member
    exact alone parent member.2 member.1

/-- A node has at most one place among the nodes without parents. -/
theorem IsTop.unique (names : r.DistinctNames) {name : String} {id id' : NodeId}
    (top : r.IsTop name id) (top' : r.IsTop name id') : id = id' := by
  obtain ⟨n, here, rfl, _⟩ := top
  obtain ⟨n', here', same, _⟩ := top'
  exact names here here' same.symm

theorem isOrphan_iff {id : NodeId} :
    r.isOrphan id ↔ (∃ name, r.IsTop name id) ∧ ¬r.isReferenced id := by
  simp only [isOrphan, IsTop]
  cases r.get? id with
  | none => simp
  | some n => simp

/-- An orphan whose remaining parents are none has lost all its parents to the sweep. -/
theorem Sweep.Sound.garbage (sound : s.Sound r) (linked : r.Linked) {id : NodeId}
    (orphan : s.repository.isOrphan id) : r.Garbage id := by
  obtain ⟨⟨name, top⟩, free⟩ := isOrphan_iff.mp orphan
  refine .orphan (sound.bound top.isLive) ?_ fun parent member => ?_
  · rwa [← sound.remains.referenced top.isLive]
  · have bound : r.isBound parent :=
      isBound_of_mem_childIdsOf ((linked.mem_parents (sound.remains.isLive top.isLive)).mp member)
    refine sound.removed bound fun live => ?_
    have remaining := (sound.remains.mem_parents linked top.isLive).mpr ⟨live, member⟩
    rw [top.parentsOf] at remaining
    cases remaining

/-- Removing an orphan makes nodes without parents of its children only. -/
theorem IsTop.of_detach (linked : r.Linked) {name : String} {id other : NodeId}
    (top : (r.detach id).IsTop name other) :
    other ≠ id ∧ (r.IsTop name other ∨ other ∈ r.childIdsOf id) := by
  obtain ⟨n, here, named, parents⟩ := top
  rw [get?_detach linked.nodup] at here
  split at here
  · cases here
  · rename_i different
    obtain ⟨n₀, there, rfl⟩ := Option.map_eq_some_iff.mp here
    refine ⟨different, ?_⟩
    by_cases child : other ∈ r.childIdsOf id
    · exact .inr child
    · rw [if_neg child] at named parents
      exact .inl ⟨n₀, there, named, parents⟩

theorem IsTop.detach (linked : r.Linked) {name : String} {id other : NodeId}
    (top : r.IsTop name other) (different : other ≠ id) : (r.detach id).IsTop name other := by
  obtain ⟨n, here, named, parents⟩ := top
  refine ⟨_, by rw [get?_detach linked.nodup, if_neg different, here]; rfl, ?_, ?_⟩
  · split <;> exact named
  · split
    · simp [Node.withoutParent, parents]
    · exact parents

/-- A visit keeps the invariant. -/
theorem Visit.sound (visit : Visit s s') (linked : r.Linked) (names : r.DistinctNames)
    (sound : s.Sound r) : s'.Sound r := by
  cases visit with
  | @skip id rest next settled =>
    refine { sound with pending := fun {name other} top => ?_ }
    refine (sound.pending top).imp_left fun waits => ?_
    rcases List.mem_cons.mp (next.mem_iff.mp waits) with rfl | waits
    · exact absurd top (settled name)
    · exact waits
  | @keep id name rest next top kept =>
    have agrees : ∀ other, (name, other) ∈ s.roots → other = id := fun other member =>
      (sound.roots member).1.unique (sound.remains.distinctNames names) top
    refine { sound with
      roots := fun {name' other} member => ?_
      distinct := OrderedMap.nodup_keys_insert sound.distinct name id
      pending := fun {name' other} top' => ?_ }
    · rcases (OrderedMap.mem_insert_iff agrees).mp member with old | new
      · exact sound.roots old
      · cases new
        exact ⟨top, kept⟩
    · rw [OrderedMap.mem_insert_iff agrees]
      rcases sound.pending top' with waits | root
      · rcases List.mem_cons.mp (next.mem_iff.mp waits) with rfl | waits
        · obtain ⟨n, here, rfl, _⟩ := top
          obtain ⟨n', here', rfl, _⟩ := top'
          obtain rfl : n = n' := Option.some.inj (here.symm.trans here')
          exact .inr (.inr rfl)
        · exact .inl waits
      · exact .inr (.inl root)
  | @remove id rest pending next orphan later =>
    have one := remains_detach sound.remains.linked id
    refine
      { remains := sound.remains.trans one
        bound := fun live => sound.bound (one.isLive live)
        removed := fun {other} bound gone => ?_
        roots := fun {name other} member => ?_
        distinct := sound.distinct
        pending := fun {name other} top => ?_ }
    · by_cases live : s.repository.isLive other
      · obtain rfl : other = id := by
          by_contra different
          rw [isLive_detach] at gone
          simp [live, different] at gone
        exact sound.garbage linked orphan
      · exact sound.removed bound live
    · -- A root is referenced, so it is not what has been removed.
      obtain ⟨top, kept⟩ := sound.roots member
      have different : other ≠ id := by
        rintro rfl
        exact (isOrphan_iff.mp orphan).2 kept
      exact ⟨top.detach sound.remains.linked different, by rwa [isReferenced_detach different]⟩
    · obtain ⟨different, before | child⟩ := top.of_detach sound.remains.linked
      · refine (sound.pending before).imp_left fun waits => ?_
        rcases List.mem_cons.mp (next.mem_iff.mp waits) with same | waits
        · exact absurd same different
        · exact later.mem_iff.mpr (List.mem_append_right _ waits)
      · exact .inl (later.mem_iff.mpr (List.mem_append_left _ child))

theorem visits_sound (visits : ReflTransGen Visit s s') (linked : r.Linked)
    (names : r.DistinctNames) (sound : s.Sound r) : s'.Sound r := by
  induction visits with
  | refl => exact sound
  | tail _ visit ih => exact visit.sound linked names ih

/-! ## 3. The outcome -/

namespace Sweep.Sound

/-- When nothing waits, the roots are the live nodes without parents. -/
theorem mem_roots (sound : s.Sound r) (done : s.pending = []) {name : String} {id : NodeId} :
    (name, id) ∈ s.roots ↔ s.repository.IsTop name id := by
  refine ⟨fun member => (sound.roots member).1, fun top => ?_⟩
  have := sound.pending top
  rw [done] at this
  simpa using this

/-- When nothing waits, the live nodes are those that are not garbage. -/
theorem isLive_iff (sound : s.Sound r) (linked : r.Linked) (done : s.pending = []) {id : NodeId}
    (bound : r.isBound id) : s.repository.isLive id ↔ ¬r.Garbage id := by
  constructor
  · intro live garbage
    -- From the parents down: when they are all gone, the node is a root, and so is referenced.
    induction garbage with
    | @orphan id isBound free _ ih =>
      obtain ⟨n, here⟩ := Repository.isLive_iff.mp live
      have top : s.repository.IsTop n.name id := by
        refine ⟨n, here, rfl, List.eq_nil_iff_forall_not_mem.mpr fun parent member => ?_⟩
        rw [← parentsOf_of_get? here] at member
        obtain ⟨remaining, before⟩ := (sound.remains.mem_parents linked live).mp member
        exact ih parent before (sound.bound remaining) remaining
      have kept := (sound.roots ((sound.mem_roots done).mpr top)).2
      rw [sound.remains.referenced live] at kept
      exact free kept
  · intro stays
    by_contra gone
    exact stays (sound.removed bound gone)

theorem nodup_roots (sound : s.Sound r) : (s.roots.map Prod.snd).Nodup := by
  have entries : s.roots.Nodup := List.Nodup.of_map _ sound.distinct
  refine (List.nodup_map_iff_inj_on entries).mpr ?_
  rintro ⟨name, id⟩ member ⟨name', id'⟩ member' same
  obtain ⟨⟨n, here, rfl, _⟩, _⟩ := sound.roots member
  obtain ⟨⟨n', here', rfl, _⟩, _⟩ := sound.roots member'
  dsimp only at same
  subst same
  rw [here] at here'
  cases here'
  rfl

end Sweep.Sound

end

/-! ## 4. The sweep of a resolve -/

/-- Candidates that are no orphans are passed over or become roots. -/
theorem visits_rootsAmong (r : Repository) (rest : List NodeId) :
    ∀ (ids : List NodeId) (roots : OrderedMap String NodeId), (∀ id ∈ ids, ¬r.isOrphan id) →
      ReflTransGen Visit ⟨r, roots, ids ++ rest⟩
        ⟨r, OrderedMap.insertAll roots (r.rootsAmong ids), rest⟩
  | [], _, _ => .refl
  | id :: ids, roots, stay => by
    have later := fun roots =>
      visits_rootsAmong r rest ids roots fun id member => stay id (List.mem_cons_of_mem _ member)
    cases found : (r.get? id).filter (·.parents.isEmpty) with
    | none =>
      have settled : ∀ name, ¬r.IsTop name id := by
        rintro name ⟨n, here, _, parents⟩
        simp [here, parents] at found
      refine .head (.skip (.refl _) settled) ?_
      simpa [rootsAmong, found] using later roots
    | some n =>
      obtain ⟨here, parents⟩ := Option.filter_eq_some_iff.mp found
      have top : r.IsTop n.name id := ⟨n, here, rfl, by simpa using parents⟩
      have kept : r.isReferenced id := by
        by_contra free
        exact stay id List.mem_cons_self (isOrphan_iff.mpr ⟨⟨_, top⟩, free⟩)
      refine .head (.keep (.refl _) top kept) ?_
      simpa [rootsAmong, found, OrderedMap.insertAll] using later _

/-- The candidates before the first orphan are visited. -/
theorem visits_takeWhile (r : Repository) (roots : OrderedMap String NodeId)
    (pending : List NodeId) :
    ReflTransGen Visit ⟨r, roots, pending⟩
      ⟨r, OrderedMap.insertAll roots (r.rootsAmong (pending.takeWhile (!r.isOrphan ·))),
        pending.dropWhile (!r.isOrphan ·)⟩ := by
  have stay : ∀ id ∈ pending.takeWhile (!r.isOrphan ·), ¬r.isOrphan id := fun id member => by
    simpa using List.mem_takeWhile_imp member
  have passed := visits_rootsAmong r (pending.dropWhile (!r.isOrphan ·)) _ roots stay
  rwa [List.takeWhile_append_dropWhile] at passed

/-- A sweep without an orphan ahead only finds roots. -/
theorem sweep_of_stay {r : Repository} {pending : List NodeId} (roots : OrderedMap String NodeId)
    (done : pending.dropWhile (!r.isOrphan ·) = []) : r.sweep roots pending =
      (r, OrderedMap.insertAll roots (r.rootsAmong (pending.takeWhile (!r.isOrphan ·)))) := by
  rw [sweep]
  split <;> simp_all

/-- A sweep goes on after the first orphan with the children of that. -/
theorem sweep_of_orphan {r : Repository} {pending rest : List NodeId} {id : NodeId}
    (roots : OrderedMap String NodeId)
    (found : pending.dropWhile (!r.isOrphan ·) = id :: rest) : r.sweep roots pending =
      (r.detach id).sweep
        (OrderedMap.insertAll roots (r.rootsAmong (pending.takeWhile (!r.isOrphan ·))))
        (r.childIdsOf id ++ rest) := by
  rw [sweep]
  split
  · simp_all
  · rename_i found'
    rw [found] at found'
    cases found'
    rfl

theorem rootsAmong_cons (r : Repository) (id : NodeId) (rest : List NodeId) :
    r.rootsAmong (id :: rest) = r.rootsAmong [id] ++ r.rootsAmong rest :=
  List.filterMap_append (l := [id])

theorem rootsAmong_of_gone {r : Repository} {id : NodeId} (gone : r.get? id = none) :
    r.rootsAmong [id] = [] := by
  rw [rootsAmong, List.filterMap_cons, gone]
  rfl

theorem rootsAmong_of_get? {r : Repository} {id : NodeId} {n : Node} (here : r.get? id = some n) :
    r.rootsAmong [id] = if n.parents.isEmpty then [(n.name, id)] else [] := by
  rw [rootsAmong, List.filterMap_cons, here, Option.filter]
  cases n.parents.isEmpty <;> rfl

/-- A sweep passes the first candidate, unless that is an orphan. -/
theorem sweep_cons_of_stay {r : Repository} {id : NodeId} (stay : ¬r.isOrphan id)
    (roots : OrderedMap String NodeId) (rest : List NodeId) :
    r.sweep roots (id :: rest) =
      r.sweep (OrderedMap.insertAll roots (r.rootsAmong [id])) rest := by
  have goesOn : (!r.isOrphan id) = true := by simpa using stay
  have drop : (id :: rest).dropWhile (!r.isOrphan ·) = rest.dropWhile (!r.isOrphan ·) :=
    List.dropWhile_cons_of_pos goesOn
  have take : (id :: rest).takeWhile (!r.isOrphan ·) = id :: rest.takeWhile (!r.isOrphan ·) :=
    List.takeWhile_cons_of_pos goesOn
  have found : OrderedMap.insertAll roots
      (r.rootsAmong ((id :: rest).takeWhile (!r.isOrphan ·))) =
      OrderedMap.insertAll (OrderedMap.insertAll roots (r.rootsAmong [id]))
        (r.rootsAmong (rest.takeWhile (!r.isOrphan ·))) := by
    rw [take, rootsAmong_cons, OrderedMap.insertAll, List.foldl_append]
    rfl
  cases left : rest.dropWhile (!r.isOrphan ·) with
  | nil => rw [sweep_of_stay roots (drop.trans left), sweep_of_stay _ left, found]
  | cons orphan later =>
    rw [sweep_of_orphan roots (drop.trans left), sweep_of_orphan _ left, found]

/-- An orphan that is the first candidate is removed at once. -/
theorem sweep_cons_of_orphan {r : Repository} {id : NodeId} (orphan : r.isOrphan id)
    (roots : OrderedMap String NodeId) (rest : List NodeId) :
    r.sweep roots (id :: rest) = (r.detach id).sweep roots (r.childIdsOf id ++ rest) := by
  have stops : ¬(!r.isOrphan id) = true := by simpa using orphan
  have take : (id :: rest).takeWhile (!r.isOrphan ·) = [] := List.takeWhile_cons_of_neg stops
  rw [sweep_of_orphan roots (List.dropWhile_cons_of_neg stops), take]
  rfl

/-- The sweep of a resolve is a sequence of visits, until no candidate waits. -/
theorem visits_sweep (r : Repository) (roots : OrderedMap String NodeId) (pending : List NodeId) :
    ReflTransGen Visit ⟨r, roots, pending⟩
      ⟨(r.sweep roots pending).1, (r.sweep roots pending).2, []⟩ := by
  induction r, roots, pending using sweep.induct with
  | case1 r roots pending done =>
    have passed := visits_takeWhile r roots pending
    rw [done] at passed
    rw [sweep_of_stay roots done]
    exact passed
  | case2 r roots pending roots' id rest found ih =>
    have passed := visits_takeWhile r roots pending
    rw [found] at passed
    have orphan : r.isOrphan id := by
      have := List.head?_dropWhile_not (!r.isOrphan ·) pending
      rw [found] at this
      simpa using this
    rw [sweep_of_orphan roots found]
    exact (passed.tail (.remove (.refl _) orphan (.refl _))).trans ih

end Repository

end NodeForest

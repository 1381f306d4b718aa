import NodeForest.Proofs.Journal
import NodeForest.Proofs.Merging
import NodeForest.Proofs.Naming
import NodeForest.Workspace.Handle

/-!
# Further qualifiers for a handle

The node with further qualifiers is looked up by its name only. A name can be split into a basename
and qualifiers in several ways, and the node keeps the split it was registered under: a node named
`s:1` by hand has no qualifiers, and is found where `1` is appended to the qualifiers of `s`. So
handles follow the laws of qualifiers as far as the nodes on the way are registered as they are
asked for.

Results:
1. `SplitsInto`, `requalify_splits_iff`: when the node that is found has the names asked for.
2. `SplitsAlong`, `takeQuals_of_splits`: several in a row.
3. `Workspace.Stands`, `Workspace.Gives`: what is looked up again is found, whatever has been done
   in between.
4. `requalified_by_laws`: the laws for handles; `not_requalified_by_laws_namesakes`: nodes that are
   registered under another split.
-/

namespace NodeForest

namespace Repository

variable {r r' : Repository} {h : Handle} {id : NodeId} {n : Node}

/-! ## 1. One lookup -/

/-- If there is a node with the name for this basename and these qualifiers, it is registered under
them. -/
def SplitsInto (r : Repository) (basename : String) (quals : Qualifiers) : Prop :=
  ∀ id n, r.get? id = some n → n.name = qualifyName basename quals →
    n.basename = basename ∧ n.quals = quals

/-- The handle is one that the repository gives to a node. -/
structure Hands (r : Repository) (h : Handle) : Prop where
  live : r.isLive h.id
  shown : h = r.handle h.id

theorem handle_of_get? (here : r.get? id = some n) :
    r.handle id = ⟨⟨r.id, id⟩, n.name, n.basename, n.quals, n.scope⟩ := by
  rw [handle, handle?, here]
  rfl

/-- The handle to a node is the same as long as the node is there. -/
theorem Changes.handle {p : Promise} (changes : Changes p r r') (given : id.index < r.nodes.size)
    (live : r'.isLive id) : r'.handle id = r.handle id := by
  obtain ⟨n', here'⟩ := isLive_iff.mp live
  obtain ⟨n, here, same⟩ := changes.sameName given here'
  rw [handle_of_get? here, handle_of_get? here', same.name, same.basename, same.quals, same.scope,
    changes.continues.id]

theorem Hands.home (hands : r.Hands h) : h.node.repository = r.id := by
  obtain ⟨n, here⟩ := isLive_iff.mp hands.live
  rw [hands.shown, handle_of_get? here]

theorem Hands.later {p : Promise} (hands : r.Hands h) (changes : Changes p r r')
    (live : r'.isLive h.id) : r'.Hands h where
  live := live
  shown := by
    rw [changes.handle (lt_of_isLive hands.live) live]
    exact hands.shown

section

variable (r h) (q : Qualifiers) (mode : MergeMode) (location : Location)

theorem steps_requalify {p : Promise} : Steps p r (r.requalify h q mode location).2 :=
  (steps_getOrCreate r h.basename h.scope (h.quals.merged q mode) location).1

/-- The handle that is given is that of a node with the name for the merged qualifiers. -/
theorem hands_requalify :
    (r.requalify h q mode location).2.Hands (r.requalify h q mode location).1 ∧
      (r.requalify h q mode location).1.name =
        qualifyName h.basename (h.quals.merged q mode) := by
  rw [requalify, qualify]
  rcases taken : r.getOrCreate (qualifyName h.basename (h.quals.merged q mode)) h.basename h.scope
    (h.quals.merged q mode) location with ⟨id, r'⟩
  obtain ⟨n, here, named⟩ := named_getOrCreate taken
  dsimp only
  rw [handle_of_get? here]
  exact ⟨⟨isLive_iff.mpr ⟨n, here⟩, (handle_of_get? here).symm⟩, named⟩

theorem home_requalify : (r.requalify h q mode location).1.node.repository = r.id :=
  (hands_requalify r h q mode location).1.home.trans
    (steps_requalify (p := .none) r h q mode location).changes.continues.id

end

variable {q : Qualifiers} {mode : MergeMode} {location : Location}

/-- A node that has the name is found. -/
theorem requalify_of_named (names : r.DistinctNames) (here : r.get? id = some n)
    (named : n.name = qualifyName h.basename (h.quals.merged q mode)) :
    r.requalify h q mode location = (r.handle id, r) := by
  have found := lookup?_of_get? names here
  rw [named] at found
  rw [requalify, qualify, getOrCreate, found]

/-- The handle that is given has the basename and the merged qualifiers exactly if the node is
registered under them, or is new. -/
theorem requalify_splits_iff (location : Location) (names : r.DistinctNames) :
    ((r.requalify h q mode location).1.basename = h.basename ∧
      (r.requalify h q mode location).1.quals = h.quals.merged q mode) ↔
      r.SplitsInto h.basename (h.quals.merged q mode) := by
  constructor
  · intro splits id n here named
    rw [requalify_of_named names here named, handle_of_get? here] at splits
    exact splits
  · intro splits
    cases found : r.lookup? (qualifyName h.basename (h.quals.merged q mode)) with
    | some id =>
      obtain ⟨n, here, named⟩ := lookup?_eq_some found
      rw [requalify_of_named names here named, handle_of_get? here]
      exact splits id n here named
    | none =>
      rw [requalify, qualify, getOrCreate, found]
      dsimp only
      rw [handle_of_get? (by rw [get?_register, if_pos rfl])]
      exact ⟨rfl, rfl⟩

/-- A handle is found again where its name is asked for. -/
theorem Hands.requalify (hands : r.Hands h) (names : r.DistinctNames) {h' : Handle}
    (same : qualifyName h'.basename (h'.quals.merged q mode) = h.name) :
    r.requalify h' q mode location = (h, r) := by
  obtain ⟨n, here⟩ := isLive_iff.mp hands.live
  have shown := hands.shown
  rw [handle_of_get? here] at shown
  have named : n.name = h.name := by rw [shown]
  rw [requalify_of_named names here (named.trans same.symm), ← hands.shown]

/-! ## 2. Several in a row -/

/-- The qualifiers of other nodes are taken one after the other. -/
def takeQuals (mode : MergeMode) (location : Location) :
    Repository → Handle → List Handle → Handle × Repository
  | r, h, [] => (h, r)
  | r, h, other :: others =>
      takeQuals mode location (r.requalify h other.quals mode location).2
        (r.requalify h other.quals mode location).1 others

/-- Each node on the way is registered as it is asked for, or is new. -/
def SplitsAlong (mode : MergeMode) (location : Location) : Repository → Handle → List Handle → Prop
  | _, _, [] => True
  | r, h, other :: others =>
      r.SplitsInto h.basename (h.quals.merged other.quals mode) ∧
        SplitsAlong mode location (r.requalify h other.quals mode location).2
          (r.requalify h other.quals mode location).1 others

theorem steps_takeQuals {p : Promise} (mode : MergeMode) (location : Location) :
    ∀ (others : List Handle) (r : Repository) (h : Handle),
      Steps p r (takeQuals mode location r h others).2
  | [], _, _ => .refl
  | other :: others, r, h =>
    (steps_requalify r h other.quals mode location).trans (steps_takeQuals mode location others _ _)

/-- The handle at the end has all qualifiers merged. If anything has been taken, its name is made of
them. -/
theorem takeQuals_of_splits : ∀ (others : List Handle) {r : Repository} {h : Handle},
    r.DistinctNames → SplitsAlong mode location r h others →
    (takeQuals mode location r h others).1.quals =
        h.quals.mergedAll mode (others.map (·.quals)) ∧
      (others ≠ [] ∨ r.Hands h ∧ h.name = qualifyName h.basename h.quals →
        (takeQuals mode location r h others).2.Hands (takeQuals mode location r h others).1 ∧
        (takeQuals mode location r h others).1.name =
          qualifyName (takeQuals mode location r h others).1.basename
            (takeQuals mode location r h others).1.quals)
  | [], _, _, _, _ => ⟨rfl, fun given => given.resolve_left (absurd rfl)⟩
  | other :: others, r, h, names, ⟨splits, along⟩ => by
    have steps := steps_requalify (p := .none) r h other.quals mode location
    obtain ⟨hands, named⟩ := hands_requalify r h other.quals mode location
    obtain ⟨basename, quals⟩ := (requalify_splits_iff location names).mpr splits
    obtain ⟨quals', last⟩ := takeQuals_of_splits others (steps.changes.names names) along
    refine ⟨quals'.trans (by rw [quals]; rfl), fun _ => last (.inr ⟨hands, ?_⟩)⟩
    rw [named, basename, quals]

/-- Taking what a handle has already leads nowhere else. -/
theorem Hands.takeQuals (hands : r.Hands h) (named : h.name = qualifyName h.basename h.quals)
    (names : r.DistinctNames) {others : List Handle}
    (absorbs : ∀ q ∈ others.map (·.quals), h.quals.merged q .merge = h.quals) :
    takeQuals .merge location r h others = (h, r) := by
  induction others with
  | nil => rfl
  | cons other others ih =>
    obtain ⟨first, rest⟩ := List.forall_mem_cons.mp absorbs
    rw [Repository.takeQuals, hands.requalify names (by rw [first, named])]
    exact ih rest

end Repository

/-! ## 3. Lookups in a workspace -/

/-- A value that work gives is what the rest goes on with. -/
theorem Work.run_bind_of_ok {α β : Type} {work : Work α} {next : α → Work β} {w w' : Workspace}
    {y : α} (ran : work.run.run w = (.ok y, w')) :
    (work >>= next).run.run w = (next y).run.run w' := by
  change (match work.run.run w with | (x, w₁) => ExceptT.bindCont next x w₁) = _
  rw [ran]
  rfl

namespace Workspace

/-- The work gives `y`. It leaves the repository `id` as `r`, and the others as they were. -/
structure Does {α : Type} (w : Workspace) (work : Work α) (id : RepositoryId) (y : α)
    (r : Repository) (w' : Workspace) : Prop where
  ran : work.run.run w = (.ok y, w')
  planted : (w'.tree? id).isSome
  left : ∀ other, w'.repository other = if other = id then r else w.repository other

variable {w w₁ w₂ : Workspace} {id : RepositoryId} {r r' : Repository}

theorem Does.here {α : Type} {work : Work α} {y : α} (does : w.Does work id y r w₁) :
    w₁.repository id = r := by
  rw [does.left, if_pos rfl]

theorem Does.bind {α β : Type} {work : Work α} {next : α → Work β} {y : α} {z : β}
    (first : w.Does work id y r w₁) (second : w₁.Does (next y) id z r' w₂) :
    w.Does (work >>= next) id z r' w₂ where
  ran := (Work.run_bind_of_ok first.ran).trans second.ran
  planted := second.planted
  left := fun other => by
    rw [second.left, first.left]
    split <;> rfl

theorem does_requalify (h : Handle) (mode : MergeMode) (q : Qualifiers) (location : Location)
    (planted : (w.tree? h.node.repository).isSome) :
    ∃ w', w.Does (h.requalify mode q location) h.node.repository
      ((w.repository h.node.repository).requalify h q mode location).1
      ((w.repository h.node.repository).requalify h q mode location).2 w' := by
  have steps := Repository.steps_requalify (p := .none) (w.repository h.node.repository) h q mode
    location
  have number := steps.changes.continues.id.trans (w.id_repository h.node.repository)
  refine ⟨w.updateRepository h.node.repository fun _ => _, rfl, ?_,
    w.repository_updateRepository number planted⟩
  exact (w.isSome_tree?_updateRepository number _).trans planted

theorem does_takeQuals (mode : MergeMode) (location : Location) (others : List Handle) :
    ∀ {h : Handle} {w : Workspace}, (w.tree? h.node.repository).isSome →
    ∃ w', w.Does (h.takeQuals mode others location) h.node.repository
      (Repository.takeQuals mode location (w.repository h.node.repository) h others).1
      (Repository.takeQuals mode location (w.repository h.node.repository) h others).2 w' := by
  induction others with
  | nil =>
    intro h w planted
    refine ⟨w, rfl, planted, fun other => ?_⟩
    split
    · rename_i same
      rw [same]
      rfl
    · rfl
  | cons other others ih =>
    intro h w planted
    obtain ⟨w₁, first⟩ := does_requalify h mode other.quals location planted
    have home := Repository.home_requalify (w.repository h.node.repository) h other.quals mode
      location
    rw [w.id_repository] at home
    obtain ⟨w₂, rest⟩ := ih (h := ((w.repository h.node.repository).requalify h other.quals mode
      location).1) (by rw [home]; exact first.planted)
    rw [home, first.here] at rest
    exact ⟨w₂, first.bind rest⟩

/-- From `w` on, whatever is done, the work gives `h` and changes no repository as long as the node
of `h` is there. -/
def Gives (w : Workspace) (work : Work Handle) (h : Handle) : Prop :=
  ∀ {log w'}, w.Runs log w' → (w'.repository h.node.repository).isLive h.id →
    ∃ w'', work.run.run w' = (.ok h, w'') ∧ ∀ id, w''.repository id = w'.repository id

/-- The handle is one that its repository gives to a node. -/
structure Stands (w : Workspace) (h : Handle) : Prop where
  planted : (w.tree? h.node.repository).isSome
  names : (w.repository h.node.repository).DistinctNames
  hands : (w.repository h.node.repository).Hands h

theorem Does.stands {work : Work Handle} {h : Handle} (does : w.Does work id h r w₁)
    (home : h.node.repository = id) (names : r.DistinctNames) (hands : r.Hands h) :
    w₁.Stands h := by
  subst home
  rw [← does.here] at names hands
  exact ⟨does.planted, names, hands⟩

/-- Work that finds `h` wherever it stands goes on giving it. -/
theorem Stands.gives {work : Work Handle} {h : Handle} (stands : w.Stands h)
    (finds : ∀ {w' : Workspace}, w'.Stands h →
      ∃ w'', w'.Does work h.node.repository h (w'.repository h.node.repository) w'') :
    w.Gives work h := by
  intro log w' run live
  have follows := run.follows stands.planted
  have changes := follows.run.leadsTo.changes fun r op _ => Promise.allows_none r op
  obtain ⟨w'', does⟩ :=
    finds ⟨follows.planted, changes.names stands.names, stands.hands.later changes live⟩
  refine ⟨w'', does.ran, fun id => ?_⟩
  rw [does.left]
  split
  · rename_i same
    rw [same]
  · rfl

variable {h g : Handle} {mode : MergeMode} {q : Qualifiers} {location : Location}

theorem Stands.gives_requalify (stands : w.Stands g) (home : g.node.repository = h.node.repository)
    (same : qualifyName h.basename (h.quals.merged q mode) = g.name) :
    w.Gives (h.requalify mode q location) g :=
  stands.gives fun {w'} stands => by
    have does := does_requalify h mode q location (home ▸ stands.planted)
    rw [← home, stands.hands.requalify stands.names same] at does
    exact does

theorem Stands.gives_takeQuals {others : List Handle} (stands : w.Stands g)
    (named : g.name = qualifyName g.basename g.quals)
    (absorbs : ∀ q ∈ others.map (·.quals), g.quals.merged q .merge = g.quals) :
    w.Gives (g.takeQuals .merge others location) g :=
  stands.gives fun {w'} stands => by
    have does := does_takeQuals .merge location others stands.planted
    rwa [stands.hands.takeQuals named stands.names absorbs] at does

/-- The handle that is given stands where it has been looked up. -/
theorem stands_requalify (mode : MergeMode) (q : Qualifiers) (location : Location)
    (planted : (w.tree? h.node.repository).isSome)
    (names : (w.repository h.node.repository).DistinctNames) :
    ∃ h₁ w₁, (h.requalify mode q location).run.run w = (.ok h₁, w₁) ∧ w₁.Stands h₁ ∧
      h₁.node.repository = h.node.repository ∧
      h₁.name = qualifyName h.basename (h.quals.merged q mode) ∧
      (h₁.basename = h.basename ∧ h₁.quals = h.quals.merged q mode ↔
        (w.repository h.node.repository).SplitsInto h.basename (h.quals.merged q mode)) := by
  obtain ⟨w₁, does⟩ := does_requalify h mode q location planted
  obtain ⟨hands, named⟩ :=
    Repository.hands_requalify (w.repository h.node.repository) h q mode location
  have home := (Repository.home_requalify (w.repository h.node.repository) h q mode
    location).trans (w.id_repository _)
  have steps := Repository.steps_requalify (p := .none) (w.repository h.node.repository) h q mode
    location
  exact ⟨_, w₁, does.ran, does.stands home (steps.changes.names names) hands, home, named,
    Repository.requalify_splits_iff location names⟩

/-- Where each node on the way is registered as it is asked for, so is the last one. -/
theorem stands_takeQuals {other : Handle} {others : List Handle}
    (planted : (w.tree? h.node.repository).isSome)
    (names : (w.repository h.node.repository).DistinctNames)
    (along : Repository.SplitsAlong mode location (w.repository h.node.repository) h
      (other :: others)) :
    ∃ g w₁, (h.takeQuals mode (other :: others) location).run.run w = (.ok g, w₁) ∧ w₁.Stands g ∧
      g.quals = h.quals.mergedAll mode ((other :: others).map (·.quals)) ∧
      g.name = qualifyName g.basename g.quals := by
  obtain ⟨w₁, does⟩ := does_takeQuals mode location (other :: others) planted
  obtain ⟨quals, last⟩ := Repository.takeQuals_of_splits (other :: others) names along
  obtain ⟨hands, named⟩ := last (.inl (List.cons_ne_nil _ _))
  have changes := (Repository.steps_takeQuals (p := .none) mode location (other :: others)
    (w.repository h.node.repository) h).changes
  have home := hands.home.trans (changes.continues.id.trans (w.id_repository _))
  exact ⟨_, w₁, does.ran, does.stands home (changes.names names) hands, quals, named⟩

end Workspace

/-! ## 4. Handles -/

section

open Workspace

variable {w : Workspace} {h : Handle} {log : List Event}

/-- A lookup gives the node with the name for the merged qualifiers. Its handle has the basename
and the merged qualifiers exactly if no node of that name is registered under another split. If so,
a further lookup comes to the same as a single one with both qualifiers merged; and if this holds
all along the way, taking the qualifiers of other nodes again leads to where taking them once has
led. The nodes are there when they have been looked up, and what is said of later lookups is for as
long as they stay. -/
theorem requalified_by_laws (run : Workspace.Runs {} log w)
    (planted : (w.tree? h.node.repository).isSome) (q q' : Qualifiers) (others : List Handle)
    (location : Location) :
    (∃ h₁ w₁, (h.qualify q location).run.run w = (.ok h₁, w₁) ∧
      h₁.name = qualifyName h.basename (h.quals.merged q .append) ∧
      (h₁.basename = h.basename ∧ h₁.quals = h.quals.merged q .append ↔
        (w.repository h.node.repository).SplitsInto h.basename (h.quals.merged q .append)) ∧
      ((w.repository h.node.repository).SplitsInto h.basename (h.quals.merged q .append) →
        ∃ h₂ w₂, (h₁.qualify q' location).run.run w₁ = (.ok h₂, w₂) ∧
          (w₂.repository h₂.node.repository).isLive h₂.id ∧
          w₂.Gives (h.qualify (q.merged q' .append) location) h₂)) ∧
    ∃ g w₁, (h.takeQuals .merge others location).run.run w = (.ok g, w₁) ∧
      (Repository.SplitsAlong .merge location (w.repository h.node.repository) h others →
        (others ≠ [] → (w₁.repository g.node.repository).isLive g.id) ∧
          w₁.Gives (g.takeQuals .merge others location) g) := by
  obtain ⟨options, follows⟩ := run.begun rfl planted
  have names : (w.repository h.node.repository).DistinctNames :=
    Repository.Reachable.names ⟨_, options, follows.run.leadsTo⟩
  constructor
  · obtain ⟨h₁, w₁, ran, stands, home, named, split⟩ :=
      stands_requalify .append q location planted names
    refine ⟨h₁, w₁, ran, named, split, fun splits => ?_⟩
    obtain ⟨basename, quals⟩ := split.mpr splits
    obtain ⟨h₂, w₂, ran₂, stands₂, home₂, named₂, -⟩ :=
      stands_requalify .append q' location stands.planted stands.names
    refine ⟨h₂, w₂, ran₂, stands₂.hands.live, stands₂.gives_requalify (home₂.trans home) ?_⟩
    rw [named₂, basename, quals, Qualifiers.merged_assoc]
  · cases others with
    | nil =>
      refine ⟨h, w, rfl, fun _ => ⟨fun some => absurd rfl some, ?_⟩⟩
      intro log w' _ _
      exact ⟨w', rfl, fun _ => rfl⟩
    | cons other others =>
      obtain ⟨w₁, does⟩ := does_takeQuals .merge location (other :: others) planted
      refine ⟨_, w₁, does.ran, fun along => ?_⟩
      obtain ⟨g, w₂, ran, stands, quals, named⟩ := stands_takeQuals planted names along
      cases does.ran.symm.trans ran
      refine ⟨fun _ => stands.hands.live, stands.gives_takeQuals named ?_⟩
      rw [quals]
      exact Qualifiers.mergedAll_absorbs _ _

end

section

open Workspace

theorem Repository.splitsInto_of_fresh {r : Repository} {basename : String} {quals : Qualifiers}
    (fresh : r.lookup? (qualifyName basename quals) = none) : r.SplitsInto basename quals :=
  fun id n here named => absurd named (lookup?_eq_none.mp fresh id n here)

def numbered : Qualifiers :=
  Qualifiers.empty.withPositional "1"

def keyed : Qualifiers :=
  Qualifiers.empty.withKeyword "a" "b"

/-- Nodes `s` and `x:1`, the latter qualified. -/
def qualifiedNodes : Repository :=
  (Repository.start ⟨0⟩ {}).afterAll
    [.node .root "s" default, .qualify "x" .root numbered default]

/-- Two more nodes, which are named by hand as qualified ones would be. -/
def namesakes : Repository :=
  (Repository.start ⟨0⟩ {}).afterAll [.node .root "s" default, .qualify "x" .root numbered default,
    .node .root "s:1" default, .node .root "s:a=b" default]

/-- Where no name is taken, `s` is qualified twice, and takes the qualifiers of `x:1`. -/
theorem requalified_by_laws_qualifiedNodes :
    ∃ log, Workspace.Runs {} log (single {} qualifiedNodes) ∧
      ∃ h₁ w₁ h₂ w₂, ((qualifiedNodes.handle ⟨0⟩).qualify keyed default).run.run
          (single {} qualifiedNodes) = (.ok h₁, w₁) ∧ h₁.name = "s:a=b" ∧
        (h₁.qualify numbered default).run.run w₁ = (.ok h₂, w₂) ∧
        (w₂.repository h₂.node.repository).isLive h₂.id ∧
        w₂.Gives ((qualifiedNodes.handle ⟨0⟩).qualify (keyed.merged numbered .append) default) h₂ ∧
      ∃ g w₁, ((qualifiedNodes.handle ⟨0⟩).takeQuals .merge [qualifiedNodes.handle ⟨1⟩]
          default).run.run (single {} qualifiedNodes) = (.ok g, w₁) ∧
        (w₁.repository g.node.repository).isLive g.id ∧
        w₁.Gives (g.takeQuals .merge [qualifiedNodes.handle ⟨1⟩] default) g := by
  have run : Workspace.Runs {} _ (single {} qualifiedNodes) := runs_single {} _
  obtain ⟨⟨h₁, w₁, ran, named, -, twice⟩, g, w₂, taken, again⟩ :=
    requalified_by_laws (h := qualifiedNodes.handle ⟨0⟩) run
      (by decide +kernel) keyed numbered [qualifiedNodes.handle ⟨1⟩] default
  obtain ⟨h₂, w₃, ran', live, gives⟩ := twice (Repository.splitsInto_of_fresh (by decide +kernel))
  obtain ⟨live', gives'⟩ := again ⟨Repository.splitsInto_of_fresh (by decide +kernel), trivial⟩
  exact ⟨_, run, h₁, w₁, h₂, w₃, ran, named.trans (by decide +kernel), ran', live, gives, g, w₂,
    taken, live' (List.cons_ne_nil _ _), gives'⟩

/-- The node `s:1` that was named by hand is found, which has no qualifiers; so it does not matter
what it was asked for. -/
theorem not_requalified_by_laws_namesakes :
    ∃ log, Workspace.Runs {} log (single {} namesakes) ∧
      ∃ h x, h = namesakes.handle ⟨0⟩ ∧ x = namesakes.handle ⟨1⟩ ∧
      (∃ h₁, ((h.qualify numbered default).run.run (single {} namesakes)).1 = .ok h₁ ∧
        h.basename = "s" ∧ h₁.basename = "s:1" ∧ h₁.quals = .empty) ∧
      (∃ h₂ h₂', ((do (← h.qualify keyed default).qualify numbered default).run.run
          (single {} namesakes)).1 = .ok h₂ ∧
        ((h.qualify (keyed.merged numbered .append) default).run.run
          (single {} namesakes)).1 = .ok h₂' ∧
        h₂.name = "s:a=b:1" ∧ h₂'.name = "s:1:a=b") ∧
      ∃ g g', ((h.takeQuals .merge [x] default).run.run (single {} namesakes)).1 = .ok g ∧
        ((do (← h.takeQuals .merge [x] default).takeQuals .merge [x] default).run.run
          (single {} namesakes)).1 = .ok g' ∧ g.name = "s:1" ∧ g'.name = "s:1:1" := by
  refine ⟨_, runs_single {} _, _, _, rfl, rfl,
    ⟨⟨⟨⟨0⟩, ⟨2⟩⟩, "s:1", "s:1", .empty, .root⟩, by decide +kernel, by decide +kernel, rfl, rfl⟩,
    ⟨⟨⟨⟨0⟩, ⟨4⟩⟩, "s:a=b:1", "s:a=b", numbered, .root⟩,
      ⟨⟨⟨0⟩, ⟨4⟩⟩, "s:1:a=b", "s", keyed.merged numbered .append, .root⟩, by decide +kernel,
      by decide +kernel, rfl, rfl⟩,
    ⟨⟨⟨0⟩, ⟨2⟩⟩, "s:1", "s:1", .empty, .root⟩, ⟨⟨⟨0⟩, ⟨4⟩⟩, "s:1:1", "s:1", numbered, .root⟩,
    by decide +kernel, by decide +kernel, rfl, rfl⟩

end

end NodeForest

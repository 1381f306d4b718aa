import NodeForest.Proofs.Delivery
import NodeForest.Proofs.Journal
import NodeForest.Proofs.Naming
import NodeForest.Proofs.Searching
import NodeForest.Workspace.Handle

/-!
# Families

A family is found by text: the bound nodes with the name of the node, or with that name, a colon and
anything else. Nobody looks at scopes, and what a scope puts in front of names ends in two colons.
So a scope that is named after a node has all its nodes in the family of that node. Apart from this,
a family stays in the scope of its node as long as no name starts with what another scope puts in
front of its names.

Results:
1. `Operation.Proper`: what is asked for through scopes and handles; `Rooted`, `Reachable.rooted`:
   the name of a node starts with what its scope puts in front.
2. `mem_findFamily`: a family by its names; `foreign_relative`: what brings a node of another scope
   into it.
3. `families_found_by_name`: families in a run; `not_families_found_by_name_subscope`: a scope that
   is named after a node.
-/

namespace NodeForest

open Relation NodeForest.Action

/-- The text `s` starts with `p`. -/
abbrev Starts (p s : String) : Prop :=
  p.toList <+: s.toList

theorem starts_iff {p s : String} : Starts p s ↔ ∃ rest, s = p ++ rest := by
  constructor
  · rintro ⟨rest, same⟩
    exact ⟨String.ofList rest, String.toList_inj.mp (by simp [← same])⟩
  · rintro ⟨rest, rfl⟩
    exact ⟨rest.toList, (String.toList_append ..).symm⟩

theorem starts_append (p s : String) : Starts p (p ++ s) :=
  starts_iff.mpr ⟨s, rfl⟩

theorem starts_qualifyName (basename : String) (quals : Qualifiers) :
    Starts basename (qualifyName basename quals) := by
  rw [qualifyName]
  split
  · exact List.prefix_refl _
  · rw [String.append_assoc]
    exact starts_append _ _

/-- The operation is asked of a scope that is open, or of a handle. -/
def Operation.Proper (r : Repository) : Operation → Prop
  | node scope _ _ | bindAnonymous scope _ _ => scope.index < r.scopes.size
  | qualify basename scope _ _ =>
      scope.index < r.scopes.size ∧ Starts (r.scopePrefix scope) basename
  | _ => True

instance (r : Repository) : ∀ op : Operation, Decidable (op.Proper r)
  | .node .. | .bindAnonymous .. => inferInstanceAs (Decidable (_ < _))
  | .qualify .. => inferInstanceAs (Decidable (_ ∧ _))
  | .openScope .. | .uniqueName .. | .bind .. | .makeConstant .. | .extend .. | .setOptions ..
  | .addError .. | .report .. | .pin .. | .unpin .. | .hold .. | .release .. | .pushFrame ..
  | .popFrame => .isTrue trivial

/-- All operations that are asked for are proper. -/
def Event.Proper (e : Event) : Prop :=
  match e.request with
  | .operation op => op.Proper e.before
  | .resolve _ _ => True

instance : DecidablePred Event.Proper
  | ⟨.operation op, r⟩ => inferInstanceAs (Decidable (op.Proper r))
  | ⟨.resolve .., _⟩ => .isTrue trivial

namespace Repository

variable {op : Operation} {r r' : Repository}

/-! ## 1. What names start with -/

/-- The name of a node starts with what its scope puts in front. -/
structure Rooted (r : Repository) : Prop where
  root : r.RootUnnamed
  located : ∀ {id n}, r.get? id = some n → n.scope.index < r.scopes.size
  nodes : ∀ {id n}, r.get? id = some n → Starts (r.scopePrefix n.scope) n.basename

theorem RootUnnamed.open_root (root : r.RootUnnamed) : ScopeId.root.index < r.scopes.size := by
  obtain ⟨s, there, _⟩ := root
  exact (Array.getElem?_eq_some_iff.mp there).1

theorem RootUnnamed.scopePrefix (root : r.RootUnnamed) : r.scopePrefix .root = "" := by
  have same := root.scopedName ""
  rwa [scopedName_eq, String.append_empty] at same

/-- Scopes that are open go on putting the same in front. -/
theorem scopePrefix_later (later : r.scopeNames <+: r'.scopeNames) {scope : ScopeId}
    (inside : scope.index < r.scopes.size) :
    scope.index < r'.scopes.size ∧ r'.scopePrefix scope = r.scopePrefix scope := by
  rw [← length_scopeNames] at inside
  obtain ⟨more, longer⟩ := later
  have same : r'.scopeName? scope = r.scopeName? scope := by
    rw [scopeName?_eq, scopeName?_eq, ← longer, List.getElem?_append_left inside]
  constructor
  · rw [← length_scopeNames, ← longer, List.length_append]
    omega
  · rw [Repository.scopePrefix, Repository.scopePrefix, same]

theorem starts_scopedName (r : Repository) (scope : ScopeId) (name : String) :
    Starts (r.scopePrefix scope) (r.scopedName scope name) := by
  rw [scopedName_eq]
  exact starts_append _ _

theorem Rooted.within (rooted : r.Rooted) (proper : op.Proper r) {scope : ScopeId}
    (within : Within op r scope) : scope.index < r.scopes.size := by
  rcases within with ⟨argument, location, rfl⟩ | rfl | ⟨id, n, here, rfl⟩
  · exact proper
  · exact rooted.root.open_root
  · exact rooted.located here

/-- The names that an operation asks for start with what the scope puts in front. -/
theorem Rooted.names (rooted : r.Rooted) (proper : op.Proper r) {basename : String}
    {scope : ScopeId} {quals : Qualifiers} (named : Names op r basename scope quals) :
    scope.index < r.scopes.size ∧ Starts (r.scopePrefix scope) basename := by
  cases named with
  | node asked =>
    subst asked
    exact ⟨proper, starts_scopedName r scope _⟩
  | qualify asked =>
    subst asked
    exact proper
  | generated _ within => exact ⟨rooted.within proper within, starts_scopedName r scope _⟩
  | composed cs _ within => exact ⟨rooted.within proper within, starts_scopedName r scope _⟩

theorem Deed.proper (h : Deed op r r') (proper : op.Proper r) : op.Proper r' := by
  have later {scope : ScopeId} (inside : scope.index < r.scopes.size) :=
    scopePrefix_later h.step.scopeNames inside
  cases op with
  | node scope name location => exact (later proper).1
  | bindAnonymous scope argument location => exact (later proper).1
  | qualify basename scope quals location =>
    obtain ⟨inside, starts⟩ := proper
    obtain ⟨inside', same⟩ := later inside
    exact ⟨inside', same ▸ starts⟩
  | _ => trivial

theorem Deed.rooted (h : Deed op r r') (proper : op.Proper r) (rooted : r.Rooted) :
    r'.Rooted := by
  have root := h.step.rootUnnamed rooted.root
  suffices all : ∀ {id n}, r'.get? id = some n →
      n.scope.index < r'.scopes.size ∧ Starts (r'.scopePrefix n.scope) n.basename from
    ⟨root, fun here => (all here).1, fun here => (all here).2⟩
  intro id n here
  have later {scope : ScopeId} {name : String} (known : scope.index < r.scopes.size ∧
      Starts (r.scopePrefix scope) name) :
      scope.index < r'.scopes.size ∧ Starts (r'.scopePrefix scope) name := by
    obtain ⟨inside, same⟩ := scopePrefix_later h.step.scopeNames known.1
    exact ⟨inside, same ▸ known.2⟩
  cases h.nameOrigin here with
  | old there same =>
    rw [same.scope, same.basename]
    exact later ⟨rooted.located there, rooted.nodes there⟩
  | asked named => exact later (rooted.names proper named)
  | constant value location new =>
    subst new
    refine ⟨root.open_root, ?_⟩
    rw [show (r.constantNode value location).scope = .root from rfl, root.scopePrefix]
    exact List.nil_prefix

theorem Deeds.rooted (h : Deeds op r r') (proper : op.Proper r) (rooted : r.Rooted) :
    op.Proper r' ∧ r'.Rooted := by
  induction h with
  | refl => exact ⟨proper, rooted⟩
  | tail _ last ih => exact ⟨last.proper ih.1, last.rooted ih.1 ih.2⟩

theorem covers_rooted : Covers fun r r' => r.Rooted → r'.Rooted := by
  refine covers_sameName.mono fun r r' ⟨scopes, nodes⟩ rooted => ?_
  have names : r'.scopeNames = r.scopeNames := by rw [scopeNames, scopeNames, scopes]
  refine ⟨?_, fun {id n'} here => ?_, fun {id n'} here => ?_⟩
  · rw [RootUnnamed, scopes]
    exact rooted.root
  · obtain ⟨n, there, same⟩ := nodes here
    rw [same.scope, scopes]
    exact rooted.located there
  · obtain ⟨n, there, same⟩ := nodes here
    rw [same.scope, same.basename, scopePrefix, scopeName?_congr names]
    exact rooted.nodes there

theorem LeadsTo.rooted (led : LeadsTo (fun r op => op.Proper r) r r') (rooted : r.Rooted) :
    r'.Rooted :=
  led.kept covers_rooted (fun r op proper rooted => (Deeds.rooted (op.deeds r) proper rooted).2)
    rooted

theorem Rooted.starts_name (rooted : r.Rooted) (qualified : r.Qualified) {id : NodeId} {n : Node}
    (here : r.get? id = some n) : Starts (r.scopePrefix n.scope) n.name := by
  rw [qualified id n here]
  exact (rooted.nodes here).trans (starts_qualifyName _ _)

theorem rooted_start (id : RepositoryId) (options : Options) : (start id options).Rooted :=
  ⟨rootUnnamed_start id options, fun here => (by cases here), fun here => (by cases here)⟩

theorem Reachable.rooted (reached : Reachable (fun r op => op.Proper r) r) : r.Rooted := by
  obtain ⟨id, options, led⟩ := reached
  exact led.rooted (rooted_start id options)

/-- The scope of a handle is open, and its names start with what the scope puts in front. -/
structure HoldsName (r : Repository) (h : Handle) : Prop where
  inside : h.scope.index < r.scopes.size
  basename : Starts (r.scopePrefix h.scope) h.basename
  name : Starts h.basename h.name

theorem Rooted.handle (rooted : r.Rooted) (qualified : r.Qualified) (id : NodeId) :
    r.HoldsName (r.handle id) := by
  rw [Repository.handle, handle?]
  cases here : r.get? id with
  | none =>
    refine ⟨rooted.root.open_root, ?_, List.nil_prefix⟩
    rw [Option.map_none, Option.getD_none, rooted.root.scopePrefix]
  | some n =>
    refine ⟨rooted.located here, rooted.nodes here, ?_⟩
    have named := starts_qualifyName n.basename n.quals
    rwa [← qualified id n here] at named

theorem HoldsName.later {h : Handle} (holds : r.HoldsName h)
    (later : r.scopeNames <+: r'.scopeNames) : r'.HoldsName h := by
  obtain ⟨inside, same⟩ := scopePrefix_later later holds.inside
  exact ⟨inside, same ▸ holds.basename, holds.name⟩

/-- What a handle asks for is proper, in this repository and later on. -/
theorem HoldsName.proper {h : Handle} (holds : r.HoldsName h) (quals : Qualifiers)
    (location : Location) : (Operation.qualify h.basename h.scope quals location).Proper r :=
  ⟨holds.inside, holds.basename⟩

/-! ## 2. Names of a family -/

theorem inFamily_iff {name : String} {n : Node} :
    inFamily name n ↔ n.name = name ∨ ∃ text, n.name = name ++ ":" ++ text := by
  rw [inFamily, Bool.or_eq_true, beq_iff_eq, List.isPrefixOf_iff_prefix, ← starts_iff]

theorem mem_findFamily {name : String} {id : NodeId} :
    id ∈ r.findFamily name ↔ ∃ n, r.get? id = some n ∧ n.isBound ∧
      (n.name = name ∨ ∃ text, n.name = name ++ ":" ++ text) := by
  rw [findFamily, List.mem_map]
  constructor
  · rintro ⟨⟨_, n⟩, member, rfl⟩
    obtain ⟨listed, fits⟩ := List.mem_filter.mp member
    rw [Bool.and_eq_true] at fits
    exact ⟨n, mem_entries.mp listed, fits.1, inFamily_iff.mp fits.2⟩
  · rintro ⟨n, here, bound, named⟩
    refine ⟨(id, n), List.mem_filter.mpr ⟨mem_entries.mpr here, ?_⟩, rfl⟩
    rw [Bool.and_eq_true]
    exact ⟨bound, inFamily_iff.mpr named⟩

/-- A family is listed in registration order. -/
theorem pairwise_findFamily (r : Repository) (name : String) :
    (r.findFamily name).Pairwise fun id id' => id.index < id'.index :=
  r.pairwise_liveIds.sublist (List.filter_sublist.map Prod.fst)

/-- What the scope puts in front is the name and a colon, with or without more: the scope has the
name, or one that qualifies it. -/
def NamedAfter (r : Repository) (scope : ScopeId) (name : String) : Prop :=
  Starts (name ++ ":") (r.scopePrefix scope)

/-- The name does not start with what another scope puts in front, unless this is a scope outside
of the one that the name is of. -/
def Own (r : Repository) (scope : ScopeId) (name : String) : Prop :=
  ∀ other, other.index < r.scopes.size → Starts (r.scopePrefix other) name → other ≠ scope →
    (r.scopePrefix other).length < (r.scopePrefix scope).length

theorem starts_of_length_le {p q s : String} (hp : Starts p s) (hq : Starts q s)
    (shorter : p.length ≤ q.length) : Starts p q :=
  List.prefix_of_prefix_length_le hp hq (by simpa only [String.length_toList] using shorter)

/-- What can bring a node of another scope into the family of a node: the scope is named after the
node, or one of the two names starts like the names of another scope. -/
theorem foreign_relative {name : String} {scope scope' : ScopeId}
    (inside : scope.index < r.scopes.size) (inside' : scope'.index < r.scopes.size)
    {name' : String} (starts : Starts (r.scopePrefix scope) name)
    (starts' : Starts (r.scopePrefix scope') name')
    (related : name' = name ∨ ∃ text, name' = name ++ ":" ++ text) :
    scope' = scope ∨ r.NamedAfter scope' name ∨ ¬r.Own scope name ∨ ¬r.Own scope' name' := by
  by_cases after : r.NamedAfter scope' name
  · exact .inr (.inl after)
  have longer : Starts name name' := by
    rcases related with rfl | ⟨text, rfl⟩
    · exact List.prefix_refl _
    · rw [String.append_assoc]
      exact starts_append _ _
  -- what the scope of the second name puts in front ends within the first name
  have within : Starts (r.scopePrefix scope') name := by
    rcases related with rfl | ⟨text, rfl⟩
    · exact starts'
    · refine starts_of_length_le starts' longer (not_lt.mp fun short => after ?_)
      refine starts_of_length_le (starts_append _ _) starts' ?_
      rw [String.length_append]
      exact short
  by_cases same : scope' = scope
  · exact .inl same
  refine .inr (.inr (not_and_or.mp ?_))
  rintro ⟨own, own'⟩
  have shorter := own scope' inside' within same
  have shorter' := own' scope inside (starts.trans longer) (Ne.symm same)
  omega

/-- All bound nodes of a scope that is named after a node are in the family of the node. -/
theorem Rooted.mem_findFamily_of_namedAfter (rooted : r.Rooted) (qualified : r.Qualified)
    {id : NodeId} {n : Node} {name : String} (here : r.get? id = some n) (bound : n.isBound)
    (after : r.NamedAfter n.scope name) : id ∈ r.findFamily name :=
  mem_findFamily.mpr ⟨n, here, bound, .inr
    (starts_iff.mp (after.trans (rooted.starts_name qualified here)))⟩

/-- No scope is named after the node, and no name starts like the names of a scope that it is not
of. -/
structure Tidy (r : Repository) (h : Handle) : Prop where
  unnamed : ∀ scope, scope.index < r.scopes.size → ¬r.NamedAfter scope h.name
  own : r.Own h.scope h.name
  nodes : ∀ {id n}, r.get? id = some n → n.isBound → r.Own n.scope n.name

instance (r : Repository) (scope : ScopeId) (name : String) : Decidable (r.NamedAfter scope name) :=
  inferInstanceAs (Decidable (_ <+: _))

theorem forall_scope_iff {P : ScopeId → Prop} {k : Nat} :
    (∀ i < k, P ⟨i⟩) ↔ ∀ scope : ScopeId, scope.index < k → P scope :=
  ⟨fun all scope inside => all scope.index inside, fun all i inside => all ⟨i⟩ inside⟩

instance (r : Repository) (scope : ScopeId) (name : String) : Decidable (r.Own scope name) :=
  decidable_of_iff _ forall_scope_iff

theorem tidy_iff {h : Handle} : ((∀ i < r.scopes.size, ¬r.NamedAfter ⟨i⟩ h.name) ∧
    r.Own h.scope h.name ∧ ∀ e ∈ r.entries, e.2.isBound → r.Own e.2.scope e.2.name) ↔ r.Tidy h :=
  ⟨fun ⟨unnamed, own, nodes⟩ => ⟨forall_scope_iff.mp unnamed, own,
      fun {id n} here => nodes (id, n) (mem_entries.mpr here)⟩,
    fun tidy => ⟨forall_scope_iff.mpr tidy.unnamed, tidy.own,
      fun _ member => tidy.nodes (mem_entries.mp member)⟩⟩

instance (r : Repository) (h : Handle) : Decidable (r.Tidy h) :=
  decidable_of_iff _ tidy_iff

end Repository

/-! ## 3. Families in a run -/

/-- What a run does to a repository, if all that is asked for is proper. -/
theorem Workspace.Follows.proper {r : Repository} {log : List Event} {w : Workspace}
    {id : RepositoryId} (follows : Workspace.Follows r log w id) (proper : ∀ e ∈ log, e.Proper) :
    Repository.LeadsTo (fun r op => op.Proper r) r (w.repository id) :=
  follows.run.leadsTo.mono fun _ _ member => proper _ (List.mem_of_mem_filter member)

theorem Handle.run_family (h : Handle) (w : Workspace) :
    h.family.run.run w = (.ok ((w.repository h.node.repository).handles
      ((w.repository h.node.repository).findFamily h.name)), w) :=
  rfl

/-- A search of the family starts from its nodes. -/
theorem Handle.run_search_family (h : Handle) (criteria : SearchCriteria) (location : Location)
    (w : Workspace) : (h.search true criteria location).run.run w =
      (match (w.repository h.node.repository).search { criteria with
          subtree := some ((w.repository h.node.repository).findFamily h.name) } location with
        | .ok found => .ok ((w.repository h.node.repository).handles found)
        | .error d => .error (.diagnostic d), w) := by
  rw [Handle.search, Handle.read, run_readIn_bind]
  dsimp only
  rw [if_pos rfl]
  cases (w.repository h.node.repository).search { criteria with
    subtree := some ((w.repository h.node.repository).findFamily h.name) } location <;> rfl

open Repository in
/-- In a run that uses scopes and handles only, a family is found by the name of the node, in the
order of registration, and searches of the family start from these nodes. It has all bound nodes of
every scope that is named after the node. Any other node of another scope is in it only if its name
or that of the node starts like the names of a scope that it is not of. If neither occurs, the
family has the bound nodes of the scope that go by the name, with or without qualifiers, and no
others. -/
theorem families_found_by_name {w₀ w : Workspace} {log₀ log : List Event} {h : Handle}
    {id₀ : NodeId} (run₀ : Workspace.Runs {} log₀ w₀)
    (planted : (w₀.tree? h.node.repository).isSome)
    (given : h = (w₀.repository h.node.repository).handle id₀) (run : w₀.Runs log w)
    (proper : ∀ e ∈ log₀ ++ log, e.Proper) :
    ∃ r ids, r = w.repository h.node.repository ∧
      h.family.run.run w = (.ok (r.handles ids), w) ∧
      (∀ criteria location, (h.search true criteria location).run.run w =
        (match r.search { criteria with subtree := some ids } location with
          | .ok found => .ok (r.handles found)
          | .error d => .error (.diagnostic d), w)) ∧
      (ids.Pairwise fun id id' => id.index < id'.index) ∧
      (∀ id, id ∈ ids ↔ ∃ n, r.get? id = some n ∧ n.isBound ∧
        (n.name = h.name ∨ ∃ text, n.name = h.name ++ ":" ++ text)) ∧
      (∀ id n, r.get? id = some n → n.isBound → r.NamedAfter n.scope h.name → id ∈ ids) ∧
      (∀ id ∈ ids, ∀ n, r.get? id = some n → n.scope = h.scope ∨ r.NamedAfter n.scope h.name ∨
        ¬r.Own h.scope h.name ∨ ¬r.Own n.scope n.name) ∧
      (r.Tidy h → ∀ id, id ∈ ids ↔ ∃ n, r.get? id = some n ∧ n.isBound ∧ n.scope = h.scope ∧
        (n.name = h.name ∨ ∃ text, n.name = h.name ++ ":" ++ text)) := by
  obtain ⟨proper₀, proper⟩ := List.forall_mem_append.mp proper
  obtain ⟨options, follows₀⟩ := run₀.begun rfl planted
  have led₀ := follows₀.proper proper₀
  have led := (run.follows planted).proper proper
  have qualified₀ := (Reachable.consistent ⟨_, options, led₀⟩).qualified
  have qualified := (Reachable.consistent ⟨_, options, led₀.trans led⟩).qualified
  have rooted₀ : (w₀.repository h.node.repository).Rooted :=
    Reachable.rooted ⟨_, options, led₀⟩
  have rooted := led.rooted rooted₀
  have later := (led.changes fun r op _ => Promise.allows_none r op).scopeNames
  have holds : (w.repository h.node.repository).HoldsName h := by
    have holds := rooted₀.handle qualified₀ id₀
    rw [← given] at holds
    exact holds.later later
  generalize here : w.repository h.node.repository = r at *
  have foreign (id : NodeId) (member : id ∈ r.findFamily h.name) (n : Node)
      (live : r.get? id = some n) : n.scope = h.scope ∨ r.NamedAfter n.scope h.name ∨
        ¬r.Own h.scope h.name ∨ ¬r.Own n.scope n.name := by
    obtain ⟨n', live', _, related⟩ := mem_findFamily.mp member
    cases live.symm.trans live'
    exact foreign_relative holds.inside (rooted.located live) (holds.basename.trans holds.name)
      (rooted.starts_name qualified live) related
  refine ⟨r, r.findFamily h.name, rfl, ?_, fun criteria location => ?_, pairwise_findFamily r _,
    fun id => mem_findFamily,
    fun id n live bound after => rooted.mem_findFamily_of_namedAfter qualified live bound after,
    foreign, fun tidy id => ?_⟩
  · rw [h.run_family, here]
  · rw [h.run_search_family, here]
  · constructor
    · intro member
      obtain ⟨n, live, bound, related⟩ := mem_findFamily.mp member
      have own := foreign id member n live
      have unnamed := tidy.unnamed n.scope (rooted.located live)
      have same : n.scope = h.scope := by
        simpa only [unnamed, tidy.own, tidy.nodes live bound, not_true_eq_false, or_false] using own
      exact ⟨n, live, bound, same, related⟩
    · rintro ⟨n, live, bound, _, related⟩
      exact mem_findFamily.mpr ⟨n, live, bound, related⟩

section

open Workspace

/-- A leaf is bound to the node. -/
def leafBound (id : NodeId) : Operation :=
  .bind id (.ok (.pending (.bare (.standard "Leaf")))) default

/-- Nodes `s`, `s:1` and `sub::s` are bound, the second one qualified. -/
def bindSiblings : List Operation :=
  [.node .root "s" default, leafBound ⟨0⟩,
    .qualify "s" .root (Qualifiers.empty.withPositional "1") default, leafBound ⟨1⟩,
    .openScope .root "sub" .empty, .node ⟨1⟩ "s" default, leafBound ⟨2⟩]

def siblings : Repository :=
  (Repository.start ⟨0⟩ {}).afterAll bindSiblings

theorem families_found_by_name_siblings :
    (∀ e ∈ (Repository.start ⟨0⟩ {}).journal bindSiblings, e.Proper) ∧
      siblings.Tidy (siblings.handle ⟨0⟩) ∧
      ∃ ids, (siblings.handle ⟨0⟩).family.run.run (single {} siblings) =
          (.ok (siblings.handles ids), single {} siblings) ∧ ⟨1⟩ ∈ ids ∧ ⟨2⟩ ∉ ids ∧
        ∀ id, id ∈ ids ↔ ∃ n, siblings.get? id = some n ∧ n.isBound ∧
          n.scope = (siblings.handle ⟨0⟩).scope ∧ (n.name = (siblings.handle ⟨0⟩).name ∨
            ∃ text, n.name = (siblings.handle ⟨0⟩).name ++ ":" ++ text) := by
  have proper : ∀ e ∈ (Repository.start ⟨0⟩ {}).journal bindSiblings ++ [], e.Proper := by
    decide +kernel
  have tidy : siblings.Tidy (siblings.handle ⟨0⟩) := by decide +kernel
  have home : (siblings.handle ⟨0⟩).node.repository = ⟨0⟩ := by decide +kernel
  have here : (single {} siblings).repository (siblings.handle ⟨0⟩).node.repository = siblings := by
    rw [home]
    exact repository_single {} (by decide +kernel)
  have run : Workspace.Runs {} _ (single {} siblings) := runs_single {} bindSiblings
  obtain ⟨r, ids, same, family, _, _, named, _, _, exactly⟩ := families_found_by_name run
    (by decide +kernel) (congrArg (·.handle ⟨0⟩) here).symm (.refl _) proper
  obtain rfl := same.trans here
  have lacks : ⟨2⟩ ∉ ids := by
    rw [named, ← Repository.mem_findFamily]
    decide +kernel
  refine ⟨by simpa using proper, tidy, ids, family, ?_, lacks, exactly tidy⟩
  rw [named, ← Repository.mem_findFamily]
  decide +kernel

/-- The nodes `sub` and `sub::x` are bound, the latter in a scope that is named after the other. -/
def bindBelowNamesake : List Operation :=
  [.node .root "sub" default, leafBound ⟨0⟩, .openScope .root "sub" .empty, .node ⟨1⟩ "x" default,
    leafBound ⟨1⟩]

def belowNamesake : Repository :=
  (Repository.start ⟨0⟩ {}).afterAll bindBelowNamesake

theorem not_families_found_by_name_subscope :
    Workspace.Runs {} ((Repository.start ⟨0⟩ {}).journal bindBelowNamesake)
        (single {} belowNamesake) ∧
      (∀ e ∈ (Repository.start ⟨0⟩ {}).journal bindBelowNamesake, e.Proper) ∧
      ∃ h x, h = belowNamesake.handle ⟨0⟩ ∧ x = belowNamesake.handle ⟨1⟩ ∧
        (h.name = "sub" ∧ h.scope = .root) ∧ (x.name = "sub::x" ∧ x.scope ≠ .root) ∧
        (h.family.run.run (single {} belowNamesake)).1 = .ok [h, x] ∧
        ((h.search true {} default).run.run (single {} belowNamesake)).1 = .ok [h, x] :=
  ⟨runs_single {} _, by decide +kernel, _, _, rfl, rfl, by decide +kernel, by decide +kernel,
    by decide +kernel, by decide +kernel⟩

end

end NodeForest

import NodeForest.Proofs.ConstantName
import NodeForest.Proofs.Operation

/-!
# Steps of a repository

Every operation before a resolve changes a repository in a few kinds of steps only: it registers a
node, attaches a definition to an unbound node, extends the lists of a bound one, sets fields of its
record, records diagnostics, makes the node of a constant, counts a name, opens a scope, or keeps
and gives up what is referenced. `Step` says under which conditions each is taken, so that what
holds of all repositories is shown once for each kind of step.

Results:
1. `Node.Grows`: what no step takes from a node; `get?_relink_grows`.
2. `Step.grows`, `Steps.grows`: no step removes a node, changes its name, or unbinds it;
   `Steps.gone`: nor does one bring back a removed node.
3. `Step.extends`, `Steps.extends`: places and diagnostics are only added, and options and phase
   stay.
-/

namespace NodeForest

open Relation

/-- The children of a list without their labels. -/
def ChildList.members (l : ChildList) : List Child :=
  l.entries.map (·.child)

theorem ChildList.nodeIds_eq (l : ChildList) : l.nodeIds = l.members.filterMap Child.nodeId? := by
  rw [nodeIds, members, List.filterMap_map]
  rfl

theorem Child.mem_nodeIds {cs : List Child} {id : NodeId} :
    id ∈ cs.filterMap Child.nodeId? ↔ ∃ ref, Child.node ref ∈ cs ∧ ref.id = id := by
  rw [List.mem_filterMap]
  constructor
  · rintro ⟨c, member, here⟩
    cases c <;> simp [Child.nodeId?, Child.node?] at here
    exact ⟨_, member, here⟩
  · rintro ⟨ref, member, rfl⟩
    exact ⟨_, member, rfl⟩

/-- The node of a constant with this key: a constant by its class, with the number in its record. -/
def Binding.Holds (b : Binding) (key : Constant) : Prop :=
  b.className = (NodeClass.standard "Constant").fullName ∧
    ∃ value : Constant, value.key = key ∧
      OrderedMap.get? b.record Definition.valueKey = some value.toValue

/-- The scope after it has generated a name. -/
def Scope.counted (s : Scope) (name : String) : Scope :=
  { s with counters := OrderedMap.insert s.counters name (Repository.counter s name + 1) }

/-- What is promised about the operations of a run. -/
structure Promise where
  /-- References handed in name numbers that are given already. -/
  allocated : Prop
  /-- Definitions handed in name their class, and no field is set afterwards. -/
  records : Prop
  /-- No list of a bound node is extended, and no scope is opened. -/
  lists : Prop

namespace Promise

/-- Nothing is promised. -/
def none : Promise := ⟨False, False, False⟩

/-- The only promise is that references handed in name numbers already given. -/
def allocating : Promise := ⟨True, False, False⟩

/-- What a bind promises: references are not looked at, records and lists stay. -/
def binding : Promise := ⟨False, True, True⟩

/-- All of it is promised. -/
def strict : Promise := ⟨True, True, True⟩

/-- Nodes among children are of this repository, and under the promise their numbers are given. -/
def Fits (p : Promise) (r : Repository) (cs : List Child) : Prop :=
  ∀ ref, Child.node ref ∈ cs →
    ref.repository = r.id ∧ (p.allocated → ref.id.index < r.nodes.size)

theorem Fits.append {p : Promise} {r : Repository} {cs cs' : List Child} (h : p.Fits r cs)
    (h' : p.Fits r cs') : p.Fits r (cs ++ cs') :=
  fun ref member => (List.mem_append.mp member).elim (h ref) (h' ref)

end Promise

namespace Repository

/-- One change of a repository under the promise `p`. -/
inductive Step (p : Promise) : Repository → Repository → Prop
  | register {r : Repository} (basename : String) (scope : ScopeId) (quals : Qualifiers)
      (location : Location) (free : r.lookup? (qualifyName basename quals) = none) :
      Step p r (r.register (qualifyName basename quals) basename scope quals location)
  | attach {r : Repository} {id : NodeId} {n : Node} (b : Binding) (here : r.get? id = some n)
      (unbound : n.binding = none) (fresh : b.placement = none)
      (fits : p.Fits r (b.children.members ++ b.steps.members))
      (named : p.records → OrderedMap.get? b.record Record.classKey = some (.text b.className)) :
      Step p r ((r.relink id (fun _ => some b) b.childIds).noteClass id b.className)
  | extend {r : Repository} {id : NodeId} (role : ChildRole) (cs : List Child) (open' : ¬p.lists)
      (bound : r.isBound id) (fits : p.Fits r cs) :
      Step p r (r.relink id (·.map (extendBinding role cs)) (cs.filterMap Child.nodeId?))
  | setFields {r : Repository} (id : NodeId) (f : Record → Record) (open' : ¬p.records) :
      Step p r (r.relink id (·.map fun b => { b with record := f b.record }) [])
  | note {r : Repository} (ds : List Diagnostic) : Step p r { r with errors := r.errors ++ ds }
  | share {r : Repository} (value : Constant) (location : Location)
      (unknown : (OrderedMap.get? r.constants value.key).filter r.isLive = none) :
      Step p r (r.withConstant value location)
  | count {r : Repository} {s : Scope} (scope : ScopeId) (name : String)
      (here : r.scopes[scope.index]? = some s) :
      Step p r { r with scopes := r.scopes.setIfInBounds scope.index (s.counted name) }
  | openScope {r : Repository} (name : String) (open' : ¬p.lists) :
      Step p r { r with scopes := r.scopes.push { name := some name } }
  | keep {r : Repository} (frames : List Location) (held pinned : List NodeId) :
      Step p r { r with frames, held, pinned }

/-- Any number of steps. -/
abbrev Steps (p : Promise) : Repository → Repository → Prop :=
  ReflTransGen (Step p)

/-! ## What noting a class leaves alone -/

section

variable (r : Repository) (id : NodeId) (className : String)

theorem noteClass_eq :
    ∃ sinks spigots mux, r.noteClass id className = { r with sinks, spigots, mux } := by
  simp only [noteClass]
  split
  · exact ⟨_, _, _, rfl⟩
  · split
    · exact ⟨_, _, _, rfl⟩
    · split <;> exact ⟨_, _, _, rfl⟩

/-- Attaching a definition changes the nodes, and what is noted of a class. -/
theorem attached_eq (b : Binding) (children : List NodeId) :
    ∃ nodes sinks spigots mux,
      (r.relink id (fun _ => some b) children).noteClass id className =
        { r with nodes, sinks, spigots, mux } := by
  obtain ⟨_, _, _, same⟩ := noteClass_eq (r.relink id (fun _ => some b) children) id className
  rw [same, relink_eq]
  exact ⟨_, _, _, _, rfl⟩

theorem get?_noteClass (other : NodeId) : (r.noteClass id className).get? other = r.get? other := by
  obtain ⟨_, _, _, same⟩ := noteClass_eq r id className
  rw [same]; rfl

end

end Repository

/-! ## 1. Growth of a node -/

/-- The list of a definition that holds the children of a role. -/
def Binding.list (b : Binding) : Repository.ChildRole → ChildList
  | .child => b.children
  | .step => b.steps

/-- What a change keeps of a definition as it is. -/
structure Kept where
  record : Prop
  list : Repository.ChildRole → Prop

/-- What steps under a promise keep. -/
def Promise.kept (p : Promise) : Kept :=
  ⟨p.records, fun _ => p.lists⟩

/-- The list has the same form, and further entries at its end, if any. -/
structure ChildList.Grows (l l' : ChildList) : Prop where
  keyed : l'.keyed = l.keyed
  resolved : l'.resolved = l.resolved
  entries : l.entries <+: l'.entries

namespace ChildList.Grows

theorem refl (l : ChildList) : l.Grows l :=
  ⟨rfl, rfl, List.prefix_refl _⟩

theorem trans {l₁ l₂ l₃ : ChildList} (h : l₁.Grows l₂) (h' : l₂.Grows l₃) : l₁.Grows l₃ :=
  ⟨h'.keyed.trans h.keyed, h'.resolved.trans h.resolved, h.entries.trans h'.entries⟩

theorem push (l : ChildList) (cs : List Child) : l.Grows (l.push cs) :=
  ⟨rfl, rfl, List.prefix_append _ _⟩

end ChildList.Grows

/-- What is not taken from a definition. -/
structure Binding.Grows (k : Kept) (b b' : Binding) : Prop where
  className : b'.className = b.className
  boundAt : b'.boundAt = b.boundAt
  record : k.record → b'.record = b.record
  list : ∀ role, (b.list role).Grows (b'.list role)
  same : ∀ role, k.list role → b'.list role = b.list role

namespace Binding.Grows

variable {k : Kept}

theorem refl (b : Binding) : b.Grows k b :=
  ⟨rfl, rfl, fun _ => rfl, fun _ => .refl _, fun _ _ => rfl⟩

theorem trans {b₁ b₂ b₃ : Binding} (h : b₁.Grows k b₂) (h' : b₂.Grows k b₃) : b₁.Grows k b₃ :=
  ⟨h'.className.trans h.className, h'.boundAt.trans h.boundAt,
    fun hr => (h'.record hr).trans (h.record hr), fun role => (h.list role).trans (h'.list role),
    fun role hl => (h'.same role hl).trans (h.same role hl)⟩

theorem mono {k' : Kept} {b b' : Binding} (h : b.Grows k b') (record : k'.record → k.record)
    (list : ∀ role, k'.list role → k.list role) : b.Grows k' b' :=
  ⟨h.className, h.boundAt, fun hr => h.record (record hr), h.list,
    fun role hl => h.same role (list role hl)⟩

theorem lists {p : Promise} {b b' : Binding} (h : b.Grows p.kept b') (hl : p.lists) :
    b'.children = b.children ∧ b'.steps = b.steps :=
  ⟨h.same .child hl, h.same .step hl⟩

/-- An extension leaves the other list alone. -/
theorem extendBinding {role : Repository.ChildRole} (open' : ¬k.list role) (cs : List Child)
    (b : Binding) : b.Grows k (Repository.extendBinding role cs b) := by
  cases role with
  | child =>
    refine ⟨rfl, rfl, fun _ => rfl, fun role => ?_, fun role kept => ?_⟩
    · cases role
      exacts [.push _ _, .refl _]
    · cases role
      exacts [absurd kept open', rfl]
  | step =>
    refine ⟨rfl, rfl, fun _ => rfl, fun role => ?_, fun role kept => ?_⟩
    · cases role
      exacts [.refl _, .push _ _]
    · cases role
      exacts [rfl, absurd kept open']

theorem withRecord (open' : ¬k.record) (b : Binding) (record : Record) :
    b.Grows k { b with record } :=
  ⟨rfl, rfl, fun kept => absurd kept open', fun role => by cases role <;> exact .refl _,
    fun role _ => by cases role <;> rfl⟩

end Binding.Grows

/-- What is not taken from a node. -/
structure Node.Grows (k : Kept) (n n' : Node) : Prop where
  name : n'.name = n.name
  basename : n'.basename = n.basename
  quals : n'.quals = n.quals
  scope : n'.scope = n.scope
  definedAt : n'.definedAt = n.definedAt
  parents : n.parents <+: n'.parents
  binding : ∀ b, n.binding = some b → ∃ b', n'.binding = some b' ∧ b.Grows k b'

namespace Node.Grows

variable {k : Kept}

theorem refl (n : Node) : n.Grows k n :=
  ⟨rfl, rfl, rfl, rfl, rfl, List.prefix_refl _, fun b here => ⟨b, here, .refl b⟩⟩

theorem trans {n₁ n₂ n₃ : Node} (h : n₁.Grows k n₂) (h' : n₂.Grows k n₃) : n₁.Grows k n₃ := by
  refine ⟨h'.name.trans h.name, h'.basename.trans h.basename, h'.quals.trans h.quals,
    h'.scope.trans h.scope, h'.definedAt.trans h.definedAt, h.parents.trans h'.parents,
    fun b here => ?_⟩
  obtain ⟨b₁, here₁, grows₁⟩ := h.binding b here
  obtain ⟨b₂, here₂, grows₂⟩ := h'.binding b₁ here₁
  exact ⟨b₂, here₂, grows₁.trans grows₂⟩

theorem mono {k' : Kept} {n n' : Node} (h : n.Grows k n') (record : k'.record → k.record)
    (list : ∀ role, k'.list role → k.list role) : n.Grows k' n' := by
  refine { h with binding := fun b here => ?_ }
  obtain ⟨b', here', grows⟩ := h.binding b here
  exact ⟨b', here', grows.mono record list⟩

theorem withBinding {n : Node} {binding : Option Binding}
    (grows : ∀ b, n.binding = some b → ∃ b', binding = some b' ∧ b.Grows k b') :
    n.Grows k { n with binding } :=
  ⟨rfl, rfl, rfl, rfl, rfl, List.prefix_refl _, grows⟩

theorem withParent (n : Node) (id : NodeId) : n.Grows k (n.withParent id) := by
  simp only [Node.withParent]
  split
  · exact .refl n
  · exact ⟨rfl, rfl, rfl, rfl, rfl, List.prefix_append _ _, fun b here => ⟨b, here, .refl b⟩⟩

end Node.Grows

namespace Repository

variable {p : Promise} {r r' : Repository}

/-- A changed definition and a further parent take nothing from any node, if the change does not. -/
theorem get?_relink_grows {k : Kept} {id other : NodeId} {f : Option Binding → Option Binding}
    {children : List NodeId} {n : Node} (here : r.get? other = some n)
    (grows : other = id → ∀ b, n.binding = some b → ∃ b', f (some b) = some b' ∧ b.Grows k b') :
    ∃ n', (r.relink id f children).get? other = some n' ∧ n.Grows k n' := by
  have changed : n.Grows k (if other = id then { n with binding := f n.binding } else n) := by
    split
    · rename_i same
      refine .withBinding fun b bound => ?_
      rw [bound]
      exact grows same b bound
    · exact .refl n
  rw [get?_relink, here]
  refine ⟨_, rfl, ?_⟩
  dsimp only
  split
  · exact changed.trans (.withParent _ id)
  · exact changed

/-! ## 2. Nodes stay -/

/-- A step removes no node, changes no name, and unbinds nothing. -/
theorem Step.grows (h : Step p r r') {id : NodeId} {n : Node} (here : r.get? id = some n) :
    ∃ n', r'.get? id = some n' ∧ n.Grows p.kept n' := by
  have old : id.index ≠ r.nodes.size := Nat.ne_of_lt (index_lt_of_get? here)
  cases h with
  | register basename scope quals location free =>
    exact ⟨n, by rw [get?_register, if_neg old, here], .refl n⟩
  | share value location => exact ⟨n, by rw [get?_withConstant_of_ne _ _ _ old, here], .refl n⟩
  | @attach target n₀ b there unbound =>
    have vacuous : id = target → ∀ b', n.binding = some b' →
        ∃ b'', some b = some b'' ∧ b'.Grows p.kept b'' := by
      intro same b' bound
      rw [← same, here] at there
      cases there
      rw [unbound] at bound
      cases bound
    obtain ⟨n', here', grows⟩ : ∃ n',
        (r.relink target (fun _ => some b) b.childIds).get? id = some n' ∧ n.Grows p.kept n' :=
      get?_relink_grows here vacuous
    exact ⟨n', by rw [get?_noteClass, here'], grows⟩
  | extend role cs open' =>
    exact get?_relink_grows here fun _ b _ => ⟨_, rfl, .extendBinding open' cs b⟩
  | setFields id f open' =>
    exact get?_relink_grows here fun _ b _ => ⟨_, rfl, .withRecord open' b _⟩
  | note | count | openScope | keep => exact ⟨n, here, .refl n⟩

theorem Steps.grows (h : Steps p r r') {id : NodeId} {n : Node} (here : r.get? id = some n) :
    ∃ n', r'.get? id = some n' ∧ n.Grows p.kept n' := by
  induction h with
  | refl => exact ⟨n, here, .refl n⟩
  | tail _ step ih =>
    obtain ⟨n₁, here₁, grows₁⟩ := ih
    obtain ⟨n₂, here₂, grows₂⟩ := step.grows here₁
    exact ⟨n₂, here₂, grows₁.trans grows₂⟩

theorem Steps.isLive (h : Steps p r r') {id : NodeId} (live : r.isLive id) : r'.isLive id := by
  obtain ⟨n, here⟩ := isLive_iff.mp live
  obtain ⟨n', here', _⟩ := h.grows here
  exact isLive_iff.mpr ⟨n', here'⟩

/-- A definition stays, up to what the promise allows. -/
theorem Steps.binding (h : Steps p r r') {id : NodeId} {b : Binding}
    (here : r.bindingOf? id = some b) :
    ∃ b', r'.bindingOf? id = some b' ∧ b.Grows p.kept b' := by
  obtain ⟨n, live, bound⟩ := Option.bind_eq_some_iff.mp here
  obtain ⟨n', live', grows⟩ := h.grows live
  obtain ⟨b', bound', more⟩ := grows.binding b bound
  exact ⟨b', by rw [bindingOf?_of_get? live', bound'], more⟩

theorem Steps.isBound (h : Steps p r r') {id : NodeId} (bound : r.isBound id) : r'.isBound id := by
  obtain ⟨b, here⟩ := isBound_iff.mp bound
  obtain ⟨b', here', _⟩ := h.binding here
  exact isBound_iff.mpr ⟨b', here'⟩

/-- A step brings no removed node back. -/
theorem Step.gone (h : Step p r r') {id : NodeId} (given : id.index < r.nodes.size)
    (gone : r.get? id = none) : r'.get? id = none := by
  have old : id.index ≠ r.nodes.size := Nat.ne_of_lt given
  have relinked (target : NodeId) (f : Option Binding → Option Binding) (children : List NodeId) :
      (r.relink target f children).get? id = none := by rw [get?_relink, gone]; rfl
  cases h with
  | register => rw [get?_register, if_neg old, gone]
  | share value location => rw [get?_withConstant_of_ne _ _ _ old, gone]
  | attach => rw [get?_noteClass, relinked]
  | extend | setFields => exact relinked _ _ _
  | note | count | openScope | keep => exact gone

theorem Step.nameOf? (h : Step p r r') {id : NodeId} (given : id.index < r.nodes.size) :
    r'.nameOf? id = r.nameOf? id := by
  rw [Repository.nameOf?, Repository.nameOf?]
  cases here : r.get? id with
  | none => rw [h.gone given here]
  | some n =>
    obtain ⟨n', here', grows⟩ := h.grows here
    rw [here', Option.map_some, Option.map_some, grows.name]

/-! ## 3. The rest of the repository -/

/-- What a step leaves as it is, and what it only adds to. -/
structure Extends (r r' : Repository) : Prop where
  id : r'.id = r.id
  options : r'.options = r.options
  phase : r'.phase = r.phase
  size : r.nodes.size ≤ r'.nodes.size
  errors : r.errors <+: r'.errors

theorem Extends.refl (r : Repository) : Extends r r :=
  ⟨rfl, rfl, rfl, Nat.le_refl _, List.prefix_refl _⟩

theorem Extends.trans {r₁ r₂ r₃ : Repository} (h : Extends r₁ r₂) (h' : Extends r₂ r₃) :
    Extends r₁ r₃ :=
  ⟨h'.id.trans h.id, h'.options.trans h.options, h'.phase.trans h.phase,
    Nat.le_trans h.size h'.size, h.errors.trans h'.errors⟩

/-- When nothing has been recorded in the end, nothing has been on the way. -/
theorem Extends.quiet {r₁ r₂ : Repository} (h : Extends r r₁) (h' : Extends r₁ r₂)
    (same : r₂.errors = r.errors) : r₁.errors = r.errors ∧ r₂.errors = r₁.errors := by
  have back : r₁.errors <+: r.errors := same ▸ h'.errors
  have : r.errors = r₁.errors := h.errors.eq_of_length_le back.length_le
  exact ⟨this.symm, same.trans this⟩

theorem extends_relink (r : Repository) (id : NodeId) (f : Option Binding → Option Binding)
    (children : List NodeId) : Extends r (r.relink id f children) := by
  rw [relink_eq]
  exact ⟨rfl, rfl, rfl, Nat.le_of_eq (nodes_size_relink r id f children).symm, List.prefix_refl _⟩

theorem extends_noteClass (r : Repository) (id : NodeId) (className : String) :
    Extends r (r.noteClass id className) := by
  obtain ⟨_, _, _, same⟩ := noteClass_eq r id className
  rw [same]
  exact ⟨rfl, rfl, rfl, Nat.le_refl _, List.prefix_refl _⟩

theorem Step.extends (h : Step p r r') : Extends r r' := by
  cases h with
  | register basename scope quals location free =>
    exact ⟨rfl, rfl, rfl, by rw [nodes_size_register]; omega, List.prefix_refl _⟩
  | attach b => exact (extends_relink ..).trans (extends_noteClass ..)
  | extend => exact extends_relink ..
  | setFields => exact extends_relink ..
  | share value location =>
    rw [withConstant_eq]
    exact ⟨rfl, rfl, rfl, by rw [nodes_size_withConstant]; omega, List.prefix_refl _⟩
  | note ds => exact ⟨rfl, rfl, rfl, Nat.le_refl _, List.prefix_append _ _⟩
  | count | openScope | keep => exact ⟨rfl, rfl, rfl, Nat.le_refl _, List.prefix_refl _⟩

theorem Steps.extends (h : Steps p r r') : Extends r r' := by
  induction h with
  | refl => exact .refl r
  | tail _ step ih => exact ih.trans step.extends

theorem Steps.gone (h : Steps p r r') {id : NodeId} (given : id.index < r.nodes.size)
    (gone : r.get? id = none) : r'.get? id = none := by
  induction h with
  | refl => exact gone
  | tail before step ih =>
    exact step.gone (Nat.lt_of_lt_of_le given (Steps.extends before).size) ih

end Repository

theorem Promise.Fits.mono {p : Promise} {r r' : Repository} {cs : List Child} (fits : p.Fits r cs)
    (h : r.Extends r') : p.Fits r' cs := fun ref member =>
  ⟨(fits ref member).1.trans h.id.symm, fun ha =>
    Nat.lt_of_lt_of_le ((fits ref member).2 ha) h.size⟩

end NodeForest

import Mathlib.Data.List.Basic
import NodeForest.Repository.Resolve

/-!
# The node table

What each change of the table of nodes does to the node under a number, to the definition it has,
and to its parents.

Results:
1. `lookup?_eq_some`, `lookup?_eq_none`: the name table is the node table.
2. `get?_register`, `get?_updateAll`, `get?_relink`: the node under a number after a registration,
   after a change to several nodes, and after a node got another definition and its children a
   parent.
3. `isBound_relink`, `childIdsOf_relink`, `parentsOf_relink`: the same in terms of definitions,
   children and parents.
-/

namespace NodeForest

namespace Repository

/-- The definition attached to a node. -/
def bindingOf? (r : Repository) (id : NodeId) : Option Binding :=
  (r.get? id).bind (·.binding)

/-- The parents of a node, none for a removed one. -/
def parentsOf (r : Repository) (id : NodeId) : List NodeId :=
  ((r.get? id).map (·.parents)).getD []

theorem isLive_iff {r : Repository} {id : NodeId} : r.isLive id ↔ ∃ n, r.get? id = some n := by
  simp [isLive, Option.isSome_iff_exists]

theorem isBound_iff {r : Repository} {id : NodeId} :
    r.isBound id ↔ ∃ b, r.bindingOf? id = some b := by
  simp only [isBound, bindingOf?, Node.isBound]
  cases r.get? id <;> simp [Option.isSome_iff_exists]

theorem isBound_eq (r : Repository) (id : NodeId) : r.isBound id = (r.bindingOf? id).isSome := by
  simp only [isBound, bindingOf?, Node.isBound]
  cases r.get? id <;> simp

theorem childIdsOf_eq (r : Repository) (id : NodeId) :
    r.childIdsOf id = ((r.bindingOf? id).map (·.childIds)).getD [] := by
  simp only [childIdsOf, bindingOf?, Node.childIds]
  cases r.get? id <;> rfl

theorem bindingOf?_of_get? {r : Repository} {id : NodeId} {n : Node} (h : r.get? id = some n) :
    r.bindingOf? id = n.binding := by
  simp [bindingOf?, h]

theorem parentsOf_of_get? {r : Repository} {id : NodeId} {n : Node} (h : r.get? id = some n) :
    r.parentsOf id = n.parents := by
  simp [parentsOf, h]

/-- The class of a bound node. -/
def classOf? (r : Repository) (id : NodeId) : Option String :=
  (r.bindingOf? id).map (·.className)

theorem isBound_eq_classOf? (r : Repository) (id : NodeId) :
    r.isBound id = (r.classOf? id).isSome := by
  rw [isBound_eq, classOf?, Option.isSome_map]

theorem isLive_of_isBound {r : Repository} {id : NodeId} (h : r.isBound id) : r.isLive id := by
  obtain ⟨b, hb⟩ := isBound_iff.mp h
  obtain ⟨n, hn, _⟩ := Option.bind_eq_some_iff.mp hb
  exact isLive_iff.mpr ⟨n, hn⟩

/-- Only bound nodes have children. -/
theorem isBound_of_mem_childIdsOf {r : Repository} {child parent : NodeId}
    (member : child ∈ r.childIdsOf parent) : r.isBound parent := by
  rw [childIdsOf_eq] at member
  rw [isBound_eq]
  cases here : r.bindingOf? parent with
  | none => simp [here] at member
  | some b => rfl

theorem index_lt_of_get? {r : Repository} {id : NodeId} {n : Node} (h : r.get? id = some n) :
    id.index < r.nodes.size :=
  lt_of_isLive (isLive_iff.mpr ⟨n, h⟩)

theorem mem_entries {r : Repository} {id : NodeId} {n : Node} :
    (id, n) ∈ r.entries ↔ r.get? id = some n := by
  simp only [entries, List.mem_filterMap, List.mem_range, Option.map_eq_some_iff, Prod.mk.injEq]
  constructor
  · rintro ⟨i, _, m, here, rfl, rfl⟩
    exact here
  · intro here
    exact ⟨id.index, index_lt_of_get? here, n, here, rfl, rfl⟩

/-! ## 1. Names -/

theorem lookup?_eq_some {r : Repository} {name : String} {id : NodeId}
    (h : r.lookup? name = some id) : ∃ n, r.get? id = some n ∧ n.name = name := by
  obtain ⟨i, found, rfl⟩ := Option.map_eq_some_iff.mp h
  obtain ⟨inside, named, _⟩ := Array.findIdx?_eq_some_iff_getElem.mp found
  obtain ⟨n, here, same⟩ := (Option.any_eq_true _ _).mp named
  exact ⟨n, by simp [get?, inside, here], by simpa using same⟩

theorem lookup?_eq_none {r : Repository} {name : String} :
    r.lookup? name = none ↔ ∀ id n, r.get? id = some n → n.name ≠ name := by
  simp only [lookup?, Option.map_eq_none_iff, Array.findIdx?_eq_none_iff]
  constructor
  · intro absent id n here same
    obtain ⟨inside, slot⟩ := Array.getElem?_eq_some_iff.mp (Option.join_eq_some_iff.mp here)
    have := absent _ (Array.mem_of_getElem slot)
    simp [same] at this
  · intro absent slot member
    obtain ⟨i, inside, rfl⟩ := Array.mem_iff_getElem.mp member
    cases here : r.nodes[i] with
    | none => rfl
    | some n =>
      have := absent ⟨i⟩ n (by simp [get?, inside, here])
      simpa using this

theorem isLive_of_lookup? {r : Repository} {name : String} {id : NodeId}
    (h : r.lookup? name = some id) : r.isLive id := by
  obtain ⟨n, here, _⟩ := lookup?_eq_some h
  exact isLive_iff.mpr ⟨n, here⟩

/-- Repositories with the same nodes under the same numbers. -/
theorem nodes_ext {r r' : Repository} (size : r.nodes.size = r'.nodes.size)
    (same : ∀ id, r.get? id = r'.get? id) : r.nodes = r'.nodes := by
  refine Array.ext size fun i inside inside' => ?_
  have here := same ⟨i⟩
  rwa [get?, get?, Array.getElem?_eq_getElem inside, Array.getElem?_eq_getElem inside',
    Option.join_some, Option.join_some] at here

/-- The names of the live nodes, in the order of registration. -/
def nameMap (r : Repository) : OrderedMap String NodeId :=
  r.entries.map fun entry => (entry.2.name, entry.1)

theorem nameMap_eq (r : Repository) :
    r.nameMap = (List.range r.nodes.size).filterMap fun i =>
      (r.nameOf? ⟨i⟩).map fun name => (name, ⟨i⟩) := by
  simp only [nameMap, entries, List.map_filterMap, Option.map_map, nameOf?]
  rfl

/-- As long as no node comes, goes or changes its name among those that are there, the names are
listed as before, and others after them. -/
theorem nameMap_prefix {r r' : Repository} (size : r.nodes.size ≤ r'.nodes.size)
    (same : ∀ id : NodeId, id.index < r.nodes.size → r'.nameOf? id = r.nameOf? id) :
    r.nameMap <+: r'.nameMap := by
  obtain ⟨more, longer⟩ := Nat.exists_eq_add_of_le size
  have before : ((List.range r.nodes.size).filterMap fun i =>
      (r'.nameOf? ⟨i⟩).map fun name => (name, NodeId.mk i)) = r.nameMap := by
    rw [nameMap_eq]
    exact List.filterMap_congr fun i member => by rw [same ⟨i⟩ (List.mem_range.mp member)]
  rw [nameMap_eq r', longer, List.range_add, List.filterMap_append, before]
  exact List.prefix_append _ _

/-! ## 2. The node under a number -/

theorem get?_register (r : Repository) (name basename : String) (scope : ScopeId)
    (quals : Qualifiers) (location : Location) (id : NodeId) :
    (r.register name basename scope quals location).get? id =
      if id.index = r.nodes.size then
        some { name, basename, scope, quals, definedAt := location, trail := r.frames }
      else r.get? id := by
  simp only [get?, register, Array.getElem?_push]
  split <;> rfl

theorem nodes_size_register (r : Repository) (name basename : String) (scope : ScopeId)
    (quals : Qualifiers) (location : Location) :
    (r.register name basename scope quals location).nodes.size = r.nodes.size + 1 := by
  simp [register]

theorem get?_eq_none {r : Repository} {id : NodeId} (h : r.nodes.size ≤ id.index) :
    r.get? id = none := by
  simp [get?, h]

/-- Changing the nodes of a list changes those that are in it, once, if a second change of the same
node does nothing. -/
theorem get?_updateAll {f : Node → Node} {id : NodeId} :
    ∀ (ids : List NodeId) (r : Repository), (∀ n, r.get? id = some n → f (f n) = f n) →
      (r.updateAll ids f).get? id = if id ∈ ids then (r.get? id).map f else r.get? id
  | [], _, _ => by simp [updateAll]
  | first :: ids, r, idem => by
    have idem' : ∀ n, (r.update first f).get? id = some n → f (f n) = f n := by
      intro n here
      rw [get?_update] at here
      split at here
      · obtain ⟨n', here', rfl⟩ := Option.map_eq_some_iff.mp here
        rw [idem n' here', idem n' here']
      · exact idem n here
    rw [updateAll, List.foldl_cons, ← updateAll, get?_updateAll ids _ idem', get?_update]
    by_cases same : id = first
    · subst same
      cases here : r.get? id with
      | none => simp
      | some n => by_cases again : id ∈ ids <;> simp [again, idem n here]
    · simp [same]

/-- A change to the nodes of a list leaves the rest of the repository alone. -/
theorem updateAll_eq (r : Repository) (ids : List NodeId) (f : Node → Node) :
    r.updateAll ids f = { r with nodes := (r.updateAll ids f).nodes } := by
  induction ids generalizing r with
  | nil => rfl
  | cons id ids ih => rw [updateAll, List.foldl_cons, ← updateAll, ih]; rfl

end Repository

/-- The node with a further parent. -/
def Node.withParent (n : Node) (parent : NodeId) : Node :=
  if n.parents.contains parent then n else { n with parents := n.parents ++ [parent] }

namespace Node

variable (n : Node) (parent : NodeId)

theorem withParent_withParent : (n.withParent parent).withParent parent = n.withParent parent := by
  by_cases h : parent ∈ n.parents <;> simp [withParent, h]

@[simp]
theorem binding_withParent : (n.withParent parent).binding = n.binding := by
  simp only [withParent]; split <;> rfl

@[simp]
theorem name_withParent : (n.withParent parent).name = n.name := by
  simp only [withParent]; split <;> rfl

theorem mem_parents_withParent {n : Node} {parent other : NodeId} :
    other ∈ (n.withParent parent).parents ↔ other ∈ n.parents ∨ other = parent := by
  by_cases h : parent ∈ n.parents
  · simp only [withParent, List.contains_eq_mem, h, decide_true, ↓reduceIte]
    exact ⟨.inl, fun h' => h'.elim id fun same => same ▸ h⟩
  · simp [withParent, h]

theorem nodup_withParent (h : n.parents.Nodup) : (n.withParent parent).parents.Nodup := by
  by_cases old : parent ∈ n.parents
  · simpa [withParent, old] using h
  · simp only [withParent, List.contains_eq_mem, old, decide_false, Bool.false_eq_true, ↓reduceIte]
    rw [List.nodup_append]
    exact ⟨h, by simp, fun a member b same => by
      rw [List.mem_singleton.mp same]; exact fun eq => old (eq ▸ member)⟩

end Node

namespace Repository

/-- What a definition with resolved children becomes when it is attached. -/
def newBinding (r : Repository) (d : Definition) (location : Location) : Binding :=
  { className := d.nodeClass.fullName, children := d.children, steps := d.steps, record := d.record,
    boundAt := location, trail := r.frames }

/-- Changes the definition of a node, and notes it as a parent of some nodes. -/
def relink (r : Repository) (id : NodeId) (f : Option Binding → Option Binding)
    (children : List NodeId) : Repository :=
  (r.update id fun n => { n with binding := f n.binding }).addParent id children

section

variable (r : Repository) (id : NodeId) (f : Option Binding → Option Binding)
variable (children : List NodeId) (other : NodeId)

theorem get?_addParent :
    (r.addParent id children).get? other =
      if other ∈ children then (r.get? other).map (·.withParent id) else r.get? other :=
  get?_updateAll children r fun n _ => n.withParent_withParent id

theorem get?_relink :
    (r.relink id f children).get? other =
      (r.get? other).map fun n =>
        let n := if other = id then { n with binding := f n.binding } else n
        if other ∈ children then n.withParent id else n := by
  rw [relink, get?_addParent, get?_update]
  split <;> split <;> cases r.get? other <;> rfl

theorem relink_eq :
    r.relink id f children = { r with nodes := (r.relink id f children).nodes } := by
  rw [relink, addParent, updateAll_eq]; rfl

theorem nodes_size_relink : (r.relink id f children).nodes.size = r.nodes.size := by
  rw [relink, addParent, nodes_size_updateAll, nodes_size_update]

theorem isLive_relink : (r.relink id f children).isLive other = r.isLive other := by
  rw [relink, addParent, isLive_updateAll, isLive_update]

/-! ## 3. Definitions and parents -/

theorem bindingOf?_relink :
    (r.relink id f children).bindingOf? other =
      if other = id then (r.get? other).bind fun n => f n.binding else r.bindingOf? other := by
  simp only [bindingOf?, get?_relink]
  cases r.get? other with
  | none => simp
  | some n =>
    simp only [Option.map_some, Option.bind_some]
    by_cases same : other = id
    · simp only [same, ↓reduceIte]
      split <;> simp
    · simp only [same, ↓reduceIte]
      split <;> simp

theorem isBound_relink {r : Repository} {id other : NodeId} {f : Option Binding → Option Binding}
    {children : List NodeId} (keeps : ∀ b, (f (some b)).isSome) (bound : r.isBound other) :
    (r.relink id f children).isBound other := by
  obtain ⟨b, here⟩ := isBound_iff.mp bound
  obtain ⟨n, live, binding⟩ := Option.bind_eq_some_iff.mp here
  rw [isBound_eq, bindingOf?_relink]
  split
  · rw [live, Option.bind_some, binding]
    exact keeps b
  · rw [here]
    rfl

theorem mem_parentsOf_relink {p : NodeId} :
    p ∈ (r.relink id f children).parentsOf other ↔
      p ∈ r.parentsOf other ∨ (p = id ∧ other ∈ children ∧ r.isLive other) := by
  simp only [parentsOf, get?_relink, isLive]
  cases r.get? other with
  | none => simp
  | some n =>
    simp only [Option.map_some, Option.getD_some, Option.isSome_some, and_true]
    split <;> split <;> simp_all [Node.mem_parents_withParent]

theorem nodup_parentsOf_relink (h : (r.parentsOf other).Nodup) :
    ((r.relink id f children).parentsOf other).Nodup := by
  simp only [parentsOf, get?_relink] at h ⊢
  cases here : r.get? other with
  | none => simp
  | some n =>
    simp only [here, Option.map_some, Option.getD_some] at h ⊢
    split <;> split <;> first | exact Node.nodup_withParent _ _ h | exact h

end

end Repository

end NodeForest

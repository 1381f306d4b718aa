import NodeForest.Proofs.NormalForm
import NodeForest.Proofs.RecordFields
import NodeForest.Proofs.References

/-!
# Stored definitions are well-formed

No record that a repository stores holds a key twice, at any depth, and the definitions in lists
that were taken as they came are well-formed, as long as all that is handed in is. This is shown
for every state that is reached, resolves included.

Results:
1. `Operation.HandsWellFormed`: what is handed in; `Child.WellFormed.nested`: what is nested in it.
2. `Repository.WellFormed`, `Reachable.wellFormed`: what is stored.
-/

namespace NodeForest

/-- The record and the children of a bound node are well-formed. -/
structure Binding.WellFormed (b : Binding) : Prop where
  record : Record.WellFormed b.record
  members : ∀ c ∈ b.members, c.WellFormed

/-- All that is stored is well-formed. -/
def Repository.WellFormed (r : Repository) : Prop :=
  ∀ id b, r.bindingOf? id = some b → b.WellFormed

/-- The children and the values of fields that are handed in are well-formed. -/
structure Operation.HandsWellFormed (op : Operation) : Prop where
  children : op.WellFormed
  options : ∀ {id options location}, op = .setOptions id options location →
    ∀ field ∈ options, field.2.WellFormed

/-! ## 1. What is handed in -/

mutual

/-- What is nested in a well-formed child is well-formed, and so are the lists that are taken from
it. -/
theorem Child.WellFormed.nested : ∀ {c : Child}, c.WellFormed →
    (∀ d ∈ c.definitions, d.WellFormed) ∧ ∀ l ∈ c.takenLists, l.WellFormed
  | .pending d, h => by
    rw [Child.WellFormed] at h
    obtain ⟨inner, taken⟩ := h.nested
    rw [Child.definitions, Child.takenLists]
    exact ⟨List.forall_mem_cons.mpr ⟨h, inner⟩, taken⟩
  | .empty, _ | .name _, _ | .constant _, _ | .node _, _ | .factory _ _, _ => by
    simp [Child.definitions, Child.takenLists]
termination_by structural c => c

theorem Entry.WellFormed.nested : ∀ {e : Entry}, e.WellFormed →
    (∀ d ∈ e.definitions, d.WellFormed) ∧ ∀ l ∈ e.takenLists, l.WellFormed
  | ⟨_, c⟩, h => by
    rw [Entry.WellFormed] at h
    rw [Entry.definitions, Entry.takenLists]
    exact h.nested
termination_by structural e => e

theorem Entry.AllWellFormed.nested : ∀ {es : List Entry}, Entry.AllWellFormed es →
    (∀ d ∈ Entry.allDefinitions es, d.WellFormed) ∧ ∀ l ∈ Entry.allTakenLists es, l.WellFormed
  | [], _ => by simp [Entry.allDefinitions, Entry.allTakenLists]
  | e :: rest, h => by
    rw [Entry.AllWellFormed] at h
    obtain ⟨definitions, taken⟩ := h.1.nested
    obtain ⟨definitions', taken'⟩ := Entry.AllWellFormed.nested h.2
    rw [Entry.allDefinitions, Entry.allTakenLists, List.forall_mem_append, List.forall_mem_append]
    exact ⟨⟨definitions, definitions'⟩, taken, taken'⟩
termination_by structural es => es

theorem ChildList.WellFormed.nested : ∀ {l : ChildList}, l.WellFormed →
    (∀ d ∈ l.definitions, d.WellFormed) ∧ ∀ l' ∈ l.takenLists, l'.WellFormed
  | ⟨es, keyed, true⟩, h => by
    rw [ChildList.definitions, ChildList.takenLists, if_pos rfl, if_pos rfl]
    exact ⟨nofun, List.forall_mem_singleton.mpr h⟩
  | ⟨es, keyed, false⟩, h => by
    rw [ChildList.WellFormed] at h
    rw [ChildList.definitions, ChildList.takenLists, if_neg Bool.false_ne_true,
      if_neg Bool.false_ne_true]
    exact Entry.AllWellFormed.nested h
termination_by structural l => l

theorem Definition.WellFormed.nested : ∀ {d : Definition}, d.WellFormed →
    (∀ d' ∈ d.inner, d'.WellFormed) ∧ ∀ l ∈ d.takenLists, l.WellFormed
  | ⟨_, cs, ss, _⟩, h => by
    obtain ⟨definitions, taken⟩ := h.children.nested
    obtain ⟨definitions', taken'⟩ := h.steps.nested
    rw [Definition.inner, Definition.takenLists, List.forall_mem_append, List.forall_mem_append]
    exact ⟨⟨definitions, definitions'⟩, taken, taken'⟩
termination_by structural d => d

end

theorem Entry.allWellFormed_iff : ∀ {es : List Entry},
    Entry.AllWellFormed es ↔ ∀ c ∈ es.map (·.child), c.WellFormed
  | [] => by simp [Entry.AllWellFormed]
  | ⟨_, _⟩ :: rest => by
    rw [Entry.AllWellFormed, Entry.WellFormed, Entry.allWellFormed_iff, List.map_cons,
      List.forall_mem_cons]

theorem ChildList.wellFormed_iff {l : ChildList} :
    l.WellFormed ↔ ∀ c ∈ l.members, c.WellFormed := by
  obtain ⟨entries, _, _⟩ := l
  exact Entry.allWellFormed_iff

namespace Operation

variable {op : Operation}

theorem HandsWellFormed.definitions (h : op.HandsWellFormed) :
    ∀ d ∈ op.definitions, d.WellFormed := by
  have bindings {c : Child} (wellFormed : c.WellFormed) : ∀ d ∈ c.bindings, d.WellFormed := by
    intro d member
    rw [Child.bindings] at member
    cases denoted : c.definition? with
    | none => rw [denoted] at member; cases member
    | some d₀ =>
      rw [denoted] at member
      have outer := Repository.wellFormed_of_definition? denoted wellFormed
      exact List.forall_mem_cons.mpr ⟨outer, outer.nested.1⟩ d member
  cases op with
  | bind id argument location =>
    cases argument with
    | error => exact List.forall_mem_nil _
    | ok c => exact bindings (h.children c (List.mem_singleton_self c))
  | bindAnonymous scope c location => exact bindings (h.children c (List.mem_singleton_self c))
  | extend role id cs location =>
    intro d member
    obtain ⟨c, inside, here⟩ := List.mem_flatMap.mp member
    exact (h.children c inside).nested.1 d here
  | _ => exact List.forall_mem_nil _

theorem HandsWellFormed.taken (h : op.HandsWellFormed) :
    op.Takes fun l => ∀ c ∈ l.members, c.WellFormed := by
  intro l member
  obtain ⟨c, inside, here⟩ := List.mem_flatMap.mp member
  exact ChildList.wellFormed_iff.mp ((h.children c inside).nested.2 l here)

end Operation

/-! ## 2. Records -/

theorem Record.WellFormed.insertAll {fields : List (String × Value)} :
    ∀ {record : Record}, record.WellFormed → (∀ field ∈ fields, field.2.WellFormed) →
      Record.WellFormed (OrderedMap.insertAll record fields) := by
  induction fields with
  | nil => exact fun h _ => h
  | cons field fields ih =>
    intro record h given
    obtain ⟨first, rest⟩ := List.forall_mem_cons.mp given
    exact ih (h.insert field.1 first) rest

theorem Binding.Realizes.record_wellFormed {b : Binding} {d : Definition} (realizes : b.Realizes d)
    (h : Record.WellFormed d.record) : Record.WellFormed b.record := by
  rcases realizes.record with same | same
  · exact same ▸ h
  · rw [same]
    exact h.insert _ (by rw [Value.WellFormed] <;> simp)

namespace Repository

variable {r r' : Repository} {op : Operation}

/-- The records of bound nodes are well-formed. -/
def RecordsWellFormed (r : Repository) : Prop :=
  ∀ id b, r.bindingOf? id = some b → Record.WellFormed b.record

theorem Deed.recordsWellFormed (h : Deed op r r') (handed : op.HandsWellFormed)
    (stored : r.RecordsWellFormed) : r'.RecordsWellFormed := by
  intro id b here
  cases h.bindingOrigin here with
  | old was => exact stored _ _ was
  | @extended b role _ _ cs asked was =>
    have same : (extendBinding role cs b).record = b.record := by cases role <;> rfl
    exact same ▸ stored _ _ was
  | fields asked was => exact (stored _ _ was).insertAll (handed.options asked)
  | attached given realizes fresh =>
    rcases given with member | ⟨value, rfl⟩
    · exact realizes.record_wellFormed (handed.definitions _ member).record
    · exact realizes.record_wellFormed (Definition.wellFormed_ofConstant value).record

theorem Deeds.recordsWellFormed (h : Deeds op r r') (handed : op.HandsWellFormed)
    (stored : r.RecordsWellFormed) : r'.RecordsWellFormed := by
  induction h with
  | refl => exact stored
  | tail _ last ih => exact last.recordsWellFormed handed ih

theorem wellFormed_indexList (indices : List Int) : (indexList indices).WellFormed := by
  rw [indexList, Value.WellFormed, Value.wellFormedItems_iff]
  simp [Value.WellFormed]

theorem wellFormed_childIndices (ids : List NodeId) (l : ChildList) :
    (ChildIndices.toValue (childIndices ids l)).WellFormed := by
  rw [childIndices]
  split
  · rw [ChildIndices.toValue, Value.WellFormed, Value.wellFormedFields_iff, OrderedMap.keys,
      List.map_map]
    refine ⟨OrderedMap.nodup_keys_insertAll List.nodup_nil, fun field member => ?_⟩
    obtain ⟨entry, _, rfl⟩ := List.mem_map.mp member
    trivial
  · exact wellFormed_indexList _

theorem wellFormed_placedFields (n : Node) (className : String) (ids : List NodeId) (i : Nat)
    (cs ss : ChildList) :
    ∀ field ∈ placedFields n className ⟨i, childIndices ids cs, indicesOf ids ss, ⟩,
      field.2.WellFormed := by
  have children := wellFormed_childIndices ids cs
  have steps := wellFormed_indexList (indicesOf ids ss)
  intro field member
  simp only [placedFields, List.mem_append, List.mem_cons, List.not_mem_nil, or_false] at member
  rcases member with ((rfl | rfl | rfl) | member) | member
  · trivial
  · trivial
  · trivial
  · split at member
    · cases member
    · obtain rfl := List.mem_singleton.mp member
      exact children
  · split at member
    · cases member
    · obtain rfl := List.mem_singleton.mp member
      exact steps

theorem covers_recordsWellFormed :
    Covers fun r r' => r.RecordsWellFormed → r'.RecordsWellFormed where
  note := fun _ _ stored => stored
  turn := fun _ _ stored => stored
  settle := by
    intro r stored id b bound
    obtain ⟨n, here, had⟩ := Option.bind_eq_some_iff.mp bound
    obtain ⟨n₀, there, same⟩ := (thinned_settle r).node here
    rw [same] at had
    exact stored _ _ (by rw [bindingOf?_of_get? there]; exact had)
  place := by
    intro r stored id b' bound
    obtain ⟨n', here, had⟩ := Option.bind_eq_some_iff.mp bound
    rw [get?_place] at here
    obtain ⟨n, there, rfl⟩ := Option.map_eq_some_iff.mp here
    obtain ⟨b, was, rfl⟩ := Option.map_eq_some_iff.mp had
    have before := stored _ _ (by rw [bindingOf?_of_get? there]; exact was)
    exact before.insertAll (wellFormed_placedFields n _ _ _ _ _)

/-- All that is stored in a run is well-formed, if all that is handed in is. -/
theorem Reachable.wellFormed (h : Reachable (fun _ op => op.HandsWellFormed) r) :
    r.WellFormed := by
  obtain ⟨id, options, led⟩ := h
  have records := led.kept covers_recordsWellFormed
    (fun _ op handed stored => (op.deeds _).recordsWellFormed handed stored) fun _ _ here => by cases here
  have settled (c : Child) (resolved : c.IsResolved) : c.WellFormed := by
    cases c <;> trivial
  have members := led.stores settled (fun _ _ handed => handed.taken)
    (orderly_start id options).cached (stores_start id options)
  exact fun _ _ bound => ⟨records _ _ bound, members _ _ bound⟩

end Repository

end NodeForest

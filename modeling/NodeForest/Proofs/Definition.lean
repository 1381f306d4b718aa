import NodeForest.Definition.Equality
import NodeForest.Proofs.OrderedMap

/-!
# Well-formed definitions

A definition that was put together by `Definition.ofParts` names its class in its record, and no
record holds a key twice. This module states that for all that a child can hold, together with the
node references in it, and shows that everything well-formed equals itself.

Results:
1. `Value.equal_self`, `Record.equal_self`: records equal themselves; `Record.get?_text_of_equal`:
   equal records have the same texts.
2. `ChildList.equal_self`: so do children and definitions.
3. `Definition.wellFormed_ofParts`, `Definition.wellFormed_ofConstant`: where well-formed
   definitions come from; `Definition.ofParts_eq`: putting one together again changes nothing.
-/

namespace NodeForest

/-! ## 1. Values -/

namespace Value

/-- Fields are in a list when each is found there under its key, and equals itself. -/
theorem fieldsIn_of_get? {other : List (String × Value)} :
    ∀ {fields : List (String × Value)},
      (∀ entry ∈ fields, OrderedMap.get? other entry.1 = some entry.2 ∧ equal entry.2 entry.2) →
        fieldsIn fields other
  | [], _ => by simp [fieldsIn]
  | (k, v) :: rest, h => by
    obtain ⟨found, same⟩ := h (k, v) List.mem_cons_self
    have := fieldsIn_of_get? fun entry member => h entry (List.mem_cons_of_mem _ member)
    simp only at found same
    simp [fieldsIn, found, same, this]

mutual

theorem equal_self : ∀ v : Value, v.WellFormed → equal v v
  | .bool _, _ | .int _, _ | .float _, _ | .complex _ _, _ | .text _, _ => by simp [equal]
  | .list items, h => by
    rw [WellFormed] at h
    rw [equal]
    exact equalItems_self items h
  | .record fields, h => by
    rw [WellFormed] at h
    obtain ⟨distinct, each⟩ := h
    have members := equal_fields fields each
    simp only [equal, beq_self_eq_true, Bool.true_and]
    exact fieldsIn_of_get? fun entry member =>
      ⟨OrderedMap.get?_of_mem distinct member, members entry member⟩

theorem equalItems_self : ∀ vs : List Value, WellFormedItems vs → equalItems vs vs
  | [], _ => by simp [equalItems]
  | v :: rest, h => by
    rw [WellFormedItems] at h
    simp [equalItems, equal_self v h.1, equalItems_self rest h.2]

theorem equal_fields : ∀ fields : List (String × Value), WellFormedFields fields →
    ∀ entry ∈ fields, equal entry.2 entry.2
  | [], _ => by simp
  | (_, v) :: rest, h => by
    rw [WellFormedFields] at h
    intro entry member
    rcases List.mem_cons.mp member with rfl | member
    · exact equal_self v h.1
    · exact equal_fields rest h.2 entry member

end

theorem fieldsIn_get? {other : List (String × Value)} {k : String} {v : Value} :
    ∀ {fields : List (String × Value)}, fieldsIn fields other → OrderedMap.get? fields k = some v →
      ∃ w, OrderedMap.get? other k = some w ∧ equal v w
  | (k₀, v₀) :: rest, h, found => by
    rw [fieldsIn, Bool.and_eq_true] at h
    rw [OrderedMap.get?_cons] at found
    split at found
    · rename_i same
      cases found
      rw [beq_iff_eq.mp same]
      split at h
      · rename_i w there
        exact ⟨w, there, h.1⟩
      · simp at h
    · exact fieldsIn_get? h.2 found

end Value

namespace Record

theorem equal_self {record : Record} (h : record.WellFormed) : Record.equal record record := by
  have := Value.equal_self _ h
  simpa [Value.equal, Record.equal] using this

/-- A text field has the same text in an equal record. -/
theorem get?_text_of_equal {a b : Record} (h : Record.equal a b) {k s : String}
    (found : OrderedMap.get? a k = some (.text s)) : OrderedMap.get? b k = some (.text s) := by
  rw [Record.equal, Bool.and_eq_true] at h
  obtain ⟨w, there, same⟩ := Value.fieldsIn_get? h.2 found
  cases w <;> simp [Value.equal] at same
  rw [there, same]

end Record

/-! ## 2. Children and definitions -/

mutual

/-- The definitions in a child are well-formed. What a factory would give does not count. -/
def Child.WellFormed : Child → Prop
  | .pending d => d.WellFormed
  | _ => True
termination_by structural c => c

def Entry.WellFormed : Entry → Prop
  | ⟨_, child⟩ => child.WellFormed
termination_by structural e => e

def Entry.AllWellFormed : List Entry → Prop
  | [] => True
  | e :: rest => e.WellFormed ∧ Entry.AllWellFormed rest
termination_by structural es => es

def ChildList.WellFormed : ChildList → Prop
  | ⟨entries, _, _⟩ => Entry.AllWellFormed entries
termination_by structural l => l

/-- The record names the class, and no record holds a key twice, here and in the children. -/
def Definition.WellFormed : Definition → Prop
  | ⟨nodeClass, children, steps, record⟩ =>
      OrderedMap.get? record Record.classKey = some (.text nodeClass.fullName) ∧
        Record.WellFormed record ∧ children.WellFormed ∧ steps.WellFormed
termination_by structural d => d

end

mutual

/-- The node references in a child. What a factory refers to does not count, as repositories call no
factories. -/
def Child.nodeRefs : Child → List NodeRef
  | .node ref => [ref]
  | .pending d => d.nodeRefs
  | _ => []
termination_by structural c => c

def Entry.nodeRefs : Entry → List NodeRef
  | ⟨_, child⟩ => child.nodeRefs
termination_by structural e => e

def Entry.allNodeRefs : List Entry → List NodeRef
  | [] => []
  | e :: rest => e.nodeRefs ++ Entry.allNodeRefs rest
termination_by structural es => es

def ChildList.nodeRefs : ChildList → List NodeRef
  | ⟨entries, _, _⟩ => Entry.allNodeRefs entries
termination_by structural l => l

def Definition.nodeRefs : Definition → List NodeRef
  | ⟨_, children, steps, _⟩ => children.nodeRefs ++ steps.nodeRefs
termination_by structural d => d

end

mutual

/-- The node references in those lists of a child that count as resolved. A bind takes these as they
are, where it looks up the node of every other reference. -/
def Child.takenRefs : Child → List NodeRef
  | .pending d => d.takenRefs
  | _ => []
termination_by structural c => c

def Entry.takenRefs : Entry → List NodeRef
  | ⟨_, child⟩ => child.takenRefs
termination_by structural e => e

def Entry.allTakenRefs : List Entry → List NodeRef
  | [] => []
  | e :: rest => e.takenRefs ++ Entry.allTakenRefs rest
termination_by structural es => es

def ChildList.takenRefs : ChildList → List NodeRef
  | ⟨entries, _, resolved⟩ =>
      if resolved then entries.filterMap (·.child.node?) else Entry.allTakenRefs entries
termination_by structural l => l

def Definition.takenRefs : Definition → List NodeRef
  | ⟨_, children, steps, _⟩ => children.takenRefs ++ steps.takenRefs
termination_by structural d => d

end

mutual

/-- The lists of a child that count as resolved, so that a bind takes them as they are. -/
def Child.takenLists : Child → List ChildList
  | .pending d => d.takenLists
  | _ => []
termination_by structural c => c

def Entry.takenLists : Entry → List ChildList
  | ⟨_, child⟩ => child.takenLists
termination_by structural e => e

def Entry.allTakenLists : List Entry → List ChildList
  | [] => []
  | e :: rest => e.takenLists ++ Entry.allTakenLists rest
termination_by structural es => es

def ChildList.takenLists : ChildList → List ChildList
  | ⟨entries, keyed, resolved⟩ =>
      if resolved then [⟨entries, keyed, true⟩] else Entry.allTakenLists entries
termination_by structural l => l

def Definition.takenLists : Definition → List ChildList
  | ⟨_, children, steps, _⟩ => children.takenLists ++ steps.takenLists
termination_by structural d => d

end

theorem Entry.allTakenLists_eq : ∀ es : List Entry,
    Entry.allTakenLists es = (es.map (·.child)).flatMap Child.takenLists
  | [] => rfl
  | ⟨label, child⟩ :: rest => by
    rw [Entry.allTakenLists, Entry.takenLists, Entry.allTakenLists_eq rest]
    rfl

theorem Definition.takenRefs_eq (d : Definition) :
    d.takenRefs = d.children.takenRefs ++ d.steps.takenRefs := by
  obtain ⟨_, _, _, _⟩ := d
  rw [takenRefs]

theorem Definition.WellFormed.classKey {d : Definition} (h : d.WellFormed) :
    OrderedMap.get? d.record Record.classKey = some (.text d.nodeClass.fullName) := by
  obtain ⟨_, _, _, _⟩ := d
  rw [WellFormed] at h
  exact h.1

theorem Definition.WellFormed.record {d : Definition} (h : d.WellFormed) :
    Record.WellFormed d.record := by
  obtain ⟨_, _, _, _⟩ := d
  rw [WellFormed] at h
  exact h.2.1

theorem Definition.WellFormed.children {d : Definition} (h : d.WellFormed) :
    d.children.WellFormed := by
  obtain ⟨_, _, _, _⟩ := d
  rw [WellFormed] at h
  exact h.2.2.1

theorem Definition.WellFormed.steps {d : Definition} (h : d.WellFormed) : d.steps.WellFormed := by
  obtain ⟨_, _, _, _⟩ := d
  rw [WellFormed] at h
  exact h.2.2.2

theorem Entry.mem_allNodeRefs {ref : NodeRef} {e : Entry} :
    ∀ {entries : List Entry}, e ∈ entries → ref ∈ e.nodeRefs → ref ∈ Entry.allNodeRefs entries
  | first :: rest, member, inside => by
    rw [Entry.allNodeRefs, List.mem_append]
    rcases List.mem_cons.mp member with rfl | member
    · exact .inl inside
    · exact .inr (Entry.mem_allNodeRefs member inside)

mutual

theorem Child.takenRefs_subset : ∀ c : Child, c.takenRefs ⊆ c.nodeRefs
  | .pending d => by
    rw [Child.takenRefs, Child.nodeRefs]
    exact Definition.takenRefs_subset d
  | .empty | .name _ | .constant _ | .node _ | .factory _ _ => by simp [Child.takenRefs]
termination_by structural c => c

theorem Entry.takenRefs_subset : ∀ e : Entry, e.takenRefs ⊆ e.nodeRefs
  | ⟨label, child⟩ => by
    rw [Entry.takenRefs, Entry.nodeRefs]
    exact Child.takenRefs_subset child
termination_by structural e => e

theorem Entry.allTakenRefs_subset :
    ∀ entries : List Entry, Entry.allTakenRefs entries ⊆ Entry.allNodeRefs entries
  | [] => by simp [Entry.allTakenRefs]
  | e :: rest => by
    rw [Entry.allTakenRefs, Entry.allNodeRefs]
    exact List.append_subset.mpr
      ⟨List.subset_append_of_subset_left _ (Entry.takenRefs_subset e),
        List.subset_append_of_subset_right _ (Entry.allTakenRefs_subset rest)⟩
termination_by structural es => es

theorem ChildList.takenRefs_subset : ∀ l : ChildList, l.takenRefs ⊆ l.nodeRefs
  | ⟨entries, _, true⟩ => by
    rw [ChildList.takenRefs, if_pos rfl, ChildList.nodeRefs]
    intro ref inside
    obtain ⟨⟨label, child⟩, member, here⟩ := List.mem_filterMap.mp inside
    refine Entry.mem_allNodeRefs member ?_
    cases child <;> simp [Child.node?] at here
    simp [Entry.nodeRefs, Child.nodeRefs, here]
  | ⟨entries, _, false⟩ => by
    rw [ChildList.takenRefs, if_neg Bool.false_ne_true, ChildList.nodeRefs]
    exact Entry.allTakenRefs_subset entries
termination_by structural l => l

theorem Definition.takenRefs_subset : ∀ d : Definition, d.takenRefs ⊆ d.nodeRefs
  | ⟨_, children, steps, _⟩ => by
    rw [Definition.takenRefs, Definition.nodeRefs]
    exact List.append_subset.mpr
      ⟨List.subset_append_of_subset_left _ (ChildList.takenRefs_subset children),
        List.subset_append_of_subset_right _ (ChildList.takenRefs_subset steps)⟩
termination_by structural d => d

end

mutual

theorem Child.equal_self : ∀ c : Child, c.WellFormed → c.equal c
  | .empty, _ | .name _, _ | .constant _, _ | .node _, _ | .factory _ _, _ => by
    simp [Child.equal, Constant.same]
  | .pending d, h => by
    rw [Child.WellFormed] at h
    rw [Child.equal]
    exact Definition.equal_self d h

theorem Entry.equal_self : ∀ e : Entry, e.WellFormed → e.equal e
  | ⟨label, child⟩, h => by
    rw [Entry.WellFormed] at h
    simp [Entry.equal, Child.equal_self child h]

theorem Entry.equalAll_self : ∀ es : List Entry, Entry.AllWellFormed es → Entry.equalAll es es
  | [], _ => by simp [Entry.equalAll]
  | e :: rest, h => by
    rw [Entry.AllWellFormed] at h
    simp [Entry.equalAll, Entry.equal_self e h.1, Entry.equalAll_self rest h.2]

theorem ChildList.equal_self : ∀ l : ChildList, l.WellFormed → l.equal l
  | ⟨entries, keyed, resolved⟩, h => by
    rw [ChildList.WellFormed] at h
    simp [ChildList.equal, Entry.equalAll_self entries h]

theorem Definition.equal_self : ∀ d : Definition, d.WellFormed → d.equal d
  | ⟨nodeClass, children, steps, record⟩, h => by
    rw [Definition.WellFormed] at h
    obtain ⟨_, wellFormed, first, second⟩ := h
    simp [Definition.equal, ChildList.equal_self children first, ChildList.equal_self steps second,
      Record.equal_self wellFormed]

end

/-- Nodes and empty places equal themselves only. -/
theorem Child.eq_of_equal {c c' : Child} (stands : c = .empty ∨ ∃ ref, c = .node ref)
    (same : c'.equal c) : c' = c := by
  rcases stands with rfl | ⟨ref, rfl⟩
  · cases c' <;> simp [Child.equal] at same
    rfl
  · cases c' <;> simp [Child.equal] at same
    rw [same]

theorem Entry.equalAll_iff {es es' : List Entry}
    (stand : ∀ e ∈ es, e.child = .empty ∨ ∃ ref, e.child = .node ref) :
    Entry.equalAll es' es ↔ es' = es := by
  induction es generalizing es' with
  | nil => cases es' <;> simp [Entry.equalAll]
  | cons e es ih =>
    obtain ⟨first, rest⟩ := List.forall_mem_cons.mp stand
    cases es' with
    | nil => simp [Entry.equalAll]
    | cons e' es' =>
      obtain ⟨label, child⟩ := e
      obtain ⟨label', child'⟩ := e'
      have same : child'.equal child ↔ child' = child :=
        ⟨Child.eq_of_equal first, fun same => by
          rcases first with rfl | ⟨ref, rfl⟩ <;> simp [same, Child.equal]⟩
      simp [Entry.equalAll, Entry.equal, same, ih rest]

theorem ChildList.equal_iff {l l' : ChildList}
    (stand : ∀ e ∈ l.entries, e.child = .empty ∨ ∃ ref, e.child = .node ref) :
    l'.equal l ↔ l'.keyed = l.keyed ∧ l'.entries = l.entries := by
  obtain ⟨entries, keyed, resolved⟩ := l
  obtain ⟨entries', keyed', resolved'⟩ := l'
  simp [ChildList.equal, Entry.equalAll_iff stand]

/-- A record with one text equals itself only. -/
theorem Record.equal_singleton {record : Record} {k s : String} :
    Record.equal record [(k, .text s)] ↔ record = [(k, .text s)] := by
  match record with
  | [] => simp [Record.equal]
  | [(k', v)] =>
    have fields : Record.equal [(k', v)] [(k, .text s)] ↔ k' = k ∧ Value.equal v (.text s) := by
      by_cases same : k' = k <;> simp [Record.equal, Value.fieldsIn, OrderedMap.get?_cons, same]
    rw [fields]
    cases v <;> simp [Value.equal]
  | _ :: _ :: _ => simp [Record.equal]

/-! ## 3. Putting definitions together -/

theorem Value.wellFormedFields_iff {fields : List (String × Value)} :
    WellFormedFields fields ↔ ∀ entry ∈ fields, entry.2.WellFormed := by
  induction fields with
  | nil => simp [WellFormedFields]
  | cons entry rest ih => obtain ⟨k, v⟩ := entry; simp [WellFormedFields, ih]

theorem Record.WellFormed.insert {record : Record} (h : record.WellFormed) (k : String) {v : Value}
    (hv : v.WellFormed) : Record.WellFormed (OrderedMap.insert record k v) := by
  rw [Record.WellFormed, Value.WellFormed, Value.wellFormedFields_iff] at h ⊢
  refine ⟨OrderedMap.nodup_keys_insert h.1 k v, fun entry member => ?_⟩
  rcases OrderedMap.mem_insert member with old | new
  · exact h.2 entry old
  · exact new ▸ hv

namespace Definition

theorem get?_classKey_ofParts (nodeClass : NodeClass) (children steps : ChildList)
    (record : Record) :
    OrderedMap.get? (ofParts nodeClass children steps record).record Record.classKey =
      some (.text nodeClass.fullName) := by
  simp [ofParts, OrderedMap.get?_insert]

theorem wellFormed_ofParts (nodeClass : NodeClass) {children steps : ChildList} {record : Record}
    (hr : record.WellFormed) (hc : children.WellFormed) (hs : steps.WellFormed) :
    (ofParts nodeClass children steps record).WellFormed := by
  rw [ofParts, WellFormed]
  exact ⟨get?_classKey_ofParts nodeClass children steps record,
    hr.insert _ (by rw [Value.WellFormed] <;> simp), hc, hs⟩

theorem wellFormed_ofConstant (value : Constant) : (ofConstant value).WellFormed := by
  refine wellFormed_ofParts _ ?_ ?_ ?_
  · cases value <;> simp [Record.WellFormed, Value.WellFormed, Value.WellFormedFields,
      Constant.toValue, OrderedMap.keys]
  · simp [ChildList.nil, ChildList.WellFormed, Entry.AllWellFormed]
  · simp [ChildList.nil, ChildList.WellFormed, Entry.AllWellFormed]

/-- Putting a well-formed definition together again changes nothing. -/
theorem ofParts_eq {nodeClass : NodeClass} {children steps : ChildList} {record : Record}
    (h : (⟨nodeClass, children, steps, record⟩ : Definition).WellFormed) :
    ∀ children' steps',
      (ofParts nodeClass children' steps' record) = ⟨nodeClass, children', steps', record⟩ := by
  rw [WellFormed] at h
  intro children' steps'
  rw [ofParts, OrderedMap.insert_of_get? h.1]

end Definition

end NodeForest

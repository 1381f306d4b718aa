import NodeForest.Proofs.AcceptedRebinds

/-!
# The order of fields

Binding a bound node again compares its record with the one that is given. As records are equal
exactly if their normal forms are, the bind comes to the same in whatever order the fields are
given, at any depth: the same outcome, and the same repository.

Results:
1. `sameBinding_iff`: the comparison by normal forms.
2. `bind_reordered`: binding a bound node again with other orders of fields.
3. `equal_iff_same_normal`: equality of values and records, and what it means for a bind.
-/

namespace NodeForest

open NodeForest.Action

namespace Repository

variable {r : Repository}

/-! ## 1. The comparison -/

/-- A definition is compared with that of a node by the normal forms of their records. -/
theorem sameBinding_iff {b : Binding} {record : Record} (stored : Record.WellFormed b.record)
    (wellFormed : record.WellFormed) (children steps : ChildList) :
    sameBinding b children steps record ↔
      Record.normal b.record = record.normal ∧ b.children.equal children ∧ b.steps.equal steps := by
  rw [sameBinding, Bool.and_eq_true, Bool.and_eq_true, Record.equal_iff_normal stored wellFormed,
    and_assoc]

/-- A definition is attached to a bound node with the same outcome for records of one normal form. -/
theorem exec_attach_normal {id : NodeId} {b : Binding} (bound : r.bindingOf? id = some b)
    (stored : Record.WellFormed b.record) {record record' : Record} (wellFormed : record.WellFormed)
    (wellFormed' : record'.WellFormed) (same : record.normal = record'.normal)
    (nodeClass : NodeClass) (children steps : ChildList) (location : Location) :
    (attach id ⟨nodeClass, children, steps, record⟩ location).exec r =
      (attach id ⟨nodeClass, children, steps, record'⟩ location).exec r := by
  obtain ⟨n, here, binding⟩ := Option.bind_eq_some_iff.mp bound
  have compared : sameBinding b children steps record = sameBinding b children steps record' := by
    rw [Bool.eq_iff_iff, sameBinding_iff stored wellFormed, sameBinding_iff stored wellFormed', same]
  rw [exec_attach_bound _ location here binding, exec_attach_bound _ location here binding]
  dsimp only
  rw [compared]

/-! ## 2. Binding again -/

/-- The order in which the fields of records are given makes no difference to a bound node. -/
theorem bind_reordered (stored : r.WellFormed) {id : NodeId} (bound : r.isBound id)
    {record record' : Record} (wellFormed : record.WellFormed)
    (reordered : Value.Reordered (.record record) (.record record')) (nodeClass : NodeClass)
    (children steps : ChildList) (location : Location) :
    (bind id (.ok (.pending ⟨nodeClass, children, steps, record⟩)) location).exec r =
      (bind id (.ok (.pending ⟨nodeClass, children, steps, record'⟩)) location).exec r := by
  have wellFormed' : record'.WellFormed := reordered.wellFormed wellFormed
  have same := Record.normal_of_reordered reordered wellFormed
  obtain ⟨b, bound⟩ := isBound_iff.mp bound
  obtain ⟨n, here, _⟩ := Option.bind_eq_some_iff.mp bound
  suffices bodies :
      (tryBind id (.ok (.pending ⟨nodeClass, children, steps, record⟩)) location).exec r =
        (tryBind id (.ok (.pending ⟨nodeClass, children, steps, record'⟩)) location).exec r by
    rw [bind, bind, exec_recording, exec_recording, bodies]
  rw [exec_tryBind location rfl here, exec_tryBind location rfl here]
  rcases resolved : (resolveChildren location n.scope children).exec r with ⟨e | cs, r₁⟩
  · rw [exec_bind_of_error resolved, exec_bind_of_error resolved]
  rw [exec_bind_of_ok resolved, exec_bind_of_ok resolved]
  rcases resolved' : (resolveChildren location n.scope steps).exec r₁ with ⟨e | ss, r₂⟩
  · rw [exec_bind_of_error resolved', exec_bind_of_error resolved']
  rw [exec_bind_of_ok resolved', exec_bind_of_ok resolved']
  -- The node has kept its record while the children were resolved.
  have first : Steps .binding r r₁ :=
    (leads_resolveChildren location n.scope children r (allocates_binding _)).steps resolved
  have second : Steps .binding r₁ r₂ :=
    (leads_resolveChildren location n.scope steps r₁ (allocates_binding _)).steps resolved'
  obtain ⟨b', bound', grows⟩ := Steps.binding (first.trans second) bound
  have stored' : Record.WellFormed b'.record := by
    rw [grows.record trivial]
    exact (stored id b bound).record
  exact exec_attach_normal bound' stored' wellFormed wellFormed' same nodeClass cs ss location

/-! ## 3. Equality -/

/-- Equality of values and of records is an equivalence, and it is equality of normal forms. So is
the comparison with the record of a bound node, which can be bound again with the fields in any
order. -/
theorem equal_iff_same_normal :
    (∀ a b : Value, a.WellFormed → b.WellFormed → (a.equal b ↔ a.normal = b.normal)) ∧
    (Equivalence fun a b : {v : Value // v.WellFormed} => a.1.equal b.1) ∧
    (∀ a b : Record, a.WellFormed → b.WellFormed → (Record.equal a b ↔ a.normal = b.normal)) ∧
    (Equivalence fun a b : {record : Record // record.WellFormed} => Record.equal a.1 b.1) ∧
    (∀ (b : Binding) (record : Record), Record.WellFormed b.record → record.WellFormed →
      ∀ children steps, sameBinding b children steps record ↔
        Record.normal b.record = record.normal ∧ b.children.equal children ∧
          b.steps.equal steps) ∧
    ∀ r : Repository, r.WellFormed → ∀ id, r.isBound id → ∀ record record' : Record,
      record.WellFormed → Value.Reordered (.record record) (.record record') →
        ∀ nodeClass children steps location,
          (bind id (.ok (.pending ⟨nodeClass, children, steps, record⟩)) location).exec r =
            (bind id (.ok (.pending ⟨nodeClass, children, steps, record'⟩)) location).exec r :=
  ⟨Value.equal_iff_normal, Value.equivalence_equal, fun _ _ => Record.equal_iff_normal,
    Record.equivalence_equal, fun _ _ => sameBinding_iff,
    fun _ stored _ bound _ _ wellFormed reordered => bind_reordered stored bound wellFormed reordered⟩

/-- The record of a leaf with a nested one, in which there are a zero with a sign and a number that
equals no number. -/
def nestedFields : Record :=
  [(Record.classKey, .text "MeqLeaf"),
    ("grid", .record [("low", .float (.zero true)), ("high", .complex (.nan false) (.zero false))])]

/-- The same with both records the other way round. -/
def turnedFields : Record :=
  [("grid", .record [("high", .complex (.nan false) (.zero false)), ("low", .float (.zero true))]),
    (Record.classKey, .text "MeqLeaf")]

/-- A leaf with this record. -/
def leafWith (record : Record) : Child :=
  .pending ⟨.standard "Leaf", .nil, .nil, record⟩

theorem equal_iff_same_normal_leaf :
    Record.WellFormed nestedFields ∧
      Value.Reordered (.record nestedFields) (.record turnedFields) ∧
      Record.equal nestedFields turnedFields ∧ Record.normal nestedFields = Record.normal turnedFields ∧
      (oneBound (leafWith nestedFields)).WellFormed ∧ (oneBound (leafWith nestedFields)).isBound ⟨0⟩ ∧
      (bind ⟨0⟩ (.ok (leafWith nestedFields)) default).exec (oneBound (leafWith nestedFields)) =
        (bind ⟨0⟩ (.ok (leafWith turnedFields)) default).exec (oneBound (leafWith nestedFields)) := by
  obtain ⟨_, _, records, _, _, again⟩ := equal_iff_same_normal
  have wellFormed : Record.WellFormed nestedFields := by
    simp [Record.WellFormed, Value.WellFormed, Value.WellFormedFields, OrderedMap.keys,
      nestedFields, Record.classKey]
  have inner : Value.Reordered (.record nestedFields) (.record [(Record.classKey, .text "MeqLeaf"),
      ("grid", .record [("high", .complex (.nan false) (.zero false)), ("low", .float (.zero true))])]) :=
    .field [(Record.classKey, .text "MeqLeaf")] [] "grid" (.fields (.swap _ _ _))
  have reordered : Value.Reordered (.record nestedFields) (.record turnedFields) :=
    inner.trans (.fields (.swap _ _ _))
  have equal : Record.equal nestedFields turnedFields := by decide +kernel
  have leaf : (leafWith nestedFields).WellFormed := ⟨rfl, wellFormed, trivial, trivial⟩
  have bound : (oneBound (leafWith nestedFields)).isBound ⟨0⟩ := by decide +kernel
  have turned : Record.WellFormed turnedFields := reordered.wellFormed wellFormed
  exact ⟨wellFormed, reordered, equal, (records _ _ wellFormed turned).mp equal,
    wellFormed_oneBound leaf, bound,
    again _ (wellFormed_oneBound leaf) ⟨0⟩ bound _ _ wellFormed reordered _ _ _ _⟩

end Repository

end NodeForest

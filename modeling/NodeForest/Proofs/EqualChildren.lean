import Mathlib.Data.List.Forall2
import NodeForest.Proofs.NormalForm

/-!
# Equal children

Children and definitions are compared by a recursion that compares constants by their key, records
as maps, and factories by their numbers. On well-formed children it is an equivalence. Constants
differ from the definitions that they denote in one point: keys take the two zeros for one, and a
signalling not-a-number for the quiet one with its sign and payload; records keep them apart.

Results:
1. `Constant.same_real_iff`, `Constant.same_complex_iff`: the numbers that keys take for one.
2. `ChildList.equal_of_common`, `ChildList.equal_congr`: equality is an equivalence.
3. `Entry.equalAll_iff_forall₂`, `ChildList.nodeIds_of_equal` and the others beside them: what equal
   lists have in common.
4. `Child.equal_definition?`: the definitions that equal children denote;
   `Definition.equal_ofConstant_iff`: those of constants.
-/

namespace NodeForest

/-! ## 1. Numbers of one key -/

namespace Binary64

variable {x y : Binary64}

theorem toNat_ofFields {negative : Bool} {exponent fraction : Nat} (small : exponent < Nat.pow 2 11)
    (below : fraction < Nat.pow 2 52) : (ofFields negative exponent fraction).bits.toNat =
      (if negative then Nat.pow 2 63 else 0) + exponent * Nat.pow 2 52 + fraction := by
  have inside : (if negative then Nat.pow 2 63 else 0) + exponent * Nat.pow 2 52 + fraction <
      Nat.pow 2 64 := by
    split <;> simp only [Nat.pow_eq] at * <;> omega
  rw [ofFields]
  exact UInt64.toNat_ofNat_of_lt' inside

theorem quiet_eq_zero_iff {negative : Bool} : x.quiet = zero negative ↔ x = zero negative := by
  constructor
  · intro same
    rw [quiet] at same
    split at same
    · rename_i signalling
      have below : Nat.pow 2 51 + x.fraction < Nat.pow 2 52 := by
        have := signalling.2
        simp only [Nat.pow_eq] at *
        omega
      have words := congrArg (·.bits.toNat) same
      rw [zero, toNat_ofFields (by decide) below, toNat_ofFields (by decide) (by decide)] at words
      simp only [Nat.pow_eq] at words below
      split at words <;> split at words <;> omega
    · exact same
  · rintro rfl
    cases negative <;> decide

/-- Either zero. -/
def IsZero (x : Binary64) : Prop :=
  ∃ negative, x = zero negative

theorem isZero_quiet : x.quiet.IsZero ↔ x.IsZero :=
  exists_congr fun _ => quiet_eq_zero_iff

theorem canonical_of_isZero (zero : x.IsZero) : x.canonical = .zero false := by
  obtain ⟨negative, rfl⟩ := zero
  cases negative <;> decide

theorem canonical_of_not_isZero (other : ¬x.IsZero) : x.canonical = x.quiet :=
  if_neg fun same => other ⟨true, same⟩

/-- A zero and another word are kept apart, whether zero is added or not. -/
theorem canonical_ne_of_isZero (zero : x.IsZero) (other : ¬y.IsZero) : x.canonical ≠ y.canonical := by
  rw [canonical_of_isZero zero, canonical_of_not_isZero other]
  exact fun same => other (isZero_quiet.mp ⟨false, same.symm⟩)

theorem quiet_ne_of_isZero (zero : x.IsZero) (other : ¬y.IsZero) : x.quiet ≠ y.quiet := by
  intro same
  refine other (isZero_quiet.mp ?_)
  rw [← same]
  exact isZero_quiet.mpr zero

/-- Words have one sum with zero if they are zeros, or the same once they are quiet. -/
theorem canonical_eq_iff : x.canonical = y.canonical ↔ x.IsZero ∧ y.IsZero ∨ x.quiet = y.quiet := by
  by_cases hx : x.IsZero <;> by_cases hy : y.IsZero
  · simp [canonical_of_isZero, hx, hy]
  · simp [canonical_ne_of_isZero hx hy, quiet_ne_of_isZero hx hy, hy]
  · simp [(canonical_ne_of_isZero hy hx).symm, (quiet_ne_of_isZero hy hx).symm, hx]
  · simp [canonical_of_not_isZero, hx, hy]

end Binary64

namespace Constant

theorem same_real_iff {x y : Binary64} :
    same (.real x) (.real y) ↔ x.IsZero ∧ y.IsZero ∨ x.quiet = y.quiet := by
  simp [same, key, Binary64.canonical_eq_iff]

theorem same_complex_iff {x y x' y' : Binary64} :
    same (.complex x y) (.complex x' y') ↔ same (.real x) (.real x') ∧ same (.real y) (.real y') := by
  simp [same, key]

end Constant

/-! ## 2. An equivalence -/

mutual

/-- Two children that equal a third one are equal. -/
theorem Child.equal_of_common : ∀ {a b c : Child}, a.WellFormed → b.WellFormed → c.WellFormed →
    a.equal b → a.equal c → b.equal c
  | .pending d, b, c, ha, hb, hc, first, second => by
    cases b with
    | pending d' =>
      cases c with
      | pending d'' =>
        rw [Child.WellFormed] at ha hb hc
        rw [Child.equal] at first second ⊢
        exact Definition.equal_of_common ha hb hc first second
      | _ => simp [Child.equal] at second
    | _ => simp [Child.equal] at first
  | .empty, b, c, _, _, _, first, second | .name _, b, c, _, _, _, first, second
  | .constant _, b, c, _, _, _, first, second | .node _, b, c, _, _, _, first, second
  | .factory _ _, b, c, _, _, _, first, second => by
    cases b <;> cases c <;> simp_all [Child.equal, Constant.same]
termination_by structural a => a

theorem Entry.equal_of_common : ∀ {a b c : Entry}, a.WellFormed → b.WellFormed → c.WellFormed →
    a.equal b → a.equal c → b.equal c
  | ⟨label, child⟩, ⟨label', child'⟩, ⟨label'', child''⟩, ha, hb, hc, first, second => by
    rw [Entry.WellFormed] at ha hb hc
    simp only [Entry.equal, Bool.and_eq_true, beq_iff_eq] at first second ⊢
    exact ⟨first.1.symm.trans second.1, Child.equal_of_common ha hb hc first.2 second.2⟩
termination_by structural a => a

theorem Entry.equalAll_of_common : ∀ {as bs cs : List Entry}, Entry.AllWellFormed as →
    Entry.AllWellFormed bs → Entry.AllWellFormed cs →
    Entry.equalAll as bs → Entry.equalAll as cs → Entry.equalAll bs cs
  | [], bs, cs, _, _, _, first, second => by
    cases bs <;> cases cs <;> simp_all [Entry.equalAll]
  | a :: as, bs, cs, ha, hb, hc, first, second => by
    cases bs with
    | nil => simp [Entry.equalAll] at first
    | cons b bs =>
      cases cs with
      | nil => simp [Entry.equalAll] at second
      | cons c cs =>
        rw [Entry.AllWellFormed] at ha hb hc
        simp only [Entry.equalAll, Bool.and_eq_true] at first second ⊢
        exact ⟨Entry.equal_of_common ha.1 hb.1 hc.1 first.1 second.1,
          Entry.equalAll_of_common ha.2 hb.2 hc.2 first.2 second.2⟩
termination_by structural as => as

theorem ChildList.equal_of_common : ∀ {a b c : ChildList}, a.WellFormed → b.WellFormed →
    c.WellFormed → a.equal b → a.equal c → b.equal c
  | ⟨as, _, _⟩, ⟨bs, _, _⟩, ⟨cs, _, _⟩, ha, hb, hc, first, second => by
    rw [ChildList.WellFormed] at ha hb hc
    simp only [ChildList.equal, Bool.and_eq_true, beq_iff_eq] at first second ⊢
    exact ⟨first.1.symm.trans second.1, Entry.equalAll_of_common ha hb hc first.2 second.2⟩
termination_by structural a => a

theorem Definition.equal_of_common : ∀ {a b c : Definition}, a.WellFormed → b.WellFormed →
    c.WellFormed → a.equal b → a.equal c → b.equal c
  | ⟨_, as, ss, record⟩, ⟨_, bs, ts, record'⟩, ⟨_, cs, us, record''⟩, ha, hb, hc, first, second => by
    rw [Definition.WellFormed] at ha hb hc
    simp only [Definition.equal, Bool.and_eq_true, beq_iff_eq] at first second ⊢
    obtain ⟨⟨⟨nodeClass, children⟩, steps⟩, records⟩ := first
    obtain ⟨⟨⟨nodeClass', children'⟩, steps'⟩, records'⟩ := second
    refine ⟨⟨⟨nodeClass.symm.trans nodeClass', ?_⟩, ?_⟩, ?_⟩
    · exact ChildList.equal_of_common ha.2.2.1 hb.2.2.1 hc.2.2.1 children children'
    · exact ChildList.equal_of_common ha.2.2.2 hb.2.2.2 hc.2.2.2 steps steps'
    · rw [Record.equal_iff_normal ha.2.1 hb.2.1] at records
      rw [Record.equal_iff_normal ha.2.1 hc.2.1] at records'
      rw [Record.equal_iff_normal hb.2.1 hc.2.1, ← records, records']
termination_by structural a => a

end

/-- Lists that equal each other equal the same lists. -/
theorem ChildList.equal_congr {a a' b b' : ChildList} (ha : a.WellFormed) (ha' : a'.WellFormed)
    (hb : b.WellFormed) (hb' : b'.WellFormed) (left : a.equal a') (right : b.equal b') :
    a.equal b = a'.equal b' := by
  have symm {l m : ChildList} (hl : l.WellFormed) (hm : m.WellFormed) (same : l.equal m) :
      m.equal l := equal_of_common hl hm hl same (equal_self l hl)
  have trans {l m n : ChildList} (hl : l.WellFormed) (hm : m.WellFormed) (hn : n.WellFormed)
      (first : l.equal m) (second : m.equal n) : l.equal n :=
    equal_of_common hm hl hn (symm hl hm first) second
  refine Bool.eq_iff_iff.mpr ⟨fun same => ?_, fun same => ?_⟩
  · exact trans ha' hb hb' (equal_of_common ha ha' hb left same) right
  · exact trans ha ha' hb left (trans ha' hb' hb same (symm hb hb' right))

/-- The same of records. -/
theorem Record.equal_congr {a a' b b' : Record} (ha : a.WellFormed) (ha' : a'.WellFormed)
    (hb : b.WellFormed) (hb' : b'.WellFormed) (left : Record.equal a a') (right : Record.equal b b') :
    Record.equal a b = Record.equal a' b' := by
  rw [Record.equal_iff_normal ha ha'] at left
  rw [Record.equal_iff_normal hb hb'] at right
  rw [Bool.eq_iff_iff, Record.equal_iff_normal ha hb, Record.equal_iff_normal ha' hb', left, right]

/-! ## 3. Equal lists -/

/-- Entries are equal one by one: they have the same labels, and equal children. -/
theorem Entry.equalAll_iff_forall₂ : ∀ {as bs : List Entry}, Entry.equalAll as bs ↔
    List.Forall₂ (fun a b => a.label = b.label ∧ a.child.equal b.child) as bs
  | [], bs => by cases bs <;> simp [Entry.equalAll]
  | ⟨_, _⟩ :: as, bs => by
    cases bs with
    | nil => simp [Entry.equalAll]
    | cons b bs =>
      obtain ⟨_, _⟩ := b
      simp [Entry.equalAll, Entry.equal, @Entry.equalAll_iff_forall₂ as]

namespace Child

variable {a b : Child}

theorem node?_of_equal (same : a.equal b) : a.node? = b.node? := by
  cases a <;> cases b <;> simp_all [Child.equal, node?]

theorem nodeId?_of_equal (same : a.equal b) : a.nodeId? = b.nodeId? := by
  rw [nodeId?, nodeId?, node?_of_equal same]

theorem kind_of_equal (same : a.equal b) : a.kind = b.kind := by
  cases a <;> cases b <;> simp_all [Child.equal, kind]

end Child

namespace ChildList

variable {a b : ChildList}

theorem entries_of_equal (same : a.equal b) :
    List.Forall₂ (fun e e' => e.label = e'.label ∧ e.child.equal e'.child) a.entries b.entries := by
  obtain ⟨_, _, _⟩ := a
  obtain ⟨_, _, _⟩ := b
  rw [equal, Bool.and_eq_true] at same
  exact Entry.equalAll_iff_forall₂.mp same.2

theorem isEmpty_of_equal (same : a.equal b) : a.isEmpty = b.isEmpty := by
  have length := (entries_of_equal same).length_eq
  rw [isEmpty, isEmpty, Bool.eq_iff_iff, List.isEmpty_iff_length_eq_zero,
    List.isEmpty_iff_length_eq_zero, length]

/-- Equal lists have the same nodes in the same places. -/
theorem map_nodeId?_of_equal (same : a.equal b) :
    a.entries.map (·.child.nodeId?) = b.entries.map (·.child.nodeId?) := by
  refine List.forall₂_eq_eq_eq ▸ List.forall₂_map_left_iff.mpr (List.forall₂_map_right_iff.mpr ?_)
  exact (entries_of_equal same).imp fun e e' same => Child.nodeId?_of_equal same.2

theorem nodeIds_of_equal (same : a.equal b) : a.nodeIds = b.nodeIds := by
  have nodes := congrArg (List.filterMap id) (map_nodeId?_of_equal same)
  rwa [List.filterMap_map, List.filterMap_map] at nodes

end ChildList

/-! ## 4. The definitions denoted -/

namespace Definition

theorem equal_iff {d d' : Definition} :
    d.equal d' ↔ d.nodeClass = d'.nodeClass ∧ d.children.equal d'.children ∧
      d.steps.equal d'.steps ∧ Record.equal d.record d'.record := by
  obtain ⟨_, _, _, _⟩ := d
  obtain ⟨_, _, _, _⟩ := d'
  simp [equal, and_assoc]

/-- The definitions of constants are equal only if the constants are the same: their records hold
the numbers as they are. -/
theorem equal_ofConstant_iff {v w : Constant} : (ofConstant v).equal (ofConstant w) ↔ v = w := by
  have record (v : Constant) : (ofConstant v).record =
      [(valueKey, v.toValue), (Record.classKey, .text (NodeClass.standard "Constant").fullName)] := by
    rfl
  have numbers : v.toValue.equal w.toValue ↔ v = w := by
    cases v <;> cases w <;> simp [Constant.toValue, Value.equal]
  have lists : ChildList.nil.equal .nil := rfl
  rw [equal_iff, record, record, ← numbers]
  simp [ofConstant, ofParts, lists, Record.equal, Value.fieldsIn, OrderedMap.get?_cons, valueKey,
    Record.classKey, Value.equal]

end Definition

/-- Constants that are the same bit by bit, if both children are constants. -/
def Child.SameConstants (a b : Child) : Prop :=
  ∀ v w, a = .constant v → b = .constant w → v = w

/-- Equal children denote equal definitions, if they denote any, unless they are constants of which
only the keys are the same. -/
theorem Child.equal_definition? {a b : Child} (same : a.equal b) (numbers : a.SameConstants b) :
    Option.Rel (fun d d' => d.equal d') a.definition? b.definition? := by
  cases a with
  | pending d =>
    cases b with
    | pending d' =>
      rw [Child.equal] at same
      exact .some same
    | _ => simp [Child.equal] at same
  | constant v =>
    cases b with
    | constant w =>
      obtain rfl := numbers v w rfl rfl
      exact .some (Definition.equal_ofConstant_iff.mpr rfl)
    | _ => simp [Child.equal] at same
  | _ =>
    cases b with
    | pending _ | constant _ => simp [Child.equal] at same
    | _ => exact .none

end NodeForest

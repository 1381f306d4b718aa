import Mathlib.Data.List.Nodup
import Mathlib.Data.List.Perm.Subperm
import NodeForest.Proofs.Definition

/-!
# Normal forms of values

Equality of values is a recursion over lists and records that looks up each field of the one record
in the other, in one direction only. Here it is compared with equality of normal forms: in a normal
form the fields of every record are sorted by key, at every depth, and floating-point numbers are
their words. As keys do not repeat, the two agree, so equality of values is an equivalence, and does
not depend on the order of fields at any depth.

Results:
1. `NormalValue`, `Value.normal`, `Record.normal`: normal forms.
2. `perm_iff`, `sortFields_eq_iff`: lists of fields with distinct keys.
3. `Value.equal_iff_normal`, `Record.equal_iff_normal`: equality is that of normal forms.
4. `Value.Reordered`: values that differ in the order of fields; `Value.Reordered.normal`.
-/

namespace NodeForest

/-! ## 1. Normal forms -/

/-- A value in normal form, with a word for each floating-point number. -/
inductive NormalValue where
  | bool (b : Bool)
  | int (i : Int)
  | word (x : UInt64)
  | words (re im : UInt64)
  | text (s : String)
  | list (items : List NormalValue)
  | record (fields : List (String × NormalValue))

/-- The fields by increasing key. -/
def sortFields {α : Type} (fields : List (String × α)) : List (String × α) :=
  fields.mergeSort fun f g => f.1 ≤ g.1

namespace Value

mutual

/-- The normal form of a value. -/
def normal : Value → NormalValue
  | .bool b => .bool b
  | .int i => .int i
  | .float x => .word x.bits
  | .complex re im => .words re.bits im.bits
  | .text s => .text s
  | .list items => .list (normalItems items)
  | .record fields => .record (sortFields (normalFields fields))

def normalItems : List Value → List NormalValue
  | [] => []
  | v :: rest => normal v :: normalItems rest

/-- The fields with their values in normal form, in the order in which they are. -/
def normalFields : List (String × Value) → List (String × NormalValue)
  | [] => []
  | (k, v) :: rest => (k, normal v) :: normalFields rest

end

theorem normalFields_eq (fields : List (String × Value)) :
    normalFields fields = fields.map fun field => (field.1, field.2.normal) := by
  induction fields with
  | nil => rfl
  | cons field rest ih => rw [normalFields, ih, List.map_cons]

theorem keys_normalFields (fields : List (String × Value)) :
    OrderedMap.keys (normalFields fields) = OrderedMap.keys fields := by
  rw [normalFields_eq, OrderedMap.keys, OrderedMap.keys, List.map_map]
  rfl

theorem get?_normalFields (fields : List (String × Value)) (k : String) :
    OrderedMap.get? (normalFields fields) k = (OrderedMap.get? fields k).map normal := by
  induction fields with
  | nil => rfl
  | cons field rest ih =>
    rw [normalFields, OrderedMap.get?_cons, OrderedMap.get?_cons, ih]
    split <;> rfl

end Value

/-- The fields of a record in normal form. -/
def Record.normal (record : Record) : List (String × NormalValue) :=
  sortFields (Value.normalFields record)

/-! ## 2. Fields with distinct keys -/

section

variable {α : Type} {m m' : List (String × α)}

theorem nodup_of_keys (distinct : (OrderedMap.keys m).Nodup) : m.Nodup :=
  List.Nodup.of_map Prod.fst distinct

theorem sortFields_perm (m : List (String × α)) : (sortFields m).Perm m :=
  List.mergeSort_perm m _

theorem pairwise_sortFields (m : List (String × α)) :
    (sortFields m).Pairwise fun f g => f.1 ≤ g.1 := by
  have sorted := @List.pairwise_mergeSort _ (fun f g : String × α => decide (f.1 ≤ g.1))
    (fun _ _ _ h h' => decide_eq_true (String.le_trans (of_decide_eq_true h) (of_decide_eq_true h')))
    (fun f g => by simpa using String.le_total f.1 g.1) m
  exact sorted.imp of_decide_eq_true

/-- Sorting forgets the order of fields, and nothing else. -/
theorem sortFields_eq_iff (distinct : (OrderedMap.keys m).Nodup) :
    sortFields m = sortFields m' ↔ m.Perm m' := by
  constructor
  · intro same
    exact (sortFields_perm m).symm.trans (same ▸ sortFields_perm m')
  · intro perm
    have sorted := ((sortFields_perm m).trans perm).trans (sortFields_perm m').symm
    refine sorted.eq_of_pairwise (fun f g left right below above => ?_) (pairwise_sortFields m)
      (pairwise_sortFields m')
    -- Two fields of one list that have the same key are the same field.
    have left' := (sortFields_perm m).mem_iff.mp left
    have right' := perm.mem_iff.mpr ((sortFields_perm m').mem_iff.mp right)
    have first := OrderedMap.get?_of_mem distinct left'
    have second := OrderedMap.get?_of_mem distinct right'
    have key : f.1 = g.1 := String.le_antisymm below above
    rw [key, second] at first
    exact Prod.ext key (Option.some.inj first).symm

/-- Lists of fields hold the same exactly if they are of one length and each field of the first is
found in the second. -/
theorem perm_iff (distinct : (OrderedMap.keys m).Nodup) (distinct' : (OrderedMap.keys m').Nodup) :
    m.Perm m' ↔
      m.length = m'.length ∧ ∀ field ∈ m, OrderedMap.get? m' field.1 = some field.2 := by
  constructor
  · intro perm
    exact ⟨perm.length_eq, fun field member =>
      OrderedMap.get?_of_mem distinct' (perm.mem_iff.mp member)⟩
  · rintro ⟨length, found⟩
    have inside : m ⊆ m' := fun field member => OrderedMap.mem_of_get? (found field member)
    exact (List.subperm_of_subset (nodup_of_keys distinct) inside).perm_of_length_le
      (Nat.le_of_eq length.symm)

end

/-! ## 3. Equality -/

namespace Value

/-- Fields are found in another list with values of the same normal form. -/
def FoundIn (fields other : List (String × Value)) : Prop :=
  ∀ field ∈ fields, OrderedMap.get? (normalFields other) field.1 = some field.2.normal

theorem foundIn_iff {fields other : List (String × Value)} :
    FoundIn fields other ↔
      ∀ field ∈ normalFields fields, OrderedMap.get? (normalFields other) field.1 = some field.2 := by
  rw [normalFields_eq fields, List.forall_mem_map]
  rfl

/-- Records have the same normal form exactly if they have as many fields, and those of the one are
found in the other. -/
theorem normal_record_iff {a b : List (String × Value)} (distinct : (OrderedMap.keys a).Nodup)
    (distinct' : (OrderedMap.keys b).Nodup) :
    sortFields (normalFields a) = sortFields (normalFields b) ↔
      a.length = b.length ∧ FoundIn a b := by
  rw [← keys_normalFields] at distinct distinct'
  have length (fields : List (String × Value)) : (normalFields fields).length = fields.length := by
    rw [normalFields_eq, List.length_map]
  rw [sortFields_eq_iff distinct, perm_iff distinct distinct', foundIn_iff, length, length]

theorem wellFormed_of_get? {fields : List (String × Value)} (wellFormed : WellFormedFields fields)
    {k : String} {v : Value} (found : OrderedMap.get? fields k = some v) : v.WellFormed :=
  wellFormedFields_iff.mp wellFormed _ (OrderedMap.mem_of_get? found)

mutual

/-- Values are equal exactly if they have the same normal form. -/
theorem equal_iff_normal : ∀ a b : Value, a.WellFormed → b.WellFormed →
    (a.equal b ↔ a.normal = b.normal)
  | .list as, b, h, h' => by
    cases b with
    | list bs =>
      rw [WellFormed] at h h'
      rw [equal, normal, normal, NormalValue.list.injEq]
      exact equalItems_iff as bs h h'
    | _ => simp [equal, normal]
  | .record as, b, h, h' => by
    cases b with
    | record bs =>
      rw [WellFormed] at h h'
      rw [equal, normal, normal, NormalValue.record.injEq, normal_record_iff h.1 h'.1,
        Bool.and_eq_true, beq_iff_eq, fieldsIn_iff as bs h.2 h'.2]
    | _ => simp [equal, normal]
  | .float x, b, _, _ => by
    cases b with
    | float y => cases x; cases y; simp [equal, normal]
    | _ => simp [equal, normal]
  | .complex re im, b, _, _ => by
    cases b with
    | complex re' im' => cases re; cases im; cases re'; cases im'; simp [equal, normal]
    | _ => simp [equal, normal]
  | .bool _, b, _, _ | .int _, b, _, _ | .text _, b, _, _ => by cases b <;> simp [equal, normal]

theorem equalItems_iff : ∀ as bs : List Value, WellFormedItems as → WellFormedItems bs →
    (equalItems as bs ↔ normalItems as = normalItems bs)
  | [], bs, _, _ => by cases bs <;> simp [equalItems, normalItems]
  | a :: as, bs, h, h' => by
    cases bs with
    | nil => simp [equalItems, normalItems]
    | cons b bs =>
      rw [WellFormedItems] at h h'
      rw [equalItems, normalItems, normalItems, Bool.and_eq_true, List.cons.injEq,
        equal_iff_normal a b h.1 h'.1, equalItems_iff as bs h.2 h'.2]

theorem fieldsIn_iff : ∀ fields other : List (String × Value), WellFormedFields fields →
    WellFormedFields other → (fieldsIn fields other ↔ FoundIn fields other)
  | [], _, _, _ => by simp [fieldsIn, FoundIn]
  | (k, v) :: rest, other, h, h' => by
    rw [WellFormedFields] at h
    rw [fieldsIn, Bool.and_eq_true, fieldsIn_iff rest other h.2 h', FoundIn, FoundIn,
      List.forall_mem_cons, get?_normalFields]
    refine and_congr ?_ Iff.rfl
    cases found : OrderedMap.get? other k with
    | none => simp
    | some w =>
      rw [Option.map_some, Option.some.injEq]
      exact (equal_iff_normal v w h.1 (wellFormed_of_get? h' found)).trans eq_comm

end

end Value

/-- Records are equal exactly if they have the same normal form. -/
theorem Record.equal_iff_normal {a b : Record} (h : a.WellFormed) (h' : b.WellFormed) :
    Record.equal a b ↔ a.normal = b.normal := by
  have values := Value.equal_iff_normal _ _ h h'
  rwa [Value.normal, Value.normal, NormalValue.record.injEq] at values

/-- Equality of values is reflexive, symmetric and transitive. -/
theorem Value.equivalence_equal :
    Equivalence fun a b : {v : Value // v.WellFormed} => a.1.equal b.1 := by
  have same (a b : {v : Value // v.WellFormed}) : a.1.equal b.1 ↔ a.1.normal = b.1.normal :=
    equal_iff_normal a.1 b.1 a.2 b.2
  simp only [same]
  exact ⟨fun _ => rfl, Eq.symm, Eq.trans⟩

theorem Record.equivalence_equal :
    Equivalence fun a b : {record : Record // record.WellFormed} => Record.equal a.1 b.1 := by
  have same (a b : {record : Record // record.WellFormed}) :
      Record.equal a.1 b.1 ↔ Record.normal a.1 = Record.normal b.1 :=
    Record.equal_iff_normal a.2 b.2
  simp only [same]
  exact ⟨fun _ => rfl, Eq.symm, Eq.trans⟩

/-! ## 4. Other orders of fields -/

namespace Value

/-- The second value is the first one with the fields of its records, at any depth, in other orders.

* `fields`: the fields of a record are put in another order.
* `field`, `item`: something is put in another order inside a field or an item. -/
inductive Reordered : Value → Value → Prop
  | refl (v : Value) : Reordered v v
  | trans {u v w : Value} : Reordered u v → Reordered v w → Reordered u w
  | fields {fields fields' : List (String × Value)} :
      fields.Perm fields' → Reordered (.record fields) (.record fields')
  | field (before after : List (String × Value)) (k : String) {v w : Value} : Reordered v w →
      Reordered (.record (before ++ (k, v) :: after)) (.record (before ++ (k, w) :: after))
  | item (before after : List Value) {v w : Value} : Reordered v w →
      Reordered (.list (before ++ v :: after)) (.list (before ++ w :: after))

theorem wellFormedItems_iff {items : List Value} :
    WellFormedItems items ↔ ∀ v ∈ items, v.WellFormed := by
  induction items with
  | nil => simp [WellFormedItems]
  | cons v rest ih => simp [WellFormedItems, ih]

theorem normalItems_eq (items : List Value) : normalItems items = items.map normal := by
  induction items with
  | nil => rfl
  | cons v rest ih => rw [normalItems, ih, List.map_cons]

theorem Reordered.wellFormed {v w : Value} (h : Reordered v w) (wellFormed : v.WellFormed) :
    w.WellFormed := by
  induction h with
  | refl => exact wellFormed
  | trans _ _ first second => exact second (first wellFormed)
  | fields perm =>
    rw [WellFormed, wellFormedFields_iff] at wellFormed ⊢
    exact ⟨(perm.map Prod.fst).nodup_iff.mp wellFormed.1,
      fun field member => wellFormed.2 field (perm.mem_iff.mpr member)⟩
  | field before after k _ ih =>
    rw [WellFormed, wellFormedFields_iff, List.forall_mem_append, List.forall_mem_cons]
      at wellFormed ⊢
    obtain ⟨distinct, first, inside, rest⟩ := wellFormed
    exact ⟨by simpa [OrderedMap.keys] using distinct, first, ih inside, rest⟩
  | item before after _ ih =>
    rw [WellFormed, wellFormedItems_iff, List.forall_mem_append, List.forall_mem_cons]
      at wellFormed ⊢
    obtain ⟨first, inside, rest⟩ := wellFormed
    exact ⟨first, ih inside, rest⟩

/-- The order of fields does not show in the normal form. -/
theorem Reordered.normal {v w : Value} (h : Reordered v w) (wellFormed : v.WellFormed) :
    v.normal = w.normal := by
  induction h with
  | refl => rfl
  | trans first _ ih ih' => exact (ih wellFormed).trans (ih' (first.wellFormed wellFormed))
  | fields perm =>
    rw [WellFormed] at wellFormed
    rw [Value.normal, Value.normal, NormalValue.record.injEq,
      sortFields_eq_iff (by rw [keys_normalFields]; exact wellFormed.1), normalFields_eq,
      normalFields_eq]
    exact perm.map _
  | field before after k _ ih =>
    rw [WellFormed, wellFormedFields_iff, List.forall_mem_append, List.forall_mem_cons]
      at wellFormed
    obtain ⟨_, _, inside, _⟩ := wellFormed
    simp only [Value.normal, normalFields_eq, List.map_append, List.map_cons, ih inside]
  | item before after _ ih =>
    rw [WellFormed, wellFormedItems_iff, List.forall_mem_append, List.forall_mem_cons]
      at wellFormed
    obtain ⟨_, inside, _⟩ := wellFormed
    simp only [Value.normal, normalItems_eq, List.map_append, List.map_cons, ih inside]

end Value

/-- Records in which the fields, at any depth, are in other orders are equal. -/
theorem Record.normal_of_reordered {a b : Record} (h : Value.Reordered (.record a) (.record b))
    (wellFormed : a.WellFormed) : a.normal = b.normal := by
  have same := h.normal wellFormed
  rwa [Value.normal, Value.normal, NormalValue.record.injEq] at same

end NodeForest

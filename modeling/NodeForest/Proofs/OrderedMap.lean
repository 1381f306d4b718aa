import Mathlib.Data.List.Induction
import NodeForest.OrderedMap

/-!
# Laws of ordered maps

Results:
1. `get?_insert`, `keys_insert`, `filter_insert`: what a write shows afterwards, and where.
2. `mem_insert_iff`: what a map holds after a write that agrees with it.
3. `get?_insertAll`: of several writes to a key the last one counts.
4. `mem_ofList`: the map of a list of entries holds no others; `ofList_eq`: a list of entries with
   distinct keys is the map of its entries; `keys_ofList`: in which order their keys stand.
-/

namespace NodeForest

namespace OrderedMap

variable {κ α : Type} [BEq κ]

/-! ## 1. One write -/

@[simp]
theorem get?_nil (k : κ) : get? ([] : OrderedMap κ α) k = none := rfl

theorem get?_cons (entry : κ × α) (m : OrderedMap κ α) (k : κ) :
    get? (entry :: m) k = if k == entry.1 then some entry.2 else get? m k := by
  rw [get?, List.lookup_cons]
  cases k == entry.1 <;> rfl

variable [LawfulBEq κ]

theorem get?_insert (m : OrderedMap κ α) (k : κ) (v : α) (k' : κ) :
    get? (insert m k v) k' = if k' == k then some v else get? m k' := by
  induction m with
  | nil => simp [insert, get?_cons]
  | cons entry m ih =>
    obtain ⟨k₀, v₀⟩ := entry
    by_cases same : k₀ = k
    · subst same
      simp only [insert, beq_self_eq_true, ↓reduceIte, get?_cons]
      split <;> rfl
    · simp only [insert, beq_iff_eq, same, ↓reduceIte, get?_cons, ih]
      by_cases first : k' = k₀
      · simp [first, same]
      · simp [first]

theorem get?_of_mem {m : OrderedMap κ α} (distinct : (keys m).Nodup) {k : κ} {v : α}
    (h : (k, v) ∈ m) : get? m k = some v := by
  induction m with
  | nil => cases h
  | cons entry m ih =>
    obtain ⟨fresh, distinct⟩ := List.nodup_cons.mp distinct
    rw [get?_cons]
    rcases List.mem_cons.mp h with rfl | h
    · simp
    · have : k ≠ entry.1 := fun same => fresh (same ▸ List.mem_map_of_mem (f := Prod.fst) h)
      simp [this, ih distinct h]

theorem mem_of_get? {m : OrderedMap κ α} {k : κ} {v : α} (h : get? m k = some v) : (k, v) ∈ m := by
  induction m with
  | nil => cases h
  | cons entry m ih =>
    rw [get?_cons] at h
    split at h
    · rename_i same
      cases h
      rw [beq_iff_eq.mp same]
      exact List.mem_cons_self
    · exact List.mem_cons_of_mem _ (ih h)

/-- A write to a key that is there keeps the keys; any other adds its key at the end. -/
theorem keys_insert (m : OrderedMap κ α) (k : κ) (v : α) :
    keys (insert m k v) = if k ∈ keys m then keys m else keys m ++ [k] := by
  induction m with
  | nil => simp [insert, keys]
  | cons entry m ih =>
    by_cases same : entry.1 = k
    · simp [insert, same, keys]
    · simp only [insert, beq_iff_eq, same, ↓reduceIte]
      simp only [keys, List.map_cons, List.mem_cons, Ne.symm same, false_or] at ih ⊢
      rw [ih]
      by_cases old : k ∈ m.map Prod.fst <;> simp [old]

theorem nodup_keys_insert {m : OrderedMap κ α} (distinct : (keys m).Nodup) (k : κ) (v : α) :
    (keys (insert m k v)).Nodup := by
  rw [keys_insert]
  split
  · exact distinct
  · rename_i fresh
    rw [List.nodup_append]
    exact ⟨distinct, by simp, fun a member b one same => by
      rw [List.mem_singleton.mp one] at same; exact fresh (same ▸ member)⟩

theorem mem_insert {m : OrderedMap κ α} {k : κ} {v : α} {entry : κ × α}
    (h : entry ∈ insert m k v) : entry ∈ m ∨ entry = (k, v) := by
  induction m with
  | nil => simp [insert] at h; simp [h]
  | cons first m ih =>
    obtain ⟨k₀, v₀⟩ := first
    by_cases same : k₀ = k
    · simp only [insert, same, beq_self_eq_true, ↓reduceIte, List.mem_cons] at h
      rcases h with rfl | h
      · exact .inr rfl
      · exact .inl (List.mem_cons_of_mem _ h)
    · simp only [insert, beq_iff_eq, same, ↓reduceIte, List.mem_cons] at h
      rcases h with rfl | h
      · exact .inl List.mem_cons_self
      · exact (ih h).imp (List.mem_cons_of_mem _) id

/-- Writing what is there already changes nothing. -/
theorem insert_of_get? {m : OrderedMap κ α} {k : κ} {v : α} (h : get? m k = some v) :
    insert m k v = m := by
  induction m with
  | nil => simp at h
  | cons entry m ih =>
    obtain ⟨k₀, v₀⟩ := entry
    rw [get?_cons] at h
    by_cases same : k₀ = k
    · simp only [same, beq_self_eq_true, ↓reduceIte, Option.some.injEq] at h
      simp [insert, same, h]
    · simp only [beq_iff_eq, Ne.symm same, ↓reduceIte] at h
      simp [insert, same, ih h]

/-- A write is not seen among the keys that it does not write to. -/
theorem filter_insert {q : κ → Bool} (m : OrderedMap κ α) {k : κ} (v : α) (out : q k = false) :
    (insert m k v).filter (fun entry => q entry.1) = m.filter fun entry => q entry.1 := by
  induction m with
  | nil => simp [insert, out]
  | cons first m ih =>
    rw [insert]
    split
    · rename_i same
      rw [List.filter_cons_of_neg, List.filter_cons_of_neg] <;> simp [eq_of_beq same, out]
    · rw [List.filter_cons, List.filter_cons, ih]

/-- A write that agrees with what is there adds just its entry. -/
theorem mem_insert_iff {m : OrderedMap κ α} {k : κ} {v : α} (agrees : ∀ v', (k, v') ∈ m → v' = v)
    {entry : κ × α} : entry ∈ insert m k v ↔ entry ∈ m ∨ entry = (k, v) := by
  induction m with
  | nil => simp [insert]
  | cons first m ih =>
    obtain ⟨k₀, v₀⟩ := first
    by_cases same : k₀ = k
    · subst same
      obtain rfl : v₀ = v := agrees v₀ List.mem_cons_self
      simp only [insert, beq_self_eq_true, ↓reduceIte, List.mem_cons]
      exact ⟨.inl, fun h => h.elim id .inl⟩
    · have rest := ih fun v' member => agrees v' (List.mem_cons_of_mem _ member)
      simp only [insert, beq_iff_eq, same, ↓reduceIte, List.mem_cons, rest, or_assoc]

/-! ## 2. Lists of entries -/

theorem insert_of_fresh {m : OrderedMap κ α} {k : κ} {v : α} (fresh : k ∉ keys m) :
    insert m k v = m ++ [(k, v)] := by
  induction m with
  | nil => rfl
  | cons first m ih =>
    simp only [keys, List.map_cons, List.mem_cons, not_or] at fresh
    simp [insert, Ne.symm fresh.1, ih fresh.2]

/-- Of several writes to a key the last one counts. -/
theorem get?_insertAll {entries : List (κ × α)} (m : OrderedMap κ α) (k : κ) :
    get? (insertAll m entries) k = (get? entries.reverse k).or (get? m k) := by
  induction entries generalizing m with
  | nil => rfl
  | cons first entries ih =>
    have appended : get? (first :: entries).reverse k =
        (get? entries.reverse k).or (get? [first] k) := by
      rw [List.reverse_cons]
      exact List.lookup_append
    rw [insertAll, List.foldl_cons, ← insertAll, ih, get?_insert, appended, Option.or_assoc,
      get?_cons, get?_nil]
    split <;> rfl

theorem get?_eq_none {m : OrderedMap κ α} {k : κ} (fresh : k ∉ keys m) : get? m k = none := by
  rw [Option.eq_none_iff_forall_not_mem]
  intro v found
  exact fresh (List.mem_map_of_mem (f := Prod.fst) (mem_of_get? found))

/-- Writes to other keys leave a key alone. -/
theorem get?_insertAll_of_not_mem {entries : List (κ × α)} (m : OrderedMap κ α) {k : κ}
    (fresh : k ∉ keys entries) : get? (insertAll m entries) k = get? m k := by
  have none : get? entries.reverse k = none := get?_eq_none (by simpa [keys] using fresh)
  rw [get?_insertAll, none, Option.none_or]

theorem mem_insertAll {entry : κ × α} {entries : List (κ × α)} :
    ∀ {m : OrderedMap κ α}, entry ∈ insertAll m entries → entry ∈ m ∨ entry ∈ entries := by
  induction entries with
  | nil => exact .inl
  | cons first entries ih =>
    intro m h
    rcases ih h with old | new
    · exact (mem_insert old).imp_right fun same => List.mem_cons.mpr (.inl same)
    · exact .inr (List.mem_cons_of_mem _ new)

theorem mem_ofList {entry : κ × α} {entries : List (κ × α)} (h : entry ∈ ofList entries) :
    entry ∈ entries :=
  (mem_insertAll h).resolve_left List.not_mem_nil

theorem filter_insertAll {q : κ → Bool} {entries : List (κ × α)}
    (out : ∀ entry ∈ entries, q entry.1 = false) (m : OrderedMap κ α) :
    (insertAll m entries).filter (fun entry => q entry.1) = m.filter fun entry => q entry.1 := by
  induction entries generalizing m with
  | nil => rfl
  | cons first entries ih =>
    obtain ⟨one, rest⟩ := List.forall_mem_cons.mp out
    exact (ih rest _).trans (filter_insert m first.2 one)

theorem insertAll_eq_append {entries : List (κ × α)} :
    ∀ {m : OrderedMap κ α}, (keys (m ++ entries)).Nodup → insertAll m entries = m ++ entries := by
  induction entries with
  | nil => simp [insertAll]
  | cons entry entries ih =>
    intro m distinct
    have fresh : entry.1 ∉ keys m := by
      rw [keys, List.map_append, List.nodup_append] at distinct
      exact fun old => distinct.2.2 _ old _ List.mem_cons_self rfl
    rw [insertAll, List.foldl_cons, ← insertAll, insert_of_fresh fresh,
      ih (by simpa using distinct)]
    simp

theorem mem_keys_insertAll {entries : List (κ × α)} {k : κ} :
    ∀ {m : OrderedMap κ α}, k ∈ keys (insertAll m entries) ↔ k ∈ keys m ∨ k ∈ keys entries := by
  induction entries with
  | nil => simp [insertAll, keys]
  | cons first entries ih =>
    intro m
    rw [insertAll, List.foldl_cons, ← insertAll, ih, keys_insert]
    have own : k ∈ keys (first :: entries) ↔ k = first.1 ∨ k ∈ keys entries := List.mem_cons
    rw [own]
    split
    · rename_i there
      constructor
      · exact Or.imp_right .inr
      · rintro (old | rfl | later)
        · exact .inl old
        · exact .inl there
        · exact .inr later
    · rw [List.mem_append, List.mem_singleton, or_assoc]

/-- The map of a list of entries has their keys. -/
theorem mem_keys_ofList {entries : List (κ × α)} {k : κ} :
    k ∈ keys (ofList entries) ↔ k ∈ keys entries := by
  rw [ofList, mem_keys_insertAll]
  simp [keys]

theorem nodup_keys_insertAll {entries : List (κ × α)} :
    ∀ {m : OrderedMap κ α}, (keys m).Nodup → (keys (insertAll m entries)).Nodup := by
  induction entries with
  | nil => exact fun distinct => distinct
  | cons first entries ih => exact fun distinct => ih (nodup_keys_insert distinct first.1 first.2)

theorem isEmpty_ofList {entries : List (κ × α)} : (ofList entries).isEmpty ↔ entries.isEmpty := by
  cases entries with
  | nil => simp [ofList, insertAll]
  | cons first entries =>
    have there : first.1 ∈ keys (ofList (first :: entries)) :=
      mem_keys_ofList.mpr List.mem_cons_self
    refine ⟨fun empty => ?_, fun empty => (by cases empty)⟩
    rw [List.isEmpty_iff.mp empty] at there
    cases there

/-- Entries with distinct keys are the map of them. -/
theorem ofList_eq {entries : List (κ × α)} (distinct : (keys entries).Nodup) :
    ofList entries = entries := by
  rw [ofList, insertAll_eq_append (by simpa using distinct), List.nil_append]

/-- The map of a list of entries has an entry for each of them only if their keys are distinct. -/
theorem keys_ofList_eq_iff {entries : List (κ × α)} :
    keys (ofList entries) = keys entries ↔ (keys entries).Nodup := by
  constructor
  · intro same
    rw [← same]
    exact nodup_keys_insertAll List.nodup_nil
  · intro distinct
    rw [ofList_eq distinct]

/-- The map of a list of entries has their keys, each where it stands first. -/
theorem keys_ofList (entries : List (κ × α)) :
    keys (ofList entries) = (keys entries).eraseDups := by
  induction entries using List.reverseRecOn with
  | nil => rfl
  | append_singleton entries entry ih =>
    have grown : ofList (entries ++ [entry]) = insert (ofList entries) entry.1 entry.2 := by
      rw [ofList, insertAll, List.foldl_append]
      rfl
    have last : keys (entries ++ [entry]) = keys entries ++ [entry.1] := List.map_append
    rw [grown, keys_insert, ih, last, List.eraseDups_append]
    by_cases old : entry.1 ∈ keys entries <;> simp [old, List.cons_removeAll, List.eraseDups_cons]

theorem insert_map {β : Type} (g : κ → α → β) (m : OrderedMap κ α) (k : κ) (v : α) :
    insert (m.map fun (k, v) => (k, g k v)) k (g k v) =
      (insert m k v).map fun (k, v) => (k, g k v) := by
  induction m with
  | nil => rfl
  | cons entry m ih =>
    simp only [List.map_cons, insert]
    split
    · rename_i same
      rw [eq_of_beq same, List.map_cons]
    · rw [ih, List.map_cons]

/-- Changed values are inserted into a map with changed values. -/
theorem insertAll_map {β : Type} (g : κ → α → β) (entries : List (κ × α)) :
    ∀ m : OrderedMap κ α, insertAll (m.map fun (k, v) => (k, g k v))
      (entries.map fun (k, v) => (k, g k v)) =
        (insertAll m entries).map fun (k, v) => (k, g k v) := by
  induction entries with
  | nil => exact fun m => rfl
  | cons entry entries ih =>
    intro m
    rw [List.map_cons, insertAll, List.foldl_cons, ← insertAll, insert_map, ih]
    rfl

/-- The map of changed values is the map, changed. -/
theorem ofList_map {β : Type} (g : κ → α → β) (entries : List (κ × α)) :
    ofList (entries.map fun (k, v) => (k, g k v)) =
      (ofList entries).map fun (k, v) => (k, g k v) :=
  insertAll_map g entries []

end OrderedMap

end NodeForest

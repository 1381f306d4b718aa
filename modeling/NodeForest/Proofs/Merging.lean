import Mathlib.Data.List.Induction
import Mathlib.Data.List.Sort
import NodeForest.Proofs.OrderedMap
import NodeForest.Qualifiers

/-!
# Merging qualifiers

Qualifiers with a way of merging are a monoid. Each keyword is merged on its own: texts that are new
are added in their order, and of texts that are there already none is, however often the ones or the
others repeat. So a keyword says what it says wherever merges are put in parentheses, and what has
been merged once adds nothing when it is merged again.

Results:
1. `adjoin_assoc`, `adjoin_of_subset`, `nodup_adjoin`: texts.
2. `Keywords.get?_addAll`, `Keywords.Sorted.ext`: keywords, one by one.
3. `Qualifiers.merged_assoc`, `Qualifiers.merged_absorb`, `Qualifiers.mergedAll_again`: qualifiers.
4. `Qualifiers.Built`: what is made by calls; `Qualifiers.merging_is_monoid`: all laws together.
-/

namespace NodeForest

/-! ## 1. Texts -/

theorem adjoin_nil (texts : List String) : adjoin texts [] = texts :=
  List.append_nil texts

theorem nil_adjoin (texts : List String) : adjoin [] texts = texts := by
  simp [adjoin]

theorem mem_adjoin {texts more : List String} {q : String} :
    q ∈ adjoin texts more ↔ q ∈ texts ∨ q ∈ more := by
  by_cases old : q ∈ texts <;> simp [adjoin, old]

/-- A text is new for the first two lists when it is new for each of them. -/
theorem adjoin_assoc (a b c : List String) : adjoin (adjoin a b) c = adjoin a (adjoin b c) := by
  have new (q : String) : (!(adjoin a b).contains q) = (!a.contains q && !b.contains q) := by
    rw [← Bool.not_or, Bool.eq_iff_iff]
    simp [mem_adjoin]
  calc adjoin (adjoin a b) c
      = a ++ b.filter (!a.contains ·) ++ c.filter (!(adjoin a b).contains ·) := rfl
    _ = a ++ (b.filter (!a.contains ·) ++ (c.filter (!b.contains ·)).filter (!a.contains ·)) := by
      simp only [new, List.filter_filter, List.append_assoc]
    _ = adjoin a (adjoin b c) := by rw [← List.filter_append]; rfl

instance : Std.Associative adjoin :=
  ⟨adjoin_assoc⟩

theorem adjoin_of_subset {texts more : List String} (known : more ⊆ texts) :
    adjoin texts more = texts := by
  have none : more.filter (!texts.contains ·) = [] :=
    List.filter_eq_nil_iff.mpr fun q member => by simp [known member]
  rw [adjoin, none, List.append_nil]

theorem nodup_adjoin {texts more : List String} (h : texts.Nodup) (h' : more.Nodup) :
    (adjoin texts more).Nodup := by
  refine List.nodup_append.mpr ⟨h, h'.filter _, fun q old q' new same => ?_⟩
  subst same
  simp [old] at new

/-! ## 2. Keywords -/

open OrderedMap (get? get?_cons)

namespace Keywords

variable {ks more : Keywords}

theorem Sorted.nodup_keys (sorted : ks.Sorted) : (OrderedMap.keys ks).Nodup := by
  refine List.pairwise_map.mpr (List.Pairwise.imp ?_ sorted)
  intro a b less same
  exact String.lt_irrefl _ (same ▸ less)

/-- A key that comes before all others has no texts. -/
theorem get?_of_below {key : String} (below : ∀ entry ∈ ks, key < entry.1) :
    get? ks key = none := by
  refine OrderedMap.get?_eq_none fun member => ?_
  obtain ⟨entry, inside, rfl⟩ := List.mem_map.mp member
  exact String.lt_irrefl _ (below entry inside)

/-- Adding texts to one key leaves the other keys alone. -/
theorem get?_add (sorted : ks.Sorted) (key : String) (texts : List String) (k : String) :
    get? (add key texts ks) k =
      Option.merge adjoin (get? ks k) (if k = key then some texts else none) := by
  induction ks with
  | nil =>
    rw [add, get?_cons]
    by_cases same : k = key <;> simp [same, nil_adjoin]
  | cons head rest ih =>
    obtain ⟨below, sorted⟩ := List.pairwise_cons.mp sorted
    rw [add]
    split
    · rename_i less
      have absent : get? (head :: rest) key = none := by
        refine get?_of_below fun entry member => ?_
        rcases List.mem_cons.mp member with rfl | member
        · exact less
        · exact String.lt_trans less (below entry member)
      rw [get?_cons]
      by_cases same : k = key
      · subst same
        simp [absent, nil_adjoin]
      · simp [same]
    · split
      · rename_i first
        subst first
        rw [get?_cons, get?_cons]
        by_cases same : k = head.1 <;> simp [same]
      · rename_i different
        rw [get?_cons, get?_cons, ih sorted]
        by_cases same : k = head.1
        · simp [same, Ne.symm different]
        · simp [same]

/-- Of each key, both have their texts in the result. -/
theorem get?_addAll (sorted : ks.Sorted) (sorted' : more.Sorted) (k : String) :
    get? (addAll ks more) k = Option.merge adjoin (get? ks k) (get? more k) := by
  induction more generalizing ks with
  | nil => simp [addAll]
  | cons head rest ih =>
    obtain ⟨below, sorted'⟩ := List.pairwise_cons.mp sorted'
    rw [addAll, List.foldl_cons, ← addAll, ih (sorted.add head.1 head.2) sorted',
      get?_add sorted, get?_cons]
    by_cases same : k = head.1
    · subst same
      simp [get?_of_below below]
    · simp [same]

/-- Keywords in order are told by the texts of each key. -/
theorem Sorted.ext (sorted : ks.Sorted) (sorted' : more.Sorted)
    (same : ∀ k, get? ks k = get? more k) : ks = more := by
  have mem_iff {l : Keywords} (h : l.Sorted) (entry : String × List String) :
      entry ∈ l ↔ get? l entry.1 = some entry.2 :=
    ⟨OrderedMap.get?_of_mem h.nodup_keys, OrderedMap.mem_of_get?⟩
  have : Std.Irrefl fun a b : String × List String => a.1 < b.1 := ⟨fun _ => String.lt_irrefl _⟩
  have : Std.Antisymm fun a b : String × List String => a.1 < b.1 :=
    ⟨fun _ _ less less' => absurd less' (String.lt_asymm less)⟩
  exact List.Pairwise.eq_of_mem_iff sorted sorted' fun entry => by
    rw [mem_iff sorted, mem_iff sorted', same]

end Keywords

/-- How the mode combines positional qualifiers. -/
def MergeMode.combine : MergeMode → List String → List String → List String
  | .append => (· ++ ·)
  | .merge => adjoin

theorem MergeMode.combine_assoc (mode : MergeMode) (a b c : List String) :
    mode.combine (mode.combine a b) c = mode.combine a (mode.combine b c) := by
  cases mode with
  | append => exact List.append_assoc a b c
  | merge => exact adjoin_assoc a b c

namespace Qualifiers

variable (a b c : Qualifiers) (mode : MergeMode)

/-! ## 3. Qualifiers -/

/-- The texts of a keyword, if it is one. -/
def texts? (q : Qualifiers) (key : String) : Option (List String) :=
  get? q.keyword key

variable {a b} in
/-- Qualifiers are told by the positional ones and by the texts of each keyword. -/
theorem ext_texts (positional : a.positional = b.positional)
    (texts : ∀ key, a.texts? key = b.texts? key) : a = b :=
  Qualifiers.ext positional (a.sorted.ext b.sorted texts)

@[simp]
theorem texts?_empty (key : String) : empty.texts? key = none :=
  rfl

@[simp]
theorem texts?_withPositional (q : Qualifiers) (text key : String) :
    (q.withPositional text).texts? key = q.texts? key :=
  rfl

@[simp]
theorem texts?_withKeyword (q : Qualifiers) (key text k : String) :
    (q.withKeyword key text).texts? k =
      Option.merge adjoin (q.texts? k) (if k = key then some [text] else none) :=
  Keywords.get?_add q.sorted key [text] k

@[simp]
theorem texts?_merged (key : String) :
    (a.merged b mode).texts? key = Option.merge adjoin (a.texts? key) (b.texts? key) :=
  Keywords.get?_addAll a.sorted b.sorted key

@[simp]
theorem positional_merged :
    (a.merged b mode).positional = mode.combine a.positional b.positional := by
  cases mode <;> rfl

theorem merged_assoc :
    (a.merged b mode).merged c mode = a.merged (b.merged c mode) mode := by
  refine ext_texts ?_ fun key => ?_
  · simp only [positional_merged, mode.combine_assoc]
  · simp only [texts?_merged]
    exact Std.Associative.assoc _ _ _

@[simp]
theorem empty_merged : empty.merged a mode = a := by
  refine ext_texts ?_ fun key => by simp
  rw [positional_merged]
  cases mode with
  | append => rfl
  | merge => exact nil_adjoin a.positional

@[simp]
theorem merged_empty : a.merged empty mode = a := by
  refine ext_texts ?_ fun key => by simp
  rw [positional_merged]
  cases mode with
  | append => exact List.append_nil a.positional
  | merge => exact adjoin_nil a.positional

/-- What has been merged first adds nothing again. -/
theorem merged_absorb : (a.merged b .merge).merged a .merge = a.merged b .merge := by
  have known (texts more : List String) :
      adjoin (adjoin texts more) texts = adjoin texts more :=
    adjoin_of_subset fun _ member => mem_adjoin.mpr (.inl member)
  refine ext_texts ?_ fun key => ?_
  · simp only [positional_merged, MergeMode.combine, known]
  · simp only [texts?_merged]
    cases a.texts? key with
    | none => simp
    | some texts =>
      cases b.texts? key with
      | none => simp [adjoin_of_subset (List.Subset.refl texts)]
      | some more => simp [known]

theorem merged_self : a.merged a .merge = a := by
  simpa using merged_absorb a empty

/-- What has been merged last adds nothing again. -/
theorem merged_again : (a.merged b .merge).merged b .merge = a.merged b .merge := by
  rw [merged_assoc, merged_self]

variable {a b} in
/-- Whatever is merged into qualifiers, they keep what they have. -/
theorem absorbs_merged (absorbs : a.merged b .merge = a) :
    (a.merged c .merge).merged b .merge = a.merged c .merge := by
  calc (a.merged c .merge).merged b .merge
      = ((a.merged b .merge).merged c .merge).merged b .merge := by rw [absorbs]
    _ = a.merged ((b.merged c .merge).merged b .merge) .merge := by simp only [merged_assoc]
    _ = (a.merged b .merge).merged c .merge := by rw [merged_absorb, merged_assoc]
    _ = a.merged c .merge := by rw [absorbs]

/-- The qualifiers with those of a list merged into them, one after the other. -/
def mergedAll (q : Qualifiers) (mode : MergeMode) (others : List Qualifiers) : Qualifiers :=
  others.foldl (·.merged · mode) q

theorem mergedAll_of_absorbs {q : Qualifiers} {others : List Qualifiers}
    (absorbs : ∀ other ∈ others, q.merged other .merge = q) : q.mergedAll .merge others = q := by
  induction others with
  | nil => rfl
  | cons other others ih =>
    obtain ⟨first, rest⟩ := List.forall_mem_cons.mp absorbs
    rw [mergedAll, List.foldl_cons, first]
    exact ih rest

theorem mergedAll_absorbs (others : List Qualifiers) :
    ∀ (q : Qualifiers), ∀ other ∈ others,
      (q.mergedAll .merge others).merged other .merge = q.mergedAll .merge others := by
  induction others using List.reverseRecOn with
  | nil => exact fun _ _ member => absurd member List.not_mem_nil
  | append_singleton others last ih =>
    intro q other member
    rw [mergedAll, List.foldl_concat, ← mergedAll]
    rcases List.mem_append.mp member with old | new
    · exact absorbs_merged _ (ih q other old)
    · rw [List.mem_singleton.mp new]
      exact merged_again _ _

theorem mergedAll_again (q : Qualifiers) (others : List Qualifiers) :
    (q.mergedAll .merge others).mergedAll .merge others = q.mergedAll .merge others :=
  mergedAll_of_absorbs (mergedAll_absorbs others q)

/-- Texts that are added to different keywords do not get in each other's way. -/
theorem withKeyword_comm (q : Qualifiers) {key key' : String} (different : key ≠ key')
    (text text' : String) : (q.withKeyword key text).withKeyword key' text' =
      (q.withKeyword key' text').withKeyword key text := by
  refine ext_texts rfl fun k => ?_
  simp only [texts?_withKeyword]
  by_cases same : k = key
  · simp [same, different]
  · simp [same]

/-! ## 4. Calls -/

/-- Qualifiers that are made by calls: none, or further ones added to what has been made, or what
has been made merged. -/
inductive Built : Qualifiers → Prop
  | empty : Built empty
  | withPositional {q : Qualifiers} (text : String) : Built q → Built (q.withPositional text)
  | withKeyword {q : Qualifiers} (key text : String) : Built q → Built (q.withKeyword key text)
  | merged {q other : Qualifiers} (mode : MergeMode) : Built q → Built other →
      Built (q.merged other mode)

/-- No call makes a keyword repeat a text. -/
theorem Built.nodup {q : Qualifiers} (built : Built q) :
    ∀ {key texts}, q.texts? key = some texts → texts.Nodup := by
  have both {x y : Option (List String)} {texts : List String} (h : ∀ t, x = some t → t.Nodup)
      (h' : ∀ t, y = some t → t.Nodup) (here : Option.merge adjoin x y = some texts) :
      texts.Nodup := by
    cases x with
    | none => exact h' texts (by simpa using here)
    | some old =>
      cases y with
      | none => exact h texts (by simpa using here)
      | some new =>
        cases here
        exact nodup_adjoin (h old rfl) (h' new rfl)
  induction built with
  | empty => exact fun here => by cases here
  | withPositional text _ ih => exact ih
  | withKeyword key text _ ih =>
    intro k texts here
    rw [texts?_withKeyword] at here
    refine both (fun _ => ih) (fun t single => ?_) here
    split at single
    · cases single
      exact List.nodup_singleton text
    · cases single
  | merged mode _ _ ih ih' =>
    intro k texts here
    rw [texts?_merged] at here
    exact both (fun _ => ih) (fun _ => ih') here

/-- Qualifiers with either way of merging are a monoid, whatever they hold. Merging without
repetitions absorbs: what has been merged, before or after, one by one or as a list, adds nothing
again. Keywords are merged in the same way in both modes, and never repeat a text if all has been
made by calls, whose order does not matter for different keywords. -/
theorem merging_is_monoid :
    (∀ (a b c : Qualifiers) mode,
      (a.merged b mode).merged c mode = a.merged (b.merged c mode) mode) ∧
    (∀ a mode, empty.merged a mode = a ∧ a.merged empty mode = a) ∧
    (∀ a b : Qualifiers, (a.merged b .merge).merged a .merge = a.merged b .merge ∧
      (a.merged b .merge).merged b .merge = a.merged b .merge) ∧
    (∀ a : Qualifiers, a.merged a .merge = a) ∧
    (∀ q others, (mergedAll q .merge others).mergedAll .merge others = q.mergedAll .merge others) ∧
    (∀ a b : Qualifiers, (a.merged b .append).keyword = (a.merged b .merge).keyword) ∧
    (∀ a b : Qualifiers, (a.merged b .append).positional = a.positional ++ b.positional) ∧
    (∀ q, Built q → ∀ entry ∈ q.keyword, entry.2.Nodup) ∧
    (∀ q key key' text text', key ≠ key' → (withKeyword q key text).withKeyword key' text' =
      (q.withKeyword key' text').withKeyword key text) :=
  ⟨merged_assoc, fun a mode => ⟨empty_merged a mode, merged_empty a mode⟩,
    fun a b => ⟨merged_absorb a b, merged_again a b⟩, merged_self, mergedAll_again,
    fun _ _ => rfl, fun _ _ => rfl,
    fun q built _ member => built.nodup (OrderedMap.get?_of_mem q.sorted.nodup_keys member),
    fun q _ _ text text' different => withKeyword_comm q different text text'⟩

/-- Two keywords, the later one added first. -/
def twoKeys : Qualifiers :=
  (empty.withKeyword "b" "2").withKeyword "a" "1"

theorem merging_is_monoid_twoKeys :
    Built twoKeys ∧ (∀ entry ∈ twoKeys.keyword, entry.2.Nodup) ∧ "b" ≠ "a" ∧
      twoKeys = (empty.withKeyword "a" "1").withKeyword "b" "2" := by
  have built : Built twoKeys := .withKeyword _ _ (.withKeyword _ _ .empty)
  have different : "b" ≠ "a" := by decide
  obtain ⟨_, _, _, _, _, _, _, nodup, comm⟩ := merging_is_monoid
  exact ⟨built, nodup _ built, different, comm _ _ _ _ _ different⟩

end Qualifiers

end NodeForest

import NodeForest.Proofs.ConstantName

/-!
# Punctuation in names

Names are put together with parentheses, commas and colons. What is written between them can be
read back where it holds none of the marks that end it. This module says which texts hold no marks
at all, what numbers are written with, and that a text is cut at a mark in one way only.

Results:
1. `Plain`: texts without marks.
2. `Binary64.figures_text`: numbers are made of digits and a few signs; `Figures.plain`: so they hold
   no marks.
3. `append_cons_cancel`: a cut at a mark; `cut_first`, `cut_last`: the first and the last one.
4. `generatedName_injective`: generated names differ in their text or their count.
-/

namespace NodeForest

/-! ## 1. Plain texts -/

/-- The marks that names are put together with. -/
def marks : List Char := ['(', ')', ',', ':']

/-- The text holds no marks. -/
def Plain (s : String) : Prop :=
  ∀ c ∈ s.toList, c ∉ marks

instance : DecidablePred Plain := fun s =>
  decidable_of_iff (s.toList.all fun c => !marks.contains c) (by simp [Plain])

namespace Plain

theorem append {s t : String} (hs : Plain s) (ht : Plain t) : Plain (s ++ t) := by
  intro c member
  rw [String.toList_append, List.mem_append] at member
  exact member.elim (hs c) (ht c)

end Plain

theorem isDigit_of_mem_toString {n : Nat} {c : Char} (member : c ∈ (toString n).toList) :
    c.isDigit := by
  rw [Nat.toString_eq_repr, Nat.toList_repr] at member
  exact Nat.isDigit_of_mem_toDigits (by decide) (Nat.le_refl 10) member

/-! ## 2. Numbers -/

/-- The characters that numbers are written with beside digits. -/
def figureSigns : List Char := "+-.eNainf".toList

/-- The text is made of what numbers are written with. -/
def Figures (s : String) : Prop :=
  ∀ c ∈ s.toList, c.isDigit ∨ c ∈ figureSigns

instance : DecidablePred Figures := fun s =>
  decidable_of_iff (s.toList.all fun c => c.isDigit || figureSigns.contains c) (by simp [Figures])

namespace Figures

theorem append {s t : String} (hs : Figures s) (ht : Figures t) : Figures (s ++ t) := by
  intro c member
  rw [String.toList_append, List.mem_append] at member
  exact member.elim (hs c) (ht c)

theorem ofList {cs : List Char} (h : ∀ c ∈ cs, c.isDigit) : Figures (String.ofList cs) := by
  intro c member
  rw [String.toList_ofList] at member
  exact .inl (h c member)

/-- A character that is neither a digit nor a sign is not in a number. -/
theorem not_mem {s : String} (h : Figures s) {c : Char} (digit : c.isDigit = false)
    (sign : c ∉ figureSigns) : c ∉ s.toList := fun member => by
  rcases h c member with digit' | sign'
  · rw [digit] at digit'
    cases digit'
  · exact sign sign'

theorem plain {s : String} (h : Figures s) : Plain s := fun c member mark => by
  have other : marks.all fun c => !c.isDigit && !figureSigns.contains c := by decide
  have apart := List.all_eq_true.mp other c mark
  simp only [Bool.and_eq_true, Bool.not_eq_eq_eq_not, Bool.not_true,
    List.contains_eq_mem, decide_eq_false_iff_not] at apart
  exact h.not_mem apart.1 apart.2 member

end Figures

theorem figures_toString (n : Nat) : Figures (toString n) :=
  fun _ member => .inl (isDigit_of_mem_toString member)

theorem figures_toString_int : ∀ i : Int, Figures (toString i)
  | .ofNat n => figures_toString n
  | .negSucc n => Figures.append (by decide) (figures_toString (n + 1))

theorem plain_toString (n : Nat) : Plain (toString n) :=
  (figures_toString n).plain

theorem figures_zeros (n : Nat) : Figures (Decimal.zeros n) :=
  .ofList fun c member => by
    rw [List.eq_of_mem_replicate member]
    decide

theorem figures_pointAfter (n : Nat) {digits : List Char} (h : ∀ c ∈ digits, c.isDigit) :
    Figures (Decimal.pointAfter n digits) := by
  have first : Figures (String.ofList (digits.take n)) :=
    .ofList fun c member => h c (List.mem_of_mem_take member)
  have rest : Figures (String.ofList (digits.drop n)) :=
    .ofList fun c member => h c (List.mem_of_mem_drop member)
  exact (first.append (by decide)).append rest

theorem Decimal.figures_text (style : NumberStyle) (d : Decimal) : Figures (d.text style) := by
  have digits : ∀ c ∈ Nat.toDigits 10 d.digits, c.isDigit := fun c member =>
    Nat.isDigit_of_mem_toDigits (by decide) (Nat.le_refl 10) member
  have all : Figures (String.ofList (Nat.toDigits 10 d.digits)) := .ofList digits
  have words : Figures "0.0" ∧ Figures ".0" ∧ Figures "0." ∧ Figures "e" ∧ Figures "+" ∧
      Figures "" := by
    decide
  obtain ⟨zero, point, small, exponent, plus, none⟩ := words
  unfold Decimal.text
  dsimp only
  split
  · exact zero
  · split
    · split
      · exact (all.append (figures_zeros _)).append point
      · split
        · exact figures_pointAfter _ digits
        · exact (small.append (figures_zeros _)).append all
    · refine (((?_ : Figures _).append exponent).append ?_).append (figures_toString_int _)
      · split
        · exact all
        · exact figures_pointAfter _ digits
      · split
        · exact plus
        · exact none

namespace Binary64

theorem figures_unsignedText (style : NumberStyle) (x : Binary64) :
    Figures (x.unsignedText style) := by
  unfold unsignedText
  split
  · decide
  · decide
  · exact Decimal.figures_text style _

theorem figures_text (style : NumberStyle) (x : Binary64) : Figures (x.text style) := by
  refine Figures.append ?_ (figures_unsignedText style x)
  split <;> decide

theorem figures_signedText (style : NumberStyle) (x : Binary64) : Figures (x.signedText style) := by
  unfold signedText
  split
  · exact figures_unsignedText style x
  · refine Figures.append ?_ (figures_unsignedText style x)
    split <;> decide

end Binary64

/-! ## 3. Cuts -/

/-- A text is cut in one way only after a part that cannot go on with a stop. -/
theorem append_cons_cancel (part : List Char → Prop) (stop : Char → Prop)
    (ends : ∀ {s c w}, part s → stop c → ¬part (s ++ c :: w)) {s t u v : List Char} {c c' : Char}
    (hs : part s) (ht : part t) (hc : stop c) (hc' : stop c') (same : s ++ c :: u = t ++ c' :: v) :
    s = t ∧ c :: u = c' :: v := by
  rcases List.append_eq_append_iff.mp same with ⟨w, longer, rest⟩ | ⟨w, longer, rest⟩
  · cases w with
    | nil => exact ⟨by simpa using longer.symm, by simpa using rest⟩
    | cons d w =>
      obtain ⟨rfl, _⟩ := List.cons.inj rest
      exact absurd (longer ▸ ht) (ends hs hc)
  · cases w with
    | nil => exact ⟨by simpa using longer, by simpa using rest.symm⟩
    | cons d w =>
      obtain ⟨rfl, _⟩ := List.cons.inj rest
      exact absurd (longer ▸ hs) (ends ht hc')

/-- Two texts that agree are cut at the first mark of a kind alike. -/
theorem cut_first {mark : Char} {s t u v : List Char} (hs : mark ∉ s) (ht : mark ∉ t)
    (same : s ++ mark :: u = t ++ mark :: v) : s = t ∧ u = v := by
  obtain ⟨first, rest⟩ := append_cons_cancel (mark ∉ ·) (· = mark)
    (fun {_ _ _} _ here => by simp [here]) hs ht rfl rfl same
  exact ⟨first, (List.cons.inj rest).2⟩

/-- So are they at the last one. -/
theorem cut_last {mark : Char} {s t u v : List Char} (hu : mark ∉ u) (hv : mark ∉ v)
    (same : s ++ mark :: u = t ++ mark :: v) : s = t ∧ u = v := by
  have reversed : u.reverse ++ mark :: s.reverse = v.reverse ++ mark :: t.reverse := by
    have := congrArg List.reverse same
    simpa using this
  obtain ⟨last, rest⟩ := cut_first (by simpa using hu) (by simpa using hv) reversed
  exact ⟨List.reverse_injective rest, List.reverse_injective last⟩

/-! ## 4. Generated names -/

namespace Repository

theorem generatedName_eq (name : String) (n : Nat) :
    generatedName name n = constantName ("(" ++ name ++ ")") n := by
  rw [generatedName, constantName]
  split
  · rw [String.append_empty]
  · rfl

/-- After the name in parentheses there are digits only. -/
theorem toList_generatedName (name : String) (n : Nat) : ∃ ds : List Char,
    (generatedName name n).toList = '(' :: (name.toList ++ ')' :: ds) ∧ ∀ c ∈ ds, c.isDigit := by
  rw [generatedName]
  split
  · exact ⟨[], by simp, by simp⟩
  · exact ⟨(toString n).toList, by simp, fun c member => isDigit_of_mem_toString member⟩

/-- Generated names are told apart, whatever stands before them without a parenthesis. -/
theorem generatedName_injective {before before' name name' : String} {n n' : Nat}
    (plain : '(' ∉ before.toList) (plain' : '(' ∉ before'.toList)
    (same : before ++ generatedName name n = before' ++ generatedName name' n') :
    before = before' ∧ name = name' ∧ n = n' := by
  obtain ⟨ds, shape, digits⟩ := toList_generatedName name n
  obtain ⟨ds', shape', digits'⟩ := toList_generatedName name' n'
  have cut := congrArg String.toList same
  rw [String.toList_append, String.toList_append, shape, shape'] at cut
  obtain ⟨first, rest⟩ := cut_first plain plain' cut
  have none {ds : List Char} (digits : ∀ c ∈ ds, c.isDigit) : ')' ∉ ds := fun member => by
    cases digits _ member
  obtain ⟨inner, _⟩ := cut_last (none digits) (none digits') rest
  obtain rfl := String.toList_inj.mp first
  obtain rfl := String.toList_inj.mp inner
  rw [String.append_right_inj, generatedName_eq, generatedName_eq] at same
  exact ⟨rfl, rfl, constantName_injective _ same⟩

end Repository

end NodeForest

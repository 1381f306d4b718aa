import NodeForest.Proofs.Punctuation

/-!
# Brackets in names

The name of a node for an expression lists the basenames of the children, with commas in between and
parentheses around them. The list can be read back if in each basename every parenthesis is matched
and every comma stands within parentheses, which is the case for all the names that are generated.

Results:
1. `scan`, `Bracketed`: texts with matched parentheses.
2. `bracketed_of_flat`, `Bracketed.append`, `Bracketed.list`, `bracketed_generatedName`,
   `bracketed_newConstantName`: the texts that names are put together from.
3. `cut_list`: a list in parentheses is read back.
-/

namespace NodeForest

/-! ## 1. Depth -/

/-- How many parentheses are open after the character, of which `depth` were open before. Nothing
that is not open is closed, and no comma stands outside of all parentheses. -/
def depthAfter (depth : Nat) (c : Char) : Option Nat :=
  if c = '(' then some (depth + 1)
  else if c = ')' then if depth = 0 then none else some (depth - 1)
  else if c = ',' then if depth = 0 then none else some depth
  else some depth

/-- How many parentheses are open after the text. -/
def scan (depth : Nat) (s : List Char) : Option Nat :=
  s.foldlM depthAfter depth

theorem scan_cons (depth : Nat) (c : Char) (s : List Char) :
    scan depth (c :: s) = (depthAfter depth c).bind fun inside => scan inside s :=
  List.foldlM_cons

theorem scan_append (depth : Nat) (s t : List Char) :
    scan depth (s ++ t) = (scan depth s).bind fun inside => scan inside t :=
  List.foldlM_append

theorem depthAfter_add {depth inside : Nat} {c : Char} (h : depthAfter depth c = some inside)
    (more : Nat) : depthAfter (depth + more) c = some (inside + more) := by
  unfold depthAfter at h ⊢
  grind

/-- What is open before stays open. -/
theorem scan_add {depth inside : Nat} {s : List Char} (h : scan depth s = some inside)
    (more : Nat) : scan (depth + more) s = some (inside + more) := by
  induction s generalizing depth with
  | nil =>
    cases h
    rfl
  | cons c s ih =>
    rw [scan_cons] at h ⊢
    obtain ⟨between, first, rest⟩ := Option.bind_eq_some_iff.mp h
    rw [depthAfter_add first]
    exact ih rest

/-- In the text every parenthesis is matched, and every comma stands within parentheses. -/
def Bracketed (s : String) : Prop :=
  scan 0 s.toList = some 0

instance : DecidablePred Bracketed := fun s =>
  inferInstanceAs (Decidable (scan 0 s.toList = some 0))

example : Bracketed "add(x,negate(y))" ∧ ¬Bracketed "x,y" := by
  decide

/-! ## 2. Bracketed texts -/

namespace Bracketed

theorem within {s : String} (h : Bracketed s) (depth : Nat) : scan depth s.toList = some depth := by
  have := scan_add h depth
  rwa [Nat.zero_add] at this

theorem append {s t : String} (hs : Bracketed s) (ht : Bracketed t) : Bracketed (s ++ t) := by
  rw [Bracketed, String.toList_append, scan_append, hs]
  exact ht

/-- What stands in parentheses may hold commas. -/
theorem enclosed {s : String} (h : scan 1 s.toList = some 1) : Bracketed ("(" ++ s ++ ")") := by
  rw [Bracketed, String.toList_append, String.toList_append, List.append_assoc]
  show scan 1 (s.toList ++ [')']) = some 0
  rw [scan_append, h]
  rfl

end Bracketed

/-- The marks that `depthAfter` looks at. -/
def listMarks : List Char := ['(', ')', ',']

/-- The text holds neither parentheses nor commas. -/
def Flat (s : String) : Prop :=
  ∀ c ∈ s.toList, c ∉ listMarks

instance : DecidablePred Flat := fun s =>
  decidable_of_iff (s.toList.all fun c => !listMarks.contains c) (by simp [Flat])

theorem bracketed_of_flat {s : String} (h : Flat s) : Bracketed s := by
  unfold Flat at h
  unfold Bracketed
  generalize s.toList = cs at h ⊢
  induction cs with
  | nil => rfl
  | cons c cs ih =>
    have lacks := h c List.mem_cons_self
    simp only [listMarks, List.mem_cons, not_or] at lacks
    obtain ⟨opens, closes, separates, _⟩ := lacks
    rw [scan_cons, depthAfter, if_neg opens, if_neg closes, if_neg separates]
    exact ih fun c' member => h c' (List.mem_cons_of_mem c member)

theorem bracketed_of_plain {s : String} (h : Plain s) : Bracketed s :=
  bracketed_of_flat fun c member bracket => h c member (by
    simp only [listMarks, marks, List.mem_cons, List.not_mem_nil, or_false] at bracket ⊢
    exact bracket.imp_right (Or.imp_right .inl))

/-- Bracketed texts with commas in between may stand in parentheses. -/
theorem scan_list {bs : List String} (h : ∀ b ∈ bs, Bracketed b) :
    scan 1 (",".intercalate bs).toList = some 1 := by
  match bs with
  | [] => rfl
  | [b] =>
    rw [String.intercalate_singleton]
    exact (h b List.mem_cons_self).within 1
  | b :: b' :: rest =>
    have first := (h b List.mem_cons_self).within 1
    have others := scan_list fun b'' member => h b'' (List.mem_cons_of_mem b member)
    rw [String.intercalate_cons_cons, String.toList_append, String.toList_append, scan_append,
      scan_append, first]
    exact others

theorem Bracketed.list {bs : List String} (h : ∀ b ∈ bs, Bracketed b) :
    Bracketed ("(" ++ ",".intercalate bs ++ ")") :=
  .enclosed (scan_list h)

namespace Repository

theorem bracketed_constantName {base : String} (h : Bracketed base) (n : Nat) :
    Bracketed (constantName base n) := by
  unfold constantName
  split
  · exact h
  · exact h.append (bracketed_of_plain (plain_toString n))

theorem bracketed_generatedName {name : String} (h : Bracketed name) (n : Nat) :
    Bracketed (generatedName name n) := by
  rw [generatedName_eq]
  exact bracketed_constantName (.enclosed (h.within 1)) n

theorem bracketed_render (value : Constant) : Bracketed value.render := by
  cases value with
  | real x => exact bracketed_of_plain (x.figures_text .message).plain
  | complex re im =>
    have parts : Plain (re.text .message ++ im.signedText .message ++ "j") :=
      ((re.figures_text .message).append (im.figures_signedText .message)).plain.append (by decide)
    have shape : (Constant.complex re im).render =
        "(" ++ (re.text .message ++ im.signedText .message ++ "j") ++ ")" := by
      simp only [Constant.render, complexText, String.append_assoc]
      rfl
    rw [shape]
    exact .enclosed ((bracketed_of_plain parts).within 1)

theorem bracketed_newConstantName (r : Repository) (value : Constant) :
    Bracketed (r.newConstantName value) := by
  have base : Bracketed ("c" ++ value.render) :=
    (bracketed_of_plain (by decide)).append (bracketed_render value)
  unfold newConstantName freeConstantName
  split
  · exact bracketed_constantName base _
  · exact base

end Repository

/-! ## 3. Reading back -/

/-- A bracketed text ends at the first comma or closing parenthesis that it does not hold itself. -/
theorem cut_bracketed {b b' : String} (h : Bracketed b) (h' : Bracketed b') {c c' : Char}
    {u u' : List Char} (hc : c = ')' ∨ c = ',') (hc' : c' = ')' ∨ c' = ',')
    (same : b.toList ++ c :: u = b'.toList ++ c' :: u') : b = b' ∧ c :: u = c' :: u' := by
  have ends {s : List Char} {c : Char} {w : List Char} (closed : scan 0 s = some 0)
      (stop : c = ')' ∨ c = ',') : ¬scan 0 (s ++ c :: w) = some 0 := by
    intro longer
    rw [scan_append, closed, Option.bind_some, scan_cons] at longer
    rcases stop with rfl | rfl <;> cases longer
  obtain ⟨first, rest⟩ := append_cons_cancel (scan 0 · = some 0) (fun c => c = ')' ∨ c = ',') ends
    h h' hc hc' same
  exact ⟨String.toList_inj.mp first, rest⟩

theorem toList_list_cons (b c : String) (rest : List String) (u : List Char) :
    (",".intercalate (b :: c :: rest)).toList ++ u =
      b.toList ++ ',' :: ((",".intercalate (c :: rest)).toList ++ u) := by
  rw [String.intercalate_cons_cons, String.toList_append, String.toList_append, List.append_assoc,
    List.append_assoc]
  rfl

/-- A list of bracketed texts is read back up to the parenthesis that closes it. -/
theorem cut_list : ∀ {bs bs' : List String} {u u' : List Char}, bs ≠ [] → bs' ≠ [] →
    (∀ b ∈ bs, Bracketed b) → (∀ b ∈ bs', Bracketed b) →
    (",".intercalate bs).toList ++ ')' :: u = (",".intercalate bs').toList ++ ')' :: u' →
      bs = bs' ∧ u = u'
  | [], _, _, _, filled, _, _, _, _ => absurd rfl filled
  | _, [], _, _, _, filled, _, _, _ => absurd rfl filled
  | b :: rest, b' :: rest', u, u', _, _, h, h', same => by
    have head := h b List.mem_cons_self
    have head' := h' b' List.mem_cons_self
    match rest, rest' with
    | [], [] =>
      rw [String.intercalate_singleton, String.intercalate_singleton] at same
      obtain ⟨rfl, ends⟩ := cut_bracketed head head' (.inl rfl) (.inl rfl) same
      exact ⟨rfl, (List.cons.inj ends).2⟩
    | [], c' :: more' =>
      rw [String.intercalate_singleton, toList_list_cons] at same
      obtain ⟨_, ends⟩ := cut_bracketed head head' (.inl rfl) (.inr rfl) same
      cases (List.cons.inj ends).1
    | c :: more, [] =>
      rw [String.intercalate_singleton, toList_list_cons] at same
      obtain ⟨_, ends⟩ := cut_bracketed head head' (.inr rfl) (.inl rfl) same
      cases (List.cons.inj ends).1
    | c :: more, c' :: more' =>
      rw [toList_list_cons, toList_list_cons] at same
      obtain ⟨rfl, ends⟩ := cut_bracketed head head' (.inr rfl) (.inr rfl) same
      obtain ⟨others, rfl⟩ := cut_list (List.cons_ne_nil c more) (List.cons_ne_nil c' more')
        (fun _ member => h _ (List.mem_cons_of_mem b member))
        (fun _ member => h' _ (List.mem_cons_of_mem b member)) (List.cons.inj ends).2
      exact ⟨congrArg (b :: ·) others, rfl⟩

end NodeForest

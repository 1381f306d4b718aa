import NodeForest.Proofs.TomlText

/-!
# Written lines read back

A document that is written line by line, a bare key and a value on each, is read line by line.

Results:
1. `readsAs_text`, `readsAs_bool`, `readsAs_integer`: what is written for a value reads as it;
2. `readLine_entry` and `readLine_header`: a line puts its value under its key, in the table of the
   header in force, and the line of a header opens its table;
3. `readLines_run`: by induction on the lines, a run of them puts their values one after another;
4. `Page.read?_write`: a page is read back.

What is shown of settings later needs no more of the writer and the reader than the last of these:
`Library` is any two of which it holds, and `library` are the two that there are.
-/

namespace NodeForest

namespace Toml

/-! ## 1. Values -/

/-- At the end of a line the text reads as the value. -/
def ReadsAs (text : String) (v : Toml) : Prop :=
  ∀ depth fuel rest, readValue depth (fuel + 1) (skipSpace (text.toList ++ '\n' :: rest)) =
    some (v, '\n' :: rest)

/-- Texts differ whose first characters do. -/
theorem cons_ne_cons {p : Char → Bool} {c d : Char} {cs ds : List Char} (first : p c)
    (other : p d = false) : c :: cs ≠ d :: ds := by
  intro same
  rw [(List.cons.inj same).1, other] at first
  cases first

theorem skipSpace_cons {c : Char} (visible : isSpace c = false) (cs : List Char) :
    skipSpace (c :: cs) = c :: cs := by
  simp [skipSpace, visible]

theorem readValue_quoted {c : Char} (quote : c = '"' ∨ c = '\'') (depth fuel : Nat)
    (cs : List Char) :
    readValue depth (fuel + 1) (c :: cs) =
      (readText? (c :: cs)).map fun (s, rest) => (.text s, rest) := by
  rcases quote with rfl | rfl <;> rw [readValue]

theorem readsAs_text (s : String) : ReadsAs (writeText s) (.text s) := by
  intro depth fuel rest
  have reads := readText?_writeText s rest
  obtain ⟨quote, cs, written⟩ : ∃ form : TextForm, ∃ cs,
      (writeText s).toList ++ '\n' :: rest = form.quote :: cs := by
    rw [toList_writeText, writtenQuotes]
    split <;> exact ⟨_, _, rfl⟩
  have quoted : quote.quote = '"' ∨ quote.quote = '\'' := by cases quote <;> decide
  have kept : skipSpace (quote.quote :: cs) = quote.quote :: cs := by cases quote <;> rfl
  rw [written] at reads ⊢
  rw [kept, readValue_quoted quoted, reads]
  rfl

theorem isSpace_of_isTokenChar {c : Char} (plain : isTokenChar c) : isSpace c = false := by
  cases space : isSpace c with
  | false => rfl
  | true =>
      have : c = ' ' ∨ c = '\t' := by simpa [isSpace] using space
      rcases this with rfl | rfl <;> cases plain

theorem readToken_line {token : List Char} (plain : ∀ c ∈ token, isTokenChar c)
    (rest : List Char) : readToken (token ++ '\n' :: rest) = (token, '\n' :: rest) := by
  have taken : (token ++ '\n' :: rest).takeWhile isTokenChar = token := by
    rw [List.takeWhile_append_of_pos plain]
    simp [isTokenChar]
  simp [readToken, taken]

theorem readValue_token {c : Char} {cs : List Char} (plain : ∀ d ∈ c :: cs, isTokenChar d)
    (depth fuel : Nat) (rest : List Char) :
    readValue depth (fuel + 1) (c :: cs ++ '\n' :: rest) =
      (scalar? (c :: cs)).map fun v => (v, '\n' :: rest) := by
  have first : isTokenChar c := plain c List.mem_cons_self
  rw [List.cons_append, readValue, ← List.cons_append, readToken_line plain]
  -- A token does not start like a text, an array or an inline table.
  · exact fun _ => cons_ne_cons first (by decide)
  · exact fun _ => cons_ne_cons first (by decide)
  · exact fun _ _ same => absurd same (cons_ne_cons first (by decide))
  · exact fun _ _ same => absurd same (cons_ne_cons first (by decide))

theorem readsAs_token {token : String} {v : Toml} (plain : ∀ c ∈ token.toList, isTokenChar c)
    (scalar : scalar? token.toList = some v) : ReadsAs token v := by
  intro depth fuel rest
  generalize token.toList = cs at plain scalar
  cases cs with
  | nil => cases scalar
  | cons c cs =>
      have visible := isSpace_of_isTokenChar (plain c List.mem_cons_self)
      rw [List.cons_append, skipSpace_cons visible, ← List.cons_append,
        readValue_token plain, scalar]
      rfl

theorem readsAs_bool (b : Bool) : ReadsAs (toString b) (.bool b) := by
  have plain : ∀ b : Bool, (toString b).toList.all isTokenChar := by decide
  exact readsAs_token (List.all_eq_true.mp (plain b)) (by cases b <;> rfl)

theorem plainDigits?_eq_self {cs : List Char} (filled : cs ≠ []) (digits : ∀ c ∈ cs, c.isDigit) :
    plainDigits? Char.isDigit cs = some cs := by
  induction cs with
  | nil => exact absurd rfl filled
  | cons c rest ih =>
      obtain ⟨digit, digits⟩ := List.forall_mem_cons.mp digits
      cases rest with
      | nil => simp [plainDigits?, digit]
      | cons d rest =>
          rw [plainDigits?, ih nofun digits, if_pos digit]
          · rfl
          · exact nofun
          · rintro _ same
            cases same
            exact absurd (List.forall_mem_cons.mp digits).1 (by decide)

theorem head?_toDigits {n : Nat} (positive : 0 < n) : (Nat.toDigits 10 n).head? ≠ some '0' := by
  induction n using Nat.strongRecOn with
  | ind n ih =>
      rw [Nat.toDigits_eq_if (by decide)]
      split
      case isTrue small =>
        have nonzero : ∀ d < 10, 0 < d → d.digitChar ≠ '0' := by decide
        simpa using nonzero n small positive
      case isFalse =>
        have first := ih (n / 10) (by omega) (by omega)
        obtain ⟨c, cs, same⟩ := List.exists_cons_of_ne_nil (Nat.toDigits_ne_nil (n := n / 10))
        rw [same] at first ⊢
        exact first

theorem isDigit_toDigits (n : Nat) : ∀ c ∈ Nat.toDigits 10 n, c.isDigit :=
  fun _ => Nat.isDigit_of_mem_toDigits (by decide) (Nat.le_refl 10)

theorem wholeDigits?_toDigits (n : Nat) :
    wholeDigits? (Nat.toDigits 10 n) = some (Nat.toDigits 10 n) := by
  rw [wholeDigits?, plainDigits?_eq_self Nat.toDigits_ne_nil (isDigit_toDigits n)]
  rcases Nat.eq_zero_or_pos n with rfl | positive
  · rfl
  · simp [Option.filter, head?_toDigits positive]

theorem integer?_toDigits (n : Nat) : integer? (Nat.toDigits 10 n) = some (n : Int) := by
  have whole := wholeDigits?_toDigits n
  have digits := isDigit_toDigits n
  have value : NumberLiteral.ofDigits (Nat.toDigits 10 n) = n := Nat.ofDigitChars_ten_toDigits
  generalize Nat.toDigits 10 n = cs at whole digits value
  have unsigned : NumberLiteral.sign cs = (false, cs) := by
    unfold NumberLiteral.sign
    split
    · exact absurd (digits '-' List.mem_cons_self) (by decide)
    · exact absurd (digits '+' List.mem_cons_self) (by decide)
    · rfl
  -- No base is marked, for the mark is not a digit.
  unfold integer?
  split
  · exact absurd (digits 'x' (by simp)) (by decide)
  · exact absurd (digits 'o' (by simp)) (by decide)
  · exact absurd (digits 'b' (by simp)) (by decide)
  · simp [unsigned, whole, value]

theorem readsAs_integer (n : Nat) : ReadsAs (toString n) (.integer n) := by
  have digits := isDigit_toDigits n
  have written : (toString n).toList = Nat.toDigits 10 n := by
    rw [Nat.toString_eq_repr, Nat.toList_repr]
  refine readsAs_token ?_ ?_
  · intro c member
    rw [written] at member
    simp [isTokenChar, Char.isAlphanum, digits c member]
  · have noTrue : Nat.toDigits 10 n ≠ ['t', 'r', 'u', 'e'] := fun same =>
      absurd (digits 't' (by simp [same])) (by decide)
    have noFalse : Nat.toDigits 10 n ≠ ['f', 'a', 'l', 's', 'e'] := fun same =>
      absurd (digits 'f' (by simp [same])) (by decide)
    rw [written, scalar?, if_neg noTrue, if_neg noFalse, integer?_toDigits]

theorem Scalar.readsAs : (v : Scalar) → ReadsAs v.write v.toToml
  | text s => readsAs_text s
  | number n => readsAs_integer n
  | bool b => readsAs_bool b

/-! ## 2. Lines -/

theorem IsBareKey.exists_cons {key : String} (bare : IsBareKey key) :
    ∃ c cs, key.toList = c :: cs ∧ isBareKeyChar c := by
  have filled : key.toList ≠ [] := fun none => bare.1 (String.toList_eq_nil_iff.mp none)
  obtain ⟨c, cs, same⟩ := List.exists_cons_of_ne_nil filled
  exact ⟨c, cs, same, bare.2 c (by simp [same])⟩

theorem isSpace_of_isBareKeyChar {c : Char} (bare : isBareKeyChar c) : isSpace c = false :=
  isSpace_of_isTokenChar (by simp_all [isTokenChar, isBareKeyChar])

/-- A bare key is read up to a character that none can have, with the blanks that follow. -/
theorem readKey_bare {key : String} (bare : IsBareKey key) (c : Char) (cs : List Char) {d : Char}
    {rest : List Char} (stop : isBareKeyChar c = false) (blanks : skipSpace (c :: cs) = d :: rest)
    (noDot : d ≠ '.') :
    readKey (key.toList ++ c :: cs) = some ([key], d :: rest) := by
  obtain ⟨first, others, same, bareFirst⟩ := bare.exists_cons
  have taken : (key.toList ++ c :: cs).takeWhile isBareKeyChar = key.toList := by
    rw [List.takeWhile_append_of_pos bare.2]
    simp [stop]
  have part : readKeyPart? (key.toList ++ c :: cs) = some (key, c :: cs) := by
    rw [readKeyPart?]
    · simp [taken, bare.1]
    · intro _ quoted
      rw [same] at quoted
      exact cons_ne_cons bareFirst (by decide) quoted
    · intro _ quoted
      rw [same] at quoted
      exact cons_ne_cons bareFirst (by decide) quoted
  have start : skipSpace (key.toList ++ c :: cs) = key.toList ++ c :: cs := by
    rw [same]
    exact skipSpace_cons (isSpace_of_isBareKeyChar bareFirst) _
  rw [readKey, depthLimit, readKeyParts, start, part]
  simp only [Option.bind_eq_bind, Option.bind_some, blanks]
  split
  · exact absurd (List.cons.inj ‹_›).1 noDot
  · rfl

/-- Puts the value of a line into the table of the header in force. -/
def Document.put (d : Document) (l : Line) : Option Document :=
  let put := alterAt (addDotted l.value.toToml [l.key]) d.header d.entries
  put.map fun entries => { d with entries }

theorem readLine_entry (d : Document) (l : Line) (rest : List Char) :
    readLine d (l.write.toList ++ rest) = (d.put l).map fun d => (d, '\n' :: rest) := by
  have key := readKey_bare l.bare ' ' ('=' :: ' ' :: (l.value.write.toList ++ '\n' :: rest))
    (by decide) rfl (by decide)
  obtain ⟨first, others, same, bareFirst⟩ := l.bare.exists_cons
  have written : l.write.toList ++ rest =
      l.key.toList ++ ' ' :: '=' :: ' ' :: (l.value.write.toList ++ '\n' :: rest) := by
    simp [Line.write]
  rw [written, same, List.cons_append, readLine, ← List.cons_append, ← same, key]
  · have value := l.value.readsAs depthLimit
      (2 * (' ' :: (l.value.write.toList ++ '\n' :: rest)).length + 1) rest
    change ((readValue depthLimit _ (skipSpace (l.value.write.toList ++ '\n' :: rest))).bind _) = _
    rw [value]
    simp only [Option.bind_some, Document.put]
    cases alterAt (addDotted l.value.toToml [l.key]) d.header d.entries <;> rfl
  · exact fun _ => cons_ne_cons bareFirst (by decide)
  · exact fun _ => cons_ne_cons bareFirst (by decide)

theorem readLine_header (d : Document) {table : String} (bare : IsBareKey table)
    (rest : List Char) :
    readLine d (("[" ++ table ++ "]\n").toList ++ rest) =
      (d.openAt openTable [table]).map fun d => (d, '\n' :: rest) := by
  have key := readKey_bare bare ']' ('\n' :: rest) (by decide) rfl (by decide)
  obtain ⟨first, others, same, bareFirst⟩ := bare.exists_cons
  have written : ("[" ++ table ++ "]\n").toList ++ rest =
      '[' :: (table.toList ++ ']' :: '\n' :: rest) := by
    simp
  rw [written, readLine, key]
  · change (Option.bind (d.openAt openTable [table]) _) = _
    cases d.openAt openTable [table] <;> rfl
  · intro _ start
    rw [same] at start
    exact cons_ne_cons bareFirst (by decide) start

/-! ## 3. Documents -/

theorem skipLines_cons {c : Char} (start : isBareKeyChar c ∨ c = '[') (n : Nat) (cs : List Char) :
    skipLines n (c :: cs) = some (c :: cs) := by
  have other {d : Char} (bare : isBareKeyChar d = false) (bracket : d ≠ '[') : c ≠ d := by
    rintro rfl
    exact start.elim (by simp [bare]) bracket
  have visible : isSpace c = false := by
    have space := other (d := ' ') (by decide) (by decide)
    have tab := other (d := '\t') (by decide) (by decide)
    simp [isSpace, space, tab]
  have comment := other (d := '#') (by decide) (by decide)
  have feed := other (d := '\n') (by decide) (by decide)
  have ret := other (d := '\r') (by decide) (by decide)
  cases n with
  | zero => rfl
  | succ n =>
      simp [skipLines, skipSpace_cons visible, skipComment?, comment, takeNewline?, feed, ret]

/-- A line is read, and then the lines after it. -/
theorem readLines_of_readLine {fuel : Nat} {d : Document} {c : Char} {cs rest : List Char}
    {read : Option Document} (start : isBareKeyChar c ∨ c = '[')
    (line : readLine d (c :: cs) = read.map fun d => (d, '\n' :: rest)) :
    readLines (fuel + 1) d (c :: cs) = read.bind fun d => readLines fuel d rest := by
  rw [readLines, skipLines_cons start]
  simp only [Option.bind_eq_bind, Option.bind_some, line]
  cases read <;> rfl

theorem readLines_blank (fuel : Nat) (d : Document) (cs : List Char) :
    readLines fuel d ('\n' :: cs) = readLines fuel d cs := by
  cases fuel <;> rfl

theorem readLines_line (fuel : Nat) (d : Document) (l : Line) (rest : List Char) :
    readLines (fuel + 1) d (l.write.toList ++ rest) =
      (d.put l).bind fun d => readLines fuel d rest := by
  obtain ⟨c, cs, same, bare⟩ := l.bare.exists_cons
  have line := readLine_entry d l rest
  obtain ⟨cs, written⟩ : ∃ cs, l.write.toList ++ rest = c :: cs := by simp [Line.write, same]
  rw [written] at line ⊢
  exact readLines_of_readLine (.inl bare) line

theorem readLines_header (fuel : Nat) (d : Document) {table : String} (bare : IsBareKey table)
    (rest : List Char) :
    readLines (fuel + 1) d (("[" ++ table ++ "]\n").toList ++ rest) =
      (d.openAt openTable [table]).bind fun d => readLines fuel d rest := by
  have line := readLine_header d bare rest
  obtain ⟨cs, written⟩ : ∃ cs, ("[" ++ table ++ "]\n").toList ++ rest = '[' :: cs := by simp
  rw [written] at line ⊢
  exact readLines_of_readLine (.inr rfl) line

/-- A run of lines puts their values one after another. -/
theorem readLines_run (lines : List Line) (fuel : Nat) (d : Document) (rest : List Char) :
    readLines (fuel + lines.length) d (lines.flatMap (·.write.toList) ++ rest) =
      (lines.foldlM Document.put d).bind fun d => readLines fuel d rest := by
  induction lines generalizing d with
  | nil => rfl
  | cons l lines ih =>
      rw [List.flatMap_cons, List.append_assoc, List.length_cons, ← Nat.add_assoc, readLines_line,
        List.foldlM_cons]
      cases d.put l with
      | none => rfl
      | some d => exact ih d

/-! ## 4. Pages -/

theorem find?_new {entries : Entries} {key : String} (new : key ∉ entries.map (·.1)) :
    find? entries key = none := by
  rw [find?, List.lookup_eq_none_iff]
  intro entry member
  have : entry.1 ≠ key := fun same => new (List.mem_map.mpr ⟨entry, member, same⟩)
  simpa using this.symm

theorem replace_new {entries : Entries} {key : String} (new : key ∉ entries.map (·.1)) (v : Toml) :
    replace entries key v = entries := by
  refine (List.map_congr_left fun entry member => ?_).trans (List.map_id _)
  have : entry.1 ≠ key := fun same => new (List.mem_map.mpr ⟨entry, member, same⟩)
  simp [this]

theorem addDotted_new {entries : Entries} {key : String} (new : key ∉ entries.map (·.1))
    (v : Toml) : addDotted v [key] entries = some (entries ++ [(key, v)]) := by
  simp [addDotted, find?_new new]

theorem alterAt_last {entries inner : Entries} {table : String}
    (new : table ∉ entries.map (·.1)) (change : Entries → Option Entries) :
    alterAt change [table] (entries ++ [(table, .table .header inner)]) =
      (change inner).map fun inner => entries ++ [(table, .table .header inner)] := by
  have found : find? (entries ++ [(table, .table .header inner)]) table =
      some (.table .header inner) := by
    have none : entries.lookup table = none := find?_new new
    simp [find?, List.lookup_append, none]
  have replaced (v : Toml) : replace (entries ++ [(table, .table .header inner)]) table v =
      entries ++ [(table, v)] := by
    rw [replace, List.map_append]
    exact congr (congrArg _ (replace_new new v)) (by simp)
  simp only [alterAt, found, replaced]
  cases change inner <;> rfl

/-- Lines with different keys fill the table in force, whatever stands around it in the document. -/
theorem foldlM_put (around : Entries → Document)
    (puts : ∀ inner (l : Line), l.key ∉ inner.map (·.1) →
      (around inner).put l = some (around (inner ++ [l.entry])))
    (lines : List Line) (inner : Entries)
    (different : (inner.map (·.1) ++ lines.map (·.key)).Nodup) :
    lines.foldlM Document.put (around inner) = some (around (inner ++ lines.map (·.entry))) := by
  induction lines generalizing inner with
  | nil => simp
  | cons l lines ih =>
      have new : l.key ∉ inner.map (·.1) := fun member =>
        (List.nodup_append.mp different).2.2 _ member _ List.mem_cons_self rfl
      rw [List.foldlM_cons, puts inner l new, Option.bind_eq_bind, Option.bind_some, ih]
      · simp
      · simpa [Line.entry] using different

theorem put_top (inner : Entries) (l : Line) (new : l.key ∉ inner.map (·.1)) :
    Document.put ⟨inner, []⟩ l = some ⟨inner ++ [l.entry], []⟩ := by
  simp [Document.put, alterAt, addDotted_new new, Line.entry]

theorem put_table {entries : Entries} {table : String} (free : table ∉ entries.map (·.1))
    (inner : Entries) (l : Line) (new : l.key ∉ inner.map (·.1)) :
    Document.put ⟨entries ++ [(table, .table .header inner)], [table]⟩ l =
      some ⟨entries ++ [(table, .table .header (inner ++ [l.entry]))], [table]⟩ := by
  rw [Document.put, alterAt_last free, addDotted_new new]
  rfl

theorem openAt_new {entries : Entries} {table : String} (free : table ∉ entries.map (·.1)) :
    Document.openAt ⟨entries, []⟩ openTable [table] =
      some ⟨entries ++ [(table, .table .header [])], [table]⟩ := by
  simp [Document.openAt, alterAt, openTable, find?_new free]

theorem length_le_write (lines : List Line) :
    lines.length ≤ (lines.flatMap (·.write.toList)).length := by
  induction lines with
  | nil => exact Nat.le_refl _
  | cons l lines ih =>
      have feed : "\n".toList.length = 1 := rfl
      have written : 0 < l.write.toList.length := by
        rw [Line.write, String.toList_append, List.length_append]
        omega
      simp only [List.flatMap_cons, List.length_append, List.length_cons]
      omega

namespace Page

/-- What stands before the header. -/
def blank (p : Page) : List Char :=
  if p.top.isEmpty then [] else ['\n']

theorem toList_write (p : Page) :
    p.write.toList = p.top.flatMap (·.write.toList) ++ (p.blank ++
      (("[" ++ p.table ++ "]\n").toList ++ p.body.flatMap (·.write.toList))) := by
  rw [write, blank]
  split <;> simp [List.flatMap_map]

theorem table_notMem (p : Page) : p.table ∉ (p.top.map (·.entry)).map (·.1) := by
  intro member
  have member : p.table ∈ p.top.map (·.key) := by simpa [Line.entry] using member
  exact (List.nodup_append.mp p.free).2.2 _ member _ List.mem_cons_self rfl

theorem readLines_write (p : Page) (fuel : Nat) :
    readLines (fuel + 1 + p.body.length + 1 + p.top.length) {} p.write.toList =
      some ⟨p.entries, [p.table]⟩ := by
  have before : p.top.foldlM Document.put {} = some ⟨p.top.map (·.entry), []⟩ :=
    foldlM_put (⟨·, []⟩) put_top p.top [] (List.nodup_append.mp p.free).1
  have after : p.body.foldlM Document.put
      ⟨p.top.map (·.entry) ++ [(p.table, .table .header [])], [p.table]⟩ =
      some ⟨p.entries, [p.table]⟩ :=
    foldlM_put (fun inner => ⟨p.top.map (·.entry) ++ [(p.table, .table .header inner)], [p.table]⟩)
      (put_table p.table_notMem) p.body [] p.different
  have skipped (fuel : Nat) (d : Document) (rest : List Char) :
      readLines fuel d (p.blank ++ rest) = readLines fuel d rest := by
    rw [blank]
    split
    · rfl
    · exact readLines_blank fuel d rest
  have run := readLines_run p.body (fuel + 1)
    ⟨p.top.map (·.entry) ++ [(p.table, .table .header [])], [p.table]⟩ []
  rw [List.append_nil, after] at run
  rw [toList_write, readLines_run, before, Option.bind_some, skipped, readLines_header _ _ p.bare,
    openAt_new p.table_notMem, Option.bind_some, run]
  rfl

end Page

theorem read?_eq {s : String} (noMark : s.toList.head? ≠ some '\ufeff') :
    read? s = (readLines (s.toList.length + 1) {} s.toList).map (·.entries) := by
  rw [read?]
  split
  · simp_all
  · rfl

namespace Page

/-- A page is read as the values of its lines before the header, and the table of those after it. -/
theorem read?_write (p : Page) : read? p.write = some p.entries := by
  have noMark : p.write.toList.head? ≠ some '\ufeff' := by
    rw [toList_write, blank]
    cases p.top with
    | nil => simp
    | cons l rest =>
        obtain ⟨c, cs, same, bare⟩ := l.bare.exists_cons
        simp only [Line.write, List.flatMap_cons, String.toList_append, same, List.cons_append,
          List.head?_cons, ne_eq, Option.some.injEq]
        rintro rfl
        cases bare
  obtain ⟨fuel, enough⟩ : ∃ fuel,
      p.write.toList.length + 1 = fuel + 1 + p.body.length + 1 + p.top.length := by
    have above := length_le_write p.top
    have below := length_le_write p.body
    have length := congrArg List.length p.toList_write
    simp only [String.toList_append, List.length_append] at length
    have brackets : "[".toList.length = 1 ∧ "]\n".toList.length = 2 := ⟨rfl, rfl⟩
    exact ⟨p.write.toList.length + 1 - (1 + p.body.length + 1 + p.top.length), by omega⟩
  rw [read?_eq noMark, enough, readLines_write]
  rfl

end Page

/-! ## 5. Libraries -/

/-- A writer of pages and a reader of documents, which reads back every page that has no number
beyond the greatest one it holds. -/
structure Library where
  write : Page → String
  read? : String → Option Entries
  maxNumber : Nat
  read?_write (p : Page) (fits : ∀ l ∈ p.top ++ p.body, ∀ n, l.value = .number n → n ≤ maxNumber) :
    read? (write p) = some p.entries

/-- The writer and the reader of this project hold the numbers of 64 bits, and more. -/
def library : Library where
  write := Page.write
  read? := read?
  maxNumber := Nat.pow 2 64 - 1
  read?_write p _ := p.read?_write

end Toml

end NodeForest

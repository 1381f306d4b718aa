import NodeForest.Toml.Reader
import NodeForest.Toml.Writer

/-!
# Written texts read back

Between its quotes a text stands as itself, but for escapes in the forms with double quotes, and for
quotes, of which a long form holds two in a row at most.

Results:
1. `spelled_escaped` and `spelled_verbatim`: what is written between the quotes spells the text;
2. `readBasic_of_spelled`, `readLiteral_of_spelled` and `readLong_of_spelled`: each reader gives
   back the text that is spelled before its closing quotes;
3. `readText?_writeText`: a text that is written at the end of a line is read back.
-/

namespace NodeForest

namespace Toml

namespace TextForm

/-- The quote around the text. -/
def quote : TextForm → Char
  | .basic | .longBasic => '"'
  | .literal | .longLiteral => '\''

/-- The text may go over several lines. -/
def long : TextForm → Bool
  | .basic | .literal => false
  | .longBasic | .longLiteral => true

def escapes : TextForm → Bool
  | .basic | .longBasic => true
  | .literal | .longLiteral => false

/-- How many quotes in a row the text may have unescaped. -/
def room (form : TextForm) : Nat :=
  if form.long then 2 else 0

theorem quote_of_escapes {form : TextForm} (escapes : form.escapes) : form.quote = '"' := by
  cases form <;> first | rfl | cases escapes

theorem room_le (form : TextForm) : form.room ≤ 2 := by
  cases form <;> decide

theorem quote_ne_feed (form : TextForm) : form.quote ≠ '\n' := by
  cases form <;> decide

theorem quote_ne_return (form : TextForm) : form.quote ≠ '\r' := by
  cases form <;> decide

theorem quote_ne_slash (form : TextForm) : form.quote ≠ '\\' := by
  cases form <;> decide

theorem isControl_quote (form : TextForm) : isControl form.quote = false := by
  cases form <;> decide

end TextForm

/-! ## 1. What is written for a text -/

/-- In a form, `written` stands for the text `cs` when so many quotes stand right before it. -/
inductive Spelled (form : TextForm) : Nat → List Char → List Char → Prop
  | nil {quotes : Nat} : Spelled form quotes [] []
  | quote {quotes : Nat} {cs written : List Char} (few : quotes < form.room)
      (rest : Spelled form (quotes + 1) cs written) :
      Spelled form quotes (form.quote :: cs) (form.quote :: written)
  | feed {quotes : Nat} {cs written : List Char} (long : form.long)
      (rest : Spelled form 0 cs written) : Spelled form quotes ('\n' :: cs) ('\n' :: written)
  | plain {quotes : Nat} {c : Char} {cs written : List Char} (control : isControl c = false)
      (other : c ≠ form.quote) (slash : form.escapes → c ≠ '\\')
      (rest : Spelled form 0 cs written) : Spelled form quotes (c :: cs) (c :: written)
  | escape {quotes : Nat} {c : Char} {code cs written : List Char} (escapes : form.escapes)
      (reads : ∀ rest, readEscape? (code ++ rest) = some (c, rest))
      (rest : Spelled form 0 cs written) :
      Spelled form quotes (c :: cs) ('\\' :: (code ++ written))

/-- Control characters have codes that four digits spell. -/
theorem hexChar?_codes : ∀ n < 128, n < 32 ∨ n = 127 →
    let digits := (Nat.toDigits 16 n).map Char.toUpper
    let code := List.replicate (4 - digits.length) '0' ++ digits
    code.length = 4 ∧ Text.hexChar? code = some (Char.ofNat n) := by
  decide +kernel

theorem readEscape?_codeEscape {c : Char} (control : c.toNat < 32 ∨ c.toNat = 127) :
    ∃ code, (codeEscape c).toList = '\\' :: code ∧
      ∀ rest, readEscape? (code ++ rest) = some (c, rest) := by
  obtain ⟨length, spells⟩ := hexChar?_codes c.toNat (by omega) control
  rw [Char.ofNat_toNat] at spells
  generalize written : List.replicate (4 - ((Nat.toDigits 16 c.toNat).map Char.toUpper).length) '0'
    ++ (Nat.toDigits 16 c.toNat).map Char.toUpper = code at length spells
  refine ⟨'u' :: code, by simp [codeEscape, ← written], fun rest => ?_⟩
  simp [readEscape?, readHex?, ← length, spells]

/-- Of a quote, a backslash and control characters the writer puts escapes, but for what may stand
for itself in a long form. -/
theorem spelled_escaped {form : TextForm} (escapes : form.escapes) {quotes : Nat} {cs : List Char}
    (few : quotes ≤ form.room) : Spelled form quotes cs (escaped form.long quotes cs).toList := by
  induction cs generalizing quotes with
  | nil => exact .nil
  | cons c rest ih =>
      have after := ih (Nat.zero_le _)
      have code {c d : Char} (reads : ∀ rest, readEscape? (d :: rest) = some (c, rest)) :
          Spelled form quotes (c :: rest) ('\\' :: d :: (escaped form.long 0 rest).toList) :=
        @Spelled.escape form quotes c [d] rest _ escapes reads after
      unfold escaped
      split
      case h_1 =>
        change Spelled _ _ _ (if form.room < quotes + 1 then _ else _ : String).toList
        split
        · simpa using code fun _ => rfl
        · have room : quotes < form.room := by omega
          have stands := Spelled.quote room (ih room)
          rw [TextForm.quote_of_escapes escapes] at stands
          simpa using stands
      case h_5 =>
        cases long : form.long
        · rw [long] at code
          simpa using code fun _ => rfl
        · rw [long] at after
          simpa using Spelled.feed long after
      case h_8 quote slash _ _ _ _ _ =>
        split
        · obtain ⟨code, written, reads⟩ := readEscape?_codeEscape (c := c) ‹_›
          simpa [written] using Spelled.escape escapes reads after
        · have control : isControl c = false := by simp [isControl]; omega
          have other : c ≠ form.quote := by rw [TextForm.quote_of_escapes escapes]; exact quote
          simpa using Spelled.plain control other (fun _ => slash) after
      all_goals simpa using code fun _ => rfl

theorem le_longestRun (c : Char) (current best : Nat) (cs : List Char) :
    max current best ≤ longestRun c current best cs := by
  induction cs generalizing current best with
  | nil => exact Nat.le_refl _
  | cons x rest ih =>
      simp only [longestRun]
      split
      · have := ih (current + 1) best; omega
      · have := ih 0 (max current best); omega

/-- In a form without escapes a text stands for itself. -/
theorem spelled_verbatim {form : TextForm} (escapes : form.escapes = false) {quotes best : Nat}
    {cs : List Char} (visible : ∀ c ∈ cs, isControl c = false ∨ form.long ∧ c = '\n')
    (few : longestRun form.quote quotes best cs ≤ form.room) : Spelled form quotes cs cs := by
  induction cs generalizing quotes best with
  | nil => exact .nil
  | cons c rest ih =>
      have after := (List.forall_mem_cons.mp visible).2
      simp only [longestRun] at few
      split at few
      case isTrue same =>
        have room := le_longestRun form.quote (quotes + 1) best rest
        rw [same]
        exact .quote (by omega) (ih after few)
      case isFalse other =>
        rcases visible c List.mem_cons_self with control | ⟨long, rfl⟩
        · exact .plain control other (by simp [escapes]) (ih after few)
        · exact .feed long (ih after few)

theorem isControl_of_no_controls {cs : List Char}
    (none : (cs.any fun c =>
      (c.toNat < 32 && c != '\t' && c != '\n') || c.toNat == 127) = false) :
    ∀ c ∈ cs, isControl c = false ∨ c = '\n' := by
  intro c member
  have visible := List.any_eq_false.mp none c member
  by_cases feed : c = '\n'
  · exact .inr feed
  · exact .inl (by simpa [isControl, feed] using visible)

/-- The form is chosen so that the text fits in it. -/
theorem textForm_fits (cs : List Char) : (textForm cs).escapes = false →
    (∀ c ∈ cs, isControl c = false ∨ (textForm cs).long ∧ c = '\n') ∧
      longestRun (textForm cs).quote 0 0 cs ≤ (textForm cs).room := by
  fun_cases textForm cs
  case case2 literal =>
    simp only [Bool.and_eq_true, Bool.not_eq_true', beq_iff_eq] at literal
    obtain ⟨⟨controls, singles⟩, feeds⟩ := literal
    have noFeed : '\n' ∉ cs := by
      have none : cs.contains '\n' = false := feeds
      simpa using none
    refine fun _ => ⟨fun c member => ?_, Nat.le_of_eq singles⟩
    exact .inl ((isControl_of_no_controls controls c member).resolve_right fun feed =>
      noFeed (feed ▸ member))
  case case4 longLiteral =>
    simp only [Bool.and_eq_true, Bool.not_eq_true', decide_eq_true_eq] at longLiteral
    obtain ⟨controls, singles⟩ := longLiteral
    refine fun _ => ⟨fun c member => ?_, singles⟩
    exact (isControl_of_no_controls controls c member).imp_right (⟨rfl, ·⟩)
  all_goals exact nofun

/-- What stands between the quotes of a text in the form that the writer chooses. -/
def writtenBody (cs : List Char) : List Char :=
  if (textForm cs).escapes then (escaped (textForm cs).long 0 cs).toList else cs

theorem spelled_writtenBody (cs : List Char) : Spelled (textForm cs) 0 cs (writtenBody cs) := by
  unfold writtenBody
  split
  case isTrue escapes => exact spelled_escaped escapes (Nat.zero_le _)
  case isFalse verbatim =>
    obtain ⟨visible, few⟩ := textForm_fits cs (by simpa using verbatim)
    exact spelled_verbatim (by simpa using verbatim) visible few

/-- A long form starts on a new line if the text has line feeds. -/
def writtenStart (cs : List Char) : List Char :=
  if (textForm cs).long ∧ '\n' ∈ cs then ['\n'] else []

def writtenQuotes (form : TextForm) : List Char :=
  List.replicate (if form.long then 3 else 1) form.quote

theorem toList_writeText (s : String) :
    (writeText s).toList = writtenQuotes (textForm s.toList) ++
      (writtenStart s.toList ++ (writtenBody s.toList ++ writtenQuotes (textForm s.toList))) := by
  cases form : textForm s.toList <;>
    simp [writeText, writtenStart, writtenBody, writtenQuotes, form, TextForm.long,
      TextForm.escapes, TextForm.quote]
  all_goals split <;> rfl

/-! ## 2. What is read between the quotes -/

theorem Spelled.length_le {form : TextForm} {quotes : Nat} {cs written : List Char}
    (spelled : Spelled form quotes cs written) : cs.length ≤ written.length := by
  induction spelled with
  | nil => exact Nat.le_refl _
  | quote _ _ ih | feed _ _ ih | plain _ _ _ _ ih => exact Nat.succ_le_succ ih
  | escape _ _ _ ih => simp only [List.length_cons, List.length_append]; omega

theorem readBasic_of_spelled {cs written : List Char} {quotes : Nat}
    (spelled : Spelled .basic quotes cs written) {fuel : Nat} (enough : cs.length < fuel)
    (done rest : List Char) :
    readBasic fuel done (written ++ '"' :: rest) =
      some (String.ofList (done.reverse ++ cs), rest) := by
  induction spelled generalizing fuel done with
  | nil =>
      obtain ⟨fuel, rfl⟩ := Nat.exists_eq_succ_of_ne_zero (Nat.ne_zero_of_lt enough)
      simp [readBasic]
  | quote few => cases few
  | feed long => cases long
  | @plain _ c cs written control other slash _ ih =>
      obtain ⟨fuel, rfl⟩ := Nat.exists_eq_succ_of_ne_zero (Nat.ne_zero_of_lt enough)
      have step : readBasic (fuel + 1) done (c :: (written ++ '"' :: rest)) =
          readBasic fuel (c :: done) (written ++ '"' :: rest) := by
        rw [readBasic]
        · simp [control]
        · exact other
        · exact slash rfl
      rw [List.cons_append, step, ih (by simpa using enough)]
      simp
  | @escape _ c code cs written _ reads _ ih =>
      obtain ⟨fuel, rfl⟩ := Nat.exists_eq_succ_of_ne_zero (Nat.ne_zero_of_lt enough)
      have step : readBasic (fuel + 1) done ('\\' :: (code ++ (written ++ '"' :: rest))) =
          readBasic fuel (c :: done) (written ++ '"' :: rest) := by
        simp [readBasic, reads]
      rw [List.cons_append, List.append_assoc, step, ih (by simpa using enough)]
      simp

theorem Spelled.literal {cs written : List Char} {quotes : Nat}
    (spelled : Spelled .literal quotes cs written) :
    written = cs ∧ ∀ c ∈ cs, (c != '\'' && !isControl c) = true := by
  induction spelled with
  | nil => simp
  | quote few => cases few
  | feed long => cases long
  | plain control other _ _ ih =>
      refine ⟨congrArg _ ih.1, List.forall_mem_cons.mpr ⟨?_, ih.2⟩⟩
      simpa [control, TextForm.quote] using other
  | escape escapes => cases escapes

theorem readLiteral_of_spelled {cs written : List Char} {quotes : Nat}
    (spelled : Spelled .literal quotes cs written) (rest : List Char) :
    readLiteral (written ++ '\'' :: rest) = some (String.ofList cs, rest) := by
  obtain ⟨rfl, visible⟩ := spelled.literal
  have chars : (written ++ '\'' :: rest).takeWhile (fun c => c != '\'' && !isControl c) =
      written := by
    rw [List.takeWhile_append_of_pos visible]
    simp
  simp [readLiteral, chars]

/-! ### Long forms -/

theorem closing?_replicate (quote : Char) {n : Nat} (few : n ≤ 2) {rest : List Char}
    (other : rest.head? ≠ some quote) :
    closing? quote (List.replicate n quote ++ (List.replicate 3 quote ++ rest)) =
      some (List.replicate n quote, rest) := by
  have quotes : (List.replicate n quote ++ (List.replicate 3 quote ++ rest)).takeWhile
      (· == quote) = List.replicate (n + 3) quote := by
    rw [← List.append_assoc, List.replicate_append_replicate,
      List.takeWhile_append_of_pos (by simp)]
    cases rest <;> simp_all
  simp only [closing?, quotes, List.length_replicate]
  rw [if_neg (by omega), show min (n + 3 - 3) 2 = n by omega, ← List.append_assoc,
    List.replicate_append_replicate, List.drop_left' (List.length_replicate ..)]

theorem closing?_eq_none {quote : Char} {cs : List Char}
    (few : (cs.takeWhile (· == quote)).length ≤ 2) : closing? quote cs = none := by
  rw [closing?, if_pos (by omega)]

/-- Text that is left in a long form either consists of quotes or has other characters before its
closing quotes. -/
theorem Spelled.quotes_or {form : TextForm} {quotes : Nat} {cs written : List Char}
    (spelled : Spelled form quotes cs written) (few : quotes ≤ 2) :
    (∃ n ≤ 2, cs = List.replicate n form.quote ∧ written = List.replicate n form.quote) ∨
      ∀ rest, ((written ++ rest).takeWhile (· == form.quote)).length ≤ 2 := by
  suffices (∃ n, quotes + n ≤ 2 ∧ cs = List.replicate n form.quote ∧
      written = List.replicate n form.quote) ∨
        ∀ rest, quotes + ((written ++ rest).takeWhile (· == form.quote)).length ≤ 2 from
    this.imp (fun ⟨n, less, same⟩ => ⟨n, by omega, same⟩)
      fun less rest => Nat.le_trans (Nat.le_add_left ..) (less rest)
  induction spelled with
  | nil => exact .inl ⟨0, few, rfl, rfl⟩
  | @quote quotes _ _ room _ ih =>
      have room : quotes < 2 := Nat.lt_of_lt_of_le room form.room_le
      rcases ih room with ⟨n, less, rfl, rfl⟩ | less
      · exact .inl ⟨n + 1, by omega, rfl, rfl⟩
      · refine .inr fun rest => ?_
        have few := less rest
        simp only [List.cons_append, List.takeWhile_cons, beq_self_eq_true, if_true,
          List.length_cons]
        omega
  | feed => exact .inr fun rest => by simpa [form.quote_ne_feed.symm] using few
  | plain _ other => exact .inr fun rest => by simpa [other] using few
  | escape => exact .inr fun rest => by simpa [form.quote_ne_slash.symm] using few

section

variable {escapes : Bool} {quote : Char} {rest : List Char} (fuel : Nat) (done : List Char)

theorem readLong_closed {cs extra : List Char} (closed : closing? quote cs = some (extra, rest)) :
    readLong escapes quote (fuel + 1) done cs =
      some (String.ofList (done.reverse ++ extra), rest) := by
  rw [readLong.eq_def]
  simp only [closed]

theorem readLong_plain {c : Char} (unclosed : closing? quote (c :: rest) = none)
    (control : isControl c = false) (slash : escapes → c ≠ '\\') :
    readLong escapes quote (fuel + 1) done (c :: rest) =
      readLong escapes quote fuel (c :: done) rest := by
  have noFeed : c ≠ '\n' := by rintro rfl; cases control
  have noReturn : c ≠ '\r' := by rintro rfl; cases control
  have noEscape : ¬ (c = '\\' ∧ escapes) := fun ⟨same, escapes⟩ => slash escapes same
  rw [readLong, unclosed]
  · simp only [control, Bool.false_eq_true, if_false, noEscape]
  · exact fun _ same => absurd same noReturn
  · exact noFeed

theorem readLong_feed (unclosed : closing? quote ('\n' :: rest) = none) :
    readLong escapes quote (fuel + 1) done ('\n' :: rest) =
      readLong escapes quote fuel ('\n' :: done) rest := by
  rw [readLong, unclosed]

/-- An escape is not the end of a line. -/
theorem takeNewline?_of_readEscape? {cs : List Char} {c : Char}
    (reads : readEscape? cs = some (c, rest)) : takeNewline? (skipSpace cs) = none := by
  unfold readEscape? at reads
  split at reads
  case h_12 => cases reads
  all_goals rfl

theorem readLong_escape {cs : List Char} {c : Char}
    (unclosed : closing? quote ('\\' :: cs) = none) (reads : readEscape? cs = some (c, rest)) :
    readLong true quote (fuel + 1) done ('\\' :: cs) =
      readLong true quote fuel (c :: done) rest := by
  rw [readLong, unclosed]
  · simp [takeNewline?_of_readEscape? reads, reads, isControl]
  · exact fun _ same => by cases same
  · exact fun same => by cases same

end

theorem readLong_of_spelled {form : TextForm} {cs written : List Char} {quotes : Nat}
    (spelled : Spelled form quotes cs written) (few : quotes ≤ 2) {fuel : Nat}
    (enough : cs.length < fuel) (done : List Char) {rest : List Char}
    (other : rest.head? ≠ some form.quote) :
    readLong form.escapes form.quote fuel done (written ++ (List.replicate 3 form.quote ++ rest)) =
      some (String.ofList (done.reverse ++ cs), rest) := by
  induction cs generalizing quotes written fuel done with
  | nil =>
      obtain ⟨fuel, rfl⟩ := Nat.exists_eq_succ_of_ne_zero (Nat.ne_zero_of_lt enough)
      cases spelled
      exact readLong_closed fuel done (closing?_replicate form.quote (Nat.zero_le 2) other)
  | cons c cs ih =>
      obtain ⟨fuel, rfl⟩ := Nat.exists_eq_succ_of_ne_zero (Nat.ne_zero_of_lt enough)
      have less : cs.length < fuel := by simpa using enough
      have reversed : (c :: done).reverse ++ cs = done.reverse ++ c :: cs := by simp
      rcases spelled.quotes_or few with ⟨n, few, same, rfl⟩ | unclosed
      · rw [readLong_closed fuel done (closing?_replicate form.quote few other), same]
      have unclosed := closing?_eq_none (unclosed (List.replicate 3 form.quote ++ rest))
      cases spelled with
      | quote room after =>
          have few := Nat.lt_of_lt_of_le room form.room_le
          rw [List.cons_append] at unclosed ⊢
          rw [readLong_plain _ _ unclosed form.isControl_quote (fun _ => form.quote_ne_slash),
            ih after few less, reversed]
      | feed long after =>
          rw [List.cons_append] at unclosed ⊢
          rw [readLong_feed _ _ unclosed, ih after (Nat.zero_le 2) less, reversed]
      | plain control _ slash after =>
          rw [List.cons_append] at unclosed ⊢
          rw [readLong_plain _ _ unclosed control slash, ih after (Nat.zero_le 2) less, reversed]
      | escape escapes reads after =>
          rw [escapes] at ih ⊢
          rw [List.cons_append, List.append_assoc] at unclosed ⊢
          rw [readLong_escape _ _ unclosed (reads _), ih after (Nat.zero_le 2) less, reversed]

/-! ## 3. Reading what was written -/

theorem readText?_basic {cs : List Char} (short : ∀ rest, cs ≠ '"' :: '"' :: rest) :
    readText? ('"' :: cs) = readBasic (cs.length + 1) [] cs := by
  rw [readText?]
  exact fun rest => short rest

theorem readText?_literal {cs : List Char} (short : ∀ rest, cs ≠ '\'' :: '\'' :: rest) :
    readText? ('\'' :: cs) = readLiteral cs := by
  rw [readText?]
  exact fun rest => short rest

/-- On one line no text looks like the start of a long form. -/
theorem Spelled.short {form : TextForm} (short : form.long = false) {quotes : Nat}
    {cs written : List Char} (spelled : Spelled form quotes cs written) {rest : List Char}
    (other : rest.head? ≠ some form.quote) (more : List Char) :
    written ++ form.quote :: rest ≠ form.quote :: form.quote :: more := by
  intro same
  cases spelled with
  | nil => exact other (by simp [(List.cons.inj same).2])
  | quote room => simp [TextForm.room, short] at room
  | feed long => simp [short] at long
  | plain _ different => exact different (List.cons.inj same).1
  | escape => exact form.quote_ne_slash (List.cons.inj same).1.symm

theorem readText?_opened (form : TextForm) (cs : List Char) :
    readText? (List.replicate 3 form.quote ++ cs) =
      readLong form.escapes form.quote (cs.length + 1) [] (dropFirstNewline cs) := by
  cases form <;> rfl

/-- The line feed at the start is there exactly if the first one of the text would be dropped. -/
theorem dropFirstNewline_of_spelled {form : TextForm} {quotes : Nat} {cs written : List Char}
    (spelled : Spelled form quotes cs written) (rest : List Char) :
    dropFirstNewline ((if '\n' ∈ cs then ['\n'] else []) ++ (written ++ form.quote :: rest)) =
      written ++ form.quote :: rest := by
  have kept {c : Char} (feed : c ≠ '\n') (ret : c ≠ '\r') (cs : List Char) :
      dropFirstNewline (c :: cs) = c :: cs := by
    simp [dropFirstNewline, takeNewline?, feed, ret]
  split
  case isTrue => rfl
  case isFalse noFeed =>
    cases spelled with
    | nil | quote => exact kept form.quote_ne_feed form.quote_ne_return _
    | feed => simp at noFeed
    | plain control => exact kept (by rintro rfl; cases control) (by rintro rfl; cases control) _
    | escape => exact kept (by decide) (by decide) _

section

variable {form : TextForm} {cs written : List Char} (spelled : Spelled form 0 cs written)
  {rest : List Char} (other : rest.head? ≠ some form.quote)

include spelled other

theorem readText?_short (short : form.long = false) :
    readText? (form.quote :: (written ++ form.quote :: rest)) = some (String.ofList cs, rest) := by
  have notLong := spelled.short short other
  cases form with
  | basic =>
      have enough : cs.length < (written ++ '"' :: rest).length + 1 := by
        have := spelled.length_le
        simp only [List.length_append]; omega
      exact (readText?_basic notLong).trans (readBasic_of_spelled spelled enough [] rest)
  | literal => exact (readText?_literal notLong).trans (readLiteral_of_spelled spelled rest)
  | longBasic | longLiteral => cases short

theorem readText?_long :
    readText? (List.replicate 3 form.quote ++ ((if '\n' ∈ cs then ['\n'] else []) ++
      (written ++ (List.replicate 3 form.quote ++ rest)))) = some (String.ofList cs, rest) := by
  have start := dropFirstNewline_of_spelled spelled (List.replicate 2 form.quote ++ rest)
  have length := spelled.length_le
  rw [readText?_opened form]
  refine (congrArg _ start).trans (readLong_of_spelled spelled (Nat.zero_le 2) ?_ [] other)
  simp only [List.length_append]
  omega

end

/-- A text that is written at the end of a line is read back. -/
theorem readText?_writeText (s : String) (rest : List Char) :
    readText? ((writeText s).toList ++ '\n' :: rest) = some (s, '\n' :: rest) := by
  have spelled := spelled_writtenBody s.toList
  have other : ('\n' :: rest).head? ≠ some (textForm s.toList).quote :=
    fun same => (textForm s.toList).quote_ne_feed (Option.some.inj same).symm
  rw [toList_writeText, writtenQuotes, writtenStart]
  cases long : (textForm s.toList).long
  · simpa using readText?_short spelled other long
  · simpa using readText?_long spelled other

end Toml

end NodeForest

import NodeForest.Pattern.Phrase

/-!
# Reading escapes

What a backslash and the text after it stand for. In verbose patterns blanks and comments may stand
between the parts of an escape.
-/

namespace NodeForest.Pattern

/-- Blanks and comments, which verbose patterns skip. -/
def skipVerbose : Bool → List Char → List Char
  | _, [] => []
  | true, c :: rest => skipVerbose (c != '\n') rest
  | false, c :: rest =>
      if Text.isBlank c then skipVerbose false rest
      else if c = '#' then skipVerbose true rest
      else c :: rest

def skip (verbose : Bool) (cs : List Char) : List Char :=
  if verbose then skipVerbose false cs else cs

theorem length_skipVerbose_le (comment : Bool) (cs : List Char) :
    (skipVerbose comment cs).length ≤ cs.length := by
  induction cs generalizing comment with
  | nil => cases comment <;> simp [skipVerbose]
  | cons c rest ih =>
      cases comment
      · simp only [skipVerbose]
        split
        · exact Nat.le_succ_of_le (ih false)
        · split
          · exact Nat.le_succ_of_le (ih true)
          · exact Nat.le_refl _
      · exact Nat.le_succ_of_le (ih _)

theorem length_skip_le (verbose : Bool) (cs : List Char) :
    (skip verbose cs).length ≤ cs.length := by
  unfold skip
  split
  · exact length_skipVerbose_le false cs
  · exact Nat.le_refl _

/-- Takes characters that pass the test, skipping after each one. -/
def takeSkipping (verbose : Bool) (test : Char → Bool) (cs : List Char) : List Char × List Char :=
  match cs with
  | [] => ([], [])
  | c :: rest =>
      if test c then
        let (taken, rest) := takeSkipping verbose test (skip verbose rest)
        (c :: taken, rest)
      else ([], c :: rest)
termination_by cs.length
decreasing_by exact Nat.lt_succ_of_le (length_skip_le verbose rest)

inductive Escape where
  | letter (l : Letter)
  | set (s : SetPhrase)
  | place (p : Place)
deriving Repr, Inhabited

/-- Punctuation with a meaning of its own in patterns. -/
def metaChars : List Char :=
  ['\\', '.', '+', '*', '?', '(', ')', '|', '[', ']', '\x7b', '\x7d', '^', '$', '#', '&', '-', '~']

/-- The character stands for itself after a backslash. -/
def isEscapable (c : Char) : Bool :=
  metaChars.contains c || (c.toNat < 128 && !c.isAlphanum && c != '<' && c != '>')

/-- A character by number: a fixed count of digits, or any count between braces. -/
def readHex (verbose : Bool) (count : Nat) (cs : List Char) : Read (Letter × List Char) :=
  let found (isByte : Bool) (digits rest : List Char) : Read (Letter × List Char) :=
    match Text.hexChar? digits with
    | some c => .ok (⟨c, isByte⟩, skip verbose rest)
    | none => .error "invalid hexadecimal escape"
  match skip verbose cs with
  | '\x7b' :: rest =>
      match takeSkipping verbose (· != '\x7d') (skip verbose rest) with
      | (_, []) => .error "unclosed hexadecimal escape"
      | ([], _) => .error "empty hexadecimal escape"
      | (digits, _ :: rest) => found false digits rest
  | cs =>
      match takeDigits count cs with
      | some (digits, rest) => found (count == 2) digits rest
      | none => .error "unclosed hexadecimal escape"
where
  takeDigits : Nat → List Char → Option (List Char × List Char)
    | 0, cs => some ([], cs)
    | count + 1, cs =>
        match skip verbose cs with
        | [] => none
        | c :: rest => (takeDigits count rest).map fun (digits, rest) => (c :: digits, rest)

def isBoundaryName (c : Char) : Bool :=
  ('A' ≤ c && c ≤ 'Z') || ('a' ≤ c && c ≤ 'z') || c == '-'

/-- A word assertion named between braces. Braces that do not start a name are a repetition. -/
def readBoundary (verbose : Bool) (cs : List Char) : Read (Place × List Char) :=
  match cs with
  | '\x7b' :: rest =>
      match skip verbose rest with
      | [] => .error "unclosed word assertion"
      | c :: rest =>
          if !isBoundaryName c then .ok (.wordBoundary, cs)
          else match takeSkipping verbose isBoundaryName (c :: rest) with
            | (name, '\x7d' :: rest) =>
                match String.ofList name with
                | "start" => .ok (.wordStart, rest)
                | "end" => .ok (.wordEnd, rest)
                | "start-half" => .ok (.wordStartHalf, rest)
                | "end-half" => .ok (.wordEndHalf, rest)
                | _ => .error "unknown word assertion"
            | _ => .error "unclosed word assertion"
  | cs => .ok (.wordBoundary, cs)

/-- Splits at the first place where one of the texts stands, the earlier texts of the list being
looked for first. -/
def splitAtFirst? (marks : List (List Char)) (cs : List Char) :
    Option (List Char × List Char × List Char) :=
  marks.findSome? fun mark => (splitAt? mark cs).map fun (before, after) => (before, mark, after)
where
  splitAt? (mark : List Char) : List Char → Option (List Char × List Char)
    | [] => none
    | c :: rest =>
        if mark.isPrefixOf (c :: rest) then some ([], (c :: rest).drop mark.length)
        else (splitAt? mark rest).map fun (before, after) => (c :: before, after)

/-- The property that a name between braces says: the name of a set, or a property with a value that
it has or has not. -/
def SetPhrase.ofName (negated : Bool) (cs : List Char) : SetPhrase :=
  match splitAtFirst? [['!', '='], [':'], ['=']] cs with
  | none => property negated (String.ofList cs)
  | some (name, mark, value) =>
      propertyValue (negated != (mark == ['!', '='])) (String.ofList name) (String.ofList value)

/-- A property by one letter, or by what stands between braces. -/
def readProperty (verbose negated : Bool) (cs : List Char) : Read (SetPhrase × List Char) :=
  match skip verbose cs with
  | [] => .error "incomplete escape"
  | '\x7b' :: rest =>
      match takeSkipping verbose (· != '\x7d') (skip verbose rest) with
      | (_, []) => .error "unclosed property"
      | (name, _ :: rest) => .ok (.ofName negated name, rest)
  | '\\' :: _ => .error "invalid property"
  | c :: rest => .ok (.property negated (String.singleton c), skip verbose rest)

/-- Reads what follows a backslash. -/
def readEscape (verbose : Bool) (cs : List Char) : Read (Escape × List Char) :=
  match cs with
  | [] => .error "incomplete escape"
  | c :: rest =>
      if c.isDigit then .error "back-references are not supported"
      else if isEscapable c then .ok (.letter ⟨c, false⟩, rest)
      else match c with
        | 'x' => (readHex verbose 2 rest).map fun (l, rest) => (.letter l, rest)
        | 'u' => (readHex verbose 4 rest).map fun (l, rest) => (.letter l, rest)
        | 'U' => (readHex verbose 8 rest).map fun (l, rest) => (.letter l, rest)
        | 'p' => (readProperty verbose false rest).map fun (s, rest) => (.set s, rest)
        | 'P' => (readProperty verbose true rest).map fun (s, rest) => (.set s, rest)
        | 'd' => .ok (.set (.letterSet false .digit), rest)
        | 'D' => .ok (.set (.letterSet true .digit), rest)
        | 's' => .ok (.set (.letterSet false .blank), rest)
        | 'S' => .ok (.set (.letterSet true .blank), rest)
        | 'w' => .ok (.set (.letterSet false .word), rest)
        | 'W' => .ok (.set (.letterSet true .word), rest)
        | 'a' => .ok (.letter ⟨'\x07', false⟩, rest)
        | 'f' => .ok (.letter ⟨'\x0c', false⟩, rest)
        | 't' => .ok (.letter ⟨'\t', false⟩, rest)
        | 'n' => .ok (.letter ⟨'\n', false⟩, rest)
        | 'r' => .ok (.letter ⟨'\r', false⟩, rest)
        | 'v' => .ok (.letter ⟨'\x0b', false⟩, rest)
        | 'A' => .ok (.place .textStart, rest)
        | 'z' => .ok (.place .textEnd, rest)
        | 'b' => (readBoundary verbose rest).map fun (p, rest) => (.place p, rest)
        | 'B' => .ok (.place .notWordBoundary, rest)
        | '<' => .ok (.place .wordStart, rest)
        | '>' => .ok (.place .wordEnd, rest)
        | _ => .error "unrecognized escape"

end NodeForest.Pattern

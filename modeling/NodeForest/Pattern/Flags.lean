import NodeForest.Pattern.Basic
import NodeForest.Text.CaseFold

/-!
# Flags

Flags change what the parts of a pattern text mean, from where they are set to the end of the group.
-/

namespace NodeForest.Pattern

inductive Flag where
  /-- Without regard to case. -/
  | insensitive
  /-- The text's ends also match at the ends of lines. -/
  | multiLine
  /-- The dot takes line feeds. -/
  | dotAll
  /-- Repetitions prefer few matches, and those marked lazy prefer many. -/
  | swapGreed
  /-- Characters of all scripts, and not ASCII ones alone. -/
  | allScripts
  /-- Carriage returns end lines. -/
  | crlf
  /-- Blanks and comments are skipped. -/
  | verbose
deriving DecidableEq, Repr, Inhabited

def Flag.ofLetter? : Char → Option Flag
  | 'i' => some .insensitive
  | 'm' => some .multiLine
  | 's' => some .dotAll
  | 'U' => some .swapGreed
  | 'u' => some .allScripts
  | 'R' => some .crlf
  | 'x' => some .verbose
  | _ => none

/-- The flags in force. -/
structure Flags where
  insensitive : Bool := false
  multiLine : Bool := false
  dotAll : Bool := false
  swapGreed : Bool := false
  allScripts : Bool := true
  crlf : Bool := false
  verbose : Bool := false
deriving DecidableEq, Repr, Inhabited

namespace Flags

def assign (f : Flags) (flag : Flag) (value : Bool) : Flags :=
  match flag with
  | .insensitive => { f with insensitive := value }
  | .multiLine => { f with multiLine := value }
  | .dotAll => { f with dotAll := value }
  | .swapGreed => { f with swapGreed := value }
  | .allScripts => { f with allScripts := value }
  | .crlf => { f with crlf := value }
  | .verbose => { f with verbose := value }

def assignAll (f : Flags) (changes : List (Flag × Bool)) : Flags :=
  changes.foldl (fun f change => f.assign change.1 change.2) f

/-- The set without regard to case, where case does not count. -/
def cased (f : Flags) (s : Text.CodeRanges) : Text.CodeRanges :=
  if !f.insensitive then s
  else if f.allScripts then Text.caseClosure s
  else Text.asciiCaseClosure s

end Flags

end NodeForest.Pattern

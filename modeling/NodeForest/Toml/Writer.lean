import NodeForest.Toml.Basic

/-!
# Writing TOML

A page has keyed values one on a line, and a table of such values under a header after them. A text
is written in the plainest form that holds it: between double quotes if nothing in it needs an
escape, between single quotes if that will do, over several lines if it has line feeds or both kinds
of quotes, and with escapes only when nothing else is left.
-/

namespace NodeForest

namespace Toml

/-- The length of the longest run of a character. -/
def longestRun (c : Char) (current best : Nat) : List Char → Nat
  | [] => max current best
  | x :: rest =>
      if x = c then longestRun c (current + 1) best rest
      else longestRun c 0 (max current best) rest

/-- The forms of a text. -/
inductive TextForm where
  | basic
  | literal
  | longBasic
  | longLiteral
deriving DecidableEq, Repr

/-- The plainest form that holds the text. -/
def textForm (cs : List Char) : TextForm :=
  let doubles := longestRun '"' 0 0 cs
  let singles := longestRun '\'' 0 0 cs
  let feeds := cs.contains '\n'
  let slashes := cs.contains '\\'
  let controls := cs.any fun c =>
    (c.toNat < 32 && c != '\t' && c != '\n') || c.toNat == 127
  if !controls && !slashes && doubles == 0 && !feeds then .basic
  else if !controls && singles == 0 && !feeds then .literal
  else if !controls && !slashes && doubles ≤ 2 then .longBasic
  else if !controls && singles ≤ 2 then .longLiteral
  else if feeds then .longBasic
  else .basic

/-- A code point in four capital hexadecimal digits. -/
def codeEscape (c : Char) : String :=
  let digits := (Nat.toDigits 16 c.toNat).map Char.toUpper
  "\\u" ++ String.ofList (List.replicate (4 - digits.length) '0' ++ digits)

/-- The text of a basic form. In the long one line feeds stand for themselves, and of three quotes
in a row the third is escaped; `quotes` counts those just before. -/
def escaped (long : Bool) (quotes : Nat) : List Char → String
  | [] => ""
  | c :: rest =>
      match c with
      | '"' =>
          if (if long then 2 else 0) < quotes + 1 then "\\\"" ++ escaped long 0 rest
          else "\"" ++ escaped long (quotes + 1) rest
      | '\\' => "\\\\" ++ escaped long 0 rest
      | '\x08' => "\\b" ++ escaped long 0 rest
      | '\t' => "\\t" ++ escaped long 0 rest
      | '\n' => (if long then "\n" else "\\n") ++ escaped long 0 rest
      | '\x0c' => "\\f" ++ escaped long 0 rest
      | '\r' => "\\r" ++ escaped long 0 rest
      | c =>
          (if c.toNat < 32 ∨ c.toNat = 127 then codeEscape c else String.singleton c)
            ++ escaped long 0 rest

/-- The written form of a text. A long form starts on a new line when the text has line feeds. -/
def writeText (s : String) : String :=
  let cs := s.toList
  let start := if cs.contains '\n' then "\n" else ""
  match textForm cs with
  | .basic => "\"" ++ escaped false 0 cs ++ "\""
  | .literal => "'" ++ s ++ "'"
  | .longBasic => "\"\"\"" ++ start ++ escaped true 0 cs ++ "\"\"\""
  | .longLiteral => "'''" ++ start ++ s ++ "'''"

/-! ## Pages -/

/-- A value on a line. -/
inductive Scalar where
  | text (s : String)
  | number (n : Nat)
  | bool (b : Bool)
deriving DecidableEq, Repr

namespace Scalar

def toToml : Scalar → Toml
  | text s => .text s
  | number n => .integer n
  | bool b => .bool b

def write : Scalar → String
  | text s => writeText s
  | number n => toString n
  | bool b => toString b

end Scalar

structure Line where
  key : String
  value : Scalar
  bare : IsBareKey key

namespace Line

def entry (l : Line) : String × Toml :=
  (l.key, l.value.toToml)

def write (l : Line) : String :=
  l.key ++ " = " ++ l.value.write ++ "\n"

end Line

/-- Lines, and a table of lines after them. No table has a key twice. -/
structure Page where
  top : List Line
  table : String
  bare : IsBareKey table
  body : List Line
  free : (top.map (·.key) ++ [table]).Nodup
  different : (body.map (·.key)).Nodup

namespace Page

def entries (p : Page) : Entries :=
  p.top.map (·.entry) ++ [(p.table, .table .header (p.body.map (·.entry)))]

/-- The lines one after another; a blank line goes before the header unless it comes first. -/
def write (p : Page) : String :=
  String.join (p.top.map (·.write)) ++ (if p.top.isEmpty then "" else "\n")
    ++ "[" ++ p.table ++ "]\n" ++ String.join (p.body.map (·.write))

end Page

end Toml

end NodeForest

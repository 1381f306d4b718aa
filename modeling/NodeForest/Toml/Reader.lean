import NodeForest.Toml.Scalar

/-!
# Reading TOML

A document is read line by line: blank lines and comments, key-value pairs, headers of tables and of
arrays of tables. Keys are bare or quoted and may be dotted. Dotted keys have at most `depthLimit`
parts, and arrays and inline tables are nested at most as deep.
-/

namespace NodeForest

namespace Toml

def isSpace (c : Char) : Bool :=
  c == ' ' || c == '\t'

def skipSpace (cs : List Char) : List Char :=
  cs.dropWhile isSpace

/-- A control character other than the tab; none may appear in comments and texts. -/
def isControl (c : Char) : Bool :=
  (c.toNat < 32 && c != '\t') || c.toNat == 127

/-- Skips a comment up to the end of its line. -/
def skipComment? (cs : List Char) : Option (List Char) :=
  match cs with
  | '#' :: rest =>
      let rest := rest.dropWhile fun c => !isControl c
      match rest with
      | [] | '\n' :: _ | '\r' :: '\n' :: _ => some rest
      | _ => none
  | cs => some cs

def takeNewline? : List Char → Option (List Char)
  | '\n' :: rest => some rest
  | '\r' :: '\n' :: rest => some rest
  | _ => none

/-- Skips blanks, comments and line ends, as arrays and inline tables allow. -/
def skipLines : Nat → List Char → Option (List Char)
  | 0, cs => some cs
  | fuel + 1, cs => do
      let cs ← skipComment? (skipSpace cs)
      match takeNewline? cs with
      | some rest => skipLines fuel rest
      | none => some cs

/-! ## Texts -/

/-- Skips blanks and line ends, after a backslash at the end of a line. -/
def skipBlankLines : List Char → List Char
  | '\r' :: '\n' :: rest => skipBlankLines rest
  | c :: rest => if isSpace c || c == '\n' then skipBlankLines rest else c :: rest
  | [] => []

/-- A character by a fixed count of hexadecimal digits. -/
def readHex? (count : Nat) (cs : List Char) : Option (Char × List Char) :=
  if cs.length < count then none
  else (Text.hexChar? (cs.take count)).map fun c => (c, cs.drop count)

/-- Reads what follows a backslash. -/
def readEscape? : List Char → Option (Char × List Char)
  | 'b' :: rest => some ('\x08', rest)
  | 't' :: rest => some ('\t', rest)
  | 'n' :: rest => some ('\n', rest)
  | 'f' :: rest => some ('\x0c', rest)
  | 'r' :: rest => some ('\r', rest)
  | 'e' :: rest => some ('\x1b', rest)
  | '"' :: rest => some ('"', rest)
  | '\\' :: rest => some ('\\', rest)
  | 'x' :: rest => readHex? 2 rest
  | 'u' :: rest => readHex? 4 rest
  | 'U' :: rest => readHex? 8 rest
  | _ => none

/-- Reads a quoted text on one line, after its quote. `done` is read backwards. -/
def readBasic : Nat → List Char → List Char → Option (String × List Char)
  | 0, _, _ => none
  | fuel + 1, done, cs =>
      match cs with
      | '"' :: rest => some (String.ofList done.reverse, rest)
      | '\\' :: rest => do
          let (c, rest) ← readEscape? rest
          readBasic fuel (c :: done) rest
      | c :: rest => if isControl c then none else readBasic fuel (c :: done) rest
      | [] => none

/-- Reads a text between single quotes, after the first. -/
def readLiteral (cs : List Char) : Option (String × List Char) :=
  let chars := cs.takeWhile fun c => c != '\'' && !isControl c
  match cs.drop chars.length with
  | '\'' :: rest => some (String.ofList chars, rest)
  | _ => none

/-- The end of a text of several lines: three quotes, of which up to two before belong to it. -/
def closing? (quote : Char) (cs : List Char) : Option (List Char × List Char) :=
  let quotes := cs.takeWhile (· == quote)
  if quotes.length < 3 then none
  else
    let extra := min (quotes.length - 3) 2
    some (List.replicate extra quote, cs.drop (extra + 3))

/-- Reads a text of several lines between triple quotes; with double quotes it has escapes. -/
def readLong (escapes : Bool) (quote : Char) :
    Nat → List Char → List Char → Option (String × List Char)
  | 0, _, _ => none
  | fuel + 1, done, cs =>
      match closing? quote cs with
      | some (extra, rest) => some (String.ofList (done.reverse ++ extra), rest)
      | none =>
          match cs with
          | [] => none
          | '\r' :: '\n' :: rest => readLong escapes quote fuel ('\n' :: '\r' :: done) rest
          | '\n' :: rest => readLong escapes quote fuel ('\n' :: done) rest
          | c :: rest =>
              if isControl c then none
              else if c = '\\' ∧ escapes then
                match takeNewline? (skipSpace rest) with
                | some rest => readLong escapes quote fuel done (skipBlankLines rest)
                | none => do
                    let (c, rest) ← readEscape? rest
                    readLong escapes quote fuel (c :: done) rest
              else readLong escapes quote fuel (c :: done) rest

/-- A line end right after the opening quotes of a long text does not belong to it. -/
def dropFirstNewline (cs : List Char) : List Char :=
  (takeNewline? cs).getD cs

/-- Reads a text in any of the four forms. -/
def readText? (cs : List Char) : Option (String × List Char) :=
  match cs with
  | '"' :: '"' :: '"' :: rest => readLong true '"' (rest.length + 1) [] (dropFirstNewline rest)
  | '\'' :: '\'' :: '\'' :: rest => readLong false '\'' (rest.length + 1) [] (dropFirstNewline rest)
  | '"' :: rest => readBasic (rest.length + 1) [] rest
  | '\'' :: rest => readLiteral rest
  | _ => none

/-! ## Keys -/

def readKeyPart? (cs : List Char) : Option (String × List Char) :=
  match cs with
  | '"' :: rest => readBasic (rest.length + 1) [] rest
  | '\'' :: rest => readLiteral rest
  | cs =>
      let chars := cs.takeWhile isBareKeyChar
      if chars.isEmpty then none else some (String.ofList chars, cs.drop chars.length)

/-- The greatest number of parts of a dotted key, and of arrays and inline tables around a value. -/
def depthLimit : Nat := 80

/-- Reads a dotted key of at most so many parts, with the blanks after it. -/
def readKeyParts : Nat → List Char → Option (List String × List Char)
  | 0, _ => none
  | parts + 1, cs => do
      let (part, rest) ← readKeyPart? (skipSpace cs)
      match skipSpace rest with
      | '.' :: rest => do
          let (others, rest) ← readKeyParts parts rest
          return (part :: others, rest)
      | rest => return ([part], rest)

def readKey (cs : List Char) : Option (List String × List Char) :=
  readKeyParts depthLimit cs

/-! ## Values -/

/-- The characters of bare tokens. -/
def isTokenChar (c : Char) : Bool :=
  c.isAlphanum || c == '_' || c == '-' || c == '+' || c == '.' || c == ':'

/-- A bare token; a time may follow a date after one space. -/
def readToken (cs : List Char) : List Char × List Char :=
  let token := cs.takeWhile isTokenChar
  let rest := cs.drop token.length
  match takeDate? token, rest with
  | some [], ' ' :: c :: more =>
      if c.isDigit then
        let time := (c :: more).takeWhile isTokenChar
        (token ++ ' ' :: time, rest.drop (time.length + 1))
      else (token, rest)
  | _, _ => (token, rest)

mutual

/-- Reads a value with at most `depth` more arrays and inline tables in one another. -/
def readValue (depth : Nat) : Nat → List Char → Option (Toml × List Char)
  | 0, _ => none
  | fuel + 1, cs =>
      match cs, depth with
      | '"' :: _, _ | '\'' :: _, _ => (readText? cs).map fun (s, rest) => (.text s, rest)
      | '[' :: rest, depth + 1 => do
          let (items, rest) ← readItems depth fuel rest
          return (.array items, rest)
      | '\x7b' :: rest, depth + 1 => do
          let (entries, rest) ← readInline depth fuel [] rest
          return (.table .inlined entries, rest)
      | cs, _ =>
          let (token, rest) := readToken cs
          (scalar? token).map fun v => (v, rest)

/-- Reads the items of an array up to its closing bracket; a comma may follow the last. -/
def readItems (depth : Nat) : Nat → List Char → Option (List Toml × List Char)
  | 0, _ => none
  | fuel + 1, cs => do
      match ← skipLines cs.length cs with
      | ']' :: rest => return ([], rest)
      | cs => do
          let (v, rest) ← readValue depth fuel cs
          match ← skipLines rest.length rest with
          | ',' :: rest => do
              let (vs, rest) ← readItems depth fuel rest
              return (v :: vs, rest)
          | ']' :: rest => return ([v], rest)
          | _ => none

/-- Reads the entries of an inline table up to its closing brace; a comma may follow the last, and
an entry may be spread over lines. -/
def readInline (depth : Nat) : Nat → Entries → List Char → Option (Entries × List Char)
  | 0, _, _ => none
  | fuel + 1, entries, cs => do
      match ← skipLines cs.length cs with
      | '\x7d' :: rest => return (entries, rest)
      | cs => do
          let (path, rest) ← readKey cs
          match ← skipLines rest.length rest with
          | '=' :: rest => do
              let (v, rest) ← readValue depth fuel (← skipLines rest.length rest)
              let entries ← addDotted v path entries
              match ← skipLines rest.length rest with
              | ',' :: rest => readInline depth fuel entries rest
              | '\x7d' :: rest => return (entries, rest)
              | _ => none
          | _ => none

end

/-! ## Documents -/

/-- What has been read of a document: its entries, and the header in force. -/
structure Document where
  entries : Entries := []
  header : List String := []

/-- The end of a line, or of the text, with a comment before it. -/
def endLine? (cs : List Char) : Option (List Char) := do
  match ← skipComment? (skipSpace cs) with
  | [] => return []
  | rest => takeNewline? rest

/-- Opens the table of a header with the given function for its last key. -/
def Document.openAt (d : Document) (opening : String → Entries → Option Entries)
    (path : List String) : Option Document := do
  let key ← path.getLast?
  return { entries := ← alterAt (opening key) path.dropLast d.entries, header := path }

/-- Reads one line that is not blank. -/
def readLine (d : Document) (cs : List Char) : Option (Document × List Char) :=
  match cs with
  | '[' :: '[' :: rest => do
      let (path, rest) ← readKey rest
      match rest with
      | ']' :: ']' :: rest => return (← d.openAt openArrayTable path, rest)
      | _ => none
  | '[' :: rest => do
      let (path, rest) ← readKey rest
      match rest with
      | ']' :: rest => return (← d.openAt openTable path, rest)
      | _ => none
  | cs => do
      let (path, rest) ← readKey cs
      match rest with
      | '=' :: rest => do
          let (v, rest) ← readValue depthLimit (2 * rest.length + 2) (skipSpace rest)
          return ({ d with entries := ← alterAt (addDotted v path) d.header d.entries }, rest)
      | _ => none

def readLines : Nat → Document → List Char → Option Document
  | 0, _, _ => none
  | fuel + 1, d, cs => do
      match ← skipLines cs.length cs with
      | [] => return d
      | cs => do
          let (d, rest) ← readLine d cs
          readLines fuel d (← endLine? rest)

/-- Reads a whole text. A byte-order mark may stand in front. -/
def read? (s : String) : Option Entries :=
  let cs := match s.toList with
    | '\ufeff' :: rest => rest
    | cs => cs
  (readLines (cs.length + 1) {} cs).map (·.entries)

end Toml

end NodeForest

import NodeForest.Json.Options
import NodeForest.Toml.Reader
import NodeForest.Toml.Writer

/-!
# Settings

The options of a repository and a log filter, read from and written to TOML. Every key may be
missing. The values of unknown keys are ignored, but their numbers must be within range.
-/

namespace NodeForest

structure Settings where
  logFilter : Option String := none
  repository : Options := {}
deriving DecidableEq, Repr, Inhabited

/-- Why settings could not be read. -/
inductive SettingsError where
  /-- The text is not TOML, or a value is of the wrong kind. -/
  | malformed
  | unreadableFile (path : String)
  /-- The file has been read and its text is malformed. -/
  | invalidFile (path : String)
deriving DecidableEq, Repr

namespace SettingsError

/-- What was being done when the error arose, outermost first. -/
def contexts : SettingsError → List String
  | malformed => ["Failed to parse TDL settings"]
  | unreadableFile path => ["Failed to read settings: " ++ path]
  | invalidFile path => ["Invalid settings file: " ++ path, "Failed to parse TDL settings"]

end SettingsError

namespace Options

/-- Sets one option from its value. -/
def setToml? (o : Options) (key : String) (v : Toml) : Option Options :=
  if key = testingKey then
    match v with
    | .bool b => some { o with testing := b }
    | _ => none
  else if key = limitKey then
    match v with
    | .integer i =>
        if 0 ≤ i ∧ i ≤ maxLimit then some { o with errorLimit := limitOfNumber i.toNat } else none
    | _ => none
  else if key = orphansKey then
    match v with
    | .bool b => some { o with orphansAreRoots := b }
    | _ => none
  else if key = boundaryKey then
    match v with
    | .text s => some { o with trailBoundary := some s }
    | _ => none
  else if v.isInRange then some o
  else none

def setEntries? (o : Options) (entries : List (String × Toml)) : Option Options :=
  entries.foldlM (fun o entry => o.setToml? entry.1 entry.2) o

/-- Options are a table, or an array of their values in order. A date has no key that is known. -/
def ofToml? : Toml → Option Options
  | .table _ entries => ({} : Options).setEntries? entries
  | .array items => ({} : Options).setEntries? (keys.zip items)
  | .tables last earlier =>
      let tables := (last :: earlier).reverse.map (Toml.table .header)
      ({} : Options).setEntries? (keys.zip tables)
  | .datetime => some {}
  | _ => none

/-- The options one on a line. A boundary that is missing has no line. -/
def lines (o : Options) : List Toml.Line :=
  [⟨testingKey, .bool o.testing, by decide⟩, ⟨limitKey, .number o.limitNumber, by decide⟩,
    ⟨orphansKey, .bool o.orphansAreRoots, by decide⟩] ++
  (o.trailBoundary.map fun file => ⟨boundaryKey, .text file, by decide⟩).toList

theorem nodup_lines (o : Options) : (o.lines.map (·.key)).Nodup := by
  cases boundary : o.trailBoundary <;>
    simp [lines, boundary, testingKey, limitKey, orphansKey, boundaryKey]

end Options

namespace Settings

def filterKey : String := "log_filter"
def repositoryKey : String := "repository"

def set? (s : Settings) (key : String) (v : Toml) : Option Settings :=
  if key = filterKey then
    match v with
    | .text filter => some { s with logFilter := some filter }
    | _ => none
  else if key = repositoryKey then
    (Options.ofToml? v).map fun o => { s with repository := o }
  else if v.isInRange then some s
  else none

def ofEntries? (entries : List (String × Toml)) : Option Settings :=
  entries.foldlM (fun s entry => s.set? entry.1 entry.2) {}

/-- Reads settings from the text of a configuration with the given reader of documents. -/
def readBy (read? : String → Option Toml.Entries) (text : String) : Except SettingsError Settings :=
  match (read? text).bind ofEntries? with
  | some s => .ok s
  | none => .error .malformed

/-- Reads settings from the text of a configuration. -/
def read (text : String) : Except SettingsError Settings :=
  readBy Toml.read? text

/-- Reads settings from what a file holds, if there is one. -/
def load (path : String) (content : Option ByteArray) : Except SettingsError Settings :=
  match content.bind String.fromUTF8? with
  | none => .error (.unreadableFile path)
  | some text =>
      match read text with
      | .ok s => .ok s
      | .error _ => .error (.invalidFile path)

/-- A log filter is on a line of its own. -/
def topLines (s : Settings) : List Toml.Line :=
  (s.logFilter.map fun filter => ⟨filterKey, .text filter, by decide⟩).toList

/-- The settings as they are written: the options are a table. -/
def page (s : Settings) : Toml.Page where
  top := s.topLines
  table := repositoryKey
  bare := by decide
  body := s.repository.lines
  free := by cases filter : s.logFilter <;> simp [topLines, filter, filterKey, repositoryKey]
  different := s.repository.nodup_lines

/-- The text of a configuration with these settings. -/
def toToml (s : Settings) : String :=
  s.page.write

end Settings

end NodeForest

import NodeForest.Proofs.TomlLines
import NodeForest.Settings

/-!
# Settings are read back

What is written for settings is read as the same settings, except for a limit of zero: it is written
like a limit that is missing, and is read as one.

Results:
1. `Options.ofToml?_lines`, `Settings.ofEntries?_entries`: the options and settings that are made of
   the entries of what is written;
2. `Settings.readBy_write`: what is read of it, with any library;
   `Settings.read_toToml`: settings without a limit of zero are what is read of them;
   `Settings.not_read_toToml`.
-/

namespace NodeForest

open Toml

/-! ## 1. What is made of the entries -/

namespace Options

/-- The options as they are after a limit of zero has been written and read. -/
def normal (o : Options) : Options :=
  { o with errorLimit := limitOfNumber o.limitNumber }

theorem normal_of_ne_zero {o : Options} (limit : o.errorLimit ≠ some 0) : o.normal = o := by
  have same : limitOfNumber o.limitNumber = o.errorLimit := by
    cases held : o.errorLimit with
    | none => simp [limitNumber, held, limitOfNumber]
    | some n =>
        have nonzero : n ≠ 0 := fun zero => limit (by rw [held, zero])
        simp [limitNumber, held, limitOfNumber, nonzero]
  rw [normal, same]

theorem normal_of_zero {o : Options} (limit : o.errorLimit = some 0) :
    o.normal = { o with errorLimit := none } := by
  simp [normal, limitNumber, limit, limitOfNumber]

theorem ofToml?_lines (o : Options) (fits : o.limitNumber ≤ maxLimit) (origin : TableOrigin) :
    ofToml? (.table origin (o.lines.map (·.entry))) = some o.normal := by
  have fits : (o.limitNumber : Int) ≤ maxLimit := Int.ofNat_le.mpr fits
  cases boundary : o.trailBoundary <;>
    simp [ofToml?, setEntries?, lines, boundary, Line.entry, Scalar.toToml, setToml?, normal, fits,
      testingKey, limitKey, orphansKey, boundaryKey]

end Options

namespace Settings

theorem ofEntries?_concat (entries : Entries) (entry : String × Toml) :
    ofEntries? (entries ++ [entry]) = (ofEntries? entries).bind (·.set? entry.1 entry.2) := by
  simp [ofEntries?, List.foldlM_append]

theorem ofEntries?_entries (s : Settings) (fits : s.repository.limitNumber ≤ Options.maxLimit) :
    ofEntries? s.page.entries = some { s with repository := s.repository.normal } := by
  have top : ofEntries? (s.topLines.map (·.entry)) = some { s with repository := {} } := by
    cases filter : s.logFilter <;>
      simp [ofEntries?, topLines, filter, Line.entry, Scalar.toToml, set?]
  rw [Page.entries, ofEntries?_concat]
  simp [page, top, set?, filterKey, repositoryKey, s.repository.ofToml?_lines fits]

/-! ## 2. Settings are what is read of them -/

/-- The limit is the only number that is written. -/
theorem eq_limitNumber {s : Settings} {l : Line} (member : l ∈ s.page.top ++ s.page.body) {n : Nat}
    (number : l.value = .number n) : n = s.repository.limitNumber := by
  rcases List.mem_append.mp member with filter | option
  · obtain ⟨filter, _, rfl⟩ := Option.map_eq_some_iff.mp (Option.mem_toList.mp filter)
    cases number
  · rcases List.mem_append.mp option with always | boundary
    · simp only [List.mem_cons, List.not_mem_nil, or_false] at always
      rcases always with rfl | rfl | rfl <;> cases number
      rfl
    · obtain ⟨file, _, rfl⟩ := Option.map_eq_some_iff.mp (Option.mem_toList.mp boundary)
      cases number

theorem readBy_write {s : Settings} (L : Library)
    (fits : s.repository.limitNumber ≤ Options.maxLimit)
    (held : s.repository.limitNumber ≤ L.maxNumber) :
    readBy L.read? (L.write s.page) = .ok { s with repository := s.repository.normal } := by
  have back := L.read?_write s.page fun _ member _ number => eq_limitNumber member number ▸ held
  rw [readBy, back, Option.bind_some, ofEntries?_entries s fits]

theorem read_toToml_eq_normal {s : Settings} (fits : s.repository.limitNumber ≤ Options.maxLimit) :
    read s.toToml = .ok { s with repository := s.repository.normal } :=
  readBy_write library fits fits

/-- Settings whose limit is missing, or a number of 64 bits other than zero, are what is read of the
text written for them. A limit of zero is read as a missing one. So it is with every library that
reads back what it writes, as long as it holds the limit. -/
theorem read_toToml (s : Settings) (fits : s.repository.limitNumber ≤ Options.maxLimit) :
    (s.repository.errorLimit ≠ some 0 →
      read s.toToml = .ok s ∧
        ∀ L : Library, s.repository.limitNumber ≤ L.maxNumber →
          readBy L.read? (L.write s.page) = .ok s) ∧
      (s.repository.errorLimit = some 0 →
        let unlimited := { s with repository := { s.repository with errorLimit := none } }
        read s.toToml = .ok unlimited ∧
          ∀ L : Library, readBy L.read? (L.write s.page) = .ok unlimited) := by
  constructor
  · intro limit
    rw [read_toToml_eq_normal fits, Options.normal_of_ne_zero limit]
    refine ⟨rfl, fun L held => ?_⟩
    rw [readBy_write L fits held, Options.normal_of_ne_zero limit]
  · intro limit
    have held (L : Library) : s.repository.limitNumber ≤ L.maxNumber := by
      simp [Options.limitNumber, limit]
    rw [read_toToml_eq_normal fits, Options.normal_of_zero limit]
    refine ⟨rfl, fun L => ?_⟩
    rw [readBy_write L fits (held L), Options.normal_of_zero limit]

/-- Both kinds of quotes, a line feed and a control character are read back. -/
theorem read_toToml_quotes :
    let s : Settings :=
      { logFilter := some "'''\"\"\"\n\u007f", repository := { trailBoundary := some "it's" } }
    s.repository.limitNumber ≤ Options.maxLimit ∧ read s.toToml = .ok s ∧
      readBy library.read? (library.write s.page) = .ok s := by
  intro s
  have fits : s.repository.limitNumber ≤ Options.maxLimit := by decide
  obtain ⟨back, byLibrary⟩ := (read_toToml s fits).1 (by decide)
  exact ⟨fits, back, byLibrary library fits⟩

/-- A limit of zero is not read back. -/
theorem not_read_toToml :
    ¬ ∀ s : Settings, s.repository.limitNumber ≤ Options.maxLimit → read s.toToml = .ok s := by
  intro all
  have same := all { repository := { errorLimit := some 0 } } (by decide)
  rw [read_toToml_eq_normal (by decide)] at same
  revert same
  simp [Options.normal, Options.limitNumber, Options.limitOfNumber]

end Settings

end NodeForest

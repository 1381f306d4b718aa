import NodeForest.Text.FoldTable

/-!
# Matching without regard to case

A set of characters is closed under case when it holds with each character all those that fold into
the same one.
-/

namespace NodeForest.Text

/-- Where the runs send the characters of a set, and the set itself. -/
def withImages (runs : List CodeShift) (s : CodeRanges) : CodeRanges :=
  s.union (.ofList (runs.flatMap fun r => r.images s.ranges))

/-- The characters that differ at most in case from one of the set. -/
def caseClosure (s : CodeRanges) : CodeRanges :=
  withImages (foldRuns.map CodeShift.inverse) (withImages foldRuns s)

/-- As `caseClosure`, with regard to the ASCII letters alone. -/
def asciiCaseClosure (s : CodeRanges) : CodeRanges :=
  withImages [⟨0x41, 0x5a, 1, 32⟩, ⟨0x61, 0x7a, 1, -32⟩] s

end NodeForest.Text

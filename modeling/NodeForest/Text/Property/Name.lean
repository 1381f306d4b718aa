import NodeForest.Text.Blank

/-!
# Names of character properties

Properties have several names, and a name may be written loosely: case, blanks, hyphens, underscores
and a leading "is" do not count.
-/

namespace NodeForest.Text

/-- The name without what does not count. Of "isc" all counts: it names no category. -/
def normalName (name : String) : String :=
  let cs := name.toList
  let written := match cs with
    | 'i' :: 's' :: rest | 'I' :: 's' :: rest | 'i' :: 'S' :: rest | 'I' :: 'S' :: rest => rest
    | cs => cs
  let counted : List Char := (written.filter fun c =>
    c ≠ ' ' ∧ c ≠ '_' ∧ c ≠ '-' ∧ c.toNat < 128).map Char.toLower
  if written.length < cs.length ∧ counted = ['c'] then "isc" else String.ofList counted

/-- Looks a name in normal form up in a table whose rows give the names of a set, between blanks,
and its characters. -/
def lookup? (table : List (String × String)) (name : String) : Option CodeRanges :=
  (table.find? fun row => (splitBlank row.1).contains name).map fun row => .ofText row.2

end NodeForest.Text

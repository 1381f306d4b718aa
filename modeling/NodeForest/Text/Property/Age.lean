import NodeForest.Text.Property.AgeTable
import NodeForest.Text.Property.Name

/-!
# Characters by age
-/

namespace NodeForest.Text

/-- The characters of the version with this name in normal form and of all versions before it. -/
def age? (name : String) : Option CodeRanges :=
  (ageTable.findIdx? fun row => (splitBlank row.1).contains name).map fun i =>
    .unionOf ((ageTable.take (i + 1)).map fun row => .ofText row.2)

end NodeForest.Text

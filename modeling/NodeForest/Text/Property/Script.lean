import NodeForest.Text.Property.Name
import NodeForest.Text.Property.ScriptExtensionTable
import NodeForest.Text.Property.ScriptTable

/-!
# Scripts by name
-/

namespace NodeForest.Text

/-- The characters of the script with this name in normal form. -/
def script? (name : String) : Option CodeRanges :=
  lookup? scriptTable name

/-- The characters that are used with a script. -/
def scriptExtension? (name : String) : Option CodeRanges := do
  let names := splitBlank (← scriptTable.find? fun row => (splitBlank row.1).contains name).1
  let change (table : List (String × String)) := CodeRanges.unionOf (names.filterMap (lookup? table))
  return ((← script? name).union (change addedTable)).difference (change droppedTable)

end NodeForest.Text

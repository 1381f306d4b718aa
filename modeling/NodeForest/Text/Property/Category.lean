import NodeForest.Text.Property.CategoryTable
import NodeForest.Text.Property.Name

/-!
# Sets of categories

A kind of categories, such as the letters, is the union of its subdivisions.
-/

namespace NodeForest.Text

/-- The characters of some of the categories in the table. -/
def ofCategories (names : List String) : CodeRanges :=
  .unionOf (names.filterMap (lookup? categoryTable))

def assigned : CodeRanges :=
  .unionOf (categoryTable.map fun row => .ofText row.2)

def unassigned : CodeRanges := assigned.complement

/-- The set that a name in normal form stands for. -/
def category? (name : String) : Option CodeRanges :=
  match name with
  | "l" | "letter" => some (ofCategories ["lu", "ll", "lt", "lm", "lo"])
  | "lc" | "casedletter" => some (ofCategories ["lu", "ll", "lt"])
  | "m" | "mark" | "combiningmark" => some (ofCategories ["mn", "mc", "me"])
  | "n" | "number" => some (ofCategories ["nd", "nl", "no"])
  | "p" | "punctuation" | "punct" =>
      some (ofCategories ["pc", "pd", "ps", "pe", "pi", "pf", "po"])
  | "s" | "symbol" => some (ofCategories ["sm", "sc", "sk", "so"])
  | "z" | "separator" => some (ofCategories ["zs", "zl", "zp"])
  | "c" | "other" => some (unassigned.union (ofCategories ["cc", "cf", "co"]))
  | "cn" | "unassigned" => some unassigned
  | "any" => some .all
  | "assigned" => some assigned
  | "ascii" => some (.between 0 127)
  | name => lookup? categoryTable name

end NodeForest.Text

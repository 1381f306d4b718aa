import NodeForest.Text.Property.Age
import NodeForest.Text.Property.Break

/-!
# Properties by name

A set of characters can be asked for by one name, of a binary property, a category or a script, or
by the name of a property and a value of it.
-/

namespace NodeForest.Text

/-- The set with this name. -/
def namedSet? (name : String) : Option CodeRanges :=
  let name := normalName name
  binary? name <|> category? name <|> script? name

/-- The characters for which a property has this value. -/
def propertyValue? (property value : String) : Option CodeRanges :=
  let value := normalName value
  match normalName property with
  | "generalcategory" | "gc" => category? value
  | "script" | "sc" => script? value
  | "scriptextensions" | "scx" => scriptExtension? value
  | "age" => age? value
  | "graphemeclusterbreak" | "gcb" => graphemeBreak? value
  | "wordbreak" | "wb" => wordBreak? value
  | "sentencebreak" | "sb" => sentenceBreak? value
  | _ => none

end NodeForest.Text

/-!
# JSON documents

A document keeps the order of its members and the text of its numbers. A text that has an escape
for half a character, or an object that has such a text for a key, is kept apart: it is well formed
as long as nothing asks for its content.
-/

namespace NodeForest

inductive Json where
  | null
  | bool (b : Bool)
  | number (token : String)
  | text (s : String)
  | broken
  | array (items : List Json)
  | object (members : List (String × Json))
deriving Repr, Inhabited

end NodeForest

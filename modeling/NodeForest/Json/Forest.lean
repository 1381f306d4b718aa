import NodeForest.Json.Writer
import NodeForest.Repository.Forest

/-!
# Forests in JSON

Numbers that are not finite are written as null, complex numbers as pairs, and the fields of nodes
and forests in a fixed order.
-/

namespace NodeForest

def Binary64.toJson (x : Binary64) : Json :=
  match x.magnitude with
  | .finite _ _ => .number (x.text .structured)
  | _ => .null

def Json.ofInt (i : Int) : Json :=
  .number (toString i)

namespace Value

mutual

def toJson : Value → Json
  | .bool b => .bool b
  | .int i => .ofInt i
  | .float x => x.toJson
  | .complex re im => .array [re.toJson, im.toJson]
  | .text s => .text s
  | .list items => .array (itemsToJson items)
  | .record fields => .object (fieldsToJson fields)

def itemsToJson : List Value → List Json
  | [] => []
  | v :: rest => toJson v :: itemsToJson rest

def fieldsToJson : List (String × Value) → List (String × Json)
  | [] => []
  | (k, v) :: rest => (k, toJson v) :: fieldsToJson rest

end

end Value

def ChildIndices.toJson : ChildIndices → Json
  | .list l => .array (l.map .ofInt)
  | .keyed m => .object (m.map fun (label, i) => (label, .ofInt i))

def ForestNode.toJson (n : ForestNode) : Json :=
  .object [("nodeindex", .ofInt n.index), ("name", .text n.name), ("class", .text n.className),
    ("init_record", .object (Value.fieldsToJson n.record)), ("children", n.children.toJson),
    ("step_children", .array (n.steps.map .ofInt))]

def Forest.toJson (f : Forest) : Json :=
  .object [("nodes", .array (f.nodes.map ForestNode.toJson)), ("roots", .array (f.roots.map .text))]

end NodeForest

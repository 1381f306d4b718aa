import NodeForest.Number.Layout
import NodeForest.OrderedMap

/-!
# Values and records

A record is the ordered bag of fields that a node carries to the execution engine; a value is what
one field holds.

Equality is made for rebinding: numbers are compared as words, lists item by item, and records as
maps, so the order of fields does not matter at any depth.
-/

namespace NodeForest

/-- The value of a record field. -/
inductive Value where
  | bool (b : Bool)
  | int (i : Int)
  | float (x : Binary64)
  | complex (re im : Binary64)
  | text (s : String)
  | list (items : List Value)
  | record (fields : List (String × Value))
deriving Repr, Inhabited

abbrev Record := OrderedMap String Value

/-- The text of a complex number: the imaginary part always shows its sign. -/
def complexText (re im : Binary64) : String :=
  "(" ++ re.text .message ++ im.signedText .message ++ "j)"

namespace Value

def asText? : Value → Option String
  | .text s => some s
  | _ => none

def asInt? : Value → Option Int
  | .int i => some i
  | _ => none

/-- Integers count as floating-point numbers, rounded to the nearest one. -/
def asFloat? : Value → Option Binary64
  | .float x => some x
  | .int i => some (.ofInt i)
  | _ => none

def asList? : Value → Option (List Value)
  | .list items => some items
  | _ => none

def asRecord? : Value → Option Record
  | .record fields => some fields
  | _ => none

/-- The texts of a text or of a list of texts. -/
def texts? : Value → Option (List String)
  | .text s => some [s]
  | .list items => items.mapM asText?
  | _ => none

/-- The list of some texts. -/
def ofTexts (items : List String) : Value :=
  .list (items.map .text)

mutual

/-- Equality of values. -/
def equal : Value → Value → Bool
  | .bool a, .bool b => a == b
  | .int a, .int b => a == b
  | .float a, .float b => a == b
  | .complex re im, .complex re' im' => re == re' && im == im'
  | .text a, .text b => a == b
  | .list a, .list b => equalItems a b
  | .record a, .record b => a.length == b.length && fieldsIn a b
  | _, _ => false

def equalItems : List Value → List Value → Bool
  | [], [] => true
  | a :: as, b :: bs => equal a b && equalItems as bs
  | _, _ => false

/-- Every field of the first list is in the second with an equal value. -/
def fieldsIn : List (String × Value) → List (String × Value) → Bool
  | [], _ => true
  | (k, v) :: rest, other =>
      (match OrderedMap.get? other k with
        | some w => equal v w
        | none => false) && fieldsIn rest other

end

mutual

def render : Value → String
  | .bool b => toString b
  | .int i => toString i
  | .float x => x.text .message
  | .complex re im => complexText re im
  | .text s => "'" ++ s ++ "'"
  | .list items => "[" ++ ", ".intercalate (renderItems items) ++ "]"
  | .record fields => "\x7b" ++ ", ".intercalate (renderFields fields) ++ "\x7d"

def renderItems : List Value → List String
  | [] => []
  | v :: rest => render v :: renderItems rest

def renderFields : List (String × Value) → List String
  | [] => []
  | (k, v) :: rest => (k ++ ": " ++ render v) :: renderFields rest

end

mutual

/-- The keys of every record in the value are distinct. -/
def WellFormed : Value → Prop
  | .list items => WellFormedItems items
  | .record fields => (OrderedMap.keys fields).Nodup ∧ WellFormedFields fields
  | _ => True

def WellFormedItems : List Value → Prop
  | [] => True
  | v :: rest => WellFormed v ∧ WellFormedItems rest

def WellFormedFields : List (String × Value) → Prop
  | [] => True
  | (_, v) :: rest => WellFormed v ∧ WellFormedFields rest

end

end Value

namespace Record

/-- The fields that the repository reads itself. -/
def classKey : String := "class"
def tagsKey : String := "tags"
def groupsKey : String := "node_groups"

/-- Equality of records: as many fields, each with an equal one in the other. -/
def equal (a b : Record) : Bool :=
  a.length == b.length && Value.fieldsIn a b

def render (r : Record) : String :=
  (Value.record r).render

def className? (r : Record) : Option String :=
  (OrderedMap.get? r classKey).bind Value.asText?

/-- The tags of a node, none when the field is missing or not made of texts. -/
def tags (r : Record) : List String :=
  ((OrderedMap.get? r tagsKey).bind Value.texts?).getD []

def WellFormed (r : Record) : Prop :=
  (Value.record r).WellFormed

end Record

example : Record.equal [("a", .int 1), ("b", .bool true)] [("b", .bool true), ("a", .int 1)] := by
  decide

example : (Value.record [("re", .complex (.ofInt 1) (.zero true))]).render =
    "\x7bre: (1.0-0.0j)\x7d" := by decide +kernel

end NodeForest

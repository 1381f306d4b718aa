/-!
# Maps that keep the order of insertion

An `OrderedMap` lists its entries in the order in which their keys were first inserted. Writing to
a key that is present replaces the value in place, so records, name tables and child maps show
their entries in a stable order.
-/

namespace NodeForest

abbrev OrderedMap (κ α : Type) := List (κ × α)

namespace OrderedMap

variable {κ α : Type} [BEq κ]

def get? (m : OrderedMap κ α) (k : κ) : Option α :=
  m.lookup k

def contains (m : OrderedMap κ α) (k : κ) : Bool :=
  (get? m k).isSome

def keys (m : OrderedMap κ α) : List κ :=
  m.map Prod.fst

def values (m : OrderedMap κ α) : List α :=
  m.map Prod.snd

/-- Writes a value: in place when the key is present, else at the end. -/
def insert : OrderedMap κ α → κ → α → OrderedMap κ α
  | [], k, v => [(k, v)]
  | (k', v') :: rest, k, v =>
      if k' == k then (k', v) :: rest else (k', v') :: insert rest k v

/-- Removes a key; the other entries keep their order. -/
def erase (m : OrderedMap κ α) (k : κ) : OrderedMap κ α :=
  m.filter fun entry => !(entry.1 == k)

/-- Writes the entries of a list one after the other. -/
def insertAll (m : OrderedMap κ α) (entries : List (κ × α)) : OrderedMap κ α :=
  entries.foldl (fun m entry => insert m entry.1 entry.2) m

def ofList (entries : List (κ × α)) : OrderedMap κ α :=
  insertAll [] entries

end OrderedMap

example : OrderedMap.ofList [("a", 1), ("b", 2), ("a", 3)] = [("a", 3), ("b", 2)] := by decide

end NodeForest

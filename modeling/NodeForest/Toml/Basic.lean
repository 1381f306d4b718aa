/-!
# TOML documents

A document is a table of keyed values. How a table came about decides what may be added to it later:
a table opened by a header is not opened again, one that deeper headers imply may get a header of its
own, only dotted keys add to what dotted keys began, and a table written inline is closed.
-/

namespace NodeForest

/-- How a table came about. -/
inductive TableOrigin where
  /-- Implied by the header of a table inside it. -/
  | implied
  | dotted
  | header
  | inlined
deriving DecidableEq, Repr, Inhabited

inductive Toml where
  | text (s : String)
  | integer (i : Int)
  /-- A float, which is finite unless its digits spell a number beyond the doubles. -/
  | float (finite : Bool)
  | bool (b : Bool)
  | datetime
  | array (items : List Toml)
  | table (origin : TableOrigin) (entries : List (String × Toml))
  /-- The tables of an array that headers extend, last first; each is the list of its entries. -/
  | tables (last : List (String × Toml)) (earlier : List (List (String × Toml)))
deriving Repr, Inhabited

namespace Toml

/-! ## Range -/

mutual

/-- The numbers of a value can be held: its integers in 128 bits, of which a negative one uses the
first for its sign, and its floats as doubles. A value whose numbers are out of range is well formed
as long as nothing looks at it. -/
def isInRange : Toml → Bool
  | .integer i => -(Nat.pow 2 127 : Int) ≤ i && i < (Nat.pow 2 128 : Int)
  | .float finite => finite
  | .array items => itemsInRange items
  | .table _ entries => entriesInRange entries
  | .tables last earlier => entriesInRange last && tablesInRange earlier
  | _ => true

def itemsInRange : List Toml → Bool
  | [] => true
  | v :: rest => v.isInRange && itemsInRange rest

def entriesInRange : List (String × Toml) → Bool
  | [] => true
  | (_, v) :: rest => v.isInRange && entriesInRange rest

def tablesInRange : List (List (String × Toml)) → Bool
  | [] => true
  | entries :: rest => entriesInRange entries && tablesInRange rest

end

/-! ## Keys -/

def isBareKeyChar (c : Char) : Bool :=
  c.isAlphanum || c == '_' || c == '-'

/-- The key may stand without quotes. -/
def IsBareKey (key : String) : Prop :=
  key ≠ "" ∧ ∀ c ∈ key.toList, isBareKeyChar c

instance (key : String) : Decidable (IsBareKey key) :=
  decidable_of_iff (key ≠ "" ∧ key.toList.all isBareKeyChar) (by simp [IsBareKey])

/-! ## Tables -/

abbrev Entries := List (String × Toml)

def find? (entries : Entries) (key : String) : Option Toml :=
  entries.lookup key

/-- Replaces the value of a key that is present. -/
def replace (entries : Entries) (key : String) (v : Toml) : Entries :=
  entries.map fun (k, old) => if k = key then (k, v) else (k, old)

/-- Writes a value under a path of dotted keys. No key may be taken, and only tables that dotted keys
began can be passed through. -/
def addDotted (v : Toml) : List String → Entries → Option Entries
  | [], _ => none
  | [key], entries =>
      if (find? entries key).isSome then none else some (entries ++ [(key, v)])
  | key :: path, entries =>
      match find? entries key with
      | none => do return entries ++ [(key, .table .dotted (← addDotted v path []))]
      | some (.table .dotted inner) => do
          return replace entries key (.table .dotted (← addDotted v path inner))
      | some _ => none

/-- Changes the entries of the table at a path of header keys; tables on the way are implied where
they are missing, and an array of tables stands for its last one. -/
def alterAt (change : Entries → Option Entries) : List String → Entries → Option Entries
  | [], entries => change entries
  | key :: path, entries =>
      match find? entries key with
      | none => do return entries ++ [(key, .table .implied (← alterAt change path []))]
      | some (.table .inlined _) => none
      | some (.table origin inner) => do
          return replace entries key (.table origin (← alterAt change path inner))
      | some (.tables last earlier) => do
          return replace entries key (.tables (← alterAt change path last) earlier)
      | some _ => none

/-- Opens the table of a header among the entries of the table around it. -/
def openTable (key : String) (entries : Entries) : Option Entries :=
  match find? entries key with
  | none => some (entries ++ [(key, .table .header [])])
  | some (.table .implied inner) => some (replace entries key (.table .header inner))
  | some _ => none

/-- Starts the next table of an array of tables. -/
def openArrayTable (key : String) (entries : Entries) : Option Entries :=
  match find? entries key with
  | none => some (entries ++ [(key, .tables [] [])])
  | some (.tables last earlier) => some (replace entries key (.tables [] (last :: earlier)))
  | some _ => none

end Toml

end NodeForest

/-!
# Name qualifiers

Related nodes share a basename and differ in qualifiers: a list of positional texts and, for each
keyword, a list of texts without repetition. A qualified name is written

    basename[:positional]*[:keyword=text,text]*

with the keywords in increasing order. Keywords always merge; positional qualifiers are either
concatenated or only added when they are new.
-/

namespace NodeForest

/-- `existing` followed by the new texts among `more`; a text is new when `existing` lacks it. -/
def adjoin (existing more : List String) : List String :=
  existing ++ more.filter fun q => !existing.contains q

/-- The texts of each keyword, the keywords in increasing order. -/
abbrev Keywords := List (String × List String)

namespace Keywords

def Sorted (ks : Keywords) : Prop :=
  ks.Pairwise fun a b => a.1 < b.1

/-- Adds texts to a keyword, in its place in the order. -/
def add (key : String) (more : List String) : Keywords → Keywords
  | [] => [(key, adjoin [] more)]
  | (k, texts) :: rest =>
      if key < k then (key, adjoin [] more) :: (k, texts) :: rest
      else if key = k then (k, adjoin texts more) :: rest
      else (k, texts) :: add key more rest

theorem fst_mem_add {key : String} {more : List String} {ks : Keywords} {entry : String × List String}
    (member : entry ∈ add key more ks) :
    entry.1 = key ∨ ∃ old ∈ ks, old.1 = entry.1 := by
  induction ks with
  | nil => exact Or.inl (by simp_all [add])
  | cons head rest ih =>
      simp only [add] at member
      split at member
      · rcases List.mem_cons.mp member with rfl | inRest
        · exact Or.inl rfl
        · exact Or.inr ⟨entry, inRest, rfl⟩
      · split at member
        · rcases List.mem_cons.mp member with rfl | inRest
          · exact Or.inr ⟨head, List.mem_cons_self, rfl⟩
          · exact Or.inr ⟨entry, List.mem_cons_of_mem _ inRest, rfl⟩
        · rcases List.mem_cons.mp member with rfl | inRest
          · exact Or.inr ⟨head, List.mem_cons_self, rfl⟩
          · rcases ih inRest with same | ⟨old, oldMember, same⟩
            · exact Or.inl same
            · exact Or.inr ⟨old, List.mem_cons_of_mem _ oldMember, same⟩

theorem lt_of_not_lt_of_ne {a b : String} (notLess : ¬a < b) (different : a ≠ b) : b < a := by
  by_cases less : b < a
  · exact less
  · exact absurd (String.le_antisymm (String.not_lt.mp less) (String.not_lt.mp notLess)) different

theorem Sorted.add {ks : Keywords} (sorted : Sorted ks) (key : String) (more : List String) :
    Sorted (Keywords.add key more ks) := by
  induction ks with
  | nil => simp [Keywords.add, Sorted]
  | cons head rest ih =>
      obtain ⟨below, sortedRest⟩ := List.pairwise_cons.mp sorted
      simp only [Keywords.add]
      split
      · rename_i less
        refine List.pairwise_cons.mpr ⟨fun entry member => ?_, sorted⟩
        rcases List.mem_cons.mp member with rfl | inRest
        · exact less
        · exact String.lt_trans less (below entry inRest)
      · rename_i notLess
        split
        · exact List.pairwise_cons.mpr ⟨below, sortedRest⟩
        · rename_i different
          refine List.pairwise_cons.mpr ⟨fun entry member => ?_, ih sortedRest⟩
          rcases fst_mem_add member with same | ⟨old, oldMember, same⟩
          · exact same ▸ lt_of_not_lt_of_ne notLess different
          · exact same ▸ below old oldMember

/-- Adds every keyword of `more` to `ks`. -/
def addAll (ks more : Keywords) : Keywords :=
  more.foldl (fun ks entry => add entry.1 entry.2 ks) ks

theorem Sorted.addAll {ks : Keywords} (sorted : Sorted ks) (more : Keywords) :
    Sorted (Keywords.addAll ks more) := by
  induction more generalizing ks with
  | nil => exact sorted
  | cons head rest ih => exact ih (sorted.add head.1 head.2)

def render (ks : Keywords) : List String :=
  ks.map fun (key, texts) => key ++ "=" ++ ",".intercalate texts

end Keywords

/-- Positional and keyword qualifiers of a node name. -/
@[ext]
structure Qualifiers where
  positional : List String := []
  keyword : Keywords := []
  sorted : keyword.Sorted := by exact List.Pairwise.nil
deriving DecidableEq

/-- How positional qualifiers are combined. -/
inductive MergeMode where
  /-- Concatenate, keeping repetitions. -/
  | append
  /-- Add only texts that are not there yet. -/
  | merge
deriving DecidableEq, Repr

namespace Qualifiers

def empty : Qualifiers := {}

instance : Inhabited Qualifiers := ⟨empty⟩

/-- Adds a positional qualifier. -/
def withPositional (q : Qualifiers) (text : String) : Qualifiers :=
  { q with positional := q.positional ++ [text] }

/-- Adds a text to a keyword, unless the keyword has it. -/
def withKeyword (q : Qualifiers) (key text : String) : Qualifiers :=
  { q with keyword := q.keyword.add key [text], sorted := q.sorted.add key [text] }

def isEmpty (q : Qualifiers) : Bool :=
  q.positional.isEmpty && q.keyword.isEmpty

/-- `q` with the qualifiers of `other` merged into it. -/
def merged (q other : Qualifiers) (mode : MergeMode) : Qualifiers where
  positional :=
    match mode with
    | .append => q.positional ++ other.positional
    | .merge => adjoin q.positional other.positional
  keyword := q.keyword.addAll other.keyword
  sorted := q.sorted.addAll other.keyword

def render (q : Qualifiers) : String :=
  ":".intercalate (q.positional ++ q.keyword.render)

end Qualifiers

/-- The name of a node from its basename and qualifiers. -/
def qualifyName (basename : String) (quals : Qualifiers) : String :=
  if quals.isEmpty then basename else basename ++ ":" ++ quals.render

example : qualifyName "E" ((Qualifiers.empty.withKeyword "src" "a").withKeyword "src" "b"
    |>.withPositional "2") = "E:2:src=a,b" := by decide +kernel

end NodeForest

import NodeForest.Proofs.Growth

/-!
# Generated names

An anonymous definition is bound to the node with its generated name, and nobody asks who made that
node: it may be one that was named by hand. This module says which names a definition can get, so
that the nodes that cannot be meant by them are known.

Results:
1. `Definition.inner`: the nested definitions that a bind takes apart, at every depth.
2. `Definition.GoesBy`: the names that a definition can get; `named_anonymousNode`: the node it gets
   has such a name.
3. `paren_mem_of_goesBy`: all of them have a parenthesis.
-/

namespace NodeForest

open NodeForest.Action

/-! ## 1. Nested definitions -/

mutual

/-- The definition in a child and those nested in it. -/
def Child.definitions : Child → List Definition
  | .pending d => d :: d.inner
  | _ => []
termination_by structural c => c

def Entry.definitions : Entry → List Definition
  | ⟨_, child⟩ => child.definitions
termination_by structural e => e

def Entry.allDefinitions : List Entry → List Definition
  | [] => []
  | e :: rest => e.definitions ++ Entry.allDefinitions rest
termination_by structural es => es

/-- Nothing is bound for a list that is resolved already. -/
def ChildList.definitions : ChildList → List Definition
  | ⟨entries, _, resolved⟩ => if resolved then [] else Entry.allDefinitions entries
termination_by structural l => l

/-- The definitions nested in the children and step-children, at every depth. -/
def Definition.inner : Definition → List Definition
  | ⟨_, children, steps, _⟩ => children.definitions ++ steps.definitions
termination_by structural d => d

end

theorem Definition.inner_eq (d : Definition) :
    d.inner = d.children.definitions ++ d.steps.definitions := by
  cases d
  rw [inner]

/-! ## 2. Names -/

/-- An anonymous bind of the definition can ask for the node with this name, in some scope: without
children the class and a count, else the class and the children. -/
def Definition.GoesBy (d : Definition) (name : String) : Prop :=
  ∃ outer : String,
    if d.children.isEmpty then
      ∃ n, name = outer ++ Repository.generatedName (Text.lowercase d.nodeClass.name) n
    else
      ∃ basenames quals, name =
        qualifyName
          (outer ++ (Text.lowercase d.nodeClass.name ++ "(" ++ ",".intercalate basenames ++ ")"))
          quals

namespace Repository

variable {r r' : Repository}

/-- A scope puts something in front of a name, or nothing. -/
theorem exists_scopedName (r : Repository) (scope : ScopeId) :
    ∃ outer, ∀ name, r.scopedName scope name = outer ++ name := by
  cases named : r.scopeName? scope with
  | none => exact ⟨"", fun name => by simp [scopedName, named]⟩
  | some outer => exact ⟨outer ++ "::", fun name => by simp [scopedName, named]⟩

theorem named_anonymousNode {d : Definition} {scope : ScopeId} {cs : ChildList}
    {location : Location} {id : NodeId} (shape : cs.isEmpty = d.children.isEmpty)
    (taken : r.anonymousNode scope d.nodeClass cs location = (id, r')) :
    ∃ n, r'.get? id = some n ∧ d.GoesBy n.name := by
  rw [anonymousNode] at taken
  split at taken
  · rename_i childless
    have generated := uniqueName_fst r scope (Text.lowercase d.nodeClass.name)
    rcases counted : r.uniqueName scope (Text.lowercase d.nodeClass.name) with ⟨name, r₁⟩
    rw [counted] at taken generated
    obtain rfl : name = generatedName _ _ := generated
    obtain ⟨n, here, named⟩ := named_getOrCreate taken
    obtain ⟨outer, within⟩ := exists_scopedName r₁ scope
    refine ⟨n, here, outer, ?_⟩
    rw [if_pos (by rw [← shape, childless])]
    exact ⟨_, by rw [named, within]⟩
  · rename_i filled
    obtain ⟨n, here, named⟩ := named_getOrCreate taken
    obtain ⟨outer, within⟩ := exists_scopedName r scope
    refine ⟨n, here, outer, ?_⟩
    rw [if_neg (by rwa [← shape])]
    exact ⟨_, _, by rw [named, within]⟩

end Repository

/-! ## 3. Names that nothing generates -/

/-- Every generated name has a parenthesis, so a name without one is safe. -/
theorem paren_mem_of_goesBy {d : Definition} {name : String} (h : d.GoesBy name) :
    '(' ∈ name.toList := by
  obtain ⟨outer, h⟩ := h
  split at h
  · obtain ⟨n, rfl⟩ := h
    simp [Repository.generatedName]
  · obtain ⟨basenames, quals, rfl⟩ := h
    rw [qualifyName]
    split <;> simp

end NodeForest

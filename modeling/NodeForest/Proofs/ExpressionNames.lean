import NodeForest.Proofs.Brackets
import NodeForest.Proofs.Consistency
import NodeForest.Proofs.Naming
import NodeForest.Proofs.Repetition

/-!
# Names of expressions

A definition with children is bound to the node that is named after it: the name is put together
from the class in lower case, the basenames of the children, and their qualifiers merged into one
list. These can be read back from the name if names that are given by hand are well bracketed.

Results:
1. `expressionName`: the name; `getOrCreate_eq_iff`: whose node is taken under it.
2. `Operation.Bracketing`, `Reachable.wellBracketed`: where all names are well bracketed.
3. `expressionName_inj`: what names of expressions tell apart; `Unqualified.childBasenames_eq_iff`:
   children without qualifiers.
-/

namespace NodeForest

open Relation NodeForest.Action

/-! ## 1. Names -/

namespace Repository

variable {op : Operation} {r r' : Repository}

theorem qualifyName_append (outer name : String) (quals : Qualifiers) :
    qualifyName (outer ++ name) quals = outer ++ qualifyName name quals := by
  unfold qualifyName
  split
  · rfl
  · simp only [String.append_assoc]

theorem qualifyName_eq (name : String) (quals : Qualifiers) :
    qualifyName name quals = name ++ qualifyName "" quals := by
  have := qualifyName_append name "" quals
  rwa [String.append_empty] at this

/-- The basename of the node for an anonymous definition with children. -/
def expressionBasename (r : Repository) (scope : ScopeId) (c : NodeClass) (cs : ChildList) :
    String :=
  r.scopedName scope (Text.lowercase c.name ++ "(" ++ ",".intercalate (r.childBasenames cs) ++ ")")

def expressionName (r : Repository) (scope : ScopeId) (c : NodeClass) (cs : ChildList) : String :=
  qualifyName (r.expressionBasename scope c cs) (r.mergedQuals cs)

theorem anonymousNode_filled {cs : ChildList} (filled : cs.isEmpty = false) (r : Repository)
    (scope : ScopeId) (c : NodeClass) (location : Location) :
    r.anonymousNode scope c cs location = r.getOrCreate (r.expressionName scope c cs)
      (r.expressionBasename scope c cs) scope (r.mergedQuals cs) location := by
  rw [anonymousNode, if_neg (by simp [filled])]
  rfl

/-- The node of a name is the one that has it, or a new one if none has. -/
theorem getOrCreate_cases {name basename : String} {scope : ScopeId} {quals : Qualifiers}
    {location : Location} {id : NodeId}
    (taken : r.getOrCreate name basename scope quals location = (id, r')) :
    r.lookup? name = some id ∧ r' = r ∨
      r.lookup? name = none ∧ r.get? id = none ∧ r'.bindingOf? id = none := by
  rw [getOrCreate] at taken
  cases found : r.lookup? name with
  | some known =>
    rw [found] at taken
    cases taken
    exact .inl ⟨rfl, rfl⟩
  | none =>
    rw [found] at taken
    cases taken
    refine .inr ⟨rfl, get?_eq_none (Nat.le_refl _), ?_⟩
    rw [bindingOf?, get?_register, if_pos rfl]
    rfl

/-- Names being distinct, it is the one that there is exactly if that has the name. -/
theorem getOrCreate_eq_iff {name basename : String} {scope : ScopeId} {quals : Qualifiers}
    {location : Location} {id other : NodeId} {n : Node} (names : r.DistinctNames)
    (taken : r.getOrCreate name basename scope quals location = (id, r'))
    (live : r.get? other = some n) : id = other ↔ n.name = name := by
  have known := lookup?_of_get? names live
  rcases getOrCreate_cases taken with ⟨found, _⟩ | ⟨none, gone, _⟩
  · constructor
    · rintro rfl
      obtain ⟨n', live', same⟩ := lookup?_eq_some found
      cases live.symm.trans live'
      exact same
    · intro same
      rw [same, found] at known
      exact Option.some.inj known
  · constructor
    · rintro rfl
      cases live.symm.trans gone
    · intro same
      rw [same, none] at known
      cases known

theorem expressionName_congr {scope : ScopeId} {cs : ChildList} (c : NodeClass)
    (scopes : r'.scopeName? scope = r.scopeName? scope) (heads : SameHeads r r' cs) :
    r'.expressionName scope c cs = r.expressionName scope c cs := by
  unfold expressionName expressionBasename scopedName
  rw [scopes, heads.childBasenames, heads.mergedQuals]

theorem childBasenames_ne_nil {cs : ChildList} (filled : cs.isEmpty = false) (r : Repository) :
    r.childBasenames cs ≠ [] := by
  intro none
  rw [childBasenames, List.map_eq_nil_iff] at none
  rw [ChildList.isEmpty, none] at filled
  cases filled

/-! ## 2. Well bracketed names -/

/-- In the basenames of nodes and in the names of scopes parentheses are matched, and commas stand
within parentheses. -/
structure WellBracketed (r : Repository) : Prop where
  nodes : ∀ {id n}, r.get? id = some n → Bracketed n.basename
  scopes : ∀ name, some name ∈ r.scopeNames → Bracketed name

end Repository

namespace Operation

/-- The text for a node or a scope that the operation gives by hand. -/
def givenText? : Operation → Option String
  | node _ name _ => some name
  | qualify basename _ _ _ => some basename
  | openScope _ name quals => some (qualifyName name quals)
  | _ => none

/-- Names that the operation gives by hand are well bracketed, and no class has parentheses or
commas in its name. -/
structure Bracketing (op : Operation) : Prop where
  given : ∀ text, op.givenText? = some text → Bracketed text
  classes : ∀ d ∈ op.definitions, Flat (Text.lowercase d.nodeClass.name)

end Operation

namespace Repository

variable {op : Operation} {r r' : Repository}

namespace WellBracketed

theorem scopePrefix (h : r.WellBracketed) (scope : ScopeId) : Bracketed (r.scopePrefix scope) := by
  unfold Repository.scopePrefix
  cases named : r.scopeName? scope with
  | none => decide
  | some name => exact (h.scopes name (mem_scopeNames named)).append (by decide)

theorem scopedName (h : r.WellBracketed) (scope : ScopeId) {name : String}
    (bracketed : Bracketed name) : Bracketed (r.scopedName scope name) := by
  rw [scopedName_eq]
  exact (h.scopePrefix scope).append bracketed

theorem childBasenames (h : r.WellBracketed) (cs : ChildList) :
    ∀ b ∈ r.childBasenames cs, Bracketed b := by
  intro b member
  obtain ⟨e, _, rfl⟩ := List.mem_map.mp member
  split
  · rename_i n here
    obtain ⟨id, _, here⟩ := Option.bind_eq_some_iff.mp here
    exact h.nodes here
  · decide

theorem expressionBasename (h : r.WellBracketed) (scope : ScopeId) {c : NodeClass}
    (flat : Flat (Text.lowercase c.name)) (cs : ChildList) :
    Bracketed (r.expressionBasename scope c cs) := by
  have listed := (bracketed_of_flat flat).append (.list (h.childBasenames cs))
  refine h.scopedName scope ?_
  simpa only [String.append_assoc] using listed

end WellBracketed

/-- The basename that an operation gives to a node is well bracketed. -/
theorem Names.bracketed {basename : String} {scope : ScopeId} {quals : Qualifiers}
    (named : Names op r basename scope quals) (bracketing : op.Bracketing) (h : r.WellBracketed) :
    Bracketed basename := by
  cases named with
  | node asked =>
    subst asked
    exact h.scopedName scope (bracketing.given _ rfl)
  | qualify asked =>
    subst asked
    exact bracketing.given _ rfl
  | @generated _ d n member =>
    have flat := bracketing.classes d member
    exact h.scopedName scope (bracketed_generatedName (bracketed_of_flat flat) n)
  | composed cs member => exact h.expressionBasename scope (bracketing.classes _ member) cs

theorem Deed.wellBracketed (h : Deed op r r') (bracketing : op.Bracketing)
    (before : r.WellBracketed) : r'.WellBracketed where
  nodes := fun here => by
    cases h.nameOrigin here with
    | old there same =>
      rw [same.basename]
      exact before.nodes there
    | asked named => exact named.bracketed bracketing before
    | constant value location new =>
      subst new
      exact bracketed_newConstantName r value
  scopes := fun name member => by
    rcases h.scopeNames_cases with same | ⟨parent, given, quals, rfl, same⟩
    · exact before.scopes name (same ▸ member)
    · rw [same, List.mem_append, List.mem_singleton, Option.some.injEq] at member
      rcases member with old | rfl
      · exact before.scopes name old
      · rw [scopedName_eq, qualifyName_append]
        exact (before.scopePrefix parent).append (bracketing.given _ rfl)

theorem Deeds.wellBracketed (h : Deeds op r r') (bracketing : op.Bracketing)
    (before : r.WellBracketed) : r'.WellBracketed := by
  induction h with
  | refl => exact before
  | tail _ last ih => exact last.wellBracketed bracketing ih

/-- A resolve names nothing. -/
theorem covers_wellBracketed : Covers fun r r' => r.WellBracketed → r'.WellBracketed := by
  refine covers_sameName.mono fun r r' ⟨scopes, nodes⟩ before => ⟨fun here => ?_, ?_⟩
  · obtain ⟨n, there, same⟩ := nodes here
    rw [same.basename]
    exact before.nodes there
  · rw [scopeNames, scopes]
    exact before.scopes

theorem Reachable.wellBracketed (h : Reachable (fun _ op => op.Bracketing) r) :
    r.WellBracketed := by
  obtain ⟨id, options, led⟩ := h
  refine led.kept covers_wellBracketed
    (fun r op bracketing => (op.deeds r).wellBracketed bracketing)
    ⟨fun here => (by cases here), fun name member => ?_⟩
  cases List.mem_singleton.mp member

/-! ## 3. What names tell apart -/

theorem toList_expressionName (r : Repository) (scope : ScopeId) (c : NodeClass) (cs : ChildList) :
    (r.expressionName scope c cs).toList = (r.scopePrefix scope).toList ++
      ((Text.lowercase c.name).toList ++ '(' :: ((",".intercalate (r.childBasenames cs)).toList ++
        ')' :: (qualifyName "" (r.mergedQuals cs)).toList)) := by
  have shape : r.expressionName scope c cs = r.scopePrefix scope ++ (Text.lowercase c.name ++ "(" ++
      ",".intercalate (r.childBasenames cs) ++ ")" ++ qualifyName "" (r.mergedQuals cs)) := by
    rw [expressionName, expressionBasename, scopedName_eq, qualifyName_append, qualifyName_eq]
  rw [shape]
  simp [String.toList_append]

/-- In one scope a name tells the class in lower case, the basenames of the children, and the text
of their qualifiers. -/
theorem expressionName_inj {scope : ScopeId} {c c' : NodeClass} {cs cs' : ChildList}
    (h : r.WellBracketed) (h' : r'.WellBracketed)
    (scopes : r'.scopePrefix scope = r.scopePrefix scope) (flat : Flat (Text.lowercase c.name))
    (flat' : Flat (Text.lowercase c'.name)) (filled : cs.isEmpty = false)
    (filled' : cs'.isEmpty = false) :
    r'.expressionName scope c' cs' = r.expressionName scope c cs ↔
      Text.lowercase c'.name = Text.lowercase c.name ∧
        r'.childBasenames cs' = r.childBasenames cs ∧
        qualifyName "" (r'.mergedQuals cs') = qualifyName "" (r.mergedQuals cs) := by
  rw [← String.toList_inj, toList_expressionName, toList_expressionName, scopes,
    List.append_cancel_left_eq]
  refine ⟨fun same => ?_, fun ⟨classes, basenames, quals⟩ => by rw [classes, basenames, quals]⟩
  have unopened {c : NodeClass} (flat : Flat (Text.lowercase c.name)) :
      '(' ∉ (Text.lowercase c.name).toList := fun member => flat '(' member (by decide)
  obtain ⟨classes, rest⟩ := cut_first (unopened flat') (unopened flat) same
  obtain ⟨basenames, quals⟩ := cut_list (childBasenames_ne_nil filled' r')
    (childBasenames_ne_nil filled r) (h'.childBasenames cs') (h.childBasenames cs) rest
  exact ⟨String.toList_inj.mp classes, basenames, String.toList_inj.mp quals⟩

/-- All children are nodes without qualifiers. -/
def Unqualified (r : Repository) (cs : ChildList) : Prop :=
  ∀ e ∈ cs.entries, ∃ id n, e.child.nodeId? = some id ∧ r.get? id = some n ∧ n.quals = .empty

namespace Unqualified

variable {cs cs' : ChildList}

theorem isLive (h : r.Unqualified cs) : ∀ id ∈ cs.nodeIds, r.isLive id := by
  intro id member
  obtain ⟨e, inside, number⟩ := List.mem_filterMap.mp member
  obtain ⟨id', n, number', here, _⟩ := h e inside
  cases number.symm.trans number'
  exact isLive_iff.mpr ⟨n, here⟩

/-- There is a node for each child. -/
theorem nodeIds_eq (h : r.Unqualified cs) :
    cs.nodeIds.map some = cs.entries.map (·.child.nodeId?) := by
  unfold ChildList.nodeIds
  rw [List.map_filterMap_some_eq_filter_map_isSome, List.filter_eq_self]
  intro child member
  obtain ⟨e, inside, rfl⟩ := List.mem_map.mp member
  obtain ⟨id, _, number, _⟩ := h e inside
  show e.child.nodeId?.isSome
  rw [number]
  rfl

/-- The children are found under their basenames. -/
theorem lookups (h : r.Unqualified cs) (names : r.DistinctNames) (qualified : r.Qualified) :
    (r.childBasenames cs).map r.lookup? = cs.nodeIds.map some := by
  rw [h.nodeIds_eq]
  unfold Repository.childBasenames
  rw [List.map_map]
  refine List.map_congr_left fun e inside => ?_
  obtain ⟨id, n, number, here, plain⟩ := h e inside
  have found : r.lookup? n.basename = some id := by
    have known := lookup?_of_get? names here
    rwa [qualified id n here, plain, qualifyName_empty] at known
  dsimp only [Function.comp_apply]
  rw [number, Option.bind_some, here]
  exact found

/-- Their basenames tell which nodes they are. -/
theorem childBasenames_eq_iff (h : r.Unqualified cs) (h' : r.Unqualified cs')
    (names : r.DistinctNames) (qualified : r.Qualified) :
    r.childBasenames cs' = r.childBasenames cs ↔ cs'.nodeIds = cs.nodeIds := by
  constructor
  · intro same
    have found := h'.lookups names qualified
    rw [same, h.lookups names qualified] at found
    exact (List.map_injective_iff.mpr (Option.some_injective _) found).symm
  · intro same
    have children : cs'.entries.map (·.child.nodeId?) = cs.entries.map (·.child.nodeId?) := by
      rw [← h'.nodeIds_eq, ← h.nodeIds_eq, same]
    rw [childBasenames_eq_map, childBasenames_eq_map, children]

theorem mergedQuals (h : r.Unqualified cs) : r.mergedQuals cs = .empty := by
  obtain ⟨entries, keyed, resolved⟩ := cs
  unfold Unqualified at h
  unfold Repository.mergedQuals
  dsimp only at h ⊢
  induction entries with
  | nil => rfl
  | cons e entries ih =>
    obtain ⟨⟨id, n, number, here, plain⟩, rest⟩ := List.forall_mem_cons.mp h
    rw [List.foldl_cons, number, Option.bind_some, here]
    dsimp only
    rw [plain]
    exact ih rest

end Unqualified

theorem Steps.qualified {p : Promise} (h : Steps p r r') (qualified : r.Qualified) :
    r'.Qualified := by
  induction h with
  | refl => exact qualified
  | tail _ last ih => exact last.qualified ih

end Repository

end NodeForest

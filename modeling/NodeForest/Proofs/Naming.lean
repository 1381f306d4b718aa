import NodeForest.Proofs.Change
import NodeForest.Proofs.Punctuation

/-!
# Names of nodes and of scopes

A node is named once, when it is registered, and a scope when it is opened. What a scope puts in
front of a name tells it from scopes of other names, and is all that is known of it in the name.

Results:
1. `scopePrefix`, `scopePrefix_injective`: what a scope puts in front.
2. `Deed.scopeNames`, `Changes.scopeNames`: scopes are only added.
3. `Deed.nameOrigin`: where the name of a node comes from; `covers_sameName`: a resolve names none;
   `Changes.sameName`: a node keeps its name.
-/

namespace NodeForest

open Relation

/-- The nodes have the same names, and are of the same scope. -/
structure Node.SameName (n n' : Node) : Prop where
  name : n'.name = n.name
  basename : n'.basename = n.basename
  scope : n'.scope = n.scope
  quals : n'.quals = n.quals

namespace Node.SameName

theorem refl (n : Node) : n.SameName n :=
  ⟨rfl, rfl, rfl, rfl⟩

theorem trans {n₁ n₂ n₃ : Node} (h : n₁.SameName n₂) (h' : n₂.SameName n₃) : n₁.SameName n₃ :=
  ⟨h'.name.trans h.name, h'.basename.trans h.basename, h'.scope.trans h.scope,
    h'.quals.trans h.quals⟩

end Node.SameName

theorem Node.Grows.sameName {k : Kept} {n n' : Node} (h : n.Grows k n') : n.SameName n' :=
  ⟨h.name, h.basename, h.scope, h.quals⟩

namespace Repository

variable {op : Operation} {p : Promise} {r r' : Repository}

/-! ## 1. Prefixes -/

/-- What the scope puts in front of names. -/
def scopePrefix (r : Repository) (scope : ScopeId) : String :=
  match r.scopeName? scope with
  | some outer => outer ++ "::"
  | none => ""

theorem scopedName_eq (r : Repository) (scope : ScopeId) (name : String) :
    r.scopedName scope name = r.scopePrefix scope ++ name := by
  unfold scopedName scopePrefix
  cases r.scopeName? scope with
  | none => exact String.empty_append.symm
  | some outer => rfl

theorem scopePrefix_injective {scope scope' : ScopeId}
    (same : r.scopePrefix scope = r'.scopePrefix scope') :
    r.scopeName? scope = r'.scopeName? scope' := by
  have filled : ∀ outer : String, outer ++ "::" ≠ "" := fun outer empty => by
    have := congrArg String.length empty
    simp at this
  unfold scopePrefix at same
  cases here : r.scopeName? scope <;> cases here' : r'.scopeName? scope' <;>
    rw [here, here'] at same
  case none.some => exact absurd same.symm (filled _)
  case some.none => exact absurd same (filled _)
  case some.some => rw [(String.append_left_inj "::").mp same]

/-! ## 2. Scopes -/

/-- The names of the scopes by their numbers, none for the root scope. -/
def scopeNames (r : Repository) : List (Option String) :=
  r.scopes.toList.map (·.name)

theorem length_scopeNames (r : Repository) : r.scopeNames.length = r.scopes.size := by
  simp [scopeNames]

theorem scopeName?_eq (r : Repository) (scope : ScopeId) :
    r.scopeName? scope = r.scopeNames[scope.index]?.join := by
  simp only [scopeName?, scopeNames, List.getElem?_map, Array.getElem?_toList]
  cases r.scopes[scope.index]? <;> rfl

theorem mem_scopeNames {scope : ScopeId} {name : String} (named : r.scopeName? scope = some name) :
    some name ∈ r.scopeNames := by
  rw [scopeName?_eq, Option.join_eq_some_iff] at named
  exact List.mem_of_getElem? named

/-- Scopes of the same number have the same name. -/
theorem scopeName?_congr (same : r'.scopeNames = r.scopeNames) :
    r'.scopeName? = r.scopeName? := by
  funext scope
  rw [scopeName?_eq, scopeName?_eq, same]

theorem scopedName_congr (same : r'.scopeNames = r.scopeNames) :
    r'.scopedName = r.scopedName := by
  funext scope name
  rw [scopedName, scopedName, scopeName?_congr same]

theorem scopeNames_relink (r : Repository) (id : NodeId) (f : Option Binding → Option Binding)
    (children : List NodeId) : (r.relink id f children).scopeNames = r.scopeNames := by
  rw [relink_eq]
  rfl

theorem scopeNames_noteClass (r : Repository) (id : NodeId) (className : String) :
    (r.noteClass id className).scopeNames = r.scopeNames := by
  obtain ⟨_, _, _, same⟩ := noteClass_eq r id className
  rw [same]
  rfl

theorem scopeNames_withConstant (r : Repository) (value : Constant) (location : Location) :
    (r.withConstant value location).scopeNames = r.scopeNames := by
  rw [withConstant_eq]
  rfl

/-- Counting a name changes no name of a scope. -/
theorem scopeNames_count {s : Scope} {scope : ScopeId} (name : String)
    (here : r.scopes[scope.index]? = some s) :
    ({ r with scopes := r.scopes.setIfInBounds scope.index (s.counted name) } :
      Repository).scopeNames = r.scopeNames := by
  refine List.ext_getElem? fun i => ?_
  simp only [scopeNames, List.getElem?_map, Array.getElem?_toList, Array.getElem?_setIfInBounds]
  split
  · rename_i same
    subst same
    obtain ⟨inside, _⟩ := Array.getElem?_eq_some_iff.mp here
    rw [here, if_pos inside]
    rfl
  · rfl

theorem scopeNames_addScope (r : Repository) (parent : ScopeId) (name : String)
    (quals : Qualifiers) : (r.addScope parent name quals).2.scopeNames =
      r.scopeNames ++ [some (qualifyName (r.scopedName parent name) quals)] := by
  simp [addScope, scopeNames]

/-- Only an operation that opens a scope adds to them. -/
theorem Deed.scopeNames_cases (h : Deed op r r') : r'.scopeNames = r.scopeNames ∨
    ∃ parent name quals, op = .openScope parent name quals ∧ r'.scopeNames =
      r.scopeNames ++ [some (qualifyName (r.scopedName parent name) quals)] := by
  cases h with
  | attach b => rw [scopeNames_noteClass, scopeNames_relink]; exact .inl rfl
  | extend | setFields => rw [scopeNames_relink]; exact .inl rfl
  | share value location => rw [scopeNames_withConstant]; exact .inl rfl
  | count scope name here => exact .inl (scopeNames_count name here)
  | openScope asked => exact .inr ⟨_, _, _, asked, scopeNames_addScope r _ _ _⟩
  | register | note | keep => exact .inl rfl

theorem Deed.scopeNames (h : Deed op r r')
    (closed : ∀ parent name quals, op ≠ .openScope parent name quals) :
    r'.scopeNames = r.scopeNames := by
  refine h.scopeNames_cases.resolve_right ?_
  rintro ⟨parent, name, quals, asked, _⟩
  exact closed parent name quals asked

theorem Step.scopeNames (h : Step p r r') : r.scopeNames <+: r'.scopeNames := by
  cases h with
  | attach b => rw [scopeNames_noteClass, scopeNames_relink]
  | extend | setFields => rw [scopeNames_relink]
  | share value location => rw [scopeNames_withConstant]
  | count scope name here => rw [scopeNames_count name here]
  | openScope name => exact ⟨[some name], by simp [Repository.scopeNames]⟩
  | register | note | keep => exact List.prefix_refl _

theorem Change.scopeNames (h : Change p r r') : r.scopeNames <+: r'.scopeNames := by
  cases h with
  | step h => exact h.scopeNames
  | settle =>
    rw [Repository.scopeNames, Repository.scopeNames, (thinned_settle r).scopes]
  | place => rw [place_eq]; exact List.prefix_refl _
  | turn phase => exact List.prefix_refl _

theorem Changes.scopeNames (h : Changes p r r') : r.scopeNames <+: r'.scopeNames := by
  induction h with
  | refl => exact List.prefix_refl _
  | tail _ last ih => exact ih.trans last.scopeNames

/-- A scope keeps its name. -/
theorem Changes.scopeName? (h : Changes p r r') {scope : ScopeId}
    (inside : scope.index < r.scopes.size) : r'.scopeName? scope = r.scopeName? scope := by
  rw [← length_scopeNames] at inside
  obtain ⟨more, longer⟩ := h.scopeNames
  rw [scopeName?_eq, scopeName?_eq, ← longer, List.getElem?_append_left inside]

/-! ## 3. Nodes -/

/-- Where a node that is live after a deed has its name from: it had the name, or the operation asks
for it, or a new constant has it. -/
inductive NameOrigin (op : Operation) (r : Repository) (id : NodeId) (n : Node) : Prop
  | old {n₀ : Node} : r.get? id = some n₀ → n₀.SameName n → NameOrigin op r id n
  | asked : Names op r n.basename n.scope n.quals → n.name = qualifyName n.basename n.quals →
      NameOrigin op r id n
  | constant (value : Constant) (location : Location) : n = r.constantNode value location →
      NameOrigin op r id n

theorem sameName_relink {id other : NodeId} {f : Option Binding → Option Binding}
    {children : List NodeId} {n' : Node} (here : (r.relink id f children).get? other = some n') :
    ∃ n, r.get? other = some n ∧ n.SameName n' := by
  rw [get?_relink] at here
  obtain ⟨n, there, rfl⟩ := Option.map_eq_some_iff.mp here
  refine ⟨n, there, ?_⟩
  have changed : n.SameName (if other = id then { n with binding := f n.binding } else n) := by
    split <;> exact ⟨rfl, rfl, rfl, rfl⟩
  dsimp only
  split
  · exact changed.trans (Node.Grows.withParent (k := Promise.none.kept) _ id).sameName
  · exact changed

theorem Deed.nameOrigin (h : Deed op r r') {id : NodeId} {n : Node} (here : r'.get? id = some n) :
    NameOrigin op r id n := by
  cases h with
  | register location free named =>
    rw [get?_register] at here
    split at here
    · cases here
      exact .asked named rfl
    · exact .old here (.refl n)
  | share value location =>
    rw [get?_withConstant] at here
    split at here
    · cases here
      exact .constant value location rfl
    · exact .old here (.refl n)
  | attach =>
    rw [get?_noteClass] at here
    obtain ⟨n₀, there, same⟩ := sameName_relink here
    exact .old there same
  | extend | setFields =>
    obtain ⟨n₀, there, same⟩ := sameName_relink here
    exact .old there same
  | note | count | openScope | keep => exact .old here (.refl n)

/-- Every node that is live after what a resolve does, besides calling its hook, was live under its
name before. -/
theorem covers_sameName : Covers fun r r' => r'.scopes = r.scopes ∧
    ∀ {id n'}, r'.get? id = some n' → ∃ n, r.get? id = some n ∧ n.SameName n' where
  note := fun r ds => ⟨rfl, fun here => ⟨_, here, .refl _⟩⟩
  turn := fun r phase => ⟨rfl, fun here => ⟨_, here, .refl _⟩⟩
  settle := fun r => ⟨(thinned_settle r).scopes, fun {id n'} here => by
    obtain ⟨n, there, same⟩ := (thinned_settle r).node here
    exact ⟨n, there, by rw [same]; exact ⟨rfl, rfl, rfl, rfl⟩⟩⟩
  place := fun r => ⟨by rw [place_eq], fun {id n'} here => by
    rw [get?_place] at here
    obtain ⟨n, there, rfl⟩ := Option.map_eq_some_iff.mp here
    exact ⟨n, there, rfl, rfl, rfl, rfl⟩⟩

/-- A node keeps its name until it is removed. -/
theorem Change.sameName (h : Change p r r') {id : NodeId} {n' : Node}
    (given : id.index < r.nodes.size) (here : r'.get? id = some n') :
    ∃ n, r.get? id = some n ∧ n.SameName n' := by
  cases h with
  | step h =>
    cases there : r.get? id with
    | none =>
      rw [h.gone given there] at here
      cases here
    | some n =>
      obtain ⟨n₁, here₁, grows⟩ := h.grows there
      cases here.symm.trans here₁
      exact ⟨n, rfl, grows.sameName⟩
  | settle => exact (covers_sameName.settle r).2 here
  | place => exact (covers_sameName.place r).2 here
  | turn phase => exact (covers_sameName.turn r phase).2 here

theorem Changes.sameName (h : Changes p r r') {id : NodeId} {n' : Node}
    (given : id.index < r.nodes.size) (here : r'.get? id = some n') :
    ∃ n, r.get? id = some n ∧ n.SameName n' := by
  induction h using ReflTransGen.head_induction_on with
  | refl => exact ⟨n', here, .refl n'⟩
  | head first _ ih =>
    obtain ⟨n₁, here₁, same⟩ := ih (Nat.lt_of_lt_of_le given first.size)
    obtain ⟨n, there, same'⟩ := first.sameName given here₁
    exact ⟨n, there, same'.trans same⟩

end Repository

end NodeForest

import NodeForest.Proofs.Decomposition

/-!
# Operations only add

Operations add to a repository and take nothing from it, whether they succeed or fail: a node that
is live stays so under its name, a bound one keeps its definition, and the names, the diagnostics
and the counters for generated names only get further. The lists of a node are extended by
operations on that very node, and so are the fields of its record set.

Results:
1. `counterOf_uniqueName`: what is counted when a name is generated; `Grown`: what an operation
   leaves as it is, and what it only adds to.
2. `Step.grown`, `grown_attach`: steps, and the attachment of any definition.
3. `Operation.grown`, `Operation.grown_after`: every operation.
-/

namespace NodeForest

open Relation NodeForest.Action

namespace Repository

/-! ## 1. Growth -/

/-- How often a scope has generated names for `name`. -/
def counterOf (r : Repository) (scope : ScopeId) (name : String) : Nat :=
  (r.scopes[scope.index]?).elim 0 (counter · name)

/-- Only the name that is counted counts, and only in its scope. -/
theorem counterOf_count {r : Repository} {s : Scope} {scope : ScopeId} (name : String)
    (here : r.scopes[scope.index]? = some s) (scope' : ScopeId) (name' : String) :
    ({ r with scopes := r.scopes.setIfInBounds scope.index (s.counted name) } :
      Repository).counterOf scope' name' =
        if scope = scope' ∧ name = name' then r.counterOf scope name + 1
        else r.counterOf scope' name' := by
  obtain ⟨i⟩ := scope
  obtain ⟨j⟩ := scope'
  obtain ⟨inside, _⟩ := Array.getElem?_eq_some_iff.mp here
  simp only [counterOf, ScopeId.mk.injEq] at here ⊢
  by_cases same : i = j
  · subst same
    simp only [here, Array.getElem?_setIfInBounds_self_of_lt inside, Option.elim_some, counter,
      Scope.counted, OrderedMap.get?_insert, beq_iff_eq, true_and, eq_comm (a := name')]
    split <;> rfl
  · simp only [Array.getElem?_setIfInBounds_ne same, same, false_and, ↓reduceIte]

theorem uniqueName_fst (r : Repository) (scope : ScopeId) (name : String) :
    (r.uniqueName scope name).1 = generatedName name (r.counterOf scope name) := by
  rw [uniqueName, counterOf]
  cases r.scopes[scope.index]? <;> rfl

/-- A scope that is open counts the names it generates. -/
theorem counterOf_uniqueName (r : Repository) (scope : ScopeId) (name : String)
    (scope' : ScopeId) (name' : String) :
    (r.uniqueName scope name).2.counterOf scope' name' =
      if (scope = scope' ∧ scope'.index < r.scopes.size) ∧ name = name' then
        r.counterOf scope name + 1
      else r.counterOf scope' name' := by
  rw [uniqueName]
  split
  · rename_i outside
    rw [if_neg]
    rintro ⟨⟨rfl, inside⟩, _⟩
    exact Nat.not_lt.mpr (Array.getElem?_eq_none_iff.mp outside) inside
  · rename_i s here
    obtain ⟨inside, _⟩ := Array.getElem?_eq_some_iff.mp here
    refine (counterOf_count name here scope' name').trans (if_congr ?_ rfl rfl)
    exact and_congr_left fun _ => ⟨fun same => ⟨same, same ▸ inside⟩, And.left⟩

/-- `r'` comes from `r` by additions, which keep of the definition of each node what `k` says. -/
structure Grown (k : NodeId → Kept) (r r' : Repository) : Prop where
  node : ∀ {id n}, r.get? id = some n → ∃ n', r'.get? id = some n' ∧ n.Grows (k id) n'
  names : r.nameMap <+: r'.nameMap
  errors : r.errors <+: r'.errors
  counters : ∀ scope name, r.counterOf scope name ≤ r'.counterOf scope name

namespace Grown

variable {k : NodeId → Kept} {r r' : Repository}

theorem refl (r : Repository) : Grown k r r :=
  ⟨fun here => ⟨_, here, .refl _⟩, List.prefix_refl _, List.prefix_refl _, fun _ _ => Nat.le_refl _⟩

theorem trans {r₁ r₂ r₃ : Repository} (h : Grown k r₁ r₂) (h' : Grown k r₂ r₃) : Grown k r₁ r₃ where
  node := by
    intro id n here
    obtain ⟨n', here', grows⟩ := h.node here
    obtain ⟨n'', here'', grows'⟩ := h'.node here'
    exact ⟨n'', here'', grows.trans grows'⟩
  names := h.names.trans h'.names
  errors := h.errors.trans h'.errors
  counters := fun scope name => Nat.le_trans (h.counters scope name) (h'.counters scope name)

/-- What an action comes to whose parts only add. -/
theorem of_leads {α : Type} {a : Action α} (h : Leads (Grown k) a r fun _ _ => True) :
    Grown k r (exec a r).2 := by
  obtain ⟨chain, _⟩ := h
  generalize (exec a r).2 = r' at chain
  induction chain with
  | refl => exact .refl r
  | tail _ last ih => exact ih.trans last

/-- A change that leaves the nodes alone. -/
theorem of_nodes (nodes : r'.nodes = r.nodes) (errors : r.errors <+: r'.errors)
    (counters : ∀ scope name, r.counterOf scope name ≤ r'.counterOf scope name) : Grown k r r' where
  node := fun here => ⟨_, by rw [get?, nodes]; exact here, .refl _⟩
  names := by
    have same : r'.nameMap = r.nameMap := by
      simp only [nameMap_eq, nameOf?, get?, nodes]
    rw [same]
  errors := errors
  counters := counters

theorem noteClass (r : Repository) (id : NodeId) (className : String) :
    Grown k r (r.noteClass id className) := by
  obtain ⟨_, _, _, same⟩ := noteClass_eq r id className
  rw [same]
  exact .of_nodes rfl (List.prefix_refl _) fun _ _ => Nat.le_refl _

/-- A further parent, and a definition that grows. -/
theorem relink {id : NodeId} {f : Option Binding → Option Binding} (children : List NodeId)
    (grows : ∀ n, r.get? id = some n → ∀ b, n.binding = some b →
      ∃ b', f (some b) = some b' ∧ b.Grows (k id) b') : Grown k r (r.relink id f children) where
  node := fun {other n} here =>
    get?_relink_grows here fun same b bound => by subst same; exact grows n here b bound
  names := by
    refine nameMap_prefix (Nat.le_of_eq (nodes_size_relink ..).symm) fun other _ => ?_
    rw [nameOf?, get?_relink, nameOf?, Option.map_map]
    congr 1
    funext n
    dsimp only [Function.comp]
    split <;> split <;> simp
  errors := (extends_relink r id f children).errors
  counters := fun scope name => by rw [relink_eq]; exact Nat.le_refl _

theorem addScope (r : Repository) (s : Scope) : Grown k r { r with scopes := r.scopes.push s } := by
  refine .of_nodes rfl (List.prefix_refl _) fun scope name => ?_
  simp only [counterOf, Array.getElem?_push]
  split
  · rename_i new
    simp [new]
  · exact Nat.le_refl _

theorem count {s : Scope} {scope : ScopeId} (name : String)
    (here : r.scopes[scope.index]? = some s) :
    Grown k r { r with scopes := r.scopes.setIfInBounds scope.index (s.counted name) } := by
  refine .of_nodes rfl (List.prefix_refl _) fun scope' name' => ?_
  rw [counterOf_count name here]
  split
  · rename_i same
    obtain ⟨rfl, rfl⟩ := same
    exact Nat.le_succ _
  · exact Nat.le_refl _

end Grown

/-! ## 2. Steps -/

variable {p : Promise} {r r' : Repository}

theorem Step.counters (h : Step p r r') (scope : ScopeId) (name : String) :
    r.counterOf scope name ≤ r'.counterOf scope name := by
  have relinked (id : NodeId) (f : Option Binding → Option Binding) (children : List NodeId) :
      (r.relink id f children).counterOf scope name = r.counterOf scope name := by
    rw [relink_eq]
    rfl
  cases h with
  | @attach id _ b =>
    rw [← relinked id (fun _ => some b) b.childIds]
    exact (Grown.noteClass (k := fun _ => p.kept) _ id b.className).counters scope name
  | extend | setFields => exact Nat.le_of_eq (relinked _ _ _).symm
  | share value location =>
    rw [withConstant_eq]
    exact Nat.le_refl _
  | count scope' name' here =>
    exact (Grown.count (k := fun _ => p.kept) name' here).counters scope name
  | openScope name' =>
    exact (Grown.addScope (k := fun _ => p.kept) r { name := some name' }).counters scope name
  | register | note | keep => exact Nat.le_refl _

theorem Step.grown (h : Step p r r') : Grown (fun _ => p.kept) r r' where
  node := h.grows
  names := nameMap_prefix h.extends.size fun _ => h.nameOf?
  errors := h.extends.errors
  counters := h.counters

/-- Under a promise about fields and lists, steps change no definition. -/
theorem Steps.grown {k : NodeId → Kept} (h : Steps .binding r r') : Grown k r r' := by
  induction h with
  | refl => exact .refl r
  | tail _ step ih =>
    refine ih.trans ⟨fun here => ?_, step.grown.names, step.grown.errors, step.grown.counters⟩
    obtain ⟨n', here', grows⟩ := step.grown.node here
    exact ⟨n', here', grows.mono (fun _ => trivial) fun _ _ => trivial⟩

/-- Attaching any definition changes none that there is. -/
theorem grown_attach (k : NodeId → Kept) (id : NodeId) (d : Definition) (location : Location)
    (r : Repository) : Grown k r ((attach id d location).exec r).2 := by
  cases here : r.get? id with
  | none => rw [exec_attach_gone d location here]; exact .refl r
  | some n =>
    cases bound : n.binding with
    | some b =>
      rw [exec_attach_bound d location here bound]
      split <;> exact .refl r
    | none =>
      rw [exec_attach_unbound d location here bound]
      refine Grown.trans (.relink _ fun n' there b' bound' => ?_) (.noteClass _ _ _)
      rw [here] at there
      cases there
      rw [bound] at bound'
      cases bound'

/-! ## 3. Operations -/

theorem leads_grown {α : Type} {k : NodeId → Kept} {a : Action α} {Q : α → Repository → Prop}
    (h : Leads (Step .binding) a r Q) : Leads (Grown k) a r Q :=
  h.mono fun _ _ step => Steps.grown (.single step)

/-- A bind of any definition takes the steps of resolving its children, and attaches what they have
come to. -/
theorem leads_bind_of {S : Repository → Repository → Prop}
    (steps : ∀ r r', Step .binding r r' → S r r')
    (attaches : ∀ id d location r, S r ((attach id d location).exec r).2) (id : NodeId)
    (argument : Except BuildError Child) (location : Location) (r : Repository) :
    Leads S (bind id argument location) r fun _ _ => True := by
  have tried : Leads S (tryBind id argument location) r fun _ _ => True := by
    rcases exec_tryBind_cases location id argument r with
      ⟨e, refused⟩ | ⟨c, d, node, rfl, denoted, here⟩
    · exact .of_exec refused (.throw _)
    · have resolves (l : ChildList) (r : Repository) :=
        (leads_resolveChildren location node.scope l r (allocates_binding _)).mono steps
      refine .of_exec (exec_tryBind location denoted here) ?_
      refine .bind (resolves d.children r) fun cs r₁ _ _ => ?_
      refine .bind (resolves d.steps r₁) fun ss r₂ _ _ => ?_
      exact ⟨.single (attaches id _ location r₂), fun _ _ => trivial⟩
  refine ⟨?_, fun _ _ => trivial⟩
  rw [bind, exec_recording]
  rcases run : (tryBind id argument location).exec r with ⟨(d | ds | _) | _, r₁⟩
  · exact (tried.steps run).trans ((leads_addError d r₁.frames r₁).mono steps).1
  all_goals exact tried.steps run

theorem grown_bind (k : NodeId → Kept) (id : NodeId) (argument : Except BuildError Child)
    (location : Location) (r : Repository) : Grown k r ((bind id argument location).exec r).2 :=
  .of_leads (leads_bind_of (fun _ _ step => Steps.grown (.single step)) (grown_attach k) id argument
    location r)

theorem grown_extendChildren (k : NodeId → Kept) (role : ChildRole) (id : NodeId) (cs : List Child)
    (location : Location) (r : Repository) (open' : ¬(k id).list role) :
    Grown k r ((extendChildren role id cs location).exec r).2 := by
  refine .of_leads (.get ?_)
  cases (r.get? id).filter (·.isBound) with
  | none => exact .throw _
  | some node =>
    have resolves := leads_resolveChildren (p := .binding) location node.scope (.positional cs) r
      (allocates_binding _)
    refine .bind (leads_grown resolves) fun l r₁ _ _ => .modifyGet (.single ?_) trivial
    exact .relink _ fun _ _ b _ => ⟨_, rfl, .extendBinding open' _ b⟩

theorem grown_setOptions (k : NodeId → Kept) (id : NodeId) (options : List (String × Value))
    (location : Location) (r : Repository) (open' : ¬(k id).record) :
    Grown k r ((setOptions id options location).exec r).2 := by
  refine .of_leads (.get ?_)
  dsimp only
  split
  · exact .bind (P := fun _ _ => False) (.throw _) fun _ _ _ h => h.elim
  · refine .set (.single (.relink (r := r) [] fun _ _ b _ => ?_)) trivial
    exact ⟨_, rfl, .withRecord open' b _⟩

end Repository

open Repository

/-- The operation extends no list that is to be kept, and sets no fields of a record that is. -/
def Operation.Spares (k : NodeId → Kept) : Operation → Prop
  | .extend role target _ _ => ¬(k target).list role
  | .setOptions target _ _ => ¬(k target).record
  | _ => True

/-- An operation only adds, whether it fails or not, and keeps what it spares. -/
theorem Operation.grown {k : NodeId → Kept} (op : Operation) (spares : op.Spares k)
    (r : Repository) : Grown k r (op.after r) := by
  have quiet (allows : Promise.binding.Allows r op) : Grown k r (op.after r) :=
    Steps.grown (Operation.steps allows)
  have plain (none : op.arguments = []) (records : op.LeavesRecords) (lists : op.LeavesLists) :
      Grown k r (op.after r) :=
    quiet ⟨False.elim, fun _ c member => (by rw [none] at member; cases member), fun _ => records,
      fun _ => lists⟩
  have value {α : Type} {a : Action α} {P : α → Repository → Prop}
      (h : Leads (Step .binding) a r P) : Grown k r (exec (do let _ ← a) r).2 :=
    Steps.grown (Leads.bind h fun _ _ _ _ => .pure (Q := fun _ _ => True) trivial).1
  cases op with
  | openScope parent name quals => exact .addScope r _
  | bind id argument location => exact grown_bind _ id argument location r
  | bindAnonymous scope argument location =>
    exact value (leads_bindAnonymous location scope argument r (allocates_binding _))
  | extend role id cs location => exact grown_extendChildren _ role id cs location r spares
  | setOptions id options location => exact grown_setOptions _ id options location r spares
  | node | qualify | uniqueName | makeConstant | addError | report | pin | unpin | hold | release
    | pushFrame | popFrame => exact plain rfl trivial trivial

/-- What an operation leaves of the definition of each node as it is: all but the list that it
extends, or the record whose fields it sets. -/
def Operation.kept : Operation → NodeId → Kept
  | .extend role target _ _, other => ⟨True, fun role' => ¬(other = target ∧ role' = role)⟩
  | .setOptions target _ _, other => ⟨other ≠ target, fun _ => True⟩
  | _, _ => ⟨True, fun _ => True⟩

theorem Operation.spares_kept (op : Operation) : op.Spares op.kept := by
  cases op with
  | extend => exact fun kept => kept ⟨rfl, rfl⟩
  | setOptions => exact fun kept => kept rfl
  | _ => trivial

end NodeForest

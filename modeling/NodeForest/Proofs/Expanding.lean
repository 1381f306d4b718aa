import NodeForest.Proofs.FactoryChain

/-!
# Expanding a child

Two functions follow a chain of factories. One counts its calls and then goes on inside the
definition at the end, with a fresh count for each child; the other only looks for the definition.
They stop at the same place, and beyond the limit a factory stays where the chain began, at any
depth.

Results:
1. `Child.Quiet`: the calls on the way have no effects. `Child.Quiet.exists_chain`: such a chain
   ends; `Child.Quiet.run_expand`: the workspace stays as it is.
2. `Child.At`: what stands where in a child, chains being followed on the way.
   `Child.Quiet.at_expanded`: the factories of an expanded child.
3. `Child.expansion_resolves`: expanding and resolving agree.
-/

namespace NodeForest

open Repository (ChildRole)

variable {w : Workspace} {c e : Child} {d : Definition} {n calls : Nat}

/-! ## 1. Children without effects -/

/-- One of the two lists. -/
def Definition.list (d : Definition) : ChildRole → ChildList
  | .child => d.children
  | .step => d.steps

/-- Calling the factories of the child in `w`, and those that they give, has no effects. Resolved
lists, which are not expanded, may hold any factories. -/
inductive Child.Quiet (w : Workspace) : Child → Prop
  | empty : Quiet w .empty
  | name (name : String) : Quiet w (.name name)
  | constant (value : Constant) : Quiet w (.constant value)
  | node (ref : NodeRef) : Quiet w (.node ref)
  | call {number : Nat} {body : Factory} {given : Child} :
      body.call.run w = (given, w) → Quiet w given → Quiet w (.factory number body)
  | inside {d : Definition} :
      (∀ role, (d.list role).resolved = false → ∀ e ∈ (d.list role).entries, Quiet w e.child) →
      Quiet w (.pending d)

/-- The child as it is after its factories have been called in `w`. -/
def Child.expanded (w : Workspace) (c : Child) : Child :=
  ((c.expand factoryHost).run w).1

def Entry.expanded (w : Workspace) (e : Entry) : Entry :=
  { e with child := e.child.expanded w }

def ChildList.expanded (w : Workspace) (l : ChildList) : ChildList :=
  if l.resolved then l else { l with entries := l.entries.map (·.expanded w) }

theorem run_expandAll {es : List Entry}
    (quiet : ∀ e ∈ es, (e.child.expand factoryHost).run w = (e.child.expanded w, w)) :
    (Entry.expandAll factoryHost es).run w = (es.map (·.expanded w), w) := by
  induction es with
  | nil => rfl
  | cons e es ih =>
    rw [List.forall_mem_cons] at quiet
    have first : (e.expand factoryHost).run w = (e.expanded w, w) := by
      obtain ⟨label, child⟩ := e
      rw [Entry.expand, ← Child.expand, StateT.run_bind, quiet.1]
      rfl
    rw [Entry.expandAll, StateT.run_bind, first]
    show (Entry.expandAll factoryHost es >>= fun es => pure (e.expanded w :: es)).run w = _
    rw [StateT.run_bind, ih quiet.2]
    rfl

theorem ChildList.run_expand {l : ChildList}
    (quiet : l.resolved = false →
      ∀ e ∈ l.entries, (e.child.expand factoryHost).run w = (e.child.expanded w, w)) :
    (l.expand factoryHost).run w = (l.expanded w, w) := by
  obtain ⟨entries, keyed, resolved⟩ := l
  rw [ChildList.expand, ChildList.expanded]
  cases resolved with
  | true => rfl
  | false =>
    show (Entry.expandAll factoryHost entries >>= fun es =>
      pure (⟨es, keyed, false⟩ : ChildList)).run w = _
    rw [StateT.run_bind, run_expandAll (quiet rfl)]
    rfl

theorem Definition.run_expand
    (quiet : ∀ role, (d.list role).resolved = false →
      ∀ e ∈ (d.list role).entries, (e.child.expand factoryHost).run w = (e.child.expanded w, w)) :
    (d.expand factoryHost).run w =
      ({ d with children := d.children.expanded w, steps := d.steps.expanded w }, w) := by
  obtain ⟨nodeClass, children, steps, record⟩ := d
  have first : (children.expand factoryHost).run w = _ := ChildList.run_expand (quiet .child)
  have second : (steps.expand factoryHost).run w = _ := ChildList.run_expand (quiet .step)
  rw [Definition.expand, StateT.run_bind, first]
  show (steps.expand factoryHost >>= fun steps =>
    pure (⟨nodeClass, children.expanded w, steps, record⟩ : Definition)).run w = _
  rw [StateT.run_bind, second]
  rfl

theorem Child.run_expand_pending {d' : Definition}
    (expands : (d.expand factoryHost).run w = (d', w)) :
    ((Child.pending d).expand factoryHost).run w = (.pending d', w) := by
  show (d.expand factoryHost >>= fun d => pure (Child.pending d)).run w = _
  rw [StateT.run_bind, expands]
  rfl

namespace Child.Quiet

/-- Along a chain, children stay without effects. -/
theorem of_chain (quiet : Quiet w c) (chain : c.Chain w n e) : Quiet w e := by
  induction chain with
  | nil c => exact quiet
  | call gives chain ih =>
    cases quiet with
    | call gives' quiet =>
      obtain rfl := (Prod.mk.inj (gives.symm.trans gives')).1
      exact ih quiet

theorem behind (quiet : Quiet w c) : ∀ n, Quiet w (c.behind n)
  | 0 => quiet
  | n + 1 => .call rfl (quiet.behind n)

theorem gives {number : Nat} {body : Factory} (quiet : Quiet w (.factory number body)) :
    ∃ given, body.call.run w = (given, w) := by
  cases quiet with
  | call gives quiet => exact ⟨_, gives⟩

/-- The chain ends. -/
theorem exists_chain (quiet : Quiet w c) : ∃ n e, c.Chain w n e ∧ e.isFactory = false := by
  induction quiet with
  | empty | name | constant | node | inside => exact ⟨0, _, .nil _, rfl⟩
  | call gives quiet ih =>
    obtain ⟨n, e, chain, ends⟩ := ih
    exact ⟨n + 1, e, .call gives chain, ends⟩

/-- Expanding it has no effect, however many calls are made. -/
theorem after_expandWithin (quiet : Quiet w c) (calls : Nat) :
    ((c.expandWithin factoryHost calls).run w).2 = w := by
  induction quiet generalizing calls with
  | empty | name | constant | node => rfl
  | @inside d quiet ih =>
    have expands := Definition.run_expand fun role unresolved e mem =>
      Prod.ext rfl (ih role unresolved e mem callLimit)
    exact congrArg Prod.snd (run_expand_pending expands)
  | @call number body given gives quiet ih =>
    cases calls with
    | zero => rfl
    | succ calls =>
      show ((body.expandWithin factoryHost calls).run w).2 = w
      rw [Factory.expandWithin_eq, StateT.run_bind, gives]
      exact ih calls

theorem run_expand (quiet : Quiet w c) : (c.expand factoryHost).run w = (c.expanded w, w) :=
  Prod.ext rfl (quiet.after_expandWithin callLimit)

/-- A nested definition without effects is expanded child by child. -/
theorem expanded_pending (quiet : Quiet w (.pending d)) :
    (Child.pending d).expanded w =
      .pending { d with children := d.children.expanded w, steps := d.steps.expanded w } := by
  cases quiet with
  | inside quiet =>
    have expands := Definition.run_expand fun role unresolved e mem =>
      (quiet role unresolved e mem).run_expand
    exact congrArg Prod.fst (run_expand_pending expands)

end Child.Quiet

/-! ## 2. What stands where -/

/-- A way down into nested definitions: the list, and the place in it, again and again. -/
abbrev ChildPath := List (ChildRole × Nat)

theorem Child.Chain.eq_of_zero (chain : c.Chain w 0 e) : c = e := by
  cases chain
  rfl

/-- `c.At w calls path s`: at the path in `c`, outside resolved lists, `s` stands. On the way down,
chains of at most `calls` factories are followed; with no calls, this is where children are. -/
inductive Child.At (w : Workspace) (calls : Nat) : Child → ChildPath → Child → Prop
  | here (c : Child) : At w calls c [] c
  | inside {c s : Child} {n i : Nat} {d : Definition} {role : ChildRole} {e : Entry}
      {path : ChildPath} : n ≤ calls → c.Chain w n (.pending d) → (d.list role).resolved = false →
      (d.list role).entries[i]? = some e → At w calls e.child path s →
      At w calls c ((role, i) :: path) s

theorem ChildList.resolved_expanded (l : ChildList) : (l.expanded w).resolved = l.resolved := by
  unfold ChildList.expanded
  split <;> rfl

theorem ChildList.getElem?_expanded {l : ChildList} (unresolved : l.resolved = false) (i : Nat) :
    (l.expanded w).entries[i]? = l.entries[i]?.map (·.expanded w) := by
  unfold ChildList.expanded
  rw [if_neg (ne_true_of_eq_false unresolved), List.getElem?_map]

theorem Child.expanded_not_factory (ends : e.isFactory = false) :
    (e.expanded w).isFactory = false := by
  cases e with
  | factory number body => nomatch ends
  | empty | name | constant | node | pending => rfl

theorem Child.eq_pending_of_expanded (ends : e.isFactory = false)
    (nested : e.expanded w = .pending d) : ∃ d', e = .pending d' := by
  cases e with
  | factory number body => nomatch ends
  | pending d' => exact ⟨d', rfl⟩
  | empty | name | constant | node => nomatch nested

namespace Child.Quiet

/-- The lists of a nested definition are expanded one by one. -/
theorem list_expanded (quiet : Quiet w (.pending d)) :
    ∃ d', (Child.pending d).expanded w = .pending d' ∧
      ∀ role, d'.list role = (d.list role).expanded w := by
  refine ⟨_, quiet.expanded_pending, fun role => ?_⟩
  cases role <;> rfl

/-- Either the chain ends within the limit, and its end is expanded, or a factory stays. -/
theorem end_or_factory (quiet : Quiet w c) :
    (∃ n e, n ≤ callLimit ∧ c.Chain w n e ∧ e.isFactory = false ∧
      c.expanded w = e.expanded w) ∨
    ∃ number body, c.Chain w callLimit (.factory number body) ∧
      c.expanded w = .factory number body := by
  obtain ⟨n, e, chain, ends⟩ := quiet.exists_chain
  rcases Nat.lt_or_ge callLimit n with beyond | within
  · obtain ⟨number, body, first⟩ := chain.factory_at beyond
    exact .inr ⟨number, body, first, congrArg Prod.fst first.run_expand_beyond⟩
  · exact .inl ⟨n, e, within, chain, ends, congrArg Prod.fst (chain.run_expand within ends)⟩

theorem entry (quiet : Quiet w (.pending d)) {role : ChildRole} {i : Nat} {e : Entry}
    (unresolved : (d.list role).resolved = false) (found : (d.list role).entries[i]? = some e) :
    Quiet w e.child := by
  cases quiet with
  | inside quiet => exact quiet role unresolved e (List.mem_of_getElem? found)

theorem of_at {path : ChildPath} {s : Child} (quiet : Quiet w c) (stands : c.At w calls path s) :
    Quiet w s := by
  induction stands with
  | here c => exact quiet
  | inside within chain unresolved found stands ih =>
    exact ih ((quiet.of_chain chain).entry unresolved found)

/-- A factory stays exactly if the calls lead to it. -/
theorem expanded_eq_factory (quiet : Quiet w c) {number : Nat} {body : Factory} :
    c.expanded w = .factory number body ↔ c.Chain w callLimit (.factory number body) := by
  refine ⟨fun stays => ?_, fun chain => congrArg Prod.fst chain.run_expand_beyond⟩
  rcases quiet.end_or_factory with ⟨n, e, within, chain, ends, expands⟩ |
    ⟨number', body', chain, expands⟩
  · have remains := expanded_not_factory (w := w) ends
    rw [← expands, stays] at remains
    nomatch remains
  · obtain ⟨rfl, rfl⟩ := Child.factory.inj (stays.symm.trans expands)
    exact chain

/-- Where the expanded child has a nested definition, the calls lead to one, and its children are
expanded in their turn. -/
theorem at_expanded_cons (quiet : Quiet w c) {role : ChildRole} {i : Nat} {path : ChildPath}
    {s : Child} :
    (c.expanded w).At w 0 ((role, i) :: path) s ↔
      ∃ n d e, n ≤ callLimit ∧ c.Chain w n (.pending d) ∧ (d.list role).resolved = false ∧
        (d.list role).entries[i]? = some e ∧ (e.child.expanded w).At w 0 path s := by
  constructor
  · intro stands
    generalize same : c.expanded w = expanded at stands
    cases stands with
    | inside none chain unresolved found stands =>
      obtain rfl := Nat.le_zero.mp none
      obtain rfl := chain.eq_of_zero
      rcases quiet.end_or_factory with ⟨n, e, within, chain, ends, expands⟩ |
        ⟨number, body, chain, expands⟩
      · obtain ⟨d, rfl⟩ := eq_pending_of_expanded ends (expands.symm.trans same)
        obtain ⟨d', nested, lists⟩ := (quiet.of_chain chain).list_expanded
        obtain rfl := Child.pending.inj (same.symm.trans (expands.trans nested))
        rw [lists, ChildList.resolved_expanded] at unresolved
        rw [lists, ChildList.getElem?_expanded unresolved, Option.map_eq_some_iff] at found
        obtain ⟨e, found, rfl⟩ := found
        exact ⟨n, d, e, within, chain, unresolved, found, stands⟩
      · nomatch same.symm.trans expands
  · rintro ⟨n, d, e, within, chain, unresolved, found, stands⟩
    obtain ⟨d', nested, lists⟩ := (quiet.of_chain chain).list_expanded
    have expands : c.expanded w = .pending d' :=
      (congrArg Prod.fst (chain.run_expand within rfl)).trans nested
    rw [expands]
    refine .inside (e := e.expanded w) (Nat.le_refl 0) (.nil _) ?_ ?_ stands
    · rw [lists, ChildList.resolved_expanded, unresolved]
    · rw [lists, ChildList.getElem?_expanded unresolved, found, Option.map_some]

/-- The factories of the expanded child are those that `callLimit` calls lead to from what was given
there. -/
theorem at_expanded (quiet : Quiet w c) (path : ChildPath) {number : Nat} {body : Factory} :
    (c.expanded w).At w 0 path (.factory number body) ↔
      ∃ s, c.At w callLimit path s ∧ s.Chain w callLimit (.factory number body) := by
  induction path generalizing c with
  | nil =>
    constructor
    · intro stands
      generalize same : c.expanded w = expanded at stands
      cases stands with
      | here => exact ⟨c, .here c, quiet.expanded_eq_factory.mp same⟩
    · rintro ⟨s, stands, chain⟩
      cases stands with
      | here =>
        rw [quiet.expanded_eq_factory.mpr chain]
        exact .here _
  | cons step path ih =>
    rw [quiet.at_expanded_cons]
    constructor
    · rintro ⟨n, d, e, within, chain, unresolved, found, stands⟩
      have inside := (quiet.of_chain chain).entry unresolved found
      obtain ⟨s, stands, beyond⟩ := (ih inside).mp stands
      exact ⟨s, .inside within chain unresolved found stands, beyond⟩
    · rintro ⟨s, stands, beyond⟩
      cases stands with
      | inside within chain unresolved found stands =>
        have inside := (quiet.of_chain chain).entry unresolved found
        exact ⟨_, _, _, within, chain, unresolved, found, (ih inside).mpr ⟨s, stands, beyond⟩⟩

end Child.Quiet

/-! ## 3. Expanding and resolving -/

/-- A chain without effects: the definition found is that of its end, or none beyond the limit. -/
theorem Child.Chain.run_definitionWithin?_end (chain : c.Chain w n e)
    (ends : e.isFactory = false) :
    (c.definitionWithin? factoryHost callLimit).run w =
      (if n ≤ callLimit then e.definition? else none, w) := by
  split
  · rename_i within
    rw [chain.run_definitionWithin? within, definitionWithin?_of_not_factory ends]
    rfl
  · rename_i beyond
    obtain ⟨number, body, first⟩ := chain.factory_at (Nat.lt_of_not_le beyond)
    rw [first.run_definitionWithin? (Nat.le_refl callLimit), Nat.sub_self]
    rfl

/-- Let the factories of a child have no effects. Looking for the definition after its expansion is
looking for it before, and expanding what is found: the definition at the end of the chain, and none
if the chain is longer than the limit or ends in something that is not a definition or a constant.
At each place outside resolved lists, a factory stays exactly if a chain longer than the limit was
given there. -/
theorem Child.expansion_resolves (quiet : c.Quiet w) :
    ((·.definition?) <$> c.expand factoryHost).run w =
        (c.definitionWithin? factoryHost callLimit >>= (·.mapM (·.expand factoryHost))).run w ∧
      (∃ n e, c.Chain w n e ∧ e.isFactory = false ∧
        (c.definitionWithin? factoryHost callLimit).run w =
          (if n ≤ callLimit then e.definition? else none, w)) ∧
      ∀ path, (∃ number body, (c.expanded w).At w 0 path (.factory number body)) ↔
        ∃ s n e, c.At w callLimit path s ∧ callLimit < n ∧ s.Chain w n e := by
  refine ⟨congrArg (StateT.run · w) (definition?_expandWithin callLimit c), ?_, fun path => ?_⟩
  · obtain ⟨n, e, chain, ends⟩ := quiet.exists_chain
    exact ⟨n, e, chain, ends, chain.run_definitionWithin?_end ends⟩
  · constructor
    · rintro ⟨number, body, stays⟩
      obtain ⟨s, stands, chain⟩ := (quiet.at_expanded path).mp stays
      obtain ⟨given, gives⟩ := ((quiet.of_at stands).of_chain chain).gives
      exact ⟨s, callLimit + 1, given, stands, Nat.lt_succ_self _, chain.snoc gives⟩
    · rintro ⟨s, n, e, stands, beyond, chain⟩
      obtain ⟨number, body, first⟩ := chain.factory_at beyond
      exact ⟨number, body, (quiet.at_expanded path).mpr ⟨s, stands, first⟩⟩

/-- Two names, the first just within the limit and the second just beyond it. -/
def withinAndBeyond : Child :=
  .pending (.ofParts (.standard "Add")
    (.positional [(Child.name "a").behind callLimit, (Child.name "b").behind (callLimit + 1)]) .nil [])

theorem Child.expansion_resolves_withinAndBeyond :
    withinAndBeyond.Quiet {} ∧
      ∃ number body, (withinAndBeyond.expanded {}).At {} 0 [(.child, 1)] (.factory number body) := by
  have quiet : withinAndBeyond.Quiet {} := by
    refine .inside fun role unresolved e mem => ?_
    cases role with
    | child =>
      rcases List.mem_cons.mp mem with rfl | mem
      · exact (Child.Quiet.name "a").behind callLimit
      · obtain rfl := List.mem_singleton.mp mem
        exact (Child.Quiet.name "b").behind (callLimit + 1)
    | step => nomatch mem
  refine ⟨quiet, ((Child.expansion_resolves quiet).2.2 _).mpr ?_⟩
  exact ⟨_, _, _, .inside (Nat.zero_le _) (.nil _) rfl rfl (.here _), Nat.lt_succ_self _,
    Child.chain_behind {} (.name "b") (callLimit + 1)⟩

end NodeForest

import NodeForest.Proofs.FactoryChain
import NodeForest.Workspace.Handle

/-!
# Factories are transparent

A factory stands for the child that it gives. So an argument may be wrapped in factories, at the top
and inside, and binding it comes to the same, as long as the chains are within the limit and the
calls have no effects. There is one exception: an anonymous bind looks for a node before it calls
any factory, so it takes a node for what it is, but not what a factory gives.

Results:
1. `Child.Wrapped`: a child with chains of factories in it; `Child.wrapped_self`: or with none.
2. `Child.Wrapped.run_expand`: both expand to the same.
3. `factories_transparent`: work with the one comes to what work with the other comes to;
   `not_transparent_node`: the exception.
-/

namespace NodeForest

open Repository (ChildRole)

variable {w : Workspace}

/-! ## 1. Wrapping -/

mutual

/-- `c.Wrapped w y`: `y` is `c` with chains of factories around it and around nested children,
outside resolved lists. The chains are within the limit, and the calls have no effects. They are
made in the workspace that the factories called before, on the way from `w`, have left. -/
def Child.Wrapped : Child → Workspace → Child → Prop
  | .pending d, w, y => ∃ n e, n ≤ callLimit ∧ y.Chain w n (.pending e) ∧ d.Wrapped w e
  | .factory number body, _, y => y = .factory number body
  | .empty, w, y => ∃ n, n ≤ callLimit ∧ y.Chain w n .empty
  | .name name, w, y => ∃ n, n ≤ callLimit ∧ y.Chain w n (.name name)
  | .constant value, w, y => ∃ n, n ≤ callLimit ∧ y.Chain w n (.constant value)
  | .node ref, w, y => ∃ n, n ≤ callLimit ∧ y.Chain w n (.node ref)
termination_by structural c => c

def Entry.Wrapped : Entry → Workspace → Entry → Prop
  | ⟨label, child⟩, w, e => e.label = label ∧ child.Wrapped w e.child
termination_by structural e => e

def Entry.AllWrapped : List Entry → Workspace → List Entry → Prop
  | [], _, ys => ys = []
  | x :: xs, w, ys => ∃ y rest, ys = y :: rest ∧ x.Wrapped w y ∧
      Entry.AllWrapped xs ((x.expand factoryHost).run w).2 rest
termination_by structural xs => xs

def ChildList.Wrapped : ChildList → Workspace → ChildList → Prop
  | ⟨entries, keyed, resolved⟩, w, l => l.keyed = keyed ∧ l.resolved = resolved ∧
      if resolved then l.entries = entries else Entry.AllWrapped entries w l.entries
termination_by structural l => l

def Definition.Wrapped : Definition → Workspace → Definition → Prop
  | ⟨nodeClass, children, steps, record⟩, w, d => d.nodeClass = nodeClass ∧
      children.Wrapped w d.children ∧
      steps.Wrapped ((children.expand factoryHost).run w).2 d.steps ∧ d.record = record
termination_by structural d => d

end

/-- The same for arguments that are expanded one after the other. -/
def Child.AllWrapped : List Child → Workspace → List Child → Prop
  | [], _, ys => ys = []
  | x :: xs, w, ys => ∃ y rest, ys = y :: rest ∧ x.Wrapped w y ∧
      AllWrapped xs ((x.expand factoryHost).run w).2 rest

mutual

theorem Child.wrapped_self : ∀ (c : Child) (w : Workspace), c.Wrapped w c
  | .pending d, w => by
    rw [Child.Wrapped]
    exact ⟨0, d, Nat.zero_le _, .nil _, d.wrapped_self w⟩
  | .factory number body, w => by rw [Child.Wrapped]
  | .empty, w | .name _, w | .constant _, w | .node _, w => by
    rw [Child.Wrapped]
    exact ⟨0, Nat.zero_le _, .nil _⟩
termination_by structural c => c

theorem Entry.wrapped_self : ∀ (e : Entry) (w : Workspace), e.Wrapped w e
  | ⟨label, child⟩, w => by
    rw [Entry.Wrapped]
    exact ⟨rfl, child.wrapped_self w⟩
termination_by structural e => e

theorem Entry.allWrapped_self : ∀ (es : List Entry) (w : Workspace), Entry.AllWrapped es w es
  | [], w => by rw [Entry.AllWrapped]
  | e :: es, w => by
    rw [Entry.AllWrapped]
    exact ⟨e, es, rfl, e.wrapped_self w, Entry.allWrapped_self es _⟩
termination_by structural es => es

theorem ChildList.wrapped_self : ∀ (l : ChildList) (w : Workspace), l.Wrapped w l
  | ⟨entries, keyed, resolved⟩, w => by
    rw [ChildList.Wrapped]
    refine ⟨rfl, rfl, ?_⟩
    cases resolved with
    | true => rfl
    | false => exact Entry.allWrapped_self entries w
termination_by structural l => l

theorem Definition.wrapped_self : ∀ (d : Definition) (w : Workspace), d.Wrapped w d
  | ⟨nodeClass, children, steps, record⟩, w => by
    rw [Definition.Wrapped]
    exact ⟨rfl, children.wrapped_self w, steps.wrapped_self _, rfl⟩
termination_by structural d => d

end

/-- The end of a chain is wrapped by it. -/
theorem Child.Chain.wrapped {x y : Child} {n : Nat} (chain : y.Chain w n x) (within : n ≤ callLimit)
    (ends : x.isFactory = false) : x.Wrapped w y := by
  cases x with
  | factory number body => nomatch ends
  | pending d =>
    rw [Child.Wrapped]
    exact ⟨n, d, within, chain, d.wrapped_self w⟩
  | empty | name | constant | node =>
    rw [Child.Wrapped]
    exact ⟨n, within, chain⟩

/-- A node is not wrapped around anything else. -/
theorem Child.Wrapped.node?_eq_none {x y : Child} (wrapped : x.Wrapped w y)
    (notNode : x.node? = none) : y.node? = none := by
  cases y with
  | node ref =>
    cases x with
    | node => nomatch notNode
    | factory =>
      rw [Child.Wrapped] at wrapped
      nomatch wrapped
    | pending =>
      rw [Child.Wrapped] at wrapped
      obtain ⟨n, e, within, chain, inside⟩ := wrapped
      nomatch chain
    | empty | name | constant =>
      rw [Child.Wrapped] at wrapped
      obtain ⟨n, within, chain⟩ := wrapped
      nomatch chain
  | empty | name | constant | pending | factory => rfl

/-! ## 2. Expanding -/

mutual

theorem Child.Wrapped.run_expand : ∀ {x : Child} {w : Workspace} {y : Child}, x.Wrapped w y →
    (y.expand factoryHost).run w = (x.expand factoryHost).run w
  | .pending d, w, y, wrapped => by
    rw [Child.Wrapped] at wrapped
    obtain ⟨n, e, within, chain, inside⟩ := wrapped
    rw [chain.run_expand within rfl, Child.expand, Child.expand, Child.expandWithin,
      Child.expandWithin, StateT.run_bind, StateT.run_bind, inside.run_expand]
  | .factory number body, w, y, wrapped => by
    rw [Child.Wrapped] at wrapped
    rw [wrapped]
  | .empty, w, y, wrapped | .name _, w, y, wrapped | .constant _, w, y, wrapped
  | .node _, w, y, wrapped => by
    rw [Child.Wrapped] at wrapped
    obtain ⟨n, within, chain⟩ := wrapped
    exact chain.run_expand within rfl
termination_by structural x => x

theorem Entry.Wrapped.run_expand : ∀ {x : Entry} {w : Workspace} {y : Entry}, x.Wrapped w y →
    (y.expand factoryHost).run w = (x.expand factoryHost).run w
  | ⟨label, child⟩, w, ⟨label', child'⟩, wrapped => by
    rw [Entry.Wrapped] at wrapped
    obtain ⟨rfl, inside⟩ := wrapped
    have same : (child'.expandWithin factoryHost callLimit).run w = _ := inside.run_expand
    rw [Entry.expand, Entry.expand, StateT.run_bind, StateT.run_bind, same, Child.expand]
termination_by structural x => x

theorem Entry.AllWrapped.run_expandAll : ∀ {xs : List Entry} {w : Workspace} {ys : List Entry},
    Entry.AllWrapped xs w ys →
      (Entry.expandAll factoryHost ys).run w = (Entry.expandAll factoryHost xs).run w
  | [], w, ys, wrapped => by
    rw [Entry.AllWrapped] at wrapped
    rw [wrapped]
  | x :: xs, w, ys, wrapped => by
    rw [Entry.AllWrapped] at wrapped
    obtain ⟨y, rest, rfl, first, wrapped⟩ := wrapped
    rw [Entry.expandAll, Entry.expandAll, StateT.run_bind, StateT.run_bind, first.run_expand]
    show (Entry.expandAll factoryHost rest >>= _).run _ = (Entry.expandAll factoryHost xs >>= _).run _
    rw [StateT.run_bind, StateT.run_bind, wrapped.run_expandAll]
termination_by structural xs => xs

theorem ChildList.Wrapped.run_expand : ∀ {x : ChildList} {w : Workspace} {y : ChildList},
    x.Wrapped w y → (y.expand factoryHost).run w = (x.expand factoryHost).run w
  | ⟨entries, keyed, resolved⟩, w, ⟨entries', keyed', resolved'⟩, wrapped => by
    rw [ChildList.Wrapped] at wrapped
    obtain ⟨rfl, rfl, inside⟩ := wrapped
    cases resolved' with
    | true =>
      obtain rfl := inside
      rfl
    | false =>
      have same := Entry.AllWrapped.run_expandAll inside
      show (Entry.expandAll factoryHost entries' >>= _).run w =
        (Entry.expandAll factoryHost entries >>= _).run w
      rw [StateT.run_bind, StateT.run_bind, same]
termination_by structural x => x

theorem Definition.Wrapped.run_expand : ∀ {x : Definition} {w : Workspace} {y : Definition},
    x.Wrapped w y → (y.expand factoryHost).run w = (x.expand factoryHost).run w
  | ⟨nodeClass, children, steps, record⟩, w, ⟨nodeClass', children', steps', record'⟩, wrapped => by
    rw [Definition.Wrapped] at wrapped
    obtain ⟨rfl, first, second, rfl⟩ := wrapped
    rw [Definition.expand, Definition.expand, StateT.run_bind, StateT.run_bind, first.run_expand]
    show (steps'.expand factoryHost >>= _).run _ = (steps.expand factoryHost >>= _).run _
    rw [StateT.run_bind, StateT.run_bind, second.run_expand]
termination_by structural x => x

end

/-! ## 3. Binding -/

theorem run_bind_congr {α β : Type} {a b : Work α} (same : a.run.run w = b.run.run w)
    (f : α → Work β) : (a >>= f).run.run w = (b >>= f).run.run w := by
  rw [ExceptT.run_bind, ExceptT.run_bind, StateT.run_bind, StateT.run_bind, same]

theorem Child.Wrapped.run_expandHere {x y : Child} (wrapped : x.Wrapped w y) :
    y.expandHere.run.run w = x.expandHere.run.run w := by
  show (Except.ok <$> y.expand factoryHost).run w = (Except.ok <$> x.expand factoryHost).run w
  rw [StateT.run_map, StateT.run_map, wrapped.run_expand]

theorem Child.AllWrapped.run_expandHere {xs ys : List Child} (wrapped : Child.AllWrapped xs w ys) :
    (ys.mapM Child.expandHere).run.run w = (xs.mapM Child.expandHere).run.run w := by
  induction xs generalizing w ys with
  | nil => rw [show ys = [] from wrapped]
  | cons x xs ih =>
    obtain ⟨y, rest, rfl, first, wrapped⟩ := wrapped
    rw [List.mapM_cons, List.mapM_cons, run_bind_congr first.run_expandHere]
    show (rest.mapM Child.expandHere >>= _).run.run ((x.expand factoryHost).run w).2 =
      (xs.mapM Child.expandHere >>= _).run.run ((x.expand factoryHost).run w).2
    exact run_bind_congr (ih wrapped) _

section

variable {x y : Child}

theorem Handle.run_bind_wrapped (wrapped : x.Wrapped w y) (h : Handle) (location : Location) :
    (h.bind (.ok y) location).run.run w = (h.bind (.ok x) location).run.run w :=
  run_bind_congr wrapped.run_expandHere _

theorem Handle.run_bindIfUnbound_wrapped (wrapped : x.Wrapped w y) (h : Handle)
    (location : Location) :
    (h.bindIfUnbound (.ok y) location).run.run w =
      (h.bindIfUnbound (.ok x) location).run.run w := by
  have looks (z : Child) : (h.bindIfUnbound (.ok z) location).run.run w =
      (if !(w.repository h.node.repository).isBound h.id then h.bind (.ok z) location
        else pure ()).run.run w := rfl
  rw [looks, looks]
  split
  · exact h.run_bind_wrapped wrapped location
  · rfl

theorem Handle.run_addChildren_wrapped {xs ys : List Child} (wrapped : Child.AllWrapped xs w ys)
    (h : Handle) (role : ChildRole) (location : Location) :
    (h.addChildren role ys location).run.run w = (h.addChildren role xs location).run.run w :=
  run_bind_congr wrapped.run_expandHere _

theorem ScopeRef.run_bind_wrapped (wrapped : x.Wrapped w y) (notNode : x.node? = none)
    (s : ScopeRef) (location : Location) :
    (s.bind (.ok y) location).run.run w = (s.bind (.ok x) location).run.run w := by
  rw [ScopeRef.bind, ScopeRef.bind]
  dsimp only
  rw [notNode, wrapped.node?_eq_none notNode]
  exact run_bind_congr wrapped.run_expandHere _

theorem ScopeRef.run_bind_wrapped_node {ref : NodeRef} (wrapped : (Child.node ref).Wrapped w y)
    (behind : y.isFactory = true) (s : ScopeRef) (location : Location) :
    ((s.bind (.ok y) location).run.run w).1 =
      .error (.diagnostic (.unbindable Repository.anonymousName "node" location)) := by
  have notNode : y.node? = none := by
    cases y with
    | factory number body => rfl
    | empty | name | constant | node | pending => nomatch behind
  rw [ScopeRef.bind]
  dsimp only
  rw [notNode]
  show ((y.expandHere >>= _).run.run w).1 = _
  rw [run_bind_congr wrapped.run_expandHere]
  rfl

end

/-- Let arguments be wrapped in factories, at the top and inside, by chains within the limit whose
calls have no effects. Binding a node to them, unless it is bound or in any case, and appending them
to a node's children or step-children, comes to the same as with the arguments themselves: the same
outcome, and the same workspace. So does binding one anonymously, if it is not a node. Behind a
factory, a node is refused there. -/
theorem factories_transparent (w : Workspace) :
    (∀ x y : Child, x.Wrapped w y →
      (∀ (h : Handle) (location : Location),
        (h.bind (.ok y) location).run.run w = (h.bind (.ok x) location).run.run w ∧
        (h.bindIfUnbound (.ok y) location).run.run w =
          (h.bindIfUnbound (.ok x) location).run.run w) ∧
      ∀ (s : ScopeRef) (location : Location),
        (x.node? = none →
          (s.bind (.ok y) location).run.run w = (s.bind (.ok x) location).run.run w) ∧
        ∀ ref, x = .node ref → y.isFactory →
          ((s.bind (.ok y) location).run.run w).1 =
            .error (.diagnostic (.unbindable Repository.anonymousName "node" location))) ∧
    ∀ xs ys : List Child, Child.AllWrapped xs w ys →
      ∀ (h : Handle) (role : ChildRole) (location : Location),
        (h.addChildren role ys location).run.run w =
          (h.addChildren role xs location).run.run w := by
  refine ⟨fun x y wrapped => ⟨fun h location => ?_, fun s location => ⟨fun notNode => ?_, ?_⟩⟩,
    fun xs ys wrapped h role location => h.run_addChildren_wrapped wrapped role location⟩
  · exact ⟨h.run_bind_wrapped wrapped location, h.run_bindIfUnbound_wrapped wrapped location⟩
  · exact s.run_bind_wrapped wrapped notNode location
  · rintro ref rfl behind
    exact s.run_bind_wrapped_node wrapped behind location

/-- A tree with one node, a leaf. -/
def leafTree : Workspace :=
  ((ScopeRef.define ⟨⟨0⟩, .root⟩ "leaf" (.ok (.pending (.bare (.standard "Leaf")))) default).run.run
    (Workspace.plant {} {}).2).2

/-- The leaf as a child. -/
def leafChild : Child :=
  .node ⟨⟨0⟩, ⟨0⟩⟩

/-- A sum of two children. -/
def sumOf (first second : Child) : Child :=
  .pending (.ofParts (.standard "Add") (.positional [first, second]) .nil [])

theorem factories_transparent_sum :
    ∃ x y : Child, x.Wrapped leafTree y ∧ y.isFactory ∧ x.node? = none ∧
      ((ScopeRef.bind ⟨⟨0⟩, .root⟩ (.ok y) default).run.run leafTree).1.isOk ∧
      (ScopeRef.bind ⟨⟨0⟩, .root⟩ (.ok y) default).run.run leafTree =
        (ScopeRef.bind ⟨⟨0⟩, .root⟩ (.ok x) default).run.run leafTree ∧
      ∀ (h : Handle) (role : ChildRole),
        (h.addChildren role [y] default).run.run leafTree =
          (h.addChildren role [x] default).run.run leafTree := by
  let x := sumOf leafChild leafChild
  let inner := sumOf (leafChild.behind callLimit) leafChild
  have child : leafChild.Wrapped leafTree (leafChild.behind callLimit) :=
    (leafChild.chain_behind leafTree callLimit).wrapped (Nat.le_refl callLimit) rfl
  have wrapped : x.Wrapped leafTree (inner.behind callLimit) :=
    ⟨callLimit, _, Nat.le_refl callLimit, inner.chain_behind leafTree callLimit, rfl,
      ⟨rfl, rfl, _, _, rfl, ⟨rfl, child⟩, Entry.allWrapped_self _ _⟩,
      ChildList.wrapped_self .nil _, rfl⟩
  have same := ((factories_transparent leafTree).1 _ _ wrapped).2 ⟨⟨0⟩, .root⟩ default
  refine ⟨x, inner.behind callLimit, wrapped, rfl, rfl, ?_, same.1 rfl, fun h role => ?_⟩
  · rw [same.1 rfl]
    decide +kernel
  · exact (factories_transparent leafTree).2 [x] _ ⟨_, [], rfl, wrapped, rfl⟩ h role default

/-- The leaf itself is taken, but not the leaf behind a factory. -/
theorem not_transparent_node :
    leafChild.isFactory = false ∧ (leafChild.behind 1).Chain leafTree 1 leafChild ∧
      ((ScopeRef.bind ⟨⟨0⟩, .root⟩ (.ok leafChild) default).run.run leafTree).1.toOption.map
        (·.node) = some ⟨⟨0⟩, ⟨0⟩⟩ ∧
      ((ScopeRef.bind ⟨⟨0⟩, .root⟩ (.ok (leafChild.behind 1)) default).run.run leafTree).1 =
        .error (.diagnostic (.unbindable "(anonymous)" "node" default)) := by
  have chain := leafChild.chain_behind leafTree 1
  have refused := ScopeRef.run_bind_wrapped_node (chain.wrapped (by decide) rfl) rfl
    ⟨⟨0⟩, .root⟩ default
  exact ⟨rfl, chain, by decide +kernel, refused⟩

end NodeForest

import NodeForest.Workspace.Basic

/-!
# Chains of factories

A factory is called in a workspace and gives a child, which may be a factory again. Such a chain is
followed for at most `callLimit` calls. A call has no effect if it leaves the workspace as it is:
most factories only look which nodes are bound.

Results:
1. `Factory.call`, `Factory.expandWithin_eq`, `Factory.definitionWithin?_eq`: expanding a factory is
   calling it and going on with what it gave.
2. `Child.definition?_expandWithin`: looking for the definition after the expansion is looking for
   it before, and expanding that.
3. `Child.Chain`: chains of calls without effects. `Child.Chain.run_expand`: a chain within the
   limit expands to what its end expands to; `Child.Chain.run_expand_beyond`: of a longer one, the
   factory stays that would be called next.
-/

namespace NodeForest

variable {w : Workspace} {c d e : Child} {n k calls : Nat}

/-! ## 1. One call -/

/-- Calls the factory once. -/
def Factory.call : Factory → StateM Workspace Child
  | .give c => return c
  | .ifBound node yes no => do
      if ← factoryHost.bound node then yes.call else no.call
  | .bind scope argument location =>
      match argument.node? with
      | some node => factoryHost.adopt scope node location
      | none => do factoryHost.bind scope (← argument.expand factoryHost) location

def Child.isFactory : Child → Bool
  | .factory _ _ => true
  | _ => false

/-- What a factory that binds is followed by need only be known for a node and for nothing. -/
theorem Factory.call_bind_congr {β : Type} (scope : ScopeRef) (argument : Child)
    (location : Location) {f g : Child → StateM Workspace β}
    (node : ∀ ref, f (.node ref) = g (.node ref)) (empty : f .empty = g .empty) :
    (Factory.bind scope argument location).call >>= f =
      (Factory.bind scope argument location).call >>= g := by
  have same (id : RepositoryId) (a : Action NodeId) :
      nodeOrEmpty id a >>= f = nodeOrEmpty id a >>= g := by
    unfold nodeOrEmpty
    rw [bind_assoc, bind_assoc]
    refine bind_congr fun outcome => ?_
    cases outcome with
    | ok x => exact node ⟨id, x⟩
    | error e => exact empty
  unfold Factory.call
  cases argument.node? with
  | some ref => exact same scope.repository _
  | none =>
    dsimp only
    rw [bind_assoc, bind_assoc]
    exact bind_congr fun given => same scope.repository _

/-- To expand a factory is to call it and to expand what it gives. -/
theorem Factory.expandWithin_eq (calls : Nat) (f : Factory) :
    f.expandWithin factoryHost calls = f.call >>= (·.expandWithin factoryHost calls) := by
  cases f with
  | give c => rw [Factory.expandWithin, Factory.call, pure_bind]
  | ifBound node yes no =>
    rw [Factory.expandWithin, Factory.call, bind_assoc]
    refine bind_congr fun bound => ?_
    cases bound with
    | true => exact Factory.expandWithin_eq calls yes
    | false => exact Factory.expandWithin_eq calls no
  | bind scope argument location =>
    show (Factory.bind scope argument location).call = _
    exact (bind_pure _).symm.trans
      (Factory.call_bind_congr scope argument location (fun _ => rfl) rfl)
termination_by structural f

/-- To look for its definition is to call it and to look for that of what it gives. -/
theorem Factory.definitionWithin?_eq (calls : Nat) (f : Factory) :
    f.definitionWithin? factoryHost calls = f.call >>= (·.definitionWithin? factoryHost calls) := by
  cases f with
  | give c => rw [Factory.definitionWithin?, Factory.call, pure_bind]
  | ifBound node yes no =>
    rw [Factory.definitionWithin?, Factory.call, bind_assoc]
    refine bind_congr fun bound => ?_
    cases bound with
    | true => exact Factory.definitionWithin?_eq calls yes
    | false => exact Factory.definitionWithin?_eq calls no
  | bind scope argument location =>
    have looks : (Factory.bind scope argument location).definitionWithin? factoryHost calls =
        (Factory.bind scope argument location).call >>= fun given => pure given.definition? := by
      rw [Factory.definitionWithin?, Factory.call]
      cases argument.node? with
      | some ref => rfl
      | none =>
        dsimp only
        rw [bind_assoc]
        rfl
    rw [looks]
    exact Factory.call_bind_congr scope argument location (fun _ => rfl) rfl
termination_by structural f

theorem Child.expandWithin_of_not_factory (notFactory : c.isFactory = false) (calls calls' : Nat) :
    c.expandWithin factoryHost calls = c.expandWithin factoryHost calls' := by
  cases c with
  | factory number body => nomatch notFactory
  | empty | name | constant | node | pending => rfl

theorem Child.definitionWithin?_of_not_factory (notFactory : c.isFactory = false) (calls : Nat) :
    c.definitionWithin? factoryHost calls = pure c.definition? := by
  cases c with
  | factory number body => nomatch notFactory
  | empty | name | constant | node | pending => rfl

/-! ## 2. The definition found -/

/-- Both ways count the same calls, so this is by induction on them. -/
theorem Child.definition?_expandWithin (calls : Nat) (c : Child) :
    (·.definition?) <$> c.expandWithin factoryHost calls =
      c.definitionWithin? factoryHost calls >>= (·.mapM (·.expand factoryHost)) := by
  have inside (calls : Nat) (d : Definition) :
      (·.definition?) <$> (Child.pending d).expandWithin factoryHost calls =
        (Child.pending d).definitionWithin? factoryHost calls >>=
          (·.mapM (·.expand factoryHost)) := by
    rw [Child.definitionWithin?, pure_bind, Option.mapM_some, Child.expandWithin, map_bind]
    rfl
  induction calls generalizing c with
  | zero =>
    cases c with
    | empty | name | constant | node | factory => rfl
    | pending d => exact inside 0 d
  | succ calls ih =>
    cases c with
    | empty | name | constant | node => rfl
    | pending d => exact inside (calls + 1) d
    | factory number body =>
      show _ <$> body.expandWithin factoryHost calls = body.definitionWithin? factoryHost calls >>= _
      rw [Factory.expandWithin_eq, Factory.definitionWithin?_eq, map_bind, bind_assoc]
      exact bind_congr fun given => ih given

/-! ## 3. Chains -/

/-- A chain of `n` factories that leads from one child to another. They are called in `w`, and none
of the calls has an effect. -/
inductive Child.Chain (w : Workspace) : Nat → Child → Child → Prop
  | nil (c : Child) : Chain w 0 c c
  | call {number n : Nat} {body : Factory} {given c : Child} :
      body.call.run w = (given, w) → Chain w n given c → Chain w (n + 1) (.factory number body) c

/-- The child behind `n` factories that do nothing. -/
def Child.behind (c : Child) : Nat → Child
  | 0 => c
  | n + 1 => .factory n (.give (c.behind n))

theorem Child.chain_behind (w : Workspace) (c : Child) : ∀ n, (c.behind n).Chain w n c
  | 0 => .nil c
  | n + 1 => .call rfl (c.chain_behind w n)

namespace Child.Chain

/-- The calls of a chain count against the limit. -/
theorem run_expandWithin (chain : Chain w n c d) (within : n ≤ calls) :
    (c.expandWithin factoryHost calls).run w =
      (d.expandWithin factoryHost (calls - n)).run w := by
  induction chain generalizing calls with
  | nil c => rfl
  | @call number n body given c gives chain ih =>
    obtain ⟨calls, rfl⟩ := Nat.exists_eq_add_of_le' within
    show (body.expandWithin factoryHost (calls + n)).run w = _
    rw [Factory.expandWithin_eq, StateT.run_bind, gives]
    show (given.expandWithin factoryHost (calls + n)).run w = _
    rw [ih (by omega)]
    congr 2
    omega

theorem run_definitionWithin? (chain : Chain w n c d) (within : n ≤ calls) :
    (c.definitionWithin? factoryHost calls).run w =
      (d.definitionWithin? factoryHost (calls - n)).run w := by
  induction chain generalizing calls with
  | nil c => rfl
  | @call number n body given c gives chain ih =>
    obtain ⟨calls, rfl⟩ := Nat.exists_eq_add_of_le' within
    show (body.definitionWithin? factoryHost (calls + n)).run w = _
    rw [Factory.definitionWithin?_eq, StateT.run_bind, gives]
    show (given.definitionWithin? factoryHost (calls + n)).run w = _
    rw [ih (by omega)]
    congr 2
    omega

/-- A chain within the limit expands to what its end expands to. -/
theorem run_expand (chain : Chain w n c d) (within : n ≤ callLimit)
    (ends : d.isFactory = false) :
    (c.expand factoryHost).run w = (d.expand factoryHost).run w := by
  unfold Child.expand
  rw [chain.run_expandWithin within, expandWithin_of_not_factory ends]

/-- Before the end of a chain, there is a factory after each call. -/
theorem factory_at (chain : Chain w n c d) (before : k < n) :
    ∃ number body, Chain w k c (.factory number body) := by
  induction chain generalizing k with
  | nil c => nomatch before
  | call gives chain ih =>
    cases k with
    | zero => exact ⟨_, _, .nil _⟩
    | succ k =>
      obtain ⟨number, body, first⟩ := ih (Nat.lt_of_succ_lt_succ before)
      exact ⟨number, body, .call gives first⟩

/-- One more call. -/
theorem snoc {number : Nat} {body : Factory} (chain : Chain w n c (.factory number body))
    (gives : body.call.run w = (d, w)) : Chain w (n + 1) c d := by
  generalize same : Child.factory number body = last at chain
  induction chain with
  | nil c =>
    subst same
    exact .call gives (.nil d)
  | call first chain ih => exact .call first (ih same)

/-- Of a chain beyond the limit, the factory stays that would be called next. -/
theorem run_expand_beyond {number : Nat} {body : Factory}
    (chain : Chain w callLimit c (.factory number body)) :
    (c.expand factoryHost).run w = (.factory number body, w) := by
  unfold Child.expand
  rw [chain.run_expandWithin (Nat.le_refl callLimit), Nat.sub_self]
  rfl

end Child.Chain

end NodeForest

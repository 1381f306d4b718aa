import NodeForest.Proofs.Check
import NodeForest.Proofs.Growth

/-!
# Calls for generated names

A scope is asked for generated names by hand, and by anonymous binds of definitions without
children, at any depth of what an operation is given. This module lists the calls that an operation
comes to, in order, each with the repository that it is made to. A scope counts its calls for each
text and nothing else: the numbers given are those that follow, one after the other.

Results:
1. `NameCall`: a call; `NameCall.name_eq`: the name it gets.
2. `Counted`: numbers that follow; `Counted.bind` and the rules beside it.
3. `Definition.nameCalls`, `counted_defineAnonymous`: the recursion over nested definitions.
4. `Operation.nameCalls`, `Operation.counted`: every operation.
-/

namespace NodeForest

open NodeForest.Action

/-! ## 1. Calls -/

/-- A call for a generated name, and the repository that it is made to. -/
structure NameCall where
  scope : ScopeId
  base : String
  before : Repository

namespace NameCall

/-- The name that the call gets. -/
def name (c : NameCall) : String :=
  (c.before.uniqueName c.scope c.base).1

def after (c : NameCall) : Repository :=
  (c.before.uniqueName c.scope c.base).2

/-- How many names the scope had generated for the text. -/
def number (c : NameCall) : Nat :=
  c.before.counterOf c.scope c.base

/-- The call is made to this scope, which is open then. A number that no scope has yet is answered,
too, always with the bare form, and nothing is counted. -/
def MadeTo (c : NameCall) (scope : ScopeId) : Prop :=
  c.scope = scope ∧ scope.index < c.before.scopes.size

instance (c : NameCall) (scope : ScopeId) : Decidable (c.MadeTo scope) :=
  inferInstanceAs (Decidable (_ ∧ _))

theorem name_eq (c : NameCall) : c.name = Repository.generatedName c.base c.number :=
  Repository.uniqueName_fst c.before c.scope c.base

/-- A call that is made to no open scope gets the bare form, and nothing changes. -/
theorem of_closed {c : NameCall} (closed : ¬c.MadeTo c.scope) :
    c.name = "(" ++ c.base ++ ")" ∧ c.after = c.before := by
  have none : c.before.scopes[c.scope.index]? = none :=
    Array.getElem?_eq_none (Nat.not_lt.mp fun inside => closed ⟨rfl, inside⟩)
  rw [name, after, Repository.uniqueName, none]
  exact ⟨String.append_empty, rfl⟩

/-- A call counts for the scope that it is made to, and for the text that it is about. -/
theorem counterOf_after (c : NameCall) (scope : ScopeId) (base : String) :
    c.after.counterOf scope base =
      if c.MadeTo scope ∧ c.base = base then c.number + 1 else c.before.counterOf scope base :=
  Repository.counterOf_uniqueName c.before c.scope c.base scope base

/-- The numbers that the calls get from the scope for the text. -/
def numbers (calls : List NameCall) (scope : ScopeId) (base : String) : List Nat :=
  ((calls.filter (·.MadeTo scope)).filter (·.base = base)).map (·.number)

theorem numbers_append (calls calls' : List NameCall) (scope : ScopeId) (base : String) :
    numbers (calls ++ calls') scope base =
      numbers calls scope base ++ numbers calls' scope base := by
  simp [numbers]

theorem numbers_singleton (c : NameCall) (scope : ScopeId) (base : String) :
    numbers [c] scope base = if c.MadeTo scope ∧ c.base = base then [c.number] else [] := by
  by_cases made : c.MadeTo scope <;> by_cases named : c.base = base <;> simp [numbers, made, named]

end NameCall

/-- What is called for after an action, as far as that gives a value. -/
def Action.callsAfter {α : Type} (a : Action α) (next : α → Repository → List NameCall)
    (r : Repository) : List NameCall :=
  match exec a r with
  | (.ok y, r₁) => next y r₁
  | (.error _, _) => []

/-! ## 2. Counting -/

/-- From `r` to `r'` these calls are counted, and nothing else: the numbers that each scope gives
for each text go on where they were in `r`, one after the other, up to where they are in `r'`. -/
def Counted (r : Repository) (calls : List NameCall) (r' : Repository) : Prop :=
  ∀ scope base, List.range (r.counterOf scope base) ++ NameCall.numbers calls scope base =
    List.range (r'.counterOf scope base)

namespace Counted

variable {α β : Type} {r r₁ r' : Repository} {calls calls' : List NameCall}

/-- Nothing is counted where the counters stay as they are. -/
theorem idle (same : r'.counterOf = r.counterOf) : Counted r [] r' := fun scope base => by
  rw [same]
  exact List.append_nil _

theorem append (h : Counted r calls r₁) (h' : Counted r₁ calls' r') :
    Counted r (calls ++ calls') r' := fun scope base => by
  rw [NameCall.numbers_append, ← List.append_assoc, h scope base, h' scope base]

/-- A call gets the number that follows. -/
theorem call (c : NameCall) : Counted c.before [c] c.after := fun scope base => by
  rw [NameCall.numbers_singleton, c.counterOf_after]
  split
  · rename_i counts
    obtain ⟨⟨rfl, _⟩, rfl⟩ := counts
    exact List.range_succ.symm
  · exact List.append_nil _

theorem congr (h : Counted r calls r₁) (same : r'.counterOf = r₁.counterOf) :
    Counted r calls r' := fun scope base => by
  rw [h scope base, same]

/-- What a sequence of actions counts. -/
theorem bind {a : Action α} {f : α → Action β} {next : α → Repository → List NameCall}
    (first : Counted r calls (exec a r).2)
    (then' : ∀ y r₁, exec a r = (.ok y, r₁) → Counted r₁ (next y r₁) (exec (f y) r₁).2) :
    Counted r (calls ++ a.callsAfter next r) (exec (a >>= f) r).2 := by
  rcases run : exec a r with ⟨e | y, r₁⟩ <;> rw [run] at first
  · rw [exec_bind_of_error run, Action.callsAfter, run, List.append_nil]
    exact first
  · rw [exec_bind_of_ok run, Action.callsAfter, run]
    exact first.append (then' y r₁ run)

/-- What follows counts nothing. -/
theorem bind_idle {a : Action α} {f : α → Action β} (first : Counted r calls (exec a r).2)
    (then' : ∀ y r₁, (exec (f y) r₁).2.counterOf = r₁.counterOf) :
    Counted r calls (exec (a >>= f) r).2 := by
  rcases run : exec a r with ⟨e | y, r₁⟩ <;> rw [run] at first
  · rw [exec_bind_of_error run]
    exact first
  · rw [exec_bind_of_ok run, ← List.append_nil calls]
    exact first.append (idle (then' y r₁))

end Counted

namespace Repository

variable {r r' : Repository}

theorem counterOf_congr (same : r'.scopes = r.scopes) : r'.counterOf = r.counterOf := by
  funext scope base
  rw [counterOf, counterOf, same]

theorem scopes_addError (d : Diagnostic) (trail : List Location) (r : Repository) :
    ((addError d trail).exec r).2.scopes = r.scopes := by
  rw [exec_addError]
  split <;> rfl

theorem scopes_recording (a : Action Unit) (r : Repository) :
    ((recording a).exec r).2.scopes = (a.exec r).2.scopes := by
  rw [exec_recording]
  rcases a.exec r with ⟨(d | ds | _) | _, r₁⟩
  · exact scopes_addError d r₁.frames r₁
  all_goals rfl

theorem scopes_attach (id : NodeId) (d : Definition) (location : Location) (r : Repository) :
    ((attach id d location).exec r).2.scopes = r.scopes := by
  cases here : r.get? id with
  | none => rw [exec_attach_gone d location here]
  | some n =>
    cases bound : n.binding with
    | some b =>
      rw [exec_attach_bound d location here bound]
      split <;> rfl
    | none =>
      rw [exec_attach_unbound d location here bound]
      obtain ⟨_, _, _, _, same⟩ := attached_eq r id d.nodeClass.fullName (r.newBinding d location)
        (r.newBinding d location).childIds
      rw [same]

theorem scopes_makeConstant (value : Constant) (location : Location) (r : Repository) :
    ((makeConstant value location).exec r).2.scopes = r.scopes := by
  cases known : (OrderedMap.get? r.constants value.key).filter r.isLive with
  | some id => rw [exec_makeConstant_known location known]
  | none => rw [exec_makeConstant_new location known, withConstant_eq]

theorem scopes_getOrCreate (r : Repository) (name basename : String) (scope : ScopeId)
    (quals : Qualifiers) (location : Location) :
    (r.getOrCreate name basename scope quals location).2.scopes = r.scopes := by
  rw [getOrCreate]
  cases r.lookup? name <;> rfl

end Repository

/-! ## 3. The recursion -/

section

variable (location : Location)

mutual

/-- The calls that resolving a child comes to. -/
def Child.nameCalls (scope : ScopeId) : Child → Repository → List NameCall
  | .pending d, r => d.nameCalls scope r
  | .empty, _ | .name _, _ | .constant _, _ | .node _, _ | .factory _ _, _ => []
termination_by structural c => c

def Entry.nameCalls (scope : ScopeId) : Entry → Repository → List NameCall
  | ⟨_, child⟩, r => child.nameCalls scope r
termination_by structural e => e

def Entry.allNameCalls (scope : ScopeId) : List Entry → Repository → List NameCall
  | [], _ => []
  | e :: rest, r => e.nameCalls scope r ++
      (Repository.resolveEntry location scope e).callsAfter
        (fun _ => Entry.allNameCalls scope rest) r
termination_by structural es => es

def ChildList.nameCalls (scope : ScopeId) : ChildList → Repository → List NameCall
  | ⟨entries, _, resolved⟩, r => if resolved then [] else Entry.allNameCalls scope entries r
termination_by structural l => l

/-- The calls that an anonymous bind comes to: those of its children, its own if it has none, and
those of its step-children, in the scope of the node that is taken. -/
def Definition.nameCalls (scope : ScopeId) : Definition → Repository → List NameCall
  | ⟨nodeClass, children, steps, _⟩, r => children.nameCalls scope r ++
      (Repository.resolveChildren location scope children).callsAfter
        (fun cs r₁ =>
          (if cs.isEmpty then [⟨scope, Text.lowercase nodeClass.name, r₁⟩] else []) ++
            (modifyGet fun r => r.anonymousNode scope nodeClass cs location :
              Action NodeId).callsAfter
              (fun id r₂ => steps.nameCalls (r₂.scopeOf id) r₂) r₁) r
termination_by structural d => d

end

namespace Repository

/-- A definition without children makes a call, and takes the node with the name that it gets. -/
theorem anonymousNode_of_isEmpty {cs : ChildList} (empty : cs.isEmpty) (scope : ScopeId)
    (c : NodeClass) (r : Repository) :
    r.anonymousNode scope c cs location =
      (NameCall.mk scope (Text.lowercase c.name) r).after.nodeInScope scope
        (NameCall.mk scope (Text.lowercase c.name) r).name location := by
  rw [anonymousNode, if_pos empty]
  rfl

theorem counted_anonymousNode (scope : ScopeId) (c : NodeClass) (cs : ChildList)
    (r : Repository) :
    Counted r (if cs.isEmpty then [⟨scope, Text.lowercase c.name, r⟩] else [])
      (r.anonymousNode scope c cs location).2 := by
  by_cases empty : cs.isEmpty
  · rw [anonymousNode_of_isEmpty location empty, if_pos empty, ← List.append_nil [_]]
    exact (Counted.call ⟨scope, Text.lowercase c.name, r⟩).append
      (.idle (counterOf_congr (scopes_getOrCreate ..)))
  · rw [anonymousNode, if_neg empty, if_neg empty]
    exact .idle (counterOf_congr (scopes_getOrCreate ..))

mutual

theorem counted_resolveChild (scope : ScopeId) (label : Label) : ∀ (c : Child) (r : Repository),
    Counted r (c.nameCalls location scope r) ((resolveChild location scope label c).exec r).2
  | .empty, r => by
    rw [Child.nameCalls, resolveChild]
    exact .idle rfl
  | .node ref, r => by
    rw [Child.nameCalls, exec_resolveChild_node]
    exact .idle rfl
  | .name name, r => by
    rw [Child.nameCalls, exec_resolveChild_name]
    exact .idle rfl
  | .constant value, r => by
    rw [Child.nameCalls, resolveChild]
    exact .bind_idle (.idle (counterOf_congr (scopes_makeConstant value location r)))
      fun _ _ => rfl
  | .pending d, r => by
    rw [Child.nameCalls, resolveChild]
    exact .bind_idle (counted_defineAnonymous scope d r) fun _ _ => rfl
  | .factory _ _, r => by
    rw [Child.nameCalls, resolveChild]
    exact .idle rfl

theorem counted_resolveEntry (scope : ScopeId) : ∀ (e : Entry) (r : Repository),
    Counted r (e.nameCalls location scope r) ((resolveEntry location scope e).exec r).2
  | ⟨label, child⟩, r => by
    rw [Entry.nameCalls, resolveEntry]
    exact .bind_idle (counted_resolveChild scope label child r) fun _ _ => rfl

theorem counted_resolveEntries (scope : ScopeId) : ∀ (es : List Entry) (r : Repository),
    Counted r (Entry.allNameCalls location scope es r)
      ((resolveEntries location scope es).exec r).2
  | [], r => by
    rw [Entry.allNameCalls, resolveEntries]
    exact .idle rfl
  | e :: rest, r => by
    rw [Entry.allNameCalls, resolveEntries]
    exact .bind (counted_resolveEntry scope e r) fun _ r₁ _ =>
      .bind_idle (counted_resolveEntries scope rest r₁) fun _ _ => rfl

theorem counted_resolveChildren (scope : ScopeId) : ∀ (l : ChildList) (r : Repository),
    Counted r (l.nameCalls location scope r) ((resolveChildren location scope l).exec r).2
  | ⟨entries, keyed, true⟩, r => by
    rw [ChildList.nameCalls, if_pos rfl, exec_resolveChildren_resolved]
    exact .idle rfl
  | ⟨entries, keyed, false⟩, r => by
    rw [ChildList.nameCalls, if_neg Bool.false_ne_true, resolveChildren,
      if_neg Bool.false_ne_true]
    exact .bind_idle (counted_resolveEntries scope entries r) fun _ _ => rfl

theorem counted_defineAnonymous (scope : ScopeId) : ∀ (d : Definition) (r : Repository),
    Counted r (d.nameCalls location scope r) ((defineAnonymous location scope d).exec r).2
  | ⟨nodeClass, children, steps, record⟩, r => by
    rw [Definition.nameCalls, defineAnonymous]
    refine .bind (counted_resolveChildren scope children r) fun cs r₁ _ => ?_
    refine .bind (counted_anonymousNode location scope nodeClass cs r₁) fun id r₂ _ => ?_
    refine .bind_idle ?_ fun _ _ => rfl
    show Counted r₂ _ ((recording (anonymousBind location id nodeClass cs steps record)).exec r₂).2
    refine Counted.congr ?_ (counterOf_congr (scopes_recording _ r₂))
    rw [anonymousBind, exec_bind_of_ok (exec_get r₂)]
    exact .bind_idle (counted_resolveChildren _ steps r₂) fun _ r₃ =>
      counterOf_congr (scopes_attach ..)

end

end Repository

end

/-! ## 4. Operations -/

open Repository in
/-- The calls that an operation comes to, in order. -/
def Operation.nameCalls : Operation → Repository → List NameCall
  | uniqueName scope base, r => [⟨scope, base, r⟩]
  | bind target (.ok argument) location, r =>
      match argument.definition?, r.get? target with
      | some d, some n => d.children.nameCalls location n.scope r ++
          (resolveChildren location n.scope d.children).callsAfter
            (fun _ => d.steps.nameCalls location n.scope) r
      | _, _ => []
  | bindAnonymous scope argument location, r =>
      match argument.definition? with
      | some d => d.nameCalls location scope r
      | none => []
  | extend _ target children location, r =>
      match (r.get? target).filter (·.isBound) with
      | some n => (ChildList.positional children).nameCalls location n.scope r
      | none => []
  | bind _ (.error _) _, _ | openScope .., _ | node .., _ | qualify .., _ | makeConstant .., _
  | setOptions .., _ | addError .., _ | report .., _ | pin .., _ | unpin .., _ | hold .., _
  | release .., _ | pushFrame .., _ | popFrame, _ => []

namespace Repository

variable {r : Repository}

theorem counterOf_addScope (r : Repository) (parent : ScopeId) (name : String)
    (quals : Qualifiers) : (r.addScope parent name quals).2.counterOf = r.counterOf := by
  funext scope base
  simp only [addScope, counterOf, Array.getElem?_push]
  split
  · rename_i new
    simp [new, counter, OrderedMap.get?_nil]
  · rfl

theorem scopes_setOptions (id : NodeId) (options : List (String × Value)) (location : Location)
    (r : Repository) : ((setOptions id options location).exec r).2.scopes = r.scopes := by
  rw [setOptions, exec_bind_of_ok (exec_get r)]
  cases r.isBound id <;> rfl

theorem counted_tryBind (id : NodeId) (argument : Except BuildError Child) (location : Location)
    (r : Repository) : Counted r ((Operation.bind id argument location).nameCalls r)
      ((tryBind id argument location).exec r).2 := by
  rw [tryBind, exec_bind_of_ok (exec_get r)]
  cases argument with
  | error source => exact .idle rfl
  | ok c =>
    rw [Operation.nameCalls]
    dsimp only
    cases c.definition? with
    | none => exact .idle rfl
    | some d =>
      cases r.get? id with
      | none => exact .idle rfl
      | some n =>
        refine .bind (counted_resolveChildren location n.scope d.children r) fun cs r₁ _ => ?_
        exact .bind_idle (counted_resolveChildren location n.scope d.steps r₁) fun _ _ =>
          counterOf_congr (scopes_attach ..)

theorem counted_extendChildren (role : ChildRole) (id : NodeId) (cs : List Child)
    (location : Location) (r : Repository) :
    Counted r ((Operation.extend role id cs location).nameCalls r)
      ((extendChildren role id cs location).exec r).2 := by
  rw [extendChildren, exec_bind_of_ok (exec_get r), Operation.nameCalls]
  cases (r.get? id).filter (·.isBound) with
  | none => exact .idle rfl
  | some n =>
    refine .bind_idle (counted_resolveChildren location n.scope _ r) fun l r₁ => ?_
    show (r₁.relink id _ l.nodeIds).counterOf = r₁.counterOf
    rw [relink_eq]
    rfl

end Repository

open Repository in
/-- An operation counts the calls that it comes to, whether it fails or not. -/
theorem Operation.counted (op : Operation) (r : Repository) :
    Counted r (op.nameCalls r) (op.after r) := by
  cases op with
  | openScope parent name quals => exact .idle (counterOf_addScope r parent name quals)
  | node | qualify => exact .idle (counterOf_congr (scopes_getOrCreate ..))
  | uniqueName scope base => exact .call ⟨scope, base, r⟩
  | bind id argument location =>
    exact (counted_tryBind id argument location r).congr (counterOf_congr (scopes_recording _ r))
  | bindAnonymous scope argument location =>
    refine .bind_idle ?_ fun _ _ => rfl
    rw [nameCalls, Repository.bindAnonymous]
    cases argument.definition? with
    | none => exact .idle rfl
    | some d => exact counted_defineAnonymous location scope d r
  | makeConstant value location =>
    exact .bind_idle (.idle (counterOf_congr (scopes_makeConstant value location r))) fun _ _ => rfl
  | extend role id cs location => exact counted_extendChildren role id cs location r
  | setOptions id options location =>
    exact .idle (counterOf_congr (scopes_setOptions id options location r))
  | addError d trail => exact .idle (counterOf_congr (scopes_addError d trail r))
  | report d => exact .idle (counterOf_congr (scopes_addError d r.frames r))
  | pin id =>
    refine .idle (counterOf_congr ?_)
    show (r.pin id).scopes = r.scopes
    rw [Repository.pin]
    split <;> rfl
  | unpin | hold | release | pushFrame | popFrame => exact .idle rfl

end NodeForest

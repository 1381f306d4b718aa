import NodeForest.Proofs.Origin

/-!
# Anonymous binds on the way

An operation may bind many definitions anonymously: the one that it is given, and those nested in
what it is given, each when the recursion comes to it and from the repository there is by then.
`Operation.Makes` says which binds these are, and what stands before a bind is what it starts from.

Results:
1. `AnonymousCall`: an anonymous bind; `ComesTo`, `Makes`, `Operation.Makes`: the ones on the way.
2. `Serves`, `Operation.Makes.serves`: a call is made for a definition of the operation, in one of
   its scopes, and after some of its deeds.
-/

namespace NodeForest

open Relation NodeForest.Action

/-! ## 1. Calls -/

/-- An anonymous bind of a definition, and the repository that it starts from. -/
structure AnonymousCall where
  location : Location
  scope : ScopeId
  definition : Definition
  before : Repository

namespace AnonymousCall

/-- What the call comes to. -/
def outcome (call : AnonymousCall) : Except Failure NodeId :=
  ((Repository.defineAnonymous call.location call.scope call.definition).exec call.before).1

def after (call : AnonymousCall) : Repository :=
  ((Repository.defineAnonymous call.location call.scope call.definition).exec call.before).2

theorem ran (call : AnonymousCall) :
    (Repository.defineAnonymous call.location call.scope call.definition).exec call.before =
      (call.outcome, call.after) :=
  rfl

end AnonymousCall

namespace Repository

/-- Resolving a list comes to one of the nested definitions in it, and what stands in front of that
has led to `r'` by then. -/
inductive ComesTo (location : Location) (scope : ScopeId) (r : Repository) :
    ChildList → Definition → Repository → Prop
  | intro {front front' : List Entry} {label : Label} {d : Definition} {rest : List Entry}
      {keyed : Bool} {r' : Repository} :
      (resolveEntries location scope front).exec r = (.ok front', r') →
      ComesTo location scope r ⟨front ++ ⟨label, .pending d⟩ :: rest, keyed, false⟩ d r'

/-- The anonymous binds that one of `d` comes to: itself, those that its children come to, and those
that its step-children come to, in the scope of the node that is taken for `d`. -/
inductive Makes (location : Location) : ScopeId → Definition → Repository → AnonymousCall → Prop
  | own (scope : ScopeId) (d : Definition) (r : Repository) :
      Makes location scope d r ⟨location, scope, d, r⟩
  | child {scope : ScopeId} {d d' : Definition} {r r' : Repository} {call : AnonymousCall} :
      ComesTo location scope r d.children d' r' → Makes location scope d' r' call →
      Makes location scope d r call
  | step {scope : ScopeId} {d d' : Definition} {r r₁ r₂ r' : Repository} {cs : ChildList}
      {id : NodeId} {call : AnonymousCall} :
      (resolveChildren location scope d.children).exec r = (.ok cs, r₁) →
      r₁.anonymousNode scope d.nodeClass cs location = (id, r₂) →
      ComesTo location (r₂.scopeOf id) r₂ d.steps d' r' →
      Makes location (r₂.scopeOf id) d' r' call → Makes location scope d r call

end Repository

open Repository in
/-- The anonymous binds that the operation comes to. A named bind and an extension bind what is
nested in their arguments, in the scope of the node that they are about. -/
inductive Operation.Makes : Operation → Repository → AnonymousCall → Prop
  | anonymous {scope : ScopeId} {argument : Child} {location : Location} {d : Definition}
      {r : Repository} {call : AnonymousCall} :
      argument.definition? = some d → Repository.Makes location scope d r call →
      Makes (.bindAnonymous scope argument location) r call
  | child {id : NodeId} {argument : Child} {location : Location} {d d' : Definition} {n : Node}
      {r r' : Repository} {call : AnonymousCall} :
      argument.definition? = some d → r.get? id = some n →
      ComesTo location n.scope r d.children d' r' →
      Repository.Makes location n.scope d' r' call → Makes (.bind id (.ok argument) location) r call
  | step {id : NodeId} {argument : Child} {location : Location} {d d' : Definition} {n : Node}
      {r r₁ r' : Repository} {cs : ChildList} {call : AnonymousCall} :
      argument.definition? = some d → r.get? id = some n →
      (resolveChildren location n.scope d.children).exec r = (.ok cs, r₁) →
      ComesTo location n.scope r₁ d.steps d' r' →
      Repository.Makes location n.scope d' r' call → Makes (.bind id (.ok argument) location) r call
  | extended {role : ChildRole} {id : NodeId} {children : List Child} {location : Location}
      {d : Definition} {n : Node} {r r' : Repository} {call : AnonymousCall} :
      r.get? id = some n → n.isBound →
      ComesTo location n.scope r (.positional children) d r' →
      Repository.Makes location n.scope d r' call → Makes (.extend role id children location) r call

/-! ## 2. What a call is made for -/

theorem Entry.allDefinitions_append : ∀ es es' : List Entry,
    Entry.allDefinitions (es ++ es') = Entry.allDefinitions es ++ Entry.allDefinitions es'
  | [], _ => rfl
  | e :: es, es' => by
    rw [List.cons_append, Entry.allDefinitions, Entry.allDefinitions,
      Entry.allDefinitions_append es es', List.append_assoc]

namespace Repository

/-- The call is made by the operation: for one of its definitions, in one of its scopes, and after
some of its deeds. -/
structure Serves (op : Operation) (r : Repository) (call : AnonymousCall) : Prop where
  deeds : Deeds op r call.before
  given : call.definition :: call.definition.inner ⊆ op.definitions
  within : Within op call.before call.scope

variable {op : Operation} {r r' : Repository} {location : Location} {scope : ScopeId}

theorem within_of_get? {id : NodeId} {n : Node} (here : r.get? id = some n) :
    Within op r n.scope :=
  .inr (.inr ⟨id, n, here, rfl⟩)

theorem Serves.later {r₀ : Repository} {call : AnonymousCall} (deeds : Deeds op r₀ r)
    (serves : Serves op r call) : Serves op r₀ call :=
  ⟨deeds.trans serves.deeds, serves.given, serves.within⟩

theorem ComesTo.serves {l : ChildList} {d : Definition} (h : ComesTo location scope r l d r')
    (given : l.definitions ⊆ op.definitions) (within : Within op r scope) :
    Serves op r ⟨location, scope, d, r'⟩ := by
  cases h with
  | intro front =>
    rw [ChildList.definitions, if_neg Bool.false_ne_true, Entry.allDefinitions_append,
      Entry.allDefinitions, Entry.definitions, Child.definitions, List.append_subset,
      List.append_subset] at given
    have deeds : Deeds op r r' :=
      (deeds_resolveEntries location scope _ r given.1 within).steps front
    exact ⟨deeds, given.2.1, within.later deeds.steps⟩

theorem deeds_of_anonymousNode {d : Definition} {cs : ChildList} {id : NodeId}
    (given : d ∈ op.definitions) (within : Within op r scope)
    (shape : cs.isEmpty = d.children.isEmpty)
    (taken : r.anonymousNode scope d.nodeClass cs location = (id, r')) : Deeds op r r' := by
  have made := deeds_anonymousNode cs location given within shape
  rwa [taken] at made

/-- Each call that a bind of `d` comes to is made by the operation that the bind is made by. -/
theorem Makes.serves {d : Definition} {call : AnonymousCall} (h : Makes location scope d r call)
    (given : d :: d.inner ⊆ op.definitions) (within : Within op r scope) : Serves op r call := by
  induction h with
  | own scope d r => exact ⟨.refl, given, within⟩
  | child comes _ ih =>
    obtain ⟨_, inner⟩ := List.cons_subset.mp given
    rw [Definition.inner_eq, List.append_subset] at inner
    have reached := comes.serves inner.1 within
    exact (ih reached.given reached.within).later reached.deeds
  | step resolved taken comes _ ih =>
    obtain ⟨member, inner⟩ := List.cons_subset.mp given
    rw [Definition.inner_eq, List.append_subset] at inner
    have first := (deeds_resolveChildren location _ _ _ inner.1 within).steps resolved
    have second := deeds_of_anonymousNode member (within.later (Deeds.steps first))
      (sameForm_resolveChildren location resolved).isEmpty taken
    have reached := comes.serves inner.2 (within_scopeOf op _ _)
    have before := ReflTransGen.trans first second
    exact (ih reached.given reached.within).later (before.trans reached.deeds)

end Repository

open Repository in
theorem Operation.Makes.serves {op : Operation} {r : Repository} {call : AnonymousCall}
    (h : op.Makes r call) : Serves op r call := by
  have nested {argument : Child} {d : Definition} (denoted : argument.definition? = some d) :
      d :: d.inner ⊆ argument.bindings := by
    rw [Child.bindings, denoted]
    exact List.Subset.refl _
  cases h with
  | anonymous denoted calls => exact calls.serves (nested denoted) (.inl ⟨_, _, rfl⟩)
  | @child id argument location d _ n _ _ _ denoted here comes calls =>
    have given : d :: d.inner ⊆ definitions (.bind id (.ok argument) location) := nested denoted
    rw [List.cons_subset, Definition.inner_eq, List.append_subset] at given
    have reached := comes.serves given.2.1 (within_of_get? here)
    exact (calls.serves reached.given reached.within).later reached.deeds
  | @step id argument location d _ n _ _ _ _ _ denoted here resolved comes calls =>
    have given : d :: d.inner ⊆ definitions (.bind id (.ok argument) location) := nested denoted
    rw [List.cons_subset, Definition.inner_eq, List.append_subset] at given
    have first := (deeds_resolveChildren _ _ _ _ given.2.1 (within_of_get? here)).steps resolved
    have reached := comes.serves given.2.2 ((within_of_get? here).later (Deeds.steps first))
    exact (calls.serves reached.given reached.within).later (first.trans reached.deeds)
  | @extended role id children location d n _ _ _ here _ comes calls =>
    have given : (ChildList.positional children).definitions ⊆
        definitions (.extend role id children location) := by
      rw [ChildList.definitions_positional]
      exact List.Subset.refl _
    have reached := comes.serves given (within_of_get? here)
    exact (calls.serves reached.given reached.within).later reached.deeds

end NodeForest

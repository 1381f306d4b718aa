import NodeForest.Proofs.Action
import NodeForest.Proofs.Definition
import NodeForest.Repository.Mux

/-!
# Public operations

A repository starts empty and is changed by public operations only. `Operation` lists those that
change anything before a resolve, with the arguments as they reach the repository: factories have
been called, which is a matter of earlier operations. `Reachable` is what operations and resolves
lead to, in any order, with failures on the way; a hook is any sequence of public operations, and
the repositories that a hook sees count as reached.
-/

namespace NodeForest

/-- A public operation other than a resolve. -/
inductive Operation where
  | openScope (parent : ScopeId) (name : String) (quals : Qualifiers)
  | node (scope : ScopeId) (name : String) (location : Location)
  | qualify (basename : String) (scope : ScopeId) (quals : Qualifiers) (location : Location)
  | uniqueName (scope : ScopeId) (name : String)
  | bind (id : NodeId) (argument : Except BuildError Child) (location : Location)
  | bindAnonymous (scope : ScopeId) (argument : Child) (location : Location)
  | makeConstant (value : Constant) (location : Location)
  | extend (role : Repository.ChildRole) (id : NodeId) (children : List Child) (location : Location)
  | setOptions (id : NodeId) (options : List (String × Value)) (location : Location)
  | addError (d : Diagnostic) (trail : List Location)
  | report (d : Diagnostic)
  | pin (id : NodeId)
  | unpin (id : NodeId)
  | hold (id : NodeId)
  | release (id : NodeId)
  | pushFrame (location : Location)
  | popFrame

namespace Operation

/-- The operation as an action; what it gives is left out. -/
def run : Operation → Action Unit
  | openScope parent name quals => do
      let _ ← modifyGet fun r => r.addScope parent name quals
  | node scope name location => do
      let _ ← modifyGet fun r => r.nodeInScope scope name location
  | qualify basename scope quals location => do
      let _ ← modifyGet fun r => r.qualify basename scope quals location
  | uniqueName scope name => do
      let _ ← modifyGet fun r => r.uniqueName scope name
  | bind id argument location => Repository.bind id argument location
  | bindAnonymous scope argument location => do
      let _ ← Repository.bindAnonymous scope argument location
  | makeConstant value location => do
      let _ ← Repository.makeConstant value location
  | extend role id children location => Repository.extendChildren role id children location
  | setOptions id options location => Repository.setOptions id options location
  | addError d trail => Repository.addError d trail
  | report d => Repository.report d
  | pin id => modify (·.pin id)
  | unpin id => modify (·.unpin id)
  | hold id => modify (·.hold id)
  | release id => modify (·.release id)
  | pushFrame location => modify (·.pushFrame location)
  | popFrame => modify Repository.popFrame

/-- The repository after the operation, whether it fails or not. -/
def after (op : Operation) (r : Repository) : Repository :=
  (op.run.exec r).2

/-- The children handed in. -/
def arguments : Operation → List Child
  | bind _ (.ok argument) _ => [argument]
  | bindAnonymous _ argument _ => [argument]
  | extend _ _ children _ => children
  | _ => []

/-- The lists handed in that count as resolved, at any depth. -/
def takenLists (op : Operation) : List ChildList :=
  op.arguments.flatMap Child.takenLists

/-- Every definition handed in is well-formed. -/
def WellFormed (op : Operation) : Prop :=
  ∀ c ∈ op.arguments, c.WellFormed

/-- Every reference to a node of the repository that is handed in names a number already given to a
node. -/
def NamesAllocated (r : Repository) (op : Operation) : Prop :=
  ∀ c ∈ op.arguments, ∀ ref ∈ c.nodeRefs, ref.repository = r.id → ref.id.index < r.nodes.size

instance (r : Repository) (op : Operation) : Decidable (op.NamesAllocated r) :=
  inferInstanceAs (Decidable (∀ c ∈ op.arguments, ∀ ref ∈ c.nodeRefs, _ → _))

/-- The operation is not one that sets fields of records. -/
def LeavesRecords : Operation → Prop
  | setOptions _ _ _ => False
  | _ => True

/-- The operation is not one that extends lists or opens a scope. -/
def LeavesLists : Operation → Prop
  | extend _ _ _ _ => False
  | openScope _ _ _ => False
  | _ => True

end Operation

namespace Repository

/-- A new repository. -/
def start (id : RepositoryId) (options : Options) : Repository :=
  { id, options }

/-- `LeadsTo allowed r r'`: public operations, each allowed where it is called, lead from `r` to
`r'`.

* `operation`: any operation, whether it fails or not.
* `inHook`: what a hook is called on, once the children have been checked.
* `resolve`: a resolve with a hook that does to the repository it is called on what public
  operations do. -/
inductive LeadsTo (allowed : Repository → Operation → Prop) : Repository → Repository → Prop
  | refl (r : Repository) : LeadsTo allowed r r
  | operation {r r₁ : Repository} (op : Operation) :
      LeadsTo allowed r r₁ → allowed r₁ op → LeadsTo allowed r (op.after r₁)
  | inHook {r r₁ r₂ : Repository} : LeadsTo allowed r r₁ → r₁.phase = .building →
      reportUninitialized.exec r₁ = (.ok (), r₂) → LeadsTo allowed r r₂
  | resolve {α : Type} {r r₁ : Repository} (hook : Hook α) (location : Location) :
      LeadsTo allowed r r₁ →
      (∀ r₂, r₁.phase = .building → reportUninitialized.exec r₁ = (.ok (), r₂) →
        LeadsTo allowed r₂ ((hook location).exec r₂).2) →
      LeadsTo allowed r ((resolve hook location).exec r₁).2

/-- The repositories that allowed operations lead to from a new one. -/
def Reachable (allowed : Repository → Operation → Prop) (r : Repository) : Prop :=
  ∃ id options, LeadsTo allowed (start id options) r

/-- The repository after operations, whether they fail or not. -/
def afterAll (r : Repository) (ops : List Operation) : Repository :=
  ops.foldl (fun r op => op.after r) r

/-- Each of the operations is allowed where it is called. -/
def AllowsAll (allowed : Repository → Operation → Prop) (r : Repository) : List Operation → Prop
  | [] => True
  | op :: ops => allowed r op ∧ AllowsAll allowed (op.after r) ops

instance decidableAllowsAll {allowed : Repository → Operation → Prop}
    [∀ r op, Decidable (allowed r op)] : ∀ r ops, Decidable (AllowsAll allowed r ops)
  | _, [] => isTrue trivial
  | r, op :: ops => @instDecidableAnd _ _ inferInstance (decidableAllowsAll (op.after r) ops)

theorem allowsAll_of_forall {allowed : Repository → Operation → Prop} {ops : List Operation}
    (fine : ∀ op ∈ ops, ∀ r, allowed r op) (r : Repository) : AllowsAll allowed r ops := by
  induction ops generalizing r with
  | nil => trivial
  | cons op ops ih =>
    obtain ⟨allow, rest⟩ := List.forall_mem_cons.mp fine
    exact ⟨allow r, ih rest _⟩

theorem LeadsTo.afterAll {allowed : Repository → Operation → Prop} {r r' : Repository}
    {ops : List Operation} (led : LeadsTo allowed r r') (fine : AllowsAll allowed r' ops) :
    LeadsTo allowed r (r'.afterAll ops) := by
  induction ops generalizing r' with
  | nil => exact led
  | cons op ops ih => exact ih (.operation op led fine.1) fine.2

end Repository

end NodeForest

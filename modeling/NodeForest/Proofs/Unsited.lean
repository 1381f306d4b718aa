import NodeForest.Proofs.Check
import NodeForest.Proofs.Definition

/-!
# Without call sites

What a tree script hands in, and what the repository keeps of it, with all locations taken out. Two
pieces of data are alike when they are the same without them.

Results:
1. `Child.unsited` and the others beside it: arguments; `ChildList.equal_unsited`: whether children
   are equal does not depend on locations.
2. `Diagnostic.unsited`, `SameErrors`: diagnostics; `sameErrors_recorded`: the same is recorded for
   diagnostics that are alike, whatever the frames are.
3. `Node.unsited`: nodes.
-/

namespace NodeForest

/-! ## 1. Arguments -/

mutual

/-- The child without locations. -/
def Child.unsited : Child → Child
  | .pending d => .pending d.unsited
  | .factory id body => .factory id body.unsited
  | .empty => .empty
  | .name name => .name name
  | .constant value => .constant value
  | .node ref => .node ref
termination_by structural c => c

def Factory.unsited : Factory → Factory
  | .give c => .give c.unsited
  | .ifBound node yes no => .ifBound node yes.unsited no.unsited
  | .bind scope argument _ => .bind scope argument.unsited default
termination_by structural f => f

def Entry.unsited : Entry → Entry
  | ⟨label, child⟩ => ⟨label, child.unsited⟩
termination_by structural e => e

def Entry.allUnsited : List Entry → List Entry
  | [] => []
  | e :: rest => e.unsited :: Entry.allUnsited rest
termination_by structural es => es

def ChildList.unsited : ChildList → ChildList
  | ⟨entries, keyed, resolved⟩ => ⟨Entry.allUnsited entries, keyed, resolved⟩
termination_by structural l => l

def Definition.unsited : Definition → Definition
  | ⟨nodeClass, children, steps, record⟩ => ⟨nodeClass, children.unsited, steps.unsited, record⟩
termination_by structural d => d

end

theorem Entry.allUnsited_eq (es : List Entry) : Entry.allUnsited es = es.map Entry.unsited := by
  induction es with
  | nil => simp [Entry.allUnsited]
  | cons e es ih => simp [Entry.allUnsited, ih]

section

variable (c : Child) (e : Entry) (l : ChildList) (d : Definition)

@[simp]
theorem Child.node?_unsited : c.unsited.node? = c.node? := by
  cases c <;> simp [Child.unsited, Child.node?]

@[simp]
theorem Child.nodeId?_unsited : c.unsited.nodeId? = c.nodeId? := by
  simp [Child.nodeId?]

@[simp]
theorem Child.kind_unsited : c.unsited.kind = c.kind := by
  cases c <;> simp [Child.unsited, Child.kind]

@[simp]
theorem Child.definition?_unsited : c.unsited.definition? = c.definition?.map (·.unsited) := by
  cases c <;> simp [Child.unsited, Child.definition?, Definition.ofConstant, Definition.ofParts,
    Definition.unsited, ChildList.nil, ChildList.unsited, Entry.allUnsited]

@[simp]
theorem Entry.label_unsited : e.unsited.label = e.label := by
  cases e; simp [Entry.unsited]

@[simp]
theorem Entry.child_unsited : e.unsited.child = e.child.unsited := by
  cases e; simp [Entry.unsited]

theorem Entry.unsited_numbered (cs : List Child) (start : Nat) :
    (Entry.numbered start cs).map (·.unsited) = Entry.numbered start (cs.map (·.unsited)) := by
  induction cs generalizing start with
  | nil => rfl
  | cons c cs ih => simp [Entry.numbered, Entry.unsited, ih]

theorem ChildList.unsited_positional (cs : List Child) :
    (ChildList.positional cs).unsited = .positional (cs.map (·.unsited)) := by
  simp [ChildList.positional, ChildList.unsited, Entry.allUnsited_eq, Entry.unsited_numbered]

theorem ChildList.unsited_push (cs : List Child) :
    (l.push cs).unsited = l.unsited.push (cs.map (·.unsited)) := by
  cases l
  simp [ChildList.push, ChildList.unsited, ChildList.length, Entry.allUnsited_eq,
    Entry.unsited_numbered]

@[simp]
theorem Definition.nodeClass_unsited : d.unsited.nodeClass = d.nodeClass := by
  cases d; simp [Definition.unsited]

@[simp]
theorem Definition.record_unsited : d.unsited.record = d.record := by
  cases d; simp [Definition.unsited]

@[simp]
theorem Definition.children_unsited : d.unsited.children = d.children.unsited := by
  cases d; simp [Definition.unsited]

@[simp]
theorem Definition.steps_unsited : d.unsited.steps = d.steps.unsited := by
  cases d; simp [Definition.unsited]

@[simp]
theorem ChildList.entries_unsited : l.unsited.entries = l.entries.map Entry.unsited := by
  cases l; simp [ChildList.unsited, Entry.allUnsited_eq]

@[simp]
theorem ChildList.keyed_unsited : l.unsited.keyed = l.keyed := by
  cases l; simp [ChildList.unsited]

@[simp]
theorem ChildList.nodeIds_unsited : l.unsited.nodeIds = l.nodeIds := by
  simp [ChildList.nodeIds, List.filterMap_map]

@[simp]
theorem ChildList.isEmpty_unsited : l.unsited.isEmpty = l.isEmpty := by
  simp [ChildList.isEmpty]

end

mutual

@[simp]
theorem Child.unsited_unsited : ∀ c : Child, c.unsited.unsited = c.unsited
  | .pending d => by rw [Child.unsited, Child.unsited, Definition.unsited_unsited]
  | .factory id body => by rw [Child.unsited, Child.unsited, Factory.unsited_unsited]
  | .empty | .name _ | .constant _ | .node _ => by simp only [Child.unsited]
termination_by structural c => c

@[simp]
theorem Factory.unsited_unsited : ∀ f : Factory, f.unsited.unsited = f.unsited
  | .give c => by rw [Factory.unsited, Factory.unsited, Child.unsited_unsited]
  | .ifBound node yes no => by
    rw [Factory.unsited, Factory.unsited, Factory.unsited_unsited yes, Factory.unsited_unsited no]
  | .bind scope argument location => by
    rw [Factory.unsited, Factory.unsited, Child.unsited_unsited]
termination_by structural f => f

@[simp]
theorem Entry.unsited_unsited : ∀ e : Entry, e.unsited.unsited = e.unsited
  | ⟨label, child⟩ => by rw [Entry.unsited, Entry.unsited, Child.unsited_unsited]
termination_by structural e => e

@[simp]
theorem Entry.allUnsited_allUnsited : ∀ es : List Entry,
    Entry.allUnsited (Entry.allUnsited es) = Entry.allUnsited es
  | [] => by simp only [Entry.allUnsited]
  | e :: es => by
    rw [Entry.allUnsited, Entry.allUnsited, Entry.unsited_unsited, Entry.allUnsited_allUnsited]
termination_by structural es => es

@[simp]
theorem ChildList.unsited_unsited : ∀ l : ChildList, l.unsited.unsited = l.unsited
  | ⟨entries, keyed, resolved⟩ => by
    rw [ChildList.unsited, ChildList.unsited, Entry.allUnsited_allUnsited]
termination_by structural l => l

@[simp]
theorem Definition.unsited_unsited : ∀ d : Definition, d.unsited.unsited = d.unsited
  | ⟨nodeClass, children, steps, record⟩ => by
    rw [Definition.unsited, Definition.unsited, ChildList.unsited_unsited,
      ChildList.unsited_unsited]
termination_by structural d => d

end

mutual

theorem Child.equal_unsited : ∀ a b : Child, a.unsited.equal b.unsited = a.equal b
  | .pending d, .pending d' => by
    rw [Child.unsited, Child.unsited, Child.equal, Child.equal, Definition.equal_unsited]
  | .factory id body, .factory id' body' => by
    rw [Child.unsited, Child.unsited, Child.equal, Child.equal]
  | .empty, b => by cases b <;> simp [Child.unsited, Child.equal]
  | .name _, b => by cases b <;> simp [Child.unsited, Child.equal]
  | .constant _, b => by cases b <;> simp [Child.unsited, Child.equal]
  | .node _, b => by cases b <;> simp [Child.unsited, Child.equal]
  | .pending _, .empty | .pending _, .name _ | .pending _, .constant _ | .pending _, .node _
  | .pending _, .factory _ _ => by simp [Child.unsited, Child.equal]
  | .factory _ _, .empty | .factory _ _, .name _ | .factory _ _, .constant _
  | .factory _ _, .node _ | .factory _ _, .pending _ => by simp [Child.unsited, Child.equal]
termination_by structural a => a

theorem Entry.equal_unsited : ∀ a b : Entry, a.unsited.equal b.unsited = a.equal b
  | ⟨label, child⟩, ⟨label', child'⟩ => by
    rw [Entry.unsited, Entry.unsited, Entry.equal, Entry.equal, Child.equal_unsited]
termination_by structural a => a

theorem Entry.equalAll_unsited : ∀ as bs : List Entry,
    Entry.equalAll (Entry.allUnsited as) (Entry.allUnsited bs) = Entry.equalAll as bs
  | [], [] | [], _ :: _ | _ :: _, [] => by simp [Entry.allUnsited, Entry.equalAll]
  | a :: as, b :: bs => by
    rw [Entry.allUnsited, Entry.allUnsited, Entry.equalAll, Entry.equalAll, Entry.equal_unsited,
      Entry.equalAll_unsited]
termination_by structural as => as

theorem ChildList.equal_unsited : ∀ a b : ChildList, a.unsited.equal b.unsited = a.equal b
  | ⟨entries, keyed, _⟩, ⟨entries', keyed', _⟩ => by
    rw [ChildList.unsited, ChildList.unsited, ChildList.equal, ChildList.equal,
      Entry.equalAll_unsited]
termination_by structural a => a

theorem Definition.equal_unsited : ∀ a b : Definition, a.unsited.equal b.unsited = a.equal b
  | ⟨nodeClass, children, steps, record⟩, ⟨nodeClass', children', steps', record'⟩ => by
    rw [Definition.unsited, Definition.unsited, Definition.equal, Definition.equal,
      ChildList.equal_unsited, ChildList.equal_unsited]
termination_by structural a => a

end

/-- A builder's outcome without locations. -/
def BuildError.unsited : BuildError → BuildError
  | .conflictingChildren className sources _ => .conflictingChildren className sources default
  | .keyedSteps className _ => .keyedSteps className default
  | .invalidTags className found _ => .invalidTags className found default
  | .invalidGroups className found _ => .invalidGroups className found default
  | .reservedField className field _ => .reservedField className field default
  | .invalid reason _ => .invalid reason default

@[simp]
theorem BuildError.unsited_unsited (e : BuildError) : e.unsited.unsited = e.unsited := by
  cases e <;> rfl

/-- The argument of a bind without locations. -/
def unsitedArgument : Except BuildError Child → Except BuildError Child
  | .ok c => .ok c.unsited
  | .error e => .error e.unsited

/-! ## 2. Diagnostics -/

/-- The diagnostic without its locations. -/
def Diagnostic.unsited : Diagnostic → Diagnostic
  | .childNotFound label name _ => .childNotFound label name default
  | .illegalChild label kind _ => .illegalChild label kind default
  | .uninitializedChild label child parent _ => .uninitializedChild label child parent default
  | .nodeRedefined name _ _ => .nodeRedefined name default default
  | .firstDefinedHere name _ => .firstDefinedHere name default
  | .uninitializedNode name _ => .uninitializedNode name default
  | .unboundNode name operation _ => .unboundNode name operation default
  | .unbindable name kind _ => .unbindable name kind default
  | .definition name source _ => .definition name source.unsited default
  | .calledFrom note _ => .calledFrom note default
  | .invalidPattern pattern reason _ => .invalidPattern pattern reason default

/-- Diagnostics that differ in their locations only. -/
def SameDiagnostic (d d' : Diagnostic) : Prop :=
  d.unsited = d'.unsited

/-- Lists of which both are empty or neither, and which name the same failures in the same order. -/
structure SameErrors (ds ds' : List Diagnostic) : Prop where
  empty : ds = [] ↔ ds' = []
  primary : (Diagnostic.primary ds).map (·.unsited) = (Diagnostic.primary ds').map (·.unsited)

theorem sameDiagnostic_unsited (d : Diagnostic) : SameDiagnostic d d.unsited := by
  cases d <;> simp [SameDiagnostic, Diagnostic.unsited]

theorem Diagnostic.isTrail_unsited (d : Diagnostic) : d.unsited.isTrail = d.isTrail := by
  cases d <;> rfl

theorem SameDiagnostic.isTrail {d d' : Diagnostic} (same : SameDiagnostic d d') :
    d.isTrail = d'.isTrail := by
  rw [← d.isTrail_unsited, ← d'.isTrail_unsited, same]

namespace SameErrors

variable {ds ds' es es' : List Diagnostic}

theorem refl (ds : List Diagnostic) : SameErrors ds ds :=
  ⟨.rfl, rfl⟩

theorem symm (same : SameErrors ds ds') : SameErrors ds' ds :=
  ⟨same.empty.symm, same.primary.symm⟩

theorem trans (same : SameErrors ds ds') (same' : SameErrors ds' es) : SameErrors ds es :=
  ⟨same.empty.trans same'.empty, same.primary.trans same'.primary⟩

theorem append (same : SameErrors ds ds') (same' : SameErrors es es') :
    SameErrors (ds ++ es) (ds' ++ es') where
  empty := by rw [List.append_eq_nil_iff, List.append_eq_nil_iff, same.empty, same'.empty]
  primary := by
    have first := same.primary
    have second := same'.primary
    simp only [Diagnostic.primary] at first second ⊢
    rw [List.filter_append, List.filter_append, List.map_append, List.map_append, first, second]

end SameErrors

open Repository in
/-- The same is recorded for diagnostics that are alike, whatever the frames are. -/
theorem sameErrors_recorded (o : Options) {d d' : Diagnostic} (same : SameDiagnostic d d')
    (trail trail' : List Location) :
    SameErrors (recorded o d trail) (recorded o d' trail') where
  empty := by simp [recorded]
  primary := by
    rw [primary_recorded, primary_recorded, Diagnostic.primary, Diagnostic.primary,
      List.filter_singleton, List.filter_singleton, same.isTrail]
    cases d'.isTrail with
    | true => rfl
    | false => exact congrArg (fun d => [d]) same

/-! ## 3. Nodes -/

/-- The definition of a node without locations. -/
def Binding.unsited (b : Binding) : Binding :=
  { b with
    children := b.children.unsited
    steps := b.steps.unsited
    boundAt := default
    trail := [] }

/-- The node without locations. -/
def Node.unsited (n : Node) : Node :=
  { n with definedAt := default, trail := [], binding := n.binding.map (·.unsited) }

/-- Of nodes that are alike, neither is bound, or both are, alike. -/
theorem Node.binding_cases {n n' : Node} (same : n.unsited = n'.unsited) :
    n.binding = none ∧ n'.binding = none ∨
      ∃ b b', n.binding = some b ∧ n'.binding = some b' ∧ b.unsited = b'.unsited := by
  have bindings : n.binding.map Binding.unsited = n'.binding.map Binding.unsited :=
    congrArg Node.binding same
  cases here : n.binding <;> cases here' : n'.binding <;> rw [here, here'] at bindings
  · exact .inl ⟨rfl, rfl⟩
  · cases bindings
  · cases bindings
  · exact .inr ⟨_, _, rfl, rfl, Option.some.inj bindings⟩

@[simp]
theorem Node.isBound_unsited (n : Node) : n.unsited.isBound = n.isBound :=
  Option.isSome_map

@[simp]
theorem Node.className?_unsited (n : Node) : n.unsited.className? = n.className? := by
  rw [Node.className?, Node.unsited, Option.map_map]
  rfl

@[simp]
theorem Node.children_unsited (n : Node) : n.unsited.children = n.children.unsited := by
  rw [Node.children, Node.children, Node.unsited]
  cases n.binding with
  | none => simp [ChildList.nil, ChildList.unsited, Entry.allUnsited]
  | some b => rfl

@[simp]
theorem Node.steps_unsited (n : Node) : n.unsited.steps = n.steps.unsited := by
  rw [Node.steps, Node.steps, Node.unsited]
  cases n.binding with
  | none => simp [ChildList.nil, ChildList.unsited, Entry.allUnsited]
  | some b => rfl

theorem Node.unsited_withParent (n : Node) (parent : NodeId) :
    (n.withParent parent).unsited = n.unsited.withParent parent := by
  have parents : n.unsited.parents = n.parents := rfl
  rw [Node.withParent, Node.withParent, parents]
  split <;> rfl

@[simp]
theorem Node.childIds_unsited (n : Node) : n.unsited.childIds = n.childIds := by
  rw [Node.childIds, Node.unsited, Option.map_map]
  simp [Node.childIds, Binding.childIds, Binding.unsited, Function.comp_def]

end NodeForest

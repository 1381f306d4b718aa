import NodeForest.Proofs.GeneratedName
import NodeForest.Proofs.Growth
import NodeForest.Proofs.Invariant

/-!
# What changes are made for

A step says how a repository changes, and not why. Here every step of an operation is traced back to
what the operation is given: a new node has a name that is asked for by hand or that one of the
definitions handed in goes by, and what is attached is one of these definitions. What holds of all
names and definitions of a run is shown from this, once for each kind of change.

Results:
1. `Operation.definitions`, `Operation.Within`: the definitions that an operation binds, and the
   scopes that it names nodes in; `Operation.reframe`: what it makes of the call frames.
2. `Operation.Names`, `Binding.Realizes`: where names and definitions come from; `Deed`: a step with
   what it is made for.
3. `deeds_resolveChildren`, `deeds_defineAnonymous`: the recursion over nested definitions.
4. `Operation.deeds`: every operation.
5. `Deed.bindingOrigin`: how a node comes by its definition.
-/

namespace NodeForest

open Relation NodeForest.Action

/-! ## 1. What is given -/

/-- The definition that the argument of a bind denotes, and those nested in it. -/
def Child.bindings (c : Child) : List Definition :=
  c.definition?.elim [] fun d => d :: d.inner

/-- The definitions that the operation binds, at every depth. -/
def Operation.definitions : Operation → List Definition
  | bind _ (.ok argument) _ => argument.bindings
  | bindAnonymous _ argument _ => argument.bindings
  | extend _ _ children _ => children.flatMap Child.definitions
  | _ => []

theorem Entry.allDefinitions_numbered :
    ∀ (start : Nat) (cs : List Child),
      Entry.allDefinitions (Entry.numbered start cs) = cs.flatMap Child.definitions
  | _, [] => rfl
  | start, c :: cs => by
    rw [Entry.numbered, Entry.allDefinitions, Entry.definitions,
      Entry.allDefinitions_numbered (start + 1) cs, List.flatMap_cons]

theorem ChildList.definitions_positional (cs : List Child) :
    (ChildList.positional cs).definitions = cs.flatMap Child.definitions := by
  rw [ChildList.positional, ChildList.definitions, if_neg Bool.false_ne_true,
    Entry.allDefinitions_numbered]

/-- What the operation makes of the call frames. -/
def Operation.reframe (frames : List Location) : Operation → List Location
  | pushFrame location => frames ++ [location]
  | popFrame => frames.dropLast
  | _ => frames

namespace ChildList

def labels (l : ChildList) : List Label :=
  l.entries.map (·.label)

/-- The second list is keyed if the first is, and has the same labels. -/
structure SameForm (l l' : ChildList) : Prop where
  keyed : l'.keyed = l.keyed
  labels : l'.labels = l.labels

theorem SameForm.length {l l' : ChildList} (h : l.SameForm l') : l'.length = l.length := by
  have := congrArg List.length h.labels
  simpa [ChildList.labels, ChildList.length] using this

theorem SameForm.isEmpty {l l' : ChildList} (h : l.SameForm l') : l'.isEmpty = l.isEmpty := by
  have := h.length
  rw [Bool.eq_iff_iff, ChildList.isEmpty, ChildList.isEmpty, List.isEmpty_iff_length_eq_zero,
    List.isEmpty_iff_length_eq_zero]
  exact Eq.congr_left this

end ChildList

/-- The binding is one of this definition, whose record may have been told the class again. -/
structure Binding.Realizes (b : Binding) (d : Definition) : Prop where
  className : b.className = d.nodeClass.fullName
  record : b.record = d.record ∨
    b.record = OrderedMap.insert d.record Record.classKey (.text d.nodeClass.fullName)
  children : d.children.SameForm b.children
  steps : d.steps.SameForm b.steps

namespace Repository

/-! ## 2. Names and deeds -/

/-- The scopes that the operation names nodes in: the one it is given, and those of nodes. -/
def Within (op : Operation) (r : Repository) (scope : ScopeId) : Prop :=
  (∃ argument location, op = .bindAnonymous scope argument location) ∨ scope = .root ∨
    ∃ id n, r.get? id = some n ∧ n.scope = scope

/-- The basename, scope and qualifiers that the operation gives to a new node.

* `node`, `qualify`: by hand.
* `generated`: for a definition without children, with a number that the scope has counted.
* `composed`: for a definition with children, from those as they were resolved. -/
inductive Names (op : Operation) (r : Repository) : String → ScopeId → Qualifiers → Prop
  | node {scope : ScopeId} {name : String} {location : Location} :
      op = .node scope name location → Names op r (r.scopedName scope name) scope .empty
  | qualify {basename : String} {scope : ScopeId} {quals : Qualifiers} {location : Location} :
      op = .qualify basename scope quals location → Names op r basename scope quals
  | generated {scope : ScopeId} {d : Definition} {n : Nat} :
      d ∈ op.definitions → Within op r scope → d.children.isEmpty →
      (scope.index < r.scopes.size → n < r.counterOf scope (Text.lowercase d.nodeClass.name)) →
      Names op r (r.scopedName scope (generatedName (Text.lowercase d.nodeClass.name) n)) scope
        .empty
  | composed {scope : ScopeId} {d : Definition} (cs : ChildList) :
      d ∈ op.definitions → Within op r scope → d.children.isEmpty = false →
      Names op r (r.scopedName scope (Text.lowercase d.nodeClass.name ++ "(" ++
        ",".intercalate (r.childBasenames cs) ++ ")")) scope (r.mergedQuals cs)

/-- A step that the operation takes, with what it is made for. -/
inductive Deed (op : Operation) : Repository → Repository → Prop
  | register {r : Repository} {basename : String} {scope : ScopeId} {quals : Qualifiers}
      (location : Location) (free : r.lookup? (qualifyName basename quals) = none)
      (named : Names op r basename scope quals) :
      Deed op r (r.register (qualifyName basename quals) basename scope quals location)
  | attach {r : Repository} {id : NodeId} {n : Node} {d : Definition} (b : Binding)
      (here : r.get? id = some n) (unbound : n.binding = none) (fresh : b.placement = none)
      (fits : Promise.none.Fits r (b.children.members ++ b.steps.members))
      (given : d ∈ op.definitions) (realizes : b.Realizes d) (trail : b.trail = r.frames) :
      Deed op r ((r.relink id (fun _ => some b) b.childIds).noteClass id b.className)
  | extend {r : Repository} {id : NodeId} {role : ChildRole} {given : List Child}
      {location : Location} (asked : op = .extend role id given location) (cs : List Child)
      (bound : r.isBound id) (fits : Promise.none.Fits r cs) :
      Deed op r (r.relink id (·.map (extendBinding role cs)) (cs.filterMap Child.nodeId?))
  | setFields {r : Repository} {id : NodeId} {options : List (String × Value)}
      {location : Location} (asked : op = .setOptions id options location) :
      Deed op r (r.relink id
        (·.map fun b => { b with record := OrderedMap.insertAll b.record options }) [])
  | note {r : Repository} (d : Diagnostic) {trail : List Location}
      (given : trail = r.frames ∨ op = .addError d trail) :
      Deed op r { r with errors := r.errors ++ recorded r.options d trail }
  | share {r : Repository} (value : Constant) (location : Location)
      (unknown : (OrderedMap.get? r.constants value.key).filter r.isLive = none) :
      Deed op r (r.withConstant value location)
  | count {r : Repository} {s : Scope} (scope : ScopeId) (name : String)
      (here : r.scopes[scope.index]? = some s) :
      Deed op r { r with scopes := r.scopes.setIfInBounds scope.index (s.counted name) }
  | openScope {r : Repository} {parent : ScopeId} {name : String} {quals : Qualifiers}
      (asked : op = .openScope parent name quals) : Deed op r (r.addScope parent name quals).2
  | keep {r : Repository} (held pinned : List NodeId) :
      Deed op r { r with frames := op.reframe r.frames, held, pinned }

variable {op : Operation} {r r' : Repository}

theorem Deed.step (h : Deed op r r') : Step .none r r' := by
  cases h with
  | register location free => exact .register _ _ _ location free
  | attach b here unbound fresh fits => exact .attach b here unbound fresh fits False.elim
  | extend asked cs bound fits => exact .extend _ cs not_false bound fits
  | @setFields _ options => exact .setFields _ (OrderedMap.insertAll · options) not_false
  | note => exact .note _
  | share value location unknown => exact .share value location unknown
  | count scope name here => exact .count scope name here
  | openScope => exact .openScope _ not_false
  | keep held pinned => exact .keep _ held pinned

/-- Any number of deeds. -/
abbrev Deeds (op : Operation) : Repository → Repository → Prop :=
  ReflTransGen (Deed op)

theorem Deeds.steps (h : Deeds op r r') : Steps .none r r' :=
  ReflTransGen.mono (fun _ _ deed => deed.step) _ _ h

theorem Within.later {scope : ScopeId} (within : Within op r scope) (h : Steps .none r r') :
    Within op r' scope := by
  refine within.imp_right (Or.imp_right fun ⟨id, n, here, same⟩ => ?_)
  obtain ⟨n', here', grows⟩ := h.grows here
  exact ⟨id, n', here', grows.scope.trans same⟩

theorem within_scopeOf (op : Operation) (r : Repository) (id : NodeId) :
    Within op r (r.scopeOf id) := by
  refine .inr ?_
  cases here : r.get? id with
  | none => exact .inl (by rw [scopeOf, here]; rfl)
  | some n => exact .inr ⟨id, n, here, by rw [scopeOf, here]; rfl⟩

end Repository

theorem Action.Leads.and {α : Type} {a : Action α} {r : Repository}
    {S S' : Repository → Repository → Prop} {P Q : α → Repository → Prop} (h : Leads S a r P)
    (h' : Leads S' a r Q) : Leads S a r fun y r' => P y r' ∧ Q y r' :=
  ⟨h.1, fun y ok => ⟨h.2 y ok, h'.2 y ok⟩⟩

namespace Repository

variable {op : Operation} {r r' : Repository}

theorem deeds_getOrCreate {basename : String} {scope : ScopeId} {quals : Qualifiers}
    (location : Location) (named : Names op r basename scope quals) :
    Deeds op r (r.getOrCreate (qualifyName basename quals) basename scope quals location).2 := by
  rw [getOrCreate]
  cases found : r.lookup? (qualifyName basename quals) with
  | some id => exact .refl
  | none => exact .single (.register location found named)

theorem deeds_uniqueName (r : Repository) (scope : ScopeId) (name : String) :
    Deeds op r (r.uniqueName scope name).2 := by
  rw [uniqueName]
  split
  · exact .refl
  · rename_i s here
    exact .single (.count scope name here)

/-- A generated name has a number that the scope has counted. -/
theorem exists_drawn (r : Repository) (scope : ScopeId) (name : String) :
    ∃ n, (r.uniqueName scope name).1 = generatedName name n ∧
      (scope.index < (r.uniqueName scope name).2.scopes.size →
        n < (r.uniqueName scope name).2.counterOf scope name) := by
  refine ⟨r.counterOf scope name, uniqueName_fst r scope name, fun inside => ?_⟩
  have same : (r.uniqueName scope name).2.scopes.size = r.scopes.size := by
    rw [uniqueName]
    split <;> simp
  rw [counterOf_uniqueName, if_pos ⟨⟨rfl, same ▸ inside⟩, rfl⟩]
  exact Nat.lt_succ_self _

theorem deeds_anonymousNode {d : Definition} {scope : ScopeId} (cs : ChildList)
    (location : Location) (given : d ∈ op.definitions) (within : Within op r scope)
    (shape : cs.isEmpty = d.children.isEmpty) :
    Deeds op r (r.anonymousNode scope d.nodeClass cs location).2 := by
  rw [anonymousNode]
  split
  · rename_i childless
    obtain ⟨n, same, drawn⟩ := exists_drawn r scope (Text.lowercase d.nodeClass.name)
    have first : Deeds op r (r.uniqueName scope (Text.lowercase d.nodeClass.name)).2 :=
      deeds_uniqueName r scope _
    have named := Names.generated given (within.later first.steps) (shape ▸ childless) drawn
    have second := deeds_getOrCreate location named
    rw [← same, qualifyName_empty] at second
    exact first.trans second
  · rename_i filled
    exact deeds_getOrCreate location
      (.composed cs given within (shape ▸ Bool.not_eq_true _ ▸ filled))

theorem deeds_addError (d : Diagnostic) {trail : List Location}
    (given : trail = r.frames ∨ op = .addError d trail) :
    Leads (Deed op) (addError d trail) r fun _ _ => True := by
  rw [addError]
  refine .get ?_
  dsimp only
  split
  · exact .bind (P := fun _ _ => False) (.throw _) fun _ _ _ h => h.elim
  · refine .bind (P := fun _ _ => True) (.set (.single (.note d given)) trivial) fun _ _ _ _ => ?_
    split
    · exact .throw _
    · exact .pure trivial

theorem deeds_recording {a : Action Unit} {P : Unit → Repository → Prop}
    (h : Leads (Deed op) a r P) : Leads (Deed op) (recording a) r fun _ _ => True := by
  refine ⟨?_, fun _ _ => trivial⟩
  rw [exec_recording]
  rcases run : exec a r with ⟨(d | ds | _) | _, r₁⟩
  · exact (h.steps run).trans (deeds_addError d (.inl rfl)).1
  all_goals exact h.steps run

theorem deeds_makeConstant (value : Constant) (location : Location) (r : Repository) :
    Leads (Deed op) (makeConstant value location) r fun _ _ => True := by
  refine ⟨?_, fun _ _ => trivial⟩
  cases known : (OrderedMap.get? r.constants value.key).filter r.isLive with
  | some id => rw [exec_makeConstant_known location known]
  | none =>
    rw [exec_makeConstant_new location known]
    exact .single (.share value location known)

/-- Attaching a definition, as it was handed in or put together again, its lists being resolved. -/
theorem deeds_attach {id : NodeId} {d : Definition} {cs ss : ChildList} {record : Record}
    (location : Location) (given : d ∈ op.definitions)
    (fields : record = d.record ∨
      record = OrderedMap.insert d.record Record.classKey (.text d.nodeClass.fullName))
    (children : d.children.SameForm cs) (steps : d.steps.SameForm ss)
    (fits : Promise.none.Fits r (cs.members ++ ss.members)) :
    Leads (Deed op) (attach id ⟨d.nodeClass, cs, ss, record⟩ location) r fun _ _ => True := by
  refine ⟨?_, fun _ _ => trivial⟩
  cases here : r.get? id with
  | none => rw [exec_attach_gone _ location here]
  | some n =>
    cases bound : n.binding with
    | some b =>
      rw [exec_attach_bound _ location here bound]
      split <;> exact .refl
    | none =>
      rw [exec_attach_unbound _ location here bound]
      exact .single (.attach (r.newBinding ⟨d.nodeClass, cs, ss, record⟩ location) here bound rfl
        fits given ⟨rfl, fields, children, steps⟩ rfl)

/-! ## 3. The recursion -/

section

variable (location : Location)

theorem labels_resolveEntries {scope : ScopeId} : ∀ {es es' : List Entry} {r r' : Repository},
    (resolveEntries location scope es).exec r = (.ok es', r') →
      es'.map (·.label) = es.map (·.label)
  | [], _, _, _, ran => by
    rw [resolveEntries] at ran
    cases ran
    rfl
  | ⟨label, child⟩ :: rest, _, _, _, ran => by
    rw [resolveEntries] at ran
    obtain ⟨e', r₁, first, ran⟩ := exec_bind_ok.mp ran
    obtain ⟨rest', r₂, second, given⟩ := exec_bind_ok.mp ran
    rw [resolveEntry] at first
    obtain ⟨c, r₃, _, given'⟩ := exec_bind_ok.mp first
    cases given
    cases given'
    rw [List.map_cons, List.map_cons, labels_resolveEntries second]

/-- Resolving keeps the form of a list. -/
theorem sameForm_resolveChildren {scope : ScopeId} {l l' : ChildList}
    (ran : (resolveChildren location scope l).exec r = (.ok l', r')) : l.SameForm l' := by
  obtain ⟨entries, keyed, resolved⟩ := l
  cases resolved with
  | true =>
    rw [exec_resolveChildren_resolved] at ran
    split at ran <;> cases ran
    exact ⟨rfl, rfl⟩
  | false =>
    rw [resolveChildren, if_neg Bool.false_ne_true] at ran
    obtain ⟨es, r₁, ran, given⟩ := exec_bind_ok.mp ran
    cases given
    exact ⟨rfl, labels_resolveEntries location ran⟩

/-- What is known of a list once it is resolved. -/
theorem leads_resolved {S : Repository → Repository → Prop} {scope : ScopeId} {l : ChildList}
    (h : Leads S (resolveChildren location scope l) r fun _ _ => True) :
    Leads S (resolveChildren location scope l) r fun l' r' =>
      l.SameForm l' ∧ Promise.none.Fits r' l'.members := by
  have fits := leads_resolveChildren (p := .none) location scope l r False.elim
  exact ⟨h.1, fun l' ok => ⟨sameForm_resolveChildren location (Prod.ext ok rfl), fits.2 l' ok⟩⟩

mutual

theorem deeds_resolveChild (scope : ScopeId) (label : Label) : ∀ (c : Child) (r : Repository),
    c.definitions ⊆ op.definitions → Within op r scope →
      Leads (Deed op) (resolveChild location scope label c) r fun _ _ => True
  | .empty, r, _, _ => by
    rw [resolveChild]
    exact .pure trivial
  | .node ref, r, _, _ => by
    rw [Leads, exec_resolveChild_node]
    exact ⟨.refl, fun _ _ => trivial⟩
  | .name name, r, _, _ => by
    rw [Leads, exec_resolveChild_name]
    exact ⟨.refl, fun _ _ => trivial⟩
  | .constant value, r, _, _ => by
    rw [resolveChild]
    exact .bind (deeds_makeConstant value location r) fun _ _ _ _ => .get (.pure trivial)
  | .pending d, r, given, within => by
    rw [Child.definitions] at given
    rw [resolveChild]
    exact .bind (deeds_defineAnonymous scope d r given within) fun _ _ _ _ => .get (.pure trivial)
  | .factory _ _, r, _, _ => by
    rw [resolveChild]
    exact .throw _

theorem deeds_resolveEntry (scope : ScopeId) : ∀ (e : Entry) (r : Repository),
    e.definitions ⊆ op.definitions → Within op r scope →
      Leads (Deed op) (resolveEntry location scope e) r fun _ _ => True
  | ⟨label, child⟩, r, given, within => by
    rw [Entry.definitions] at given
    rw [resolveEntry]
    exact .bind (deeds_resolveChild scope label child r given within) fun _ _ _ _ => .pure trivial

theorem deeds_resolveEntries (scope : ScopeId) : ∀ (es : List Entry) (r : Repository),
    Entry.allDefinitions es ⊆ op.definitions → Within op r scope →
      Leads (Deed op) (resolveEntries location scope es) r fun _ _ => True
  | [], r, _, _ => by
    rw [resolveEntries]
    exact .pure trivial
  | e :: rest, r, given, within => by
    rw [Entry.allDefinitions, List.append_subset] at given
    rw [resolveEntries]
    refine .bind (deeds_resolveEntry scope e r given.1 within) fun _ r₁ first _ => ?_
    exact .bind (deeds_resolveEntries scope rest r₁ given.2 (within.later (Deeds.steps first)))
      fun _ _ _ _ => .pure trivial

theorem deeds_resolveChildren (scope : ScopeId) : ∀ (l : ChildList) (r : Repository),
    l.definitions ⊆ op.definitions → Within op r scope →
      Leads (Deed op) (resolveChildren location scope l) r fun _ _ => True
  | ⟨entries, keyed, true⟩, r, _, _ => by
    rw [Leads, exec_resolveChildren_resolved]
    exact ⟨.refl, fun _ _ => trivial⟩
  | ⟨entries, keyed, false⟩, r, given, within => by
    rw [ChildList.definitions, if_neg Bool.false_ne_true] at given
    rw [resolveChildren, if_neg Bool.false_ne_true]
    exact .bind (deeds_resolveEntries scope entries r given within) fun _ _ _ _ => .pure trivial

theorem deeds_defineAnonymous (scope : ScopeId) : ∀ (d : Definition) (r : Repository),
    d :: d.inner ⊆ op.definitions → Within op r scope →
      Leads (Deed op) (defineAnonymous location scope d) r fun _ _ => True
  | ⟨nodeClass, children, steps, record⟩, r, given, within => by
    obtain ⟨member, inner⟩ := List.cons_subset.mp given
    rw [Definition.inner_eq, List.append_subset] at inner
    rw [defineAnonymous]
    refine .bind (leads_resolved location (deeds_resolveChildren scope children r inner.1 within))
      fun cs r₁ first ⟨form, fits⟩ => ?_
    have named := deeds_anonymousNode cs location member (within.later (Deeds.steps first))
      form.isEmpty
    refine .bind (P := fun _ r₂ => Deeds op r₁ r₂) (.modifyGet named named) fun id r₂ _ second => ?_
    refine .bind (deeds_recording (P := fun _ _ => True) (.get ?_)) fun _ _ _ _ => .pure trivial
    refine .bind (leads_resolved location (deeds_resolveChildren _ steps r₂ inner.2
      (within_scopeOf op r₂ id))) fun ss r₃ third ⟨form', fits'⟩ => ?_
    have later := (Deeds.steps (second.trans third)).extends
    show Leads (Deed op) (attach id ⟨nodeClass, cs, ss, OrderedMap.insert record Record.classKey
      (.text nodeClass.fullName)⟩ location) r₃ _
    exact deeds_attach (d := ⟨nodeClass, children, steps, record⟩) location member (.inr rfl) form
      form' ((fits.mono later).append fits')

end

end

/-! ## 4. Operations -/

theorem deeds_tryBind {id : NodeId} {argument : Except BuildError Child} (location : Location)
    (given : ∀ c, argument = .ok c → c.bindings ⊆ op.definitions) :
    Leads (Deed op) (tryBind id argument location) r fun _ _ => True := by
  rcases exec_tryBind_cases location id argument r with
    ⟨e, refused⟩ | ⟨c, d, node, rfl, denoted, here⟩
  · exact .of_exec refused (.throw _)
  · have inside := given c rfl
    rw [Child.bindings, denoted] at inside
    obtain ⟨member, inner⟩ := List.cons_subset.mp inside
    rw [Definition.inner_eq, List.append_subset] at inner
    have within : Within op r node.scope := .inr (.inr ⟨id, node, here, rfl⟩)
    refine .of_exec (exec_tryBind location denoted here) ?_
    refine .bind (leads_resolved location (deeds_resolveChildren location _ d.children r inner.1
      within)) fun cs r₁ first ⟨form, fits⟩ => ?_
    refine .bind (leads_resolved location (deeds_resolveChildren location _ d.steps r₁ inner.2
      (within.later (Deeds.steps first)))) fun ss r₂ second ⟨form', fits'⟩ => ?_
    exact deeds_attach location member (.inl rfl) form form'
      ((fits.mono (Deeds.steps second).extends).append fits')

theorem deeds_extendChildren {role : ChildRole} {id : NodeId} {cs : List Child}
    {location : Location} (asked : op = .extend role id cs location) :
    Leads (Deed op) (extendChildren role id cs location) r fun _ _ => True := by
  rw [extendChildren]
  refine .get ?_
  cases here : (r.get? id).filter (·.isBound) with
  | none => exact .throw _
  | some node =>
    obtain ⟨live, isBound⟩ := Option.filter_eq_some_iff.mp here
    have bound : r.isBound id := by
      rw [isBound_eq, bindingOf?_of_get? live]
      exact isBound
    have given : (ChildList.positional cs).definitions ⊆ op.definitions := by
      rw [asked, ChildList.definitions_positional]
      exact List.Subset.refl _
    refine .bind (leads_resolved location (deeds_resolveChildren location _ _ r given
      (.inr (.inr ⟨id, node, live, rfl⟩)))) fun l r₁ more resolved => ?_
    obtain ⟨_, fits⟩ := resolved
    refine .modifyGet (.single ?_) trivial
    dsimp only
    rw [ChildList.nodeIds_eq]
    exact .extend asked l.members (Steps.isBound (Deeds.steps more) bound) fits

theorem deeds_setOptions {id : NodeId} {options : List (String × Value)} {location : Location}
    (asked : op = .setOptions id options location) :
    Leads (Deed op) (setOptions id options location) r fun _ _ => True := by
  rw [setOptions]
  refine .get ?_
  dsimp only
  split
  · exact .bind (P := fun _ _ => False) (.throw _) fun _ _ _ h => h.elim
  · exact .set (.single (.setFields asked)) trivial

end Repository

open Repository in
/-- Every operation is a sequence of deeds, whether it fails or not. -/
theorem Operation.deeds (op : Operation) (r : Repository) : Deeds op r (op.after r) := by
  have unit {α : Type} {a : Action α} {P : α → Repository → Prop} (h : Leads (Deed op) a r P) :
      Leads (Deed op) (do let _ ← a) r fun _ _ => True :=
    .bind h fun _ _ _ _ => .pure trivial
  suffices done : Leads (Deed op) op.run r fun _ _ => True from done.1
  cases op with
  | openScope parent name quals =>
    exact unit (P := fun _ _ => True) (.modifyGet (.single (.openScope rfl)) trivial)
  | node scope name location =>
    have named : Names (.node scope name location) r (r.scopedName scope name) scope .empty :=
      .node rfl
    have made := deeds_getOrCreate location named
    rw [qualifyName_empty] at made
    exact unit (P := fun _ _ => True) (.modifyGet made trivial)
  | qualify basename scope quals location =>
    exact unit (P := fun _ _ => True)
      (.modifyGet (deeds_getOrCreate location (.qualify rfl)) trivial)
  | uniqueName scope name =>
    exact unit (P := fun _ _ => True) (.modifyGet (deeds_uniqueName r scope name) trivial)
  | bind id argument location =>
    refine deeds_recording (deeds_tryBind location fun c same => ?_)
    rw [same]
    exact List.Subset.refl _
  | bindAnonymous scope argument location =>
    refine unit (P := fun _ _ => True) ?_
    rw [Repository.bindAnonymous]
    cases denoted : argument.definition? with
    | none => exact .throw _
    | some d =>
      refine deeds_defineAnonymous location scope d r ?_ (.inl ⟨_, _, rfl⟩)
      rw [definitions, Child.bindings, denoted]
      exact List.Subset.refl _
  | makeConstant value location => exact unit (deeds_makeConstant value location r)
  | extend role id children location => exact deeds_extendChildren rfl
  | setOptions id options location => exact deeds_setOptions rfl
  | addError d trail => exact deeds_addError d (.inr rfl)
  | report d => exact .get (deeds_addError d (.inl rfl))
  | pin id =>
    refine .modifyGet ?_ trivial
    show Deeds (.pin id) r (r.pin id)
    rw [Repository.pin]
    split
    · exact .single (.keep _ _)
    · exact .refl
  | unpin | hold | release | pushFrame | popFrame =>
    exact .modifyGet (.single (.keep _ _)) trivial

namespace Repository

/-! ## 5. Definitions of nodes -/

/-- Where the definition that a node has after a deed comes from: the node had it, the operation is
one that extends or sets fields of what the node had, or a definition handed in or that of a
constant has been attached. -/
inductive BindingOrigin (op : Operation) (r : Repository) (id : NodeId) : Binding → Prop
  | old {b : Binding} : r.bindingOf? id = some b → BindingOrigin op r id b
  | extended {b : Binding} {role : ChildRole} {given : List Child} {location : Location}
      (cs : List Child) : op = .extend role id given location → r.bindingOf? id = some b →
      BindingOrigin op r id (extendBinding role cs b)
  | fields {b : Binding} {options : List (String × Value)} {location : Location} :
      op = .setOptions id options location → r.bindingOf? id = some b →
      BindingOrigin op r id { b with record := OrderedMap.insertAll b.record options }
  | attached {b : Binding} {d : Definition} :
      (d ∈ op.definitions ∨ ∃ value, d = .ofConstant value) → b.Realizes d → b.placement = none →
      BindingOrigin op r id b

variable {op : Operation} {r r' : Repository}

theorem realizes_constant (r : Repository) (value : Constant) (location : Location) :
    (r.newBinding (constantDefinition value) location).Realizes (.ofConstant value) :=
  ⟨rfl, .inl rfl, ⟨rfl, rfl⟩, ⟨rfl, rfl⟩⟩

theorem Deed.bindingOrigin (h : Deed op r r') {id : NodeId} {b : Binding}
    (here : r'.bindingOf? id = some b) : BindingOrigin op r id b := by
  cases h with
  | register => exact .old (by rwa [bindingOf?_register] at here)
  | attach b' there _ fresh _ given realizes =>
    rw [bindingOf?_noteClass, bindingOf?_relink] at here
    split at here
    · rename_i same
      subst same
      rw [there] at here
      cases here
      exact .attached (.inl given) realizes fresh
    · exact .old here
  | extend asked cs =>
    rw [bindingOf?_relink] at here
    split at here
    · rename_i same
      subst same
      obtain ⟨n, live, mapped⟩ := Option.bind_eq_some_iff.mp here
      obtain ⟨b', was, rfl⟩ := Option.map_eq_some_iff.mp mapped
      exact .extended cs asked (by rw [bindingOf?_of_get? live, was])
    · exact .old here
  | setFields asked =>
    rw [bindingOf?_relink] at here
    split at here
    · rename_i same
      subst same
      obtain ⟨n, live, mapped⟩ := Option.bind_eq_some_iff.mp here
      obtain ⟨b', was, rfl⟩ := Option.map_eq_some_iff.mp mapped
      exact .fields asked (by rw [bindingOf?_of_get? live, was])
    · exact .old here
  | share value location =>
    rw [bindingOf?_withConstant] at here
    split at here
    · cases here
      exact .attached (.inr ⟨value, rfl⟩) (realizes_constant r value location) rfl
    · exact .old here
  | note | count | openScope | keep => exact .old here

end Repository

end NodeForest

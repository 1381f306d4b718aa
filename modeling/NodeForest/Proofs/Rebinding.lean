import NodeForest.Proofs.Comparison
import NodeForest.Proofs.Matching

/-!
# Binding to equal children

Binding a node to a child or to an equal one comes to the same, as long as equality looks at what a
bind looks at. There are two things that it does not look at: the bits of a number that are not in
its key, such as the sign of a zero, and whether a list counts as resolved. A bind sees the bits when
it makes the node of a constant, and where the node is there already it does not. It takes a list
that counts as resolved as it is, and where such a list holds nodes only, resolving would come to the
same.

Results:
1. `Child.Agrees`: equal children in which a bind finds no difference.
2. `together_attach`, `together_makeConstant`: the functions below the recursion.
3. `together_resolveChildren`, `together_defineAnonymous`: the recursion.
4. `together_bind`: binding to equal children.
-/

namespace NodeForest

open Relation NodeForest.Action

/-! ## 1. What a bind finds no difference in -/

section

variable (shared : Constant → Prop) (known : NodeRef → Prop)

mutual

/-- Where two equal children differ, a bind finds no difference, if constants of which it is `shared`
have their nodes, and the nodes of which it is `known` are kept by it. -/
def Child.Agrees : Child → Child → Prop
  | .constant v, .constant w => v = w ∨ shared v
  | .pending d, .pending d' => d.Agrees d'
  | _, _ => True
termination_by structural c => c

def Entry.Agrees : Entry → Entry → Prop
  | ⟨_, c⟩, ⟨_, c'⟩ => c.Agrees c'
termination_by structural e => e

def Entry.AllAgree : List Entry → List Entry → Prop
  | e :: es, e' :: es' => e.Agrees e' ∧ Entry.AllAgree es es'
  | _, _ => True
termination_by structural es => es

/-- The lists are taken as they are, or their entries agree. If one is taken and the other is not,
all that is in them is kept. -/
def ChildList.Agrees : ChildList → ChildList → Prop
  | ⟨es, _, resolved⟩, ⟨es', _, resolved'⟩ =>
      if resolved = resolved' then resolved = false → Entry.AllAgree es es'
      else ∀ e ∈ es', e.child = .empty ∨ ∃ ref, e.child = .node ref ∧ known ref
termination_by structural l => l

def Definition.Agrees : Definition → Definition → Prop
  | ⟨_, cs, ss, _⟩, ⟨_, cs', ss', _⟩ => cs.Agrees cs' ∧ ss.Agrees ss'
termination_by structural d => d

end

end

section

variable {shared shared' : Constant → Prop} {known known' : NodeRef → Prop}
mutual

/-- More constants may be shared, and more nodes known. -/
theorem Child.Agrees.mono (more : ∀ v, shared v → shared' v)
    (more' : ∀ ref, known ref → known' ref) :
    ∀ {a b : Child}, a.Agrees shared known b → a.Agrees shared' known' b
  | .constant v, b, h => by
    cases b with
    | constant w => exact h.imp_right (more v)
    | _ => trivial
  | .pending d, b, h => by
    cases b with
    | pending d' =>
      rw [Child.Agrees] at h ⊢
      exact Definition.Agrees.mono more more' h
    | _ => trivial
  | .empty, b, _ | .name _, b, _ | .node _, b, _ | .factory _ _, b, _ => by cases b <;> trivial
termination_by structural a => a

theorem Entry.Agrees.mono (more : ∀ v, shared v → shared' v)
    (more' : ∀ ref, known ref → known' ref) :
    ∀ {a b : Entry}, a.Agrees shared known b → a.Agrees shared' known' b
  | ⟨_, c⟩, ⟨_, c'⟩, h => by
    rw [Entry.Agrees] at h ⊢
    exact Child.Agrees.mono more more' h
termination_by structural a => a

theorem Entry.AllAgree.mono (more : ∀ v, shared v → shared' v)
    (more' : ∀ ref, known ref → known' ref) :
    ∀ {as bs : List Entry}, Entry.AllAgree shared known as bs → Entry.AllAgree shared' known' as bs
  | [], _, _ => by trivial
  | a :: as, bs, h => by
    cases bs with
    | nil => trivial
    | cons b bs =>
      rw [Entry.AllAgree] at h ⊢
      exact ⟨Entry.Agrees.mono more more' h.1, Entry.AllAgree.mono more more' h.2⟩
termination_by structural as => as

theorem ChildList.Agrees.mono (more : ∀ v, shared v → shared' v)
    (more' : ∀ ref, known ref → known' ref) :
    ∀ {a b : ChildList}, a.Agrees shared known b → a.Agrees shared' known' b
  | ⟨es, _, resolved⟩, ⟨es', _, resolved'⟩, h => by
    rw [ChildList.Agrees] at h ⊢
    split at h
    · rename_i same
      rw [if_pos same]
      exact fun open' => Entry.AllAgree.mono more more' (h open')
    · rename_i differ
      rw [if_neg differ]
      exact fun e member => (h e member).imp_right fun ⟨ref, here, given⟩ =>
        ⟨ref, here, more' ref given⟩
termination_by structural a => a

theorem Definition.Agrees.mono (more : ∀ v, shared v → shared' v)
    (more' : ∀ ref, known ref → known' ref) :
    ∀ {a b : Definition}, a.Agrees shared known b → a.Agrees shared' known' b
  | ⟨_, cs, ss, _⟩, ⟨_, cs', ss', _⟩, h => by
    rw [Definition.Agrees] at h ⊢
    exact ⟨ChildList.Agrees.mono more more' h.1, ChildList.Agrees.mono more more' h.2⟩
termination_by structural a => a

end

end

/-- The definitions that equal children denote are equal, and a bind finds no difference in them. -/
theorem Child.Agrees.definition? {shared : Constant → Prop} {known : NodeRef → Prop} {a b : Child}
    (h : a.Agrees shared known b) (same : a.equal b) (numbers : a.SameConstants b) :
    Option.Rel (fun d d' => d.equal d' ∧ d.Agrees shared known d') a.definition? b.definition? := by
  have denoted := Child.equal_definition? same numbers
  cases a with
  | pending d =>
    cases b with
    | pending d' =>
      obtain ⟨same⟩ := denoted
      rw [Child.Agrees] at h
      exact .some ⟨same, h⟩
    | _ => simp [Child.equal] at same
  | constant v =>
    cases b with
    | constant w =>
      obtain ⟨same⟩ := denoted
      exact .some ⟨same, fun _ => trivial, fun _ => trivial⟩
    | _ => simp [Child.equal] at same
  | _ =>
    cases b with
    | pending _ | constant _ => simp [Child.equal] at same
    | _ => exact .none

namespace Repository

variable {r r' : Repository}

/-- The constant has its node already. -/
def Shares (r : Repository) (v : Constant) : Prop :=
  ∃ id, (OrderedMap.get? r.constants v.key).filter r.isLive = some id

/-- The node is there, unless it is one of another repository. -/
def Knows (r : Repository) (ref : NodeRef) : Prop :=
  ref.repository = r.id → r.isLive ref.id

theorem Steps.shares {p : Promise} (steps : Steps p r r') {v : Constant} (h : r.Shares v) :
    r'.Shares v := by
  obtain ⟨id, here⟩ := h
  exact ⟨id, steps.shared here⟩

theorem Steps.knows {p : Promise} (steps : Steps p r r') {ref : NodeRef} (h : r.Knows ref) :
    r'.Knows ref := fun own => steps.isLive (h (own.trans (Steps.extends steps).id))

theorem Matches.knows (h : r.Matches r') {ref : NodeRef} (known : r.Knows ref) : r'.Knows ref := by
  rw [Knows, ← h.id, ← h.isLive]
  exact known

/-! ## 2. Below the recursion -/

/-- On repositories that match, both actions come to the same, and leave repositories that match. -/
abbrev TogetherMatching {α β : Type} (V : α → β → Prop) (a : Action α) (b : Action β)
    (r r' : Repository) : Prop :=
  Together Matches (Failure.Like Eq Eq) V a b r r'

theorem together_addError (h : r.Matches r') (d : Diagnostic) (trail : List Location) :
    TogetherMatching Eq (addError d trail) (addError d trail) r r' := by
  have run := exec_addError d trail r
  have run' := exec_addError d trail r'
  rw [← h.options] at run'
  split at run
  · rename_i testing
    rw [if_pos testing] at run'
    exact .of_runs run run' (.error (.diagnostic rfl)) h
  · rename_i collecting
    rw [if_neg collecting] at run'
    have noted := h.noting (recorded r.options d trail)
    have limit := noted.read (·.limitReached) fun _ => rfl
    dsimp only at run run'
    rw [← limit, ← noted.errors] at run'
    refine .of_runs run run' ?_ noted
    split
    · exact .error (.cumulative rfl)
    · exact .ok rfl

theorem together_recording {a b : Action Unit} (h : TogetherMatching Eq a b r r') :
    TogetherMatching Eq (recording a) (recording b) r r' := by
  refine .recording (fun {d d' r r'} same h => ?_) h
  obtain rfl := same
  refine .get ?_
  rw [← h.frames]
  exact together_addError h d r.frames

/-- Whether a definition is that of a node is the same for bindings that match. -/
theorem sameBinding_of_matches {b b' : Binding} (h : b.Matches b')
    {cs cs' ss ss' : ChildList} {record record' : Record} (children : cs.Matches cs')
    (steps : ss.Matches ss') (fields : Record.Matches record record') :
    sameBinding b cs ss record = sameBinding b' cs' ss' record' := by
  have lists {l l' m m' : ChildList} (first : l.Matches l') (second : m.Matches m') :
      l.equal m = l'.equal m' :=
    ChildList.equal_congr first.left first.right second.left second.right first.equal second.equal
  rw [sameBinding, sameBinding, lists h.children children, lists h.steps steps,
    Record.equal_congr h.record.left h.record.right fields.left fields.right h.record.equal
      fields.equal]

section

variable {id : NodeId} {n n' : Node} {cs cs' ss ss' : ChildList} {record record' : Record}

theorem together_attach_unbound (h : r.Matches r') (here : r.get? id = some n)
    (here' : r'.get? id = some n') (unbound : n.binding = none) (unbound' : n'.binding = none)
    (nodeClass : NodeClass) (children : cs.Matches cs') (steps : ss.Matches ss')
    (fields : Record.Matches record record') (location : Location) :
    TogetherMatching Eq (attach id ⟨nodeClass, cs, ss, record⟩ location)
      (attach id ⟨nodeClass, cs', ss', record'⟩ location) r r' := by
  refine .of_runs (exec_attach_unbound _ _ here unbound) (exec_attach_unbound _ _ here' unbound')
    (.ok rfl) ?_
  have childIds : cs.nodeIds ++ ss.nodeIds = cs'.nodeIds ++ ss'.nodeIds := by
    rw [ChildList.nodeIds_of_equal children.equal, ChildList.nodeIds_of_equal steps.equal]
  have same : (r.newBinding ⟨nodeClass, cs, ss, record⟩ location).Matches
      (r'.newBinding ⟨nodeClass, cs', ss', record'⟩ location) := ⟨children, steps, fields⟩
  have outer : (r.newBinding ⟨nodeClass, cs, ss, record⟩ location).hollow =
      (r'.newBinding ⟨nodeClass, cs', ss', record'⟩ location).hollow := by
    simp only [Binding.hollow, newBinding, h.frames]
  simp only [Binding.childIds, newBinding, childIds]
  exact (h.relink id same outer _).noteClass id _

theorem together_attach_bound (h : r.Matches r') (here : r.get? id = some n)
    (here' : r'.get? id = some n') {b b' : Binding} (bound : n.binding = some b)
    (bound' : n'.binding = some b') (same : b.Matches b') (name : n.name = n'.name)
    (boundAt : b.boundAt = b'.boundAt) (nodeClass : NodeClass) (children : cs.Matches cs')
    (steps : ss.Matches ss') (fields : Record.Matches record record') (location : Location) :
    TogetherMatching Eq (attach id ⟨nodeClass, cs, ss, record⟩ location)
      (attach id ⟨nodeClass, cs', ss', record'⟩ location) r r' := by
  have run := exec_attach_bound ⟨nodeClass, cs, ss, record⟩ location here bound
  have run' := exec_attach_bound ⟨nodeClass, cs', ss', record'⟩ location here' bound'
  dsimp only at run run'
  rw [← sameBinding_of_matches same children steps fields, ← name, ← boundAt] at run'
  split at run
  · rename_i equal
    rw [if_pos equal] at run'
    exact .of_runs run run' (.ok rfl) h
  · rename_i different
    rw [if_neg different] at run'
    exact .of_runs run run' (.error (.diagnostic rfl)) h

theorem together_attach (h : r.Matches r') (id : NodeId) (nodeClass : NodeClass)
    (children : cs.Matches cs') (steps : ss.Matches ss') (fields : Record.Matches record record')
    (location : Location) :
    TogetherMatching Eq (attach id ⟨nodeClass, cs, ss, record⟩ location)
      (attach id ⟨nodeClass, cs', ss', record'⟩ location) r r' := by
  obtain ⟨gone, gone'⟩ | ⟨n, n', here, here', hollow, bindings⟩ := h.node_cases id
  · exact .of_runs (exec_attach_gone _ _ gone) (exec_attach_gone _ _ gone') (.ok rfl) h
  have name : n.name = n'.name := (congrArg Node.name hollow :)
  have outer : n.binding.map Binding.hollow = n'.binding.map Binding.hollow :=
    (congrArg Node.binding hollow :)
  cases bound : n.binding <;> cases bound' : n'.binding <;>
    rw [bound, bound'] at bindings outer
  · exact together_attach_unbound h here here' bound bound' nodeClass children steps fields location
  · cases bindings
  · cases bindings
  · obtain ⟨same⟩ := bindings
    exact together_attach_bound h here here' bound bound' same name
      (congrArg Binding.boundAt (Option.some.inj outer) :) nodeClass children steps fields location

end

/-- A constant gets a new node in both. -/
theorem Matches.withConstant (h : r.Matches r') (v : Constant) (location : Location) :
    (r.withConstant v location).Matches (r'.withConstant v location) := by
  have name : r.newConstantName v = r'.newConstantName v := h.freeConstantName _
  have nothing : ChildList.Matches .resolvedNil .resolvedNil :=
    ChildList.WellFormed.matches (by trivial)
  have fields : Record.Matches (constantDefinition v).record (constantDefinition v).record :=
    (Definition.wellFormed_ofConstant v).record.matches
  have same : (r.newBinding (constantDefinition v) location).Matches
      (r'.newBinding (constantDefinition v) location) := ⟨nothing, nothing, fields⟩
  have outer : (r.newBinding (constantDefinition v) location).hollow =
      (r'.newBinding (constantDefinition v) location).hollow := by
    simp only [Binding.hollow, newBinding, h.frames]
  rw [Repository.withConstant, Repository.withConstant, withConstantNode, withConstantNode, name,
    ← h.size]
  exact ((h.register _ _ _ _ _).relink _ same outer _).share _ _

theorem together_makeConstant (h : r.Matches r') {v w : Constant} (same : v.same w)
    (agrees : v = w ∨ r.Shares v) (location : Location) :
    TogetherMatching Eq (makeConstant v location) (makeConstant w location) r r' := by
  have key : v.key = w.key := by simpa [Constant.same] using same
  have live : r.isLive = r'.isLive := funext h.isLive
  have found : (OrderedMap.get? r.constants v.key).filter r.isLive =
      (OrderedMap.get? r'.constants w.key).filter r'.isLive := by
    rw [key, h.constants, live]
  rcases known : (OrderedMap.get? r.constants v.key).filter r.isLive with _ | id
  · -- Without a node, the constants are the same, and so are the names tried.
    obtain rfl : v = w := agrees.resolve_right fun ⟨id, shared⟩ => by
      rw [known] at shared
      cases shared
    refine .of_runs (exec_makeConstant_new location known)
      (exec_makeConstant_new location (found ▸ known)) (.ok (congrArg NodeId.mk h.size)) ?_
    exact h.withConstant v location
  · exact .of_runs (exec_makeConstant_known location known)
      (exec_makeConstant_known location (found ▸ known)) (.ok rfl) h

/-! ## 3. The recursion -/

section

variable (location : Location)

/-- Equal entries have the first node of another repository in the same place. -/
theorem findForeign?_of_equal (same : r.id = r'.id) {es es' : List Entry}
    (equal : List.Forall₂ (fun e e' => e.label = e'.label ∧ e.child.equal e'.child) es es') :
    Option.Rel (fun e e' => e.label = e'.label) (r.findForeign? es) (r'.findForeign? es') := by
  induction equal with
  | nil => exact .none
  | cons first _ ih =>
    rw [findForeign?, findForeign?] at ih ⊢
    rw [List.find?_cons, List.find?_cons, Child.node?_of_equal first.2, same] at *
    split
    · exact .some first.1
    · exact ih

/-- Lists that count as resolved are taken as they are. -/
theorem together_taken (h : r.Matches r') (scope : ScopeId) {es es' : List Entry} {keyed keyed' : Bool}
    (lists : ChildList.Matches ⟨es, keyed, true⟩ ⟨es', keyed', true⟩) :
    TogetherMatching ChildList.Matches (resolveChildren location scope ⟨es, keyed, true⟩)
      (resolveChildren location scope ⟨es', keyed', true⟩) r r' := by
  have run := exec_resolveChildren_resolved location scope es keyed r
  have run' := exec_resolveChildren_resolved location scope es' keyed' r'
  have foreign := findForeign?_of_equal h.id (ChildList.entries_of_equal lists.equal)
  refine .of_runs run run' ?_ h
  revert foreign
  cases r.findForeign? es <;> cases r'.findForeign? es' <;> intro foreign
  · exact .ok lists
  · cases foreign
  · cases foreign
  · obtain ⟨label⟩ := foreign
    exact .error (.diagnostic (by rw [label]))

/-- What taking the entries as they are gives. -/
def takenEntries (r : Repository) (location : Location) (es : List Entry) :
    Except Failure (List Entry) :=
  match r.findForeign? es with
  | some e => .error (.diagnostic (.illegalChild e.label foreignKind location))
  | none => .ok es

/-- An entry that resolving leaves as it is does not change what becomes of the others. -/
theorem exec_resolveEntries_kept (scope : ScopeId) {label : Label} {c : Child} {es : List Entry}
    (own : ∀ ref, c.node? = some ref → ref.repository = r.id)
    (resolved : (resolveChild location scope label c).exec r = (.ok c, r))
    (rest : (resolveEntries location scope es).exec r = (r.takenEntries location es, r)) :
    (resolveEntries location scope (⟨label, c⟩ :: es)).exec r =
      (r.takenEntries location (⟨label, c⟩ :: es), r) := by
  have head : (resolveEntry location scope ⟨label, c⟩).exec r = (.ok ⟨label, c⟩, r) := by
    rw [resolveEntry, exec_bind_of_ok resolved]
    rfl
  have later : r.findForeign? (⟨label, c⟩ :: es) = r.findForeign? es := by
    rw [findForeign?, List.find?_cons_of_neg, findForeign?]
    cases node : c.node? <;> simp
    exact own _ node
  rw [takenEntries] at rest ⊢
  rw [resolveEntries, exec_bind_of_ok head, later]
  cases found : r.findForeign? es <;> rw [found] at rest
  · rw [exec_bind_of_ok rest]
    rfl
  · exact exec_bind_of_error rest

theorem exec_resolveEntries_foreign (scope : ScopeId) {label : Label} {ref : NodeRef}
    (es : List Entry) (foreign : ref.repository ≠ r.id) :
    (resolveEntries location scope (⟨label, .node ref⟩ :: es)).exec r =
      (r.takenEntries location (⟨label, .node ref⟩ :: es), r) := by
  have refused : (resolveEntry location scope ⟨label, .node ref⟩).exec r =
      (.error (.diagnostic (.illegalChild label foreignKind location)), r) := by
    have run := exec_resolveChild_node location scope label ref r
    rw [if_neg foreign] at run
    rw [resolveEntry, exec_bind_of_error run]
  have found : r.findForeign? (⟨label, .node ref⟩ :: es) = some ⟨label, .node ref⟩ :=
    List.find?_cons_of_pos (by simpa [Child.node?] using foreign)
  rw [resolveEntries, exec_bind_of_error refused, takenEntries, found]

/-- Where nothing but nodes and empty places stands, resolving only looks for nodes of other
repositories. -/
theorem exec_resolveEntries_known (scope : ScopeId) : ∀ {es : List Entry},
    (∀ e ∈ es, e.child = .empty ∨ ∃ ref, e.child = .node ref ∧ r.Knows ref) →
      (resolveEntries location scope es).exec r = (r.takenEntries location es, r)
  | [], _ => by
    rw [resolveEntries]
    rfl
  | ⟨label, c⟩ :: es, stand => by
    obtain ⟨first, rest⟩ := List.forall_mem_cons.mp stand
    have ih := exec_resolveEntries_known scope rest
    rcases first with rfl | ⟨ref, rfl, known⟩
    · refine exec_resolveEntries_kept location scope (fun ref node => by cases node) ?_ ih
      rw [resolveChild]
      rfl
    · by_cases own : ref.repository = r.id
      · refine exec_resolveEntries_kept location scope (fun ref' node => by cases node; exact own)
          ?_ ih
        rw [exec_resolveChild_node, if_pos own, if_pos (known own)]
      · exact exec_resolveEntries_foreign location scope es own

theorem exec_resolveChildren_known (scope : ScopeId) {es : List Entry} (keyed resolved : Bool)
    (stand : ∀ e ∈ es, e.child = .empty ∨ ∃ ref, e.child = .node ref ∧ r.Knows ref) :
    (resolveChildren location scope ⟨es, keyed, resolved⟩).exec r =
      (resolveChildren location scope ⟨es, keyed, true⟩).exec r := by
  cases resolved with
  | true => rfl
  | false =>
    have entries := exec_resolveEntries_known location scope stand
    rw [exec_resolveChildren_resolved, resolveChildren, if_neg Bool.false_ne_true]
    rw [takenEntries] at entries
    cases found : r.findForeign? es <;> rw [found] at entries
    · rw [exec_bind_of_ok entries]
      rfl
    · exact exec_bind_of_error entries

theorem together_child (h : r.Matches r') {id id' : NodeId} (same : id = id') :
    TogetherMatching Eq (do return (← get).child id : Action Child)
      (do return (← get).child id' : Action Child) r r' :=
  .get (.pure (by rw [child, child, same, h.id]) h)

mutual

theorem together_resolveChild (scope : ScopeId) (label : Label) :
    ∀ {a b : Child} {r r' : Repository}, r.Matches r' → a.WellFormed → b.WellFormed → a.equal b →
      a.Agrees r.Shares r.Knows b →
        TogetherMatching Eq (resolveChild location scope label a)
          (resolveChild location scope label b) r r'
  | .constant v, b, r, r', h, _, _, same, agrees => by
    cases b with
    | constant w =>
      rw [resolveChild, resolveChild]
      exact .bind (together_makeConstant h same agrees location) fun _ _ _ _ same h =>
        together_child h same
    | _ => simp [Child.equal] at same
  | .pending d, b, r, r', h, wellFormed, wellFormed', same, agrees => by
    cases b with
    | pending d' =>
      rw [Child.WellFormed] at wellFormed wellFormed'
      rw [Child.equal] at same
      rw [Child.Agrees] at agrees
      rw [resolveChild, resolveChild]
      exact .bind (together_defineAnonymous scope h wellFormed wellFormed' same agrees)
        fun _ _ _ _ same h => together_child h same
    | _ => simp [Child.equal] at same
  | .empty, b, r, r', h, _, _, same, _ => by
    cases b with
    | empty =>
      rw [resolveChild]
      exact .pure rfl h
    | _ => simp [Child.equal] at same
  | .name name, b, r, r', h, _, _, same, _ => by
    cases b with
    | name name' =>
      obtain rfl : name = name' := by simpa [Child.equal] using same
      refine .of_runs (exec_resolveChild_name location scope label name r)
        (exec_resolveChild_name location scope label name r') ?_ h
      rw [← h.lookupBound?]
      split
      · exact .ok (by rw [child, child, h.id])
      · exact .error (.diagnostic rfl)
    | _ => simp [Child.equal] at same
  | .node ref, b, r, r', h, _, _, same, _ => by
    cases b with
    | node ref' =>
      obtain rfl : ref = ref' := by simpa [Child.equal] using same
      refine .of_runs (exec_resolveChild_node location scope label ref r)
        (exec_resolveChild_node location scope label ref r') ?_ h
      rw [← h.id, ← h.isLive]
      split
      · split
        · exact .ok rfl
        · exact .error (.diagnostic rfl)
      · exact .error (.diagnostic rfl)
    | _ => simp [Child.equal] at same
  | .factory id body, b, r, r', h, _, _, same, _ => by
    cases b with
    | factory id' body' =>
      rw [resolveChild, resolveChild]
      exact .throw (.diagnostic rfl) h
    | _ => simp [Child.equal] at same
termination_by structural a => a

theorem together_resolveEntry (scope : ScopeId) :
    ∀ {a b : Entry} {r r' : Repository}, r.Matches r' → a.WellFormed → b.WellFormed → a.equal b →
      a.Agrees r.Shares r.Knows b →
        TogetherMatching Eq (resolveEntry location scope a) (resolveEntry location scope b) r r'
  | ⟨label, c⟩, ⟨label', c'⟩, r, r', h, wellFormed, wellFormed', same, agrees => by
    rw [Entry.WellFormed] at wellFormed wellFormed'
    rw [Entry.Agrees] at agrees
    simp only [Entry.equal, Bool.and_eq_true, beq_iff_eq] at same
    obtain ⟨rfl, same⟩ := same
    rw [resolveEntry, resolveEntry]
    exact .bind (together_resolveChild scope label h wellFormed wellFormed' same agrees)
      fun _ _ _ _ same h => .pure (by rw [same]) h
termination_by structural a => a

theorem together_resolveEntries (scope : ScopeId) :
    ∀ {as bs : List Entry} {r r' : Repository}, r.Matches r' → Entry.AllWellFormed as →
      Entry.AllWellFormed bs → Entry.equalAll as bs → Entry.AllAgree r.Shares r.Knows as bs →
        TogetherMatching Eq (resolveEntries location scope as) (resolveEntries location scope bs)
          r r'
  | [], bs, r, r', h, _, _, same, _ => by
    cases bs with
    | nil =>
      rw [resolveEntries]
      exact .pure rfl h
    | cons => simp [Entry.equalAll] at same
  | a :: as, bs, r, r', h, wellFormed, wellFormed', same, agrees => by
    cases bs with
    | nil => simp [Entry.equalAll] at same
    | cons b bs =>
      rw [Entry.AllWellFormed] at wellFormed wellFormed'
      rw [Entry.AllAgree] at agrees
      rw [Entry.equalAll, Bool.and_eq_true] at same
      rw [resolveEntries, resolveEntries]
      refine .bind_of_runs (together_resolveEntry scope h wellFormed.1 wellFormed'.1 same.1 agrees.1)
        fun e e' r₁ r₁' ran _ first h₁ => ?_
      -- What has its node, or is there, is so after the first entry as well.
      have steps : Steps .binding r r₁ :=
        (leads_resolveEntry location scope a r (allocates_binding _)).steps ran
      have later := Entry.AllAgree.mono (fun _ => steps.shares) (fun _ => steps.knows) agrees.2
      exact .bind (together_resolveEntries scope h₁ wellFormed.2 wellFormed'.2 same.2 later)
        fun _ _ _ _ rest h₂ => .pure (by rw [first, rest]) h₂
termination_by structural as => as

theorem together_resolveChildren (scope : ScopeId) :
    ∀ {a b : ChildList} {r r' : Repository}, r.Matches r' → a.Matches b →
      a.Agrees r.Shares r.Knows b →
        TogetherMatching ChildList.Matches (resolveChildren location scope a)
          (resolveChildren location scope b) r r'
  | ⟨es, keyed, resolved⟩, ⟨es', keyed', resolved'⟩, r, r', h, lists, agrees => by
    have taken : ChildList.Matches ⟨es, keyed, true⟩ ⟨es', keyed', true⟩ :=
      ⟨lists.left, lists.right, lists.equal⟩
    have same := lists.equal
    rw [ChildList.equal, Bool.and_eq_true, beq_iff_eq] at same
    obtain ⟨rfl, same⟩ := same
    rw [ChildList.Agrees] at agrees
    split at agrees
    · rename_i flags
      obtain rfl := flags
      cases resolved with
      | true => exact together_taken location h scope taken
      | false =>
        rw [resolveChildren, resolveChildren, if_neg Bool.false_ne_true]
        refine .bind_of_runs (together_resolveEntries scope h lists.left lists.right same (agrees rfl))
          fun y z r₁ r₁' ran _ entries h₁ => ?_
        obtain rfl := entries
        have wellFormed : ChildList.WellFormed ⟨y, keyed, true⟩ := wellFormed_resolveEntries ran
        exact .pure wellFormed.matches h₁
    · obtain rfl := (Entry.equalAll_iff fun e member =>
        (agrees e member).imp_right fun ⟨ref, here, _⟩ => ⟨ref, here⟩).mp same
      refine .of_exec (exec_resolveChildren_known location scope keyed resolved agrees)
        (exec_resolveChildren_known location scope keyed resolved' fun e member => ?_)
        (together_taken location h scope taken)
      exact (agrees e member).imp_right fun ⟨ref, here, known⟩ => ⟨ref, here, h.knows known⟩
termination_by structural a => a

theorem together_defineAnonymous (scope : ScopeId) :
    ∀ {a b : Definition} {r r' : Repository}, r.Matches r' → a.WellFormed → b.WellFormed →
      a.equal b → a.Agrees r.Shares r.Knows b →
        TogetherMatching Eq (defineAnonymous location scope a) (defineAnonymous location scope b)
          r r'
  | ⟨nodeClass, cs, ss, record⟩, ⟨nodeClass', cs', ss', record'⟩, r, r', h, wellFormed, wellFormed',
      same, agrees => by
    obtain ⟨rfl, sameChildren, sameSteps, sameRecord⟩ := Definition.equal_iff.mp same
    dsimp only at sameChildren sameSteps sameRecord
    have parts := Definition.ofParts_eq wellFormed
    have parts' := Definition.ofParts_eq wellFormed'
    have children : cs.Matches cs' := ⟨wellFormed.children, wellFormed'.children, sameChildren⟩
    have steps : ss.Matches ss' := ⟨wellFormed.steps, wellFormed'.steps, sameSteps⟩
    have fields : Record.Matches record record' :=
      ⟨wellFormed.record, wellFormed'.record, sameRecord⟩
    rw [Definition.Agrees] at agrees
    rw [defineAnonymous, defineAnonymous]
    refine .bind_of_runs (together_resolveChildren scope h children agrees.1)
      fun y z r₁ r₁' ran _ lists h₁ => ?_
    obtain ⟨found, created⟩ := h₁.anonymousNode scope nodeClass lists.equal location
    refine .bind_of_runs (V := Eq) (.modifyGet found created) fun id id' r₂ r₂' took _ node h₂ => ?_
    obtain rfl := node
    have before : Steps .binding r r₂ := by
      have first := (leads_resolveChildren location scope cs r (allocates_binding _)).steps ran
      have second := (steps_anonymousNode (p := .binding) r₁ scope nodeClass y location).1
      rw [exec_modifyGet] at took
      cases took
      exact first.trans second
    have later := ChildList.Agrees.mono (fun _ => before.shares) (fun _ => before.knows) agrees.2
    refine .bind (V := Eq) (together_recording (.get ?_)) fun _ _ _ _ _ h₃ => .pure rfl h₃
    rw [← h₂.scopeOf]
    refine .bind (together_resolveChildren _ h₂ steps later) fun s t r₃ r₃' lists' h₃ => ?_
    simp only [parts, parts']
    exact together_attach h₃ id nodeClass lists lists' fields location
termination_by structural a => a

end

/-! ## 4. Named binds -/

theorem together_bind {a b : Child} (h : r.Matches r') (wellFormed : a.WellFormed)
    (wellFormed' : b.WellFormed) (same : a.equal b) (numbers : a.SameConstants b)
    (agrees : a.Agrees r.Shares r.Knows b) (id : NodeId) :
    TogetherMatching Eq (bind id (.ok a) location) (bind id (.ok b) location) r r' := by
  refine together_recording ?_
  rw [tryBind, tryBind]
  refine .get ?_
  dsimp only
  rw [← h.nameInMessage, ← Child.kind_of_equal same]
  have denoted := agrees.definition? same numbers
  cases first : a.definition? <;> cases second : b.definition? <;> rw [first, second] at denoted
  · exact .throw (.diagnostic rfl) h
  · cases denoted
  · cases denoted
  · rename_i d d'
    obtain ⟨same, agrees⟩ := denoted
    have wellFormed := wellFormed_of_definition? first wellFormed
    have wellFormed' := wellFormed_of_definition? second wellFormed'
    obtain ⟨gone, gone'⟩ | ⟨n, n', here, here', hollow, _⟩ := h.node_cases id
    · rw [gone, gone']
      exact .throw (.diagnostic rfl) h
    · have scope : n.scope = n'.scope := (congrArg Node.scope hollow :)
      rw [here, here']
      dsimp only
      obtain ⟨nodeClass, cs, ss, record⟩ := d
      obtain ⟨nodeClass', cs', ss', record'⟩ := d'
      obtain ⟨sameClass, sameChildren, sameSteps, sameRecord⟩ := Definition.equal_iff.mp same
      dsimp only at sameClass sameChildren sameSteps sameRecord ⊢
      obtain rfl := sameClass
      rw [Definition.Agrees] at agrees
      rw [← scope]
      refine .bind_of_runs (together_resolveChildren location n.scope h
        ⟨wellFormed.children, wellFormed'.children, sameChildren⟩ agrees.1)
        fun y z r₁ r₁' ran _ lists h₁ => ?_
      have first : Steps .binding r r₁ :=
        (leads_resolveChildren location n.scope cs r (allocates_binding _)).steps ran
      have later := ChildList.Agrees.mono (fun _ => first.shares) (fun _ => first.knows) agrees.2
      refine .bind (together_resolveChildren location n.scope h₁
        ⟨wellFormed.steps, wellFormed'.steps, sameSteps⟩ later) fun s t r₂ r₂' lists' h₂ => ?_
      exact together_attach h₂ id nodeClass lists lists'
        ⟨wellFormed.record, wellFormed'.record, sameRecord⟩ location

end

end Repository

end NodeForest

import NodeForest.Proofs.Step

/-!
# Operations are sequences of steps

Each function that binding is made of only takes steps, whether it fails or not. The mutual
recursion over nested definitions is followed once, here; what the steps keep is shown elsewhere.

Results:
1. `leads_attach`, `leads_makeConstant`, `leads_anonymousNode`: the functions below the recursion.
2. `leads_resolveChildren`, `leads_defineAnonymous`: the recursion. Children that have been resolved
   fit into the repository.
3. `Operation.leads`: every operation.
4. `Reachable.steps`: whatever is reached before a resolve is reached by steps.
-/

namespace NodeForest

open Relation NodeForest.Action

namespace Repository

variable {p : Promise} {r r' : Repository}

/-- The step kinds that registering a node takes. -/
theorem steps_getOrCreate (r : Repository) (basename : String) (scope : ScopeId)
    (quals : Qualifiers) (location : Location) :
    Steps p r (r.getOrCreate (qualifyName basename quals) basename scope quals location).2 ∧
      (r.getOrCreate (qualifyName basename quals) basename scope quals location).2.isLive
        (r.getOrCreate (qualifyName basename quals) basename scope quals location).1 := by
  rw [getOrCreate]
  cases found : r.lookup? (qualifyName basename quals) with
  | some id => exact ⟨.refl, isLive_of_lookup? found⟩
  | none =>
    refine ⟨.single (.register basename scope quals location found), ?_⟩
    simp [isLive, get?_register]

/-- The node that is given has the name. -/
theorem named_getOrCreate {name basename : String} {scope : ScopeId} {quals : Qualifiers}
    {location : Location} {id : NodeId}
    (taken : r.getOrCreate name basename scope quals location = (id, r')) :
    ∃ n, r'.get? id = some n ∧ n.name = name := by
  rw [getOrCreate] at taken
  cases found : r.lookup? name with
  | some known =>
    rw [found] at taken
    cases taken
    exact lookup?_eq_some found
  | none =>
    rw [found] at taken
    cases taken
    exact ⟨_, by rw [get?_register, if_pos rfl], rfl⟩

theorem qualifyName_empty (name : String) : qualifyName name .empty = name := rfl

theorem steps_nodeInScope (r : Repository) (scope : ScopeId) (name : String) (location : Location) :
    Steps p r (r.nodeInScope scope name location).2 ∧
      (r.nodeInScope scope name location).2.isLive (r.nodeInScope scope name location).1 := by
  have := steps_getOrCreate (p := p) r (r.scopedName scope name) scope .empty location
  rwa [qualifyName_empty] at this

theorem steps_uniqueName (r : Repository) (scope : ScopeId) (name : String) :
    Steps p r (r.uniqueName scope name).2 := by
  rw [uniqueName]
  split
  · exact .refl
  · rename_i s here
    exact .single (.count scope name here)

theorem steps_pin (r : Repository) (id : NodeId) : Steps p r (r.pin id) := by
  rw [pin]
  split
  · exact .single (.keep _ _ _)
  · exact .refl

/-! ## 1. Below the recursion -/

theorem leads_addError (d : Diagnostic) (trail : List Location) (r : Repository) :
    Leads (Step p) (addError d trail) r fun _ _ => True := by
  rw [addError]
  refine .get ?_
  dsimp only
  split
  · exact .bind (P := fun _ _ => False) (.throw _) fun _ _ _ h => h.elim
  · refine .bind (P := fun _ _ => True) (.set (.single (.note _)) trivial) fun _ _ _ _ => ?_
    split
    · exact .throw _
    · exact .pure trivial

theorem leads_recording {a : Action Unit} {Q : Unit → Repository → Prop}
    (h : Leads (Step p) a r Q) : Leads (Step p) (recording a) r fun _ _ => True := by
  refine ⟨?_, fun _ _ => trivial⟩
  rw [exec_recording]
  rcases run : exec a r with ⟨(d | ds | _) | _, r₁⟩
  · exact (h.steps run).trans (leads_addError d r₁.frames r₁).1
  all_goals exact h.steps run

theorem exec_recording_of_ok {a : Action Unit} (h : exec a r = (.ok (), r')) :
    exec (recording a) r = (.ok (), r') := by
  rw [exec_recording, h]

theorem exec_attach_unbound {id : NodeId} {n : Node} (d : Definition) (location : Location)
    (here : r.get? id = some n) (unbound : n.binding = none) :
    (attach id d location).exec r =
      (.ok (), (r.relink id (fun _ => some (r.newBinding d location))
        (r.newBinding d location).childIds).noteClass id d.nodeClass.fullName) := by
  rw [attach, exec_bind_of_ok (exec_get r)]
  simp only [here, unbound]
  rfl

theorem exec_attach_bound {id : NodeId} {n : Node} {b : Binding} (d : Definition)
    (location : Location) (here : r.get? id = some n) (bound : n.binding = some b) :
    (attach id d location).exec r =
      if sameBinding b d.children d.steps d.record then (.ok (), r)
      else (.error (.diagnostic (.nodeRedefined n.name location b.boundAt)), r) := by
  rw [attach, exec_bind_of_ok (exec_get r)]
  simp only [here, bound]
  cases sameBinding b d.children d.steps d.record <;> rfl

theorem exec_attach_gone {id : NodeId} (d : Definition) (location : Location)
    (gone : r.get? id = none) : (attach id d location).exec r = (.ok (), r) := by
  rw [attach, exec_bind_of_ok (exec_get r)]
  simp only [gone]
  rfl

theorem leads_attach {id : NodeId} {d : Definition} {location : Location}
    (fits : p.Fits r (d.children.members ++ d.steps.members))
    (named : p.records →
      OrderedMap.get? d.record Record.classKey = some (.text d.nodeClass.fullName)) :
    Leads (Step p) (attach id d location) r fun _ _ => True := by
  refine ⟨?_, fun _ _ => trivial⟩
  cases here : r.get? id with
  | none => rw [exec_attach_gone d location here]
  | some n =>
    cases bound : n.binding with
    | some b =>
      rw [exec_attach_bound d location here bound]
      split <;> exact .refl
    | none =>
      rw [exec_attach_unbound d location here bound]
      exact .single (.attach (r.newBinding d location) here bound rfl fits named)

theorem exec_makeConstant_known {value : Constant} {id : NodeId} (location : Location)
    (known : (OrderedMap.get? r.constants value.key).filter r.isLive = some id) :
    (makeConstant value location).exec r = (.ok id, r) := by
  rw [makeConstant, exec_bind_of_ok (exec_get r)]
  simp only [known]
  rfl

/-- A constant without a node gets a new one, under a free name. -/
theorem exec_makeConstant_new {value : Constant} (location : Location)
    (unknown : (OrderedMap.get? r.constants value.key).filter r.isLive = none) :
    (makeConstant value location).exec r =
      (.ok ⟨r.nodes.size⟩, r.withConstant value location) := by
  have free : r.lookup? (r.newConstantName value) = none := lookup?_freeConstantName r _
  have created : r.getOrCreate (r.newConstantName value) (r.newConstantName value) .root .empty
      location = (⟨r.nodes.size⟩, r.register (r.newConstantName value) (r.newConstantName value)
        .root .empty location) := by
    rw [getOrCreate, free]
  have here := get?_register r (r.newConstantName value) (r.newConstantName value) .root .empty
    location ⟨r.nodes.size⟩
  rw [if_pos rfl] at here
  have attached := exec_attach_unbound (constantDefinition value) location here rfl
  rw [makeConstant, exec_bind_of_ok (exec_get r)]
  simp only [unknown]
  rw [exec_bind_of_ok (exec_modifyGet _ r)]
  let name := r.newConstantName value
  change (
    let found := r.getOrCreate name name .root .empty location
    exec (recording (attach found.1 (constantDefinition value) location) >>= fun _ =>
      (modify fun r => { r with constants := OrderedMap.insert r.constants value.key found.1 })
        >>= fun _ => pure found.1) found.2) = _
  simp only [name, created]
  rw [exec_bind_of_ok (exec_recording_of_ok attached)]
  rfl

theorem holds_newBinding (r : Repository) (value : Constant) (location : Location) :
    (r.newBinding (constantDefinition value) location).Holds value.key :=
  ⟨rfl, value, rfl, rfl⟩

theorem leads_makeConstant (value : Constant) (location : Location) (r : Repository) :
    Leads (Step p) (makeConstant value location) r fun id r' => r'.isLive id := by
  cases known : (OrderedMap.get? r.constants value.key).filter r.isLive with
  | some id =>
    rw [Leads, exec_makeConstant_known location known]
    refine ⟨.refl, fun _ ok => ?_⟩
    cases ok
    exact (Option.filter_eq_some_iff.mp known).2
  | none =>
    rw [Leads, exec_makeConstant_new location known]
    refine ⟨.single (.share value location known), fun _ ok => ?_⟩
    cases ok
    rw [isLive, get?_withConstant, if_pos rfl]
    rfl

theorem steps_anonymousNode (r : Repository) (scope : ScopeId) (nodeClass : NodeClass)
    (children : ChildList) (location : Location) :
    Steps p r (r.anonymousNode scope nodeClass children location).2 ∧
      (r.anonymousNode scope nodeClass children location).2.isLive
        (r.anonymousNode scope nodeClass children location).1 := by
  rw [anonymousNode]
  split
  · obtain ⟨steps, live⟩ := steps_nodeInScope (p := p)
      (r.uniqueName scope (Text.lowercase nodeClass.name)).2 scope
      (r.uniqueName scope (Text.lowercase nodeClass.name)).1 location
    exact ⟨(steps_uniqueName r scope _).trans steps, live⟩
  · exact steps_getOrCreate r _ scope _ location

/-! ## 2. The recursion -/

/-- What the recursion asks of the references it is given. -/
def Allocates (p : Promise) (r : Repository) (refs : List NodeRef) : Prop :=
  p.allocated → ∀ ref ∈ refs, ref.repository = r.id → ref.id.index < r.nodes.size

theorem Allocates.mono {refs : List NodeRef} (h : Allocates p r refs) (ext : r.Extends r') :
    Allocates p r' refs := fun ha ref member here =>
  Nat.lt_of_lt_of_le (h ha ref member (here.trans ext.id)) ext.size

theorem Allocates.left {refs refs' : List NodeRef} (h : Allocates p r (refs ++ refs')) :
    Allocates p r refs := fun ha ref member => h ha ref (List.mem_append_left _ member)

theorem Allocates.right {refs refs' : List NodeRef} (h : Allocates p r (refs ++ refs')) :
    Allocates p r refs' := fun ha ref member => h ha ref (List.mem_append_right _ member)

theorem Allocates.subset {refs refs' : List NodeRef} (h : Allocates p r refs')
    (inside : refs ⊆ refs') : Allocates p r refs := fun ha ref member => h ha ref (inside member)

theorem allocates_binding (refs : List NodeRef) : Allocates .binding r refs := False.elim

theorem fits_child {id : NodeId} (live : r.isLive id) : p.Fits r [r.child id] := by
  intro ref member
  obtain rfl : ref = ⟨r.id, id⟩ := by simpa [child] using member
  exact ⟨rfl, fun _ => lt_of_isLive live⟩

theorem fits_of_findForeign? {entries : List Entry} {keyed : Bool}
    (given : Allocates p r (ChildList.takenRefs ⟨entries, keyed, true⟩))
    (none : r.findForeign? entries = none) : p.Fits r (entries.map (·.child)) := by
  intro ref member
  obtain ⟨e, inside, here⟩ := List.mem_map.mp member
  have node : e.child.node? = some ref := by rw [here]; rfl
  have own := List.find?_eq_none.mp none e inside
  have same : ref.repository = r.id := by simpa [node] using own
  have taken : ref ∈ ChildList.takenRefs ⟨entries, keyed, true⟩ := by
    rw [ChildList.takenRefs, if_pos rfl]
    exact List.mem_filterMap.mpr ⟨e, inside, node⟩
  exact ⟨same, fun ha => given ha ref taken same⟩

theorem leads_illegalChild {α : Type} {Q : α → Repository → Prop} (label : Label) (kind : String)
    (location : Location) (r : Repository) :
    Leads (Step p) (illegalChild label kind location : Action α) r Q :=
  .throw _

/-- What a bind whose children are resolved does: it resolves the step-children and attaches. -/
def bindRest (location : Location) (scope : ScopeId) (id : NodeId) (d : Definition)
    (cs : ChildList) : Action Unit := do
  let steps ← resolveChildren location scope d.steps
  attach id { d with children := cs, steps } location

theorem leads_bindRest {location : Location} {scope : ScopeId} {id : NodeId} {d : Definition}
    {cs : ChildList} (fits : p.Fits r cs.members)
    (resolves : Leads (Step p) (resolveChildren location scope d.steps) r fun l r' =>
      p.Fits r' l.members)
    (named : p.records →
      OrderedMap.get? d.record Record.classKey = some (.text d.nodeClass.fullName)) :
    Leads (Step p) (bindRest location scope id d cs) r fun _ _ => True :=
  .bind resolves fun _ _ more fits' =>
    leads_attach ((fits.mono (Steps.extends more)).append fits') named

/-- The bind that an anonymous definition ends with, its children being resolved. -/
def anonymousBind (location : Location) (id : NodeId) (nodeClass : NodeClass)
    (cs steps : ChildList) (record : Record) : Action Unit := do
  let steps ← resolveChildren location ((← get).scopeOf id) steps
  attach id (.ofParts nodeClass cs steps record) location

/-- Once its children are resolved and its node is taken, an anonymous bind does the rest. -/
theorem exec_defineAnonymous (location : Location) (scope : ScopeId) {d : Definition}
    {cs : ChildList} {id : NodeId} {r₁ r₂ : Repository}
    (resolved : (resolveChildren location scope d.children).exec r = (.ok cs, r₁))
    (taken : r₁.anonymousNode scope d.nodeClass cs location = (id, r₂)) :
    (defineAnonymous location scope d).exec r =
      (recording (anonymousBind location id d.nodeClass cs d.steps d.record) >>=
        fun _ => pure id).exec r₂ := by
  obtain ⟨nodeClass, children, steps, record⟩ := d
  rw [defineAnonymous, exec_bind_of_ok resolved, exec_bind_of_ok (exec_modifyGet _ r₁)]
  dsimp only at taken ⊢
  rw [taken]
  rfl

theorem leads_anonymousBind {location : Location} (id : NodeId) (nodeClass : NodeClass)
    {cs steps : ChildList} (record : Record)
    (resolves : ∀ scope, Leads (Step p) (resolveChildren location scope steps) r fun l r' =>
      p.Fits r' l.members) (fits : p.Fits r cs.members) :
    Leads (Step p) (anonymousBind location id nodeClass cs steps record) r fun _ _ => True := by
  rw [anonymousBind]
  exact .get (leads_bindRest (d := .ofParts nodeClass cs steps record) fits (resolves _) fun _ =>
    Definition.get?_classKey_ofParts nodeClass cs steps record)

section

variable (location : Location)

/-- A node is refused when it is of another repository, and when it has been removed. -/
theorem exec_resolveChild_node (scope : ScopeId) (label : Label) (ref : NodeRef) (r : Repository) :
    (resolveChild location scope label (.node ref)).exec r =
      (if ref.repository = r.id then
        if r.isLive ref.id then .ok (.node ref)
        else .error (.diagnostic (.illegalChild label removedKind location))
      else .error (.diagnostic (.illegalChild label foreignKind location)), r) := by
  rw [resolveChild, exec_bind_of_ok (exec_get r)]
  by_cases own : ref.repository = r.id
  · by_cases live : r.isLive ref.id
    · simp [own, live]
    · simp [own, live, illegalChild]
  · simp [own, illegalChild]

theorem exec_resolveChild_name (scope : ScopeId) (label : Label) (name : String) (r : Repository) :
    (resolveChild location scope label (.name name)).exec r =
      (match r.lookupBound? name with
        | some id => .ok (r.child id)
        | none => .error (.diagnostic (.childNotFound label name location)), r) := by
  rw [resolveChild, exec_bind_of_ok (exec_get r)]
  cases found : r.lookupBound? name <;> rfl

theorem exec_resolveChildren_resolved (scope : ScopeId) (entries : List Entry) (keyed : Bool)
    (r : Repository) :
    (resolveChildren location scope ⟨entries, keyed, true⟩).exec r =
      (match r.findForeign? entries with
        | some e => .error (.diagnostic (.illegalChild e.label foreignKind location))
        | none => .ok ⟨entries, keyed, true⟩, r) := by
  rw [resolveChildren, if_pos rfl, exec_bind_of_ok (exec_get r)]
  cases own : r.findForeign? entries <;> rfl

/-- Resolving keeps the number of children, so far as a name depends on it. -/
theorem isEmpty_resolveChildren {location : Location} {scope : ScopeId} {l l' : ChildList}
    (ran : (resolveChildren location scope l).exec r = (.ok l', r')) : l'.isEmpty = l.isEmpty := by
  obtain ⟨entries, keyed, resolved⟩ := l
  cases resolved with
  | true =>
    rw [exec_resolveChildren_resolved] at ran
    split at ran <;> cases ran
    rfl
  | false =>
    rw [resolveChildren, if_neg Bool.false_ne_true] at ran
    obtain ⟨es, r₁, ran, given⟩ := exec_bind_ok.mp ran
    cases given
    cases entries with
    | nil =>
      rw [resolveEntries] at ran
      cases ran
      rfl
    | cons e rest =>
      rw [resolveEntries] at ran
      obtain ⟨e', r₂, _, ran⟩ := exec_bind_ok.mp ran
      obtain ⟨rest', r₃, _, given⟩ := exec_bind_ok.mp ran
      cases given
      rfl

mutual

theorem leads_resolveChild (scope : ScopeId) (label : Label) : ∀ (c : Child) (r : Repository),
    Allocates p r c.takenRefs →
      Leads (Step p) (resolveChild location scope label c) r fun c' r' => p.Fits r' [c']
  | .empty, r, _ => by
    rw [resolveChild]
    exact .pure fun ref member => by simp at member
  | .node ref, r, _ => by
    rw [Leads, exec_resolveChild_node]
    refine ⟨.refl, fun c' ok ref' member => ?_⟩
    dsimp only at ok
    split at ok
    · rename_i own
      split at ok
      · rename_i live
        cases ok
        obtain rfl : ref' = ref := by simpa using member
        exact ⟨own, fun _ => lt_of_isLive live⟩
      · cases ok
    · cases ok
  | .name name, r, _ => by
    rw [resolveChild]
    refine .get ?_
    split
    · rename_i id found
      exact .pure (fits_child (isLive_of_isBound (Option.filter_eq_some_iff.mp found).2))
    · exact .throw _
  | .constant value, r, _ => by
    rw [resolveChild]
    exact .bind (leads_makeConstant value location r) fun id r₁ _ live =>
      .get (.pure (fits_child live))
  | .pending d, r, given => by
    rw [resolveChild]
    exact .bind (leads_defineAnonymous scope d r given) fun id r₁ _ live =>
      .get (.pure (fits_child live))
  | .factory _ _, r, _ => by
    rw [resolveChild]
    exact leads_illegalChild ..

theorem leads_resolveEntry (scope : ScopeId) : ∀ (e : Entry) (r : Repository),
    Allocates p r e.takenRefs →
      Leads (Step p) (resolveEntry location scope e) r fun e' r' => p.Fits r' [e'.child]
  | ⟨label, child⟩, r, given => by
    rw [resolveEntry]
    exact .bind (leads_resolveChild scope label child r given) fun c r₁ _ fits => .pure fits

theorem leads_resolveEntries (scope : ScopeId) : ∀ (es : List Entry) (r : Repository),
    Allocates p r (Entry.allTakenRefs es) →
      Leads (Step p) (resolveEntries location scope es) r fun es' r' =>
        p.Fits r' (es'.map (·.child))
  | [], r, _ => by
    rw [resolveEntries]
    exact .pure fun ref member => by simp at member
  | e :: rest, r, given => by
    rw [Entry.allTakenRefs] at given
    rw [resolveEntries]
    refine .bind (leads_resolveEntry scope e r given.left) fun e' r₁ first fits => ?_
    refine .bind (leads_resolveEntries scope rest r₁ (given.right.mono (Steps.extends first)))
      fun rest' r₂ second fits' => .pure ?_
    exact (fits.mono (Steps.extends second)).append fits'

theorem leads_resolveChildren (scope : ScopeId) : ∀ (l : ChildList) (r : Repository),
    Allocates p r l.takenRefs →
      Leads (Step p) (resolveChildren location scope l) r fun l' r' => p.Fits r' l'.members
  | ⟨entries, keyed, true⟩, r, given => by
    rw [resolveChildren, if_pos rfl]
    refine .get ?_
    split
    · exact leads_illegalChild ..
    · rename_i own
      exact .pure (fits_of_findForeign? given own)
  | ⟨entries, keyed, false⟩, r, given => by
    rw [resolveChildren, if_neg Bool.false_ne_true]
    exact .bind (leads_resolveEntries scope entries r given) fun es r₁ _ fits => .pure fits

theorem leads_defineAnonymous (scope : ScopeId) : ∀ (d : Definition) (r : Repository),
    Allocates p r d.takenRefs →
      Leads (Step p) (defineAnonymous location scope d) r fun id r' => r'.isLive id
  | ⟨nodeClass, children, steps, record⟩, r, given => by
    rw [Definition.takenRefs] at given
    rw [defineAnonymous]
    refine .bind (leads_resolveChildren scope children r given.left) fun cs r₁ first fits => ?_
    obtain ⟨named, live⟩ := steps_anonymousNode (p := p) r₁ scope nodeClass cs location
    refine .bind (P := fun id r' => r'.isLive id ∧ r₁.Extends r')
      (.modifyGet named ⟨live, named.extends⟩) fun id r₂ _ ⟨live, ext⟩ => ?_
    have body := leads_anonymousBind id nodeClass record
      (fun scope => leads_resolveChildren scope steps r₂
        ((given.right.mono (Steps.extends first)).mono ext)) (fits.mono ext)
    exact .bind (leads_recording body) fun _ r₃ more _ => .pure (Steps.isLive more live)

end

/-! ## 3. Operations -/

theorem allocates_of_definition? {c : Child} {d : Definition} (denoted : c.definition? = some d)
    (given : Allocates p r c.takenRefs) : Allocates p r d.takenRefs := by
  cases c <;> simp only [Child.definition?, Option.some.injEq, reduceCtorEq] at denoted
  · subst denoted
    exact fun _ ref member => by cases member
  · subst denoted
    exact given

theorem wellFormed_of_definition? {c : Child} {d : Definition} (denoted : c.definition? = some d)
    (wellFormed : c.WellFormed) : d.WellFormed := by
  cases c <;> simp only [Child.definition?, Option.some.injEq, reduceCtorEq] at denoted
  · subst denoted
    exact Definition.wellFormed_ofConstant _
  · subst denoted
    rwa [Child.WellFormed] at wellFormed

/-- Binding a live node resolves both lists and attaches. -/
theorem exec_tryBind {id : NodeId} {node : Node} {c : Child} {d : Definition}
    (denoted : c.definition? = some d) (here : r.get? id = some node) :
    (tryBind id (.ok c) location).exec r =
      exec (do
        let children ← resolveChildren location node.scope d.children
        let steps ← resolveChildren location node.scope d.steps
        attach id { d with children, steps } location) r := by
  rw [tryBind, exec_bind_of_ok (exec_get r)]
  simp only [denoted, here]

/-- A bind is refused at once, or it is one of a definition to a live node. -/
theorem exec_tryBind_cases (id : NodeId) (argument : Except BuildError Child) (r : Repository) :
    (∃ e, (tryBind id argument location).exec r = (.error (.diagnostic e), r)) ∨
      ∃ c d node, argument = .ok c ∧ c.definition? = some d ∧ r.get? id = some node := by
  rw [tryBind, exec_bind_of_ok (exec_get r)]
  cases argument with
  | error source => exact .inl ⟨_, rfl⟩
  | ok c =>
    cases denoted : c.definition? with
    | none => exact .inl ⟨.unbindable (r.nameInMessage id) c.kind location, by simp [denoted]⟩
    | some d =>
      cases here : r.get? id with
      | none =>
        exact .inl ⟨.unboundNode (r.nameInMessage id) "bind" location, by simp [denoted]⟩
      | some node => exact .inr ⟨c, d, node, rfl, denoted, rfl⟩

theorem leads_tryBind (id : NodeId) (argument : Except BuildError Child) (r : Repository)
    (given : ∀ c, argument = .ok c → Allocates p r c.takenRefs)
    (named : p.records → ∀ c, argument = .ok c → c.WellFormed) :
    Leads (Step p) (tryBind id argument location) r fun _ _ => True := by
  rcases exec_tryBind_cases location id argument r with
    ⟨e, refused⟩ | ⟨c, d, node, rfl, denoted, here⟩
  · exact .of_exec refused (.throw _)
  · have allocates : Allocates p r (d.children.takenRefs ++ d.steps.takenRefs) := by
      rw [← Definition.takenRefs_eq]
      exact allocates_of_definition? denoted (given c rfl)
    refine .of_exec (exec_tryBind location denoted here) ?_
    refine .bind (leads_resolveChildren location _ d.children r allocates.left)
      fun cs r₁ first fits => ?_
    have resolves := leads_resolveChildren location node.scope d.steps r₁
      (allocates.right.mono (Steps.extends first))
    exact leads_bindRest fits resolves fun hr =>
      (wellFormed_of_definition? denoted (named hr c rfl)).classKey

theorem leads_bind {id : NodeId} {argument : Except BuildError Child} (r : Repository)
    (given : ∀ c, argument = .ok c → Allocates p r c.takenRefs)
    (named : p.records → ∀ c, argument = .ok c → c.WellFormed) :
    Leads (Step p) (bind id argument location) r fun _ _ => True :=
  leads_recording (leads_tryBind location _ _ r given named)

theorem leads_bindAnonymous (scope : ScopeId) (argument : Child) (r : Repository)
    (given : Allocates p r argument.takenRefs) :
    Leads (Step p) (bindAnonymous scope argument location) r fun id r' => r'.isLive id := by
  rw [bindAnonymous]
  cases argument with
  | pending d => exact leads_defineAnonymous location scope d r given
  | constant value =>
    exact leads_defineAnonymous location scope _ r fun _ ref member => by cases member
  | empty | name | node | factory => exact .throw _

end

end Repository

theorem Entry.mem_allNodeRefs_numbered {ref : NodeRef} :
    ∀ {cs : List Child} {start : Nat}, ref ∈ Entry.allNodeRefs (Entry.numbered start cs) →
      ∃ c ∈ cs, ref ∈ c.nodeRefs
  | c :: cs, start, member => by
    rw [Entry.numbered, Entry.allNodeRefs, List.mem_append, Entry.nodeRefs] at member
    rcases member with first | later
    · exact ⟨c, List.mem_cons_self, first⟩
    · obtain ⟨c', inside, here⟩ := Entry.mem_allNodeRefs_numbered later
      exact ⟨c', List.mem_cons_of_mem c inside, here⟩

namespace Repository

variable {p : Promise} {r r' : Repository}

theorem leads_extendChildren (role : ChildRole) (id : NodeId) (cs : List Child)
    (location : Location) (r : Repository) (given : ∀ c ∈ cs, Allocates p r c.nodeRefs)
    (open' : ¬p.lists) : Leads (Step p) (extendChildren role id cs location) r fun _ _ => True := by
  rw [extendChildren]
  refine .get ?_
  cases here : (r.get? id).filter (·.isBound) with
  | none => exact .throw _
  | some node =>
    have allocates : Allocates p r (ChildList.positional cs).nodeRefs := by
      intro ha ref member
      obtain ⟨c, inside, here⟩ := Entry.mem_allNodeRefs_numbered member
      exact given c inside ha ref here
    have bound : r.isBound id := by
      obtain ⟨live, isBound⟩ := Option.filter_eq_some_iff.mp here
      rw [isBound_eq, bindingOf?_of_get? live]
      exact isBound
    refine .bind (leads_resolveChildren location _ _ r
      (allocates.subset (ChildList.takenRefs_subset _))) fun l r₁ more fits => ?_
    refine .modifyGet (.single ?_) trivial
    dsimp only
    rw [ChildList.nodeIds_eq]
    exact .extend role l.members open' (Steps.isBound more bound) fits

theorem leads_setOptions (id : NodeId) (options : List (String × Value)) (location : Location)
    (r : Repository) (open' : ¬p.records) :
    Leads (Step p) (setOptions id options location) r fun _ _ => True := by
  rw [setOptions]
  refine .get ?_
  dsimp only
  split
  · exact .bind (P := fun _ _ => False) (.throw _) fun _ _ _ h => h.elim
  · exact .set (.single (.setFields id (OrderedMap.insertAll · options) open')) trivial

end Repository

/-- What an operation must be like to keep a promise. -/
structure Promise.Allows (p : Promise) (r : Repository) (op : Operation) : Prop where
  allocated : p.allocated → op.NamesAllocated r
  wellFormed : p.records → op.WellFormed
  records : p.records → op.LeavesRecords
  lists : p.lists → op.LeavesLists

theorem Promise.allows_none (r : Repository) (op : Operation) : Promise.none.Allows r op :=
  ⟨False.elim, False.elim, False.elim, False.elim⟩

theorem Promise.allows_allocating (r : Repository) (op : Operation) (given : op.NamesAllocated r) :
    Promise.allocating.Allows r op :=
  ⟨fun _ => given, False.elim, False.elim, False.elim⟩

open Repository

/-- Every operation takes steps only, whether it fails or not. -/
theorem Operation.leads {p : Promise} {r : Repository} {op : Operation} (allows : p.Allows r op) :
    Leads (Step p) op.run r fun _ _ => True := by
  have unit {α : Type} {a : Action α} {P : α → Repository → Prop} (h : Leads (Step p) a r P) :
      Leads (Step p) (do let _ ← a) r fun _ _ => True :=
    .bind h fun _ _ _ _ => .pure trivial
  have given : ∀ c ∈ op.arguments, Allocates p r c.nodeRefs := fun c member ha ref inside =>
    allows.allocated ha c member ref inside
  cases op with
  | openScope parent name quals =>
    exact unit (P := fun _ _ => True)
      (.modifyGet (.single (.openScope _ fun hl => allows.lists hl)) trivial)
  | node scope name location =>
    exact unit (P := fun _ _ => True)
      (.modifyGet (steps_nodeInScope r scope name location).1 trivial)
  | qualify basename scope quals location =>
    exact unit (P := fun _ _ => True)
      (.modifyGet (steps_getOrCreate r basename scope quals location).1 trivial)
  | uniqueName scope name =>
    exact unit (P := fun _ _ => True) (.modifyGet (steps_uniqueName r scope name) trivial)
  | bind id argument location =>
    refine leads_bind location r (fun c same => ?_) fun hr c same => ?_
    · exact (given c (by rw [same]; exact List.mem_singleton_self c)).subset
        c.takenRefs_subset
    · exact allows.wellFormed hr c (by rw [same]; exact List.mem_singleton_self c)
  | bindAnonymous scope argument location =>
    exact unit (leads_bindAnonymous location scope argument r
      ((given argument (List.mem_singleton_self argument)).subset argument.takenRefs_subset))
  | makeConstant value location => exact unit (leads_makeConstant value location r)
  | extend role id children location =>
    exact leads_extendChildren role id children location r given fun hl => allows.lists hl
  | setOptions id options location =>
    exact leads_setOptions id options location r fun hr => allows.records hr
  | addError d trail => exact leads_addError d trail r
  | report d => exact .get (leads_addError d r.frames r)
  | pin id => exact .modifyGet (steps_pin r id) trivial
  | unpin | hold | release | pushFrame | popFrame =>
    exact .modifyGet (.single (.keep _ _ _)) trivial

theorem Operation.steps {p : Promise} {r : Repository} {op : Operation} (allows : p.Allows r op) :
    Steps p r (op.after r) :=
  (Operation.leads allows).1

theorem Operation.extends_after (op : Operation) (r : Repository) : r.Extends (op.after r) :=
  Steps.extends (Operation.steps (Promise.allows_none r op))

namespace Repository

/-! ## 4. Runs -/

variable {p : Promise} {r r' : Repository}

theorem leads_addErrors (fs : List Finding) (r : Repository) :
    Leads (Step p) (fs.forM fun f => addError f.diagnostic f.trail) r fun _ _ => True := by
  induction fs generalizing r with
  | nil => exact .pure trivial
  | cons f fs ih =>
    exact .bind (leads_addError f.diagnostic f.trail r) fun _ r₁ _ _ => ih r₁

theorem leads_reportUninitialized (r : Repository) :
    Leads (Step p) reportUninitialized r fun _ _ => True :=
  .get (leads_addErrors r.findings r)

section

variable {α : Type} (hook : Hook α) (location : Location)

/-- The one attempt to resolve, as its outcome is noted. -/
theorem exec_resolve (building : r.phase = .building) :
    (resolve hook location).exec r = match (runResolve hook location).exec r with
      | (.ok (roots, given), r₁) => (.ok (some given), { r₁ with phase := .resolved roots })
      | (.error e, r₁) => (.error e, { r₁ with phase := .failed }) := by
  rw [resolve, exec_bind_of_ok (exec_get r)]
  simp only [building]
  rw [exec_bind, exec_tryCatch, exec_bind]
  rcases exec (runResolve hook location) r with ⟨_ | ⟨roots, given⟩, r₁⟩ <;> rfl

/-- A further resolve does nothing. -/
theorem exec_resolve_resolved {roots : OrderedMap String NodeId}
    (done : r.phase = .resolved roots) :
    (resolve hook location).exec r = (.ok none, r) := by
  rw [resolve, exec_bind_of_ok (exec_get r)]
  simp only [done]
  rfl

/-- After a failure, a further resolve fails alike. -/
theorem exec_resolve_failed (failed : r.phase = .failed) :
    (resolve hook location).exec r = (.error (.cumulative r.errors), r) := by
  rw [resolve, exec_bind_of_ok (exec_get r)]
  simp only [failed]
  rfl

/-- After a resolve, the repository is no longer building. -/
theorem phase_resolve (r : Repository) : ((resolve hook location).exec r).2.phase ≠ .building := by
  cases phase : r.phase with
  | building =>
    rw [exec_resolve hook location phase]
    rcases exec (runResolve hook location) r with ⟨_ | ⟨roots, given⟩, r₁⟩ <;> simp
  | resolved roots =>
    rw [exec_resolve_resolved hook location phase]
    simp [phase]
  | failed =>
    rw [exec_resolve_failed hook location phase]
    simp [phase]

end

/-- Before a resolve, a repository has only come by steps. -/
theorem LeadsTo.steps {allowed : Repository → Operation → Prop} (h : LeadsTo allowed r r')
    (keeps : ∀ r op, allowed r op → p.Allows r op) (building : r'.phase = .building) :
    Steps p r r' := by
  induction h with
  | refl => exact .refl
  | operation op _ allow ih =>
    have step := Operation.steps (keeps _ op allow)
    exact (ih (step.extends.phase.symm.trans building)).trans step
  | inHook _ before passed ih =>
    exact (ih before).trans ((leads_reportUninitialized _).steps passed)
  | resolve hook location => exact absurd building (phase_resolve hook location _)

theorem Reachable.steps {allowed : Repository → Operation → Prop} (h : Reachable allowed r)
    (keeps : ∀ r op, allowed r op → p.Allows r op) (building : r.phase = .building) :
    ∃ id options, Steps p (start id options) r := by
  obtain ⟨id, options, led⟩ := h
  exact ⟨id, options, led.steps keeps building⟩

end Repository

end NodeForest

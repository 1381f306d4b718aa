import NodeForest.Proofs.Connect
import NodeForest.Proofs.Consistency

/-!
# What becomes a child

An operation gives a node children in two ways only: it attaches a definition to an unbound node, or
it extends the lists of a node that was bound when it began. What it gives are nodes that were
handed in, and nodes that it has looked up, shared or bound itself by then. This module follows the
recursion over nested definitions once for whatever is to be shown of them.

Results:
1. `Gives`: a step and what it makes a child.
2. `Givable`: what children must be like so that the recursion gives nothing else.
3. `gives_resolveChildren`, `gives_defineAnonymous`: the recursion.
4. `Operation.gives`: every operation.
-/

namespace NodeForest

open Relation NodeForest.Action

/-- All children of a definition, without their labels. -/
def Binding.members (b : Binding) : List Child :=
  b.children.members ++ b.steps.members

namespace Repository

/-! ## 1. Steps and children -/

/-- A step after `r₀`, in which whatever a node gets as a child has `Q`. Only nodes that were bound
in `r₀` get further children. -/
structure Gives (r₀ : Repository) (Q : Repository → Child → Prop) (r r' : Repository) : Prop where
  step : Step .none r r'
  child : ∀ {id b' c}, r'.bindingOf? id = some b' → c ∈ b'.members →
    (∃ b, r.bindingOf? id = some b ∧ c ∈ b.members) ∨ Q r c ∧ (r.isBound id → r₀.isBound id)

variable {r₀ r r' : Repository} {Q : Repository → Child → Prop}

/-- Any number of such steps are steps. -/
theorem steps_of_gives (h : ReflTransGen (Gives r₀ Q) r r') : Steps .none r r' :=
  ReflTransGen.mono (fun _ _ gives => gives.step) _ _ h

/-- A step that leaves all definitions alone. -/
theorem Gives.of_bindings (step : Step .none r r')
    (same : ∀ id, r'.bindingOf? id = r.bindingOf? id) : Gives r₀ Q r r' :=
  ⟨step, fun here member => .inl ⟨_, same _ ▸ here, member⟩⟩

/-- A step that changes the definition of one node, if that is bound. -/
theorem Gives.relink {id : NodeId} {f : Binding → Binding} {children : List NodeId}
    (step : Step .none r (r.relink id (·.map f) children))
    (given : ∀ b c, c ∈ (f b).members → c ∈ b.members ∨ Q r c ∧ (r.isBound id → r₀.isBound id)) :
    Gives r₀ Q r (r.relink id (·.map f) children) := by
  refine ⟨step, fun {other b' c} there member => ?_⟩
  rw [bindingOf?_relink] at there
  split at there
  · rename_i same
    obtain ⟨n, here, mapped⟩ := Option.bind_eq_some_iff.mp there
    obtain ⟨b, was, rfl⟩ := Option.map_eq_some_iff.mp mapped
    subst same
    exact (given b c member).imp_left fun old => ⟨b, by rw [bindingOf?_of_get? here, was], old⟩
  · exact .inl ⟨b', there, member⟩

theorem gives_getOrCreate (r : Repository) (basename : String) (scope : ScopeId)
    (quals : Qualifiers) (location : Location) :
    ReflTransGen (Gives r₀ Q) r
      (r.getOrCreate (qualifyName basename quals) basename scope quals location).2 := by
  rw [getOrCreate]
  cases found : r.lookup? (qualifyName basename quals) with
  | some id => exact .refl
  | none =>
    exact .single (.of_bindings (.register basename scope quals location found) bindingOf?_register)

theorem gives_nodeInScope (r : Repository) (scope : ScopeId) (name : String)
    (location : Location) :
    ReflTransGen (Gives r₀ Q) r (r.nodeInScope scope name location).2 := by
  have found : ReflTransGen (Gives r₀ Q) r
      (r.getOrCreate (qualifyName (r.scopedName scope name) .empty) _ scope .empty location).2 :=
    gives_getOrCreate r (r.scopedName scope name) scope .empty location
  rwa [qualifyName_empty] at found

theorem gives_uniqueName (r : Repository) (scope : ScopeId) (name : String) :
    ReflTransGen (Gives r₀ Q) r (r.uniqueName scope name).2 := by
  rw [uniqueName]
  split
  · exact .refl
  · rename_i s here
    exact .single (.of_bindings (.count scope name here) fun _ => rfl)

theorem gives_anonymousNode (r : Repository) (scope : ScopeId) (nodeClass : NodeClass)
    (children : ChildList) (location : Location) :
    ReflTransGen (Gives r₀ Q) r (r.anonymousNode scope nodeClass children location).2 := by
  rw [anonymousNode]
  split
  · exact (gives_uniqueName r scope _).trans (gives_nodeInScope _ scope _ location)
  · exact gives_getOrCreate r _ scope _ location

theorem gives_addError (d : Diagnostic) (trail : List Location) (r : Repository) :
    Leads (Gives r₀ Q) (addError d trail) r fun _ _ => True := by
  rw [addError]
  refine .get ?_
  dsimp only
  split
  · exact .bind (P := fun _ _ => False) (.throw _) fun _ _ _ h => h.elim
  · refine .bind (P := fun _ _ => True)
      (.set (.single (.of_bindings (.note _) fun _ => rfl)) trivial) fun _ _ _ _ => ?_
    split
    · exact .throw _
    · exact .pure trivial

theorem gives_recording {a : Action Unit} {P : Unit → Repository → Prop}
    (h : Leads (Gives r₀ Q) a r P) : Leads (Gives r₀ Q) (recording a) r fun _ _ => True := by
  refine ⟨?_, fun _ _ => trivial⟩
  rw [exec_recording]
  rcases run : exec a r with ⟨(d | ds | _) | _, r₁⟩
  · exact (h.steps run).trans (gives_addError d r₁.frames r₁).1
  all_goals exact h.steps run

/-- What children must be like, so that the recursion gives nothing else: from `r₀` on, `N` holding
of the nodes handed in and `A` of the lists handed in that count as resolved. -/
structure Givable (r₀ : Repository) (Q : Repository → Child → Prop) (N : NodeRef → Prop)
    (A : ChildList → Prop) : Prop where
  cached : Cached r₀
  own : ∀ {r ref}, Q r (.node ref) → ref.repository = r.id
  stable : ∀ {r r' c}, Steps .none r₀ r → Step .none r r' → Q r c → Q r' c
  empty : ∀ r, Q r .empty
  node : ∀ {r ref}, Steps .none r₀ r → N ref → ref.repository = r.id → Q r (.node ref)
  /-- A node that was looked up or made; unless something has been recorded, it is bound. -/
  made : ∀ {r id}, Steps .none r₀ r → (r.errors = r₀.errors → r.isBound id) → Q r (r.child id)
  taken : ∀ {r entries keyed}, Steps .none r₀ r →
    (∀ ref ∈ ChildList.nodeRefs ⟨entries, keyed, true⟩, N ref) → A ⟨entries, keyed, true⟩ →
      r.findForeign? entries = none → ∀ e ∈ entries, Q r e.child

variable {N : NodeRef → Prop} {A : ChildList → Prop}

theorem Givable.steps (givable : Givable r₀ Q N A) {c : Child} (before : Steps .none r₀ r)
    (more : ReflTransGen (Gives r₀ Q) r r') (given : Q r c) : Q r' c := by
  induction more with
  | refl => exact given
  | tail most last ih => exact givable.stable (before.trans (steps_of_gives most)) last.step ih

theorem Givable.fits (givable : Givable r₀ Q N A) {cs : List Child} (given : ∀ c ∈ cs, Q r c) :
    Promise.none.Fits r cs :=
  fun _ member => ⟨givable.own (given _ member), False.elim⟩

/-- Attaching gives an unbound node its children, and a bound one none. -/
theorem Givable.attach (givable : Givable r₀ Q N A) {id : NodeId} {d : Definition}
    {location : Location} (given : ∀ c ∈ d.children.members ++ d.steps.members, Q r c) :
    Leads (Gives r₀ Q) (attach id d location) r fun _ _ => True := by
  refine ⟨?_, fun _ _ => trivial⟩
  cases here : r.get? id with
  | none => rw [exec_attach_gone d location here]
  | some n =>
    cases bound : n.binding with
    | some b =>
      rw [exec_attach_bound d location here bound]
      split <;> exact .refl
    | none =>
      rw [exec_attach_unbound d location here bound]
      have unbound : ¬r.isBound id := by
        rw [isBound_eq, bindingOf?_of_get? here, bound]
        exact Bool.false_ne_true
      refine .single ⟨.attach (r.newBinding d location) here bound rfl (givable.fits given)
        False.elim, ?_⟩
      intro other b' c there member
      rw [bindingOf?_noteClass, bindingOf?_relink] at there
      split at there
      · rename_i same
        rw [same, here] at there
        cases there
        exact .inr ⟨given c member, fun isBound => absurd (same ▸ isBound) unbound⟩
      · exact .inl ⟨b', there, member⟩

/-- The node of a constant is bound, be it a new one. -/
theorem Givable.makeConstant (givable : Givable r₀ Q N A)
    (before : Steps .none r₀ r) (value : Constant) (location : Location) :
    Leads (Gives r₀ Q) (makeConstant value location) r fun id r' => Q r' (r'.child id) := by
  cases known : (OrderedMap.get? r.constants value.key).filter r.isLive with
  | some id =>
    rw [Leads, exec_makeConstant_known location known]
    refine ⟨.refl, fun _ ok => ?_⟩
    cases ok
    refine givable.made before fun _ => ?_
    have member := OrderedMap.mem_of_get? (Option.filter_eq_some_iff.mp known).1
    rw [isBound_eq_classOf?, ((Steps.changes before).cached givable.cached).classes _ member]
    rfl
  | none =>
    rw [Leads, exec_makeConstant_new location known]
    have step : Step .none r (r.withConstant value location) := .share value location known
    refine ⟨.single ⟨step, fun {id b' c} here member => ?_⟩, fun _ ok => ?_⟩
    · rw [bindingOf?_withConstant] at here
      split at here
      · cases here
        cases member
      · exact .inl ⟨b', here, member⟩
    · cases ok
      refine givable.made (before.tail step) fun _ => ?_
      rw [isBound_eq, bindingOf?_withConstant, if_pos rfl]
      rfl

/-! ## 3. The recursion -/

/-- What the recursion asks of what is handed in. -/
structure Handed (N : NodeRef → Prop) (A : ChildList → Prop) (refs : List NodeRef)
    (lists : List ChildList) : Prop where
  refs : ∀ ref ∈ refs, N ref
  lists : ∀ l ∈ lists, A l

theorem Handed.left {refs refs' : List NodeRef} {lists lists' : List ChildList}
    (h : Handed N A (refs ++ refs') (lists ++ lists')) : Handed N A refs lists :=
  ⟨fun ref member => h.refs ref (List.mem_append_left _ member),
    fun l member => h.lists l (List.mem_append_left _ member)⟩

theorem Handed.right {refs refs' : List NodeRef} {lists lists' : List ChildList}
    (h : Handed N A (refs ++ refs') (lists ++ lists')) : Handed N A refs' lists' :=
  ⟨fun ref member => h.refs ref (List.mem_append_right _ member),
    fun l member => h.lists l (List.mem_append_right _ member)⟩

section

variable (location : Location)

/-- A bind that is recorded leaves the node bound, unless something has been recorded. -/
theorem bound_of_recording {id : NodeId} {nodeClass : NodeClass} {cs steps : ChildList}
    {record : Record} (before : Steps .none r₀ r) (live : r.isLive id)
    (body : Leads (Gives r₀ Q) (anonymousBind location id nodeClass cs steps record) r
      fun _ _ => True) :
    Leads (Gives r₀ Q) (recording (anonymousBind location id nodeClass cs steps record)) r
      fun _ r' => r'.errors = r₀.errors → r'.isBound id := by
  have more := gives_recording body
  refine ⟨more.1, fun y ok quiet => ?_⟩
  -- What the bind did is known, as there has been nothing to record.
  have same := ((Steps.extends before).quiet (steps_of_gives more.1).extends quiet).2
  have done := exec_recording_quiet (steps_of_gives body.1).extends.errors (Prod.ext ok rfl) same
  rw [anonymousBind, exec_bind_of_ok (exec_get r)] at done
  obtain ⟨l, r₁, resolved, attached⟩ := exec_bind_ok.mp done
  have first : Steps .none r r₁ :=
    (leads_resolveChildren (p := .none) location _ steps r False.elim).steps resolved
  -- So it attached a definition, or the node was bound to an equal one.
  rcases exec_attach_cases (.ofParts nodeClass cs l record) location (Steps.isLive first live) with
    ⟨r₂, ran, bound⟩ | ⟨e, refused, _⟩
  · rw [ran] at attached
    exact (congrArg Prod.snd attached) ▸ bound
  · rw [refused] at attached
    cases attached

mutual

theorem gives_resolveChild (givable : Givable r₀ Q N A) (scope : ScopeId) (label : Label) :
    ∀ (c : Child) (r : Repository), Steps .none r₀ r → Handed N A c.nodeRefs c.takenLists →
      Leads (Gives r₀ Q) (resolveChild location scope label c) r fun c' r' => Q r' c'
  | .empty, r, _, _ => by
    rw [resolveChild]
    exact .pure (givable.empty r)
  | .node ref, r, before, handed => by
    rw [Leads, exec_resolveChild_node]
    refine ⟨.refl, fun c' ok => ?_⟩
    dsimp only at ok
    split at ok
    · rename_i own
      split at ok <;> cases ok
      exact givable.node before (handed.refs ref (List.mem_singleton_self ref)) own
    · cases ok
  | .name name, r, before, _ => by
    rw [resolveChild]
    refine .get ?_
    split
    · rename_i id found
      exact .pure (givable.made before fun _ => (Option.filter_eq_some_iff.mp found).2)
    · exact .throw _
  | .constant value, r, before, _ => by
    rw [resolveChild]
    exact .bind (givable.makeConstant before value location) fun id r₁ _ given =>
      .get (.pure given)
  | .pending d, r, before, handed => by
    rw [resolveChild]
    refine .bind (gives_defineAnonymous givable scope d r before handed) fun id r₁ more bound => ?_
    exact .get (.pure (givable.made (before.trans (steps_of_gives more)) bound))
  | .factory _ _, r, _, _ => by
    rw [resolveChild]
    exact .throw _

theorem gives_resolveEntry (givable : Givable r₀ Q N A) (scope : ScopeId) :
    ∀ (e : Entry) (r : Repository), Steps .none r₀ r → Handed N A e.nodeRefs e.takenLists →
      Leads (Gives r₀ Q) (resolveEntry location scope e) r fun e' r' => Q r' e'.child
  | ⟨label, child⟩, r, before, handed => by
    rw [resolveEntry]
    exact .bind (gives_resolveChild givable scope label child r before handed) fun c r₁ _ given =>
      .pure given

theorem gives_resolveEntries (givable : Givable r₀ Q N A) (scope : ScopeId) :
    ∀ (es : List Entry) (r : Repository), Steps .none r₀ r →
      Handed N A (Entry.allNodeRefs es) (Entry.allTakenLists es) →
      Leads (Gives r₀ Q) (resolveEntries location scope es) r fun es' r' =>
        ∀ e ∈ es', Q r' e.child
  | [], r, _, _ => by
    rw [resolveEntries]
    exact .pure nofun
  | e :: rest, r, before, handed => by
    rw [Entry.allNodeRefs, Entry.allTakenLists] at handed
    rw [resolveEntries]
    refine .bind (gives_resolveEntry givable scope e r before handed.left) fun e' r₁ first own => ?_
    have before₁ := before.trans (steps_of_gives first)
    refine .bind (gives_resolveEntries givable scope rest r₁ before₁ handed.right)
      fun rest' r₂ second given' => .pure ?_
    exact List.forall_mem_cons.mpr ⟨givable.steps before₁ second own, given'⟩

theorem gives_resolveChildren (givable : Givable r₀ Q N A) (scope : ScopeId) :
    ∀ (l : ChildList) (r : Repository), Steps .none r₀ r → Handed N A l.nodeRefs l.takenLists →
      Leads (Gives r₀ Q) (resolveChildren location scope l) r fun l' r' =>
        ∀ c ∈ l'.members, Q r' c
  | ⟨entries, keyed, true⟩, r, before, handed => by
    rw [resolveChildren, if_pos rfl]
    refine .get ?_
    split
    · exact .throw _
    · rename_i own
      have lists : A ⟨entries, keyed, true⟩ := handed.lists _ (by simp [ChildList.takenLists])
      exact .pure (List.forall_mem_map.mpr (givable.taken before handed.refs lists own))
  | ⟨entries, keyed, false⟩, r, before, handed => by
    rw [resolveChildren, if_neg Bool.false_ne_true]
    exact .bind (gives_resolveEntries givable scope entries r before handed) fun es r₁ _ given =>
      .pure (List.forall_mem_map.mpr given)

theorem gives_defineAnonymous (givable : Givable r₀ Q N A) (scope : ScopeId) :
    ∀ (d : Definition) (r : Repository), Steps .none r₀ r → Handed N A d.nodeRefs d.takenLists →
      Leads (Gives r₀ Q) (defineAnonymous location scope d) r fun id r' =>
        r'.errors = r₀.errors → r'.isBound id
  | ⟨nodeClass, children, steps, record⟩, r, before, handed => by
    rw [Definition.nodeRefs, Definition.takenLists] at handed
    rw [defineAnonymous]
    refine .bind (gives_resolveChildren givable scope children r before handed.left)
      fun cs r₁ first given => ?_
    have before₁ := before.trans (steps_of_gives first)
    have live := (steps_anonymousNode (p := .none) r₁ scope nodeClass cs location).2
    refine .bind (P := fun id r₂ => ReflTransGen (Gives r₀ Q) r₁ r₂ ∧ r₂.isLive id)
      (.modifyGet (gives_anonymousNode r₁ scope nodeClass cs location)
        ⟨gives_anonymousNode r₁ scope nodeClass cs location, live⟩)
      fun id r₂ _ ⟨second, live⟩ => ?_
    have before₂ := before₁.trans (steps_of_gives second)
    -- The children are resolved before the node is made, so they are given two stages later.
    have given₂ : ∀ c ∈ cs.members, Q r₂ c := fun c member =>
      givable.steps before₁ second (given c member)
    have body : Leads (Gives r₀ Q) (anonymousBind location id nodeClass cs steps record) r₂
        fun _ _ => True := by
      rw [anonymousBind]
      refine .get (.bind (gives_resolveChildren givable _ steps r₂ before₂ handed.right)
        fun ss r₃ third given' => ?_)
      exact givable.attach fun c member => (List.mem_append.mp member).elim
        (fun first => givable.steps before₂ third (given₂ c first)) (given' c)
    exact .bind (bound_of_recording location before₂ live body) fun _ r₃ _ bound => .pure bound

end

end

/-! ## 4. Operations -/

theorem handed_of_definition? {c : Child} {d : Definition} (denoted : c.definition? = some d)
    (handed : Handed N A c.nodeRefs c.takenLists) : Handed N A d.nodeRefs d.takenLists := by
  cases c <;> simp only [Child.definition?, Option.some.injEq, reduceCtorEq] at denoted
  · subst denoted
    constructor <;> intro _ member <;> cases member
  · subst denoted
    exact handed

theorem handed_positional {cs : List Child}
    (handed : ∀ c ∈ cs, Handed N A c.nodeRefs c.takenLists) :
    Handed N A (ChildList.positional cs).nodeRefs (ChildList.positional cs).takenLists where
  refs := by
    intro ref member
    obtain ⟨c, inside, here⟩ := Entry.mem_allNodeRefs_numbered member
    exact (handed c inside).refs ref here
  lists := by
    intro l member
    rw [ChildList.positional, ChildList.takenLists, if_neg Bool.false_ne_true,
      Entry.allTakenLists_eq, Entry.child_numbered, List.mem_flatMap] at member
    obtain ⟨c, inside, here⟩ := member
    exact (handed c inside).lists l here

theorem gives_tryBind (givable : Givable r Q N A) (id : NodeId)
    (argument : Except BuildError Child) (location : Location)
    (handed : ∀ c, argument = .ok c → Handed N A c.nodeRefs c.takenLists) :
    Leads (Gives r Q) (tryBind id argument location) r fun _ _ => True := by
  rcases exec_tryBind_cases location id argument r with
    ⟨e, refused⟩ | ⟨c, d, node, rfl, denoted, here⟩
  · exact .of_exec refused (.throw _)
  · have inside := handed_of_definition? denoted (handed c rfl)
    obtain ⟨nodeClass, children, steps, record⟩ := d
    rw [Definition.nodeRefs, Definition.takenLists] at inside
    refine .of_exec (exec_tryBind location denoted here) ?_
    refine .bind (gives_resolveChildren location givable _ children r .refl inside.left)
      fun cs r₁ first given => ?_
    have before := steps_of_gives first
    refine .bind (gives_resolveChildren location givable _ steps r₁ before inside.right)
      fun ss r₂ second given' => ?_
    exact givable.attach fun c member => (List.mem_append.mp member).elim
      (fun old => givable.steps before second (given c old)) (given' c)

/-- An extension gives further children to a node that was bound before. -/
theorem gives_extendChildren (givable : Givable r Q N A) (role : ChildRole) (id : NodeId)
    {cs : List Child} (location : Location)
    (handed : ∀ c ∈ cs, Handed N A c.nodeRefs c.takenLists) :
    Leads (Gives r Q) (extendChildren role id cs location) r fun _ _ => True := by
  rw [extendChildren]
  refine .get ?_
  cases here : (r.get? id).filter (·.isBound) with
  | none => exact .throw _
  | some node =>
    obtain ⟨live, isBound⟩ := Option.filter_eq_some_iff.mp here
    have bound : r.isBound id := by
      rw [isBound_eq, bindingOf?_of_get? live]
      exact isBound
    refine .bind (gives_resolveChildren location givable _ _ r .refl (handed_positional handed))
      fun l r₁ more given => ?_
    refine .modifyGet (.single ?_) trivial
    dsimp only
    rw [ChildList.nodeIds_eq]
    have still := Steps.isBound (steps_of_gives more) bound
    exact .relink (.extend role l.members not_false still (givable.fits given)) fun b c member =>
      (mem_members_extendBinding.mp member).imp_right fun new => ⟨given c new, fun _ => bound⟩

theorem gives_setOptions (id : NodeId) (options : List (String × Value)) (location : Location) :
    Leads (Gives r₀ Q) (setOptions id options location) r fun _ _ => True := by
  rw [setOptions]
  refine .get ?_
  dsimp only
  split
  · exact .bind (P := fun _ _ => False) (.throw _) fun _ _ _ h => h.elim
  · exact .set (.single (.relink (.setFields id (OrderedMap.insertAll · options) not_false)
      fun _ _ => .inl)) trivial

theorem gives_pin (r : Repository) (id : NodeId) : ReflTransGen (Gives r₀ Q) r (r.pin id) := by
  rw [pin]
  split
  · exact .single (.of_bindings (.keep _ _ _) fun _ => rfl)
  · exact .refl

end Repository

open Repository in
/-- What an operation makes a child is as what is handed in is to make it. -/
theorem Operation.gives {r : Repository} {Q : Repository → Child → Prop} {N : NodeRef → Prop}
    {A : ChildList → Prop} (givable : Givable r Q N A) (op : Operation)
    (handed : ∀ c ∈ op.arguments, Handed N A c.nodeRefs c.takenLists) :
    ReflTransGen (Gives r Q) r (op.after r) := by
  have unit {α : Type} {a : Action α} {P : α → Repository → Prop} (h : Leads (Gives r Q) a r P) :
      Leads (Gives r Q) (do let _ ← a) r fun _ _ => True :=
    .bind h fun _ _ _ _ => .pure trivial
  suffices done : Leads (Gives r Q) op.run r fun _ _ => True from done.1
  cases op with
  | openScope parent name quals =>
    exact unit (P := fun _ _ => True)
      (.modifyGet (.single (.of_bindings (.openScope _ not_false) fun _ => rfl)) trivial)
  | node scope name location =>
    exact unit (P := fun _ _ => True)
      (.modifyGet (gives_nodeInScope r scope name location) trivial)
  | qualify basename scope quals location =>
    exact unit (P := fun _ _ => True)
      (.modifyGet (gives_getOrCreate r basename scope quals location) trivial)
  | uniqueName scope name =>
    exact unit (P := fun _ _ => True) (.modifyGet (gives_uniqueName r scope name) trivial)
  | bind id argument location =>
    refine gives_recording (gives_tryBind givable id argument location fun c same => ?_)
    exact handed c (by rw [same]; exact List.mem_singleton_self c)
  | bindAnonymous scope argument location =>
    have given := handed argument (List.mem_singleton_self argument)
    refine unit (P := fun _ _ => True) ?_
    rw [Repository.bindAnonymous]
    cases denoted : argument.definition? with
    | none => exact .throw _
    | some d =>
      exact (gives_defineAnonymous location givable scope d r .refl
        (handed_of_definition? denoted given)).forget
  | makeConstant value location => exact unit (givable.makeConstant .refl value location)
  | extend role id children location =>
    exact gives_extendChildren givable role id location handed
  | setOptions id options location => exact gives_setOptions id options location
  | addError d trail => exact gives_addError d trail r
  | report d => exact .get (gives_addError d r.frames r)
  | pin id => exact .modifyGet (gives_pin r id) trivial
  | unpin | hold | release | pushFrame | popFrame =>
    exact .modifyGet (.single (.of_bindings (.keep _ _ _) fun _ => rfl)) trivial

end NodeForest

import NodeForest.Proofs.CallJournal
import NodeForest.Proofs.References

/-!
# Isolation

Nodes of one repository can be mentioned in another, at any depth of an argument, and in lists that
count as resolved. There they are refused: no bound node has a node of another repository as a child
or step-child, and whoever hands one in gets an error, or has a diagnostic recorded.

Results:
1. `Protests`: an action that fails or records; `Protests.bind`, `Protests.recording`.
2. `protests_resolveChildren`, `protests_tryBind`, `protests_bindAnonymous`: arguments with a node
   of another repository.
3. `Child.nodeRefs_expand`: calling factories keeps the nodes in an argument.
4. `Runs.holdsOwn`: what is stored; `isolated`: runs over several repositories, and calls.
-/

namespace NodeForest

open Relation NodeForest.Action

/-- The list holds nodes and empty places only. -/
def ChildList.HoldsNodes (l : ChildList) : Prop :=
  ∀ c ∈ l.members, c.IsResolved

/-- The lists in a child that count as resolved hold nodes and empty places only. -/
def Child.TakesNodes (c : Child) : Prop :=
  ∀ l ∈ c.takenLists, l.HoldsNodes

theorem Entry.allNodeRefs_eq : ∀ es : List Entry,
    Entry.allNodeRefs es = (es.map (·.child)).flatMap Child.nodeRefs
  | [] => rfl
  | ⟨label, child⟩ :: rest => by
    rw [Entry.allNodeRefs, Entry.nodeRefs, Entry.allNodeRefs_eq rest]
    rfl

theorem ChildList.nodeRefs_positional (cs : List Child) :
    (ChildList.positional cs).nodeRefs = cs.flatMap Child.nodeRefs := by
  rw [positional, nodeRefs, Entry.allNodeRefs_eq, Entry.child_numbered]

theorem ChildList.takenLists_positional (cs : List Child) :
    (ChildList.positional cs).takenLists = cs.flatMap Child.takenLists := by
  rw [positional, takenLists, if_neg Bool.false_ne_true, Entry.allTakenLists_eq,
    Entry.child_numbered]

/-- The references in a child that is resolved already. -/
theorem Child.eq_node_of_isResolved {c : Child} (resolved : c.IsResolved) {ref : NodeRef}
    (member : ref ∈ c.nodeRefs) : c = .node ref := by
  cases c with
  | node ref' =>
    rw [Child.nodeRefs, List.mem_singleton] at member
    rw [member]
  | empty => cases member
  | name | constant | pending | factory => exact resolved.elim

namespace Repository

/-- One of the references is to a node of another repository. -/
def Foreign (r : Repository) (refs : List NodeRef) : Prop :=
  ∃ ref ∈ refs, ref.repository ≠ r.id

variable {α β : Type} {r r' r₁ : Repository} {refs refs' : List NodeRef}

theorem Foreign.mono (h : r.Foreign refs) (ext : r.Extends r') : r'.Foreign refs := by
  rwa [Foreign, ext.id]

theorem foreign_append : r.Foreign (refs ++ refs') ↔ r.Foreign refs ∨ r.Foreign refs' := by
  simp only [Foreign, List.mem_append, or_and_right, exists_or]

theorem not_foreign_nil : ¬r.Foreign [] := by
  simp [Foreign]

/-! ## 1. Protests -/

theorem Extends.bind {a : Action α} {f : α → Action β} (first : r.Extends (exec a r).2)
    (next : ∀ y r₁, exec a r = (.ok y, r₁) → r₁.Extends (exec (f y) r₁).2) :
    r.Extends (exec (a >>= f) r).2 := by
  rcases run : exec a r with ⟨e | y, r₁⟩ <;> rw [run] at first
  · rwa [exec_bind_of_error run]
  · rw [exec_bind_of_ok run]
    exact first.trans (next y r₁ run)

theorem Extends.recording {a : Action Unit} (h : r.Extends (exec a r).2) :
    r.Extends (exec (Repository.recording a) r).2 := by
  rw [exec_recording]
  rcases run : exec a r with ⟨(d | ds | _) | _, r₁⟩ <;> rw [run] at h
  · exact h.trans (Steps.extends (leads_addError (p := .none) d r₁.frames r₁).1)
  all_goals exact h

/-- The action fails, or records a diagnostic. -/
def Protests (a : Action α) (r : Repository) : Prop :=
  (∃ e, (exec a r).1 = .error e) ∨ r.errors.length < (exec a r).2.errors.length


namespace Protests

variable {a : Action α}

theorem of_exec {b : Action α} (same : exec a r = exec b r) (h : Protests b r) : Protests a r := by
  rwa [Protests, same]

theorem of_error {e : Failure} (failed : exec a r = (.error e, r')) : Protests a r :=
  .inl ⟨e, by rw [failed]⟩

theorem get {f : Repository → Action β} (h : Protests (f r) r) :
    Protests (MonadState.get >>= f) r :=
  of_exec (exec_bind_of_ok (exec_get r)) h

/-- A protest stays one, whatever comes after. -/
theorem bind {f : α → Action β} (first : Protests a r)
    (more : ∀ y r₁, exec a r = (.ok y, r₁) → r₁.Extends (exec (f y) r₁).2) :
    Protests (a >>= f) r := by
  rcases run : exec a r with ⟨e | y, r₁⟩ <;> rw [Protests, run] at first
  · exact of_error (exec_bind_of_error run)
  · refine .inr ?_
    rw [exec_bind_of_ok run]
    refine Nat.lt_of_lt_of_le (first.resolve_left nofun) (more y r₁ run).errors.length_le

/-- A protest later on is one, unless the action has failed before. -/
theorem bindAfter {f : α → Action β} (before : r.Extends (exec a r).2)
    (next : ∀ y r₁, exec a r = (.ok y, r₁) → r.Extends r₁ → Protests (f y) r₁) :
    Protests (a >>= f) r := by
  rcases run : exec a r with ⟨e | y, r₁⟩ <;> rw [run] at before
  · exact of_error (exec_bind_of_error run)
  · have later := next y r₁ run before
    rw [Protests, exec_bind_of_ok run]
    exact later.imp_right fun longer => Nat.lt_of_le_of_lt before.errors.length_le longer

/-- What is caught in a recording is recorded, or returned in testing mode. -/
theorem recording {a : Action Unit} (h : Protests a r) (ext : r.Extends (exec a r).2) :
    Protests (Repository.recording a) r := by
  have ran := exec_recording a r
  rcases run : exec a r with ⟨(d | ds | _) | _, r₁⟩ <;> rw [run] at ran ext <;>
    rw [Protests, run] at h
  · dsimp only at ran ext
    rw [Protests, ran]
    cases testing : r₁.options.testing with
    | true =>
      refine .inl ⟨.diagnostic d, ?_⟩
      rw [exec_addError, if_pos testing]
    | false =>
      exact .inr (Nat.lt_of_le_of_lt ext.errors.length_le (lt_errors_addError d r₁.frames testing))
  · exact of_error ran
  · exact of_error ran
  · rw [Protests, ran]
    exact h

end Protests

/-! ## 2. Arguments with a node of another repository -/

section

variable (location : Location)

theorem extends_of_leads {a : Action α} {Q : α → Repository → Prop}
    (h : Leads (Step .none) a r Q) : r.Extends (exec a r).2 :=
  Steps.extends h.1

theorem extends_resolveChildren (scope : ScopeId) (l : ChildList) (r : Repository) :
    r.Extends ((resolveChildren location scope l).exec r).2 :=
  extends_of_leads (leads_resolveChildren location scope l r nofun)

/-- A list that counts as resolved is looked through. -/
theorem protests_resolved {scope : ScopeId} {entries : List Entry} {keyed : Bool}
    (foreign : r.Foreign (Entry.allNodeRefs entries))
    (holds : ChildList.HoldsNodes ⟨entries, keyed, true⟩) :
    Protests (resolveChildren location scope ⟨entries, keyed, true⟩) r := by
  obtain ⟨ref, member, other⟩ := foreign
  rw [Entry.allNodeRefs_eq, List.mem_flatMap] at member
  obtain ⟨c, listed, here⟩ := member
  obtain ⟨e, inside, rfl⟩ := List.mem_map.mp listed
  have node := Child.eq_node_of_isResolved (holds e.child listed) here
  have found : (r.findForeign? entries).isSome := by
    rw [findForeign?, List.find?_isSome]
    exact ⟨e, inside, by simpa [node, Child.node?] using other⟩
  obtain ⟨e', found⟩ := Option.isSome_iff_exists.mp found
  have ran := exec_resolveChildren_resolved location scope entries keyed r
  rw [found] at ran
  exact .of_error ran

mutual

theorem protests_resolveChild (scope : ScopeId) (label : Label) : ∀ (c : Child) (r : Repository),
    r.Foreign c.nodeRefs → c.TakesNodes → Protests (resolveChild location scope label c) r
  | .node ref, r, foreign, _ => by
    rw [Child.nodeRefs] at foreign
    obtain ⟨ref', member, other⟩ := foreign
    rw [List.mem_singleton.mp member] at other
    have ran := exec_resolveChild_node location scope label ref r
    rw [if_neg other] at ran
    exact .of_error ran
  | .pending d, r, foreign, takes => by
    rw [Child.nodeRefs] at foreign
    rw [Child.TakesNodes, Child.takenLists] at takes
    rw [resolveChild]
    exact .bind (protests_defineAnonymous scope d r foreign takes) fun _ r₁ _ => .refl r₁
  | .empty, r, foreign, _ | .name _, r, foreign, _ | .constant _, r, foreign, _
  | .factory _ _, r, foreign, _ => by
    simp only [Child.nodeRefs] at foreign
    exact absurd foreign not_foreign_nil
termination_by structural c => c

theorem protests_resolveEntry (scope : ScopeId) : ∀ (e : Entry) (r : Repository),
    r.Foreign e.nodeRefs → (∀ l ∈ e.takenLists, l.HoldsNodes) →
      Protests (resolveEntry location scope e) r
  | ⟨label, child⟩, r, foreign, takes => by
    rw [Entry.nodeRefs] at foreign
    rw [Entry.takenLists] at takes
    rw [resolveEntry]
    exact .bind (protests_resolveChild scope label child r foreign takes) fun _ r₁ _ => .refl r₁
termination_by structural e => e

theorem protests_resolveEntries (scope : ScopeId) : ∀ (es : List Entry) (r : Repository),
    r.Foreign (Entry.allNodeRefs es) → (∀ l ∈ Entry.allTakenLists es, l.HoldsNodes) →
      Protests (resolveEntries location scope es) r
  | [], r, foreign, _ => by
    rw [Entry.allNodeRefs] at foreign
    exact absurd foreign not_foreign_nil
  | e :: rest, r, foreign, takes => by
    rw [Entry.allNodeRefs, foreign_append] at foreign
    rw [Entry.allTakenLists, List.forall_mem_append] at takes
    rw [resolveEntries]
    rcases foreign with here | later
    · refine .bind (protests_resolveEntry scope e r here takes.1) fun e' r₁ _ => ?_
      exact extends_of_leads (.bind (leads_resolveEntries location scope rest r₁ nofun)
        fun _ _ _ _ => .pure (Q := fun _ _ => True) trivial)
    · refine .bindAfter (extends_of_leads (leads_resolveEntry location scope e r nofun))
        fun e' r₁ _ ext => ?_
      exact .bind (protests_resolveEntries scope rest r₁ (later.mono ext) takes.2)
        fun _ r₂ _ => .refl r₂
termination_by structural es => es

theorem protests_resolveChildren (scope : ScopeId) : ∀ (l : ChildList) (r : Repository),
    r.Foreign l.nodeRefs → (∀ l' ∈ l.takenLists, l'.HoldsNodes) →
      Protests (resolveChildren location scope l) r
  | ⟨entries, keyed, true⟩, r, foreign, takes => by
    rw [ChildList.nodeRefs] at foreign
    rw [ChildList.takenLists, if_pos rfl, List.forall_mem_singleton] at takes
    exact protests_resolved location foreign takes
  | ⟨entries, keyed, false⟩, r, foreign, takes => by
    rw [ChildList.nodeRefs] at foreign
    rw [ChildList.takenLists, if_neg Bool.false_ne_true] at takes
    rw [resolveChildren, if_neg Bool.false_ne_true]
    exact .bind (protests_resolveEntries scope entries r foreign takes) fun _ r₁ _ => .refl r₁
termination_by structural l => l

/-- The children of an anonymous bind are returned, its step-children recorded. -/
theorem protests_defineAnonymous (scope : ScopeId) : ∀ (d : Definition) (r : Repository),
    r.Foreign d.nodeRefs → (∀ l ∈ d.takenLists, l.HoldsNodes) →
      Protests (defineAnonymous location scope d) r
  | ⟨nodeClass, children, steps, record⟩, r, foreign, takes => by
    rw [Definition.nodeRefs, foreign_append] at foreign
    rw [Definition.takenLists, List.forall_mem_append] at takes
    rw [defineAnonymous]
    have named (cs : ChildList) (r : Repository) :
        r.Extends (r.anonymousNode scope nodeClass cs location).2 :=
      (steps_anonymousNode (p := .none) r scope nodeClass cs location).1.extends
    have body (id : NodeId) (cs : ChildList) (r : Repository) :
        r.Extends ((anonymousBind location id nodeClass cs steps record).exec r).2 :=
      .bind (.refl r) fun _ _ ran => by
        cases ran
        exact .bind (extends_resolveChildren location _ steps r) fun _ r₁ _ =>
          (logged_attach location _ _).ext
    rcases foreign with here | later
    · refine .bind (protests_resolveChildren scope children r here takes.1) fun cs r₁ _ => ?_
      exact .bind (named cs r₁) fun id r₂ _ => .bind (.recording (body id cs r₂)) fun _ r₃ _ =>
        .refl r₃
    · refine .bindAfter (extends_resolveChildren location scope children r) fun cs r₁ _ ext => ?_
      refine .bindAfter (named cs r₁) fun id r₂ _ ext' => ?_
      have own : Protests (anonymousBind location id nodeClass cs steps record) r₂ :=
        .get (.bind (protests_resolveChildren _ steps r₂ (later.mono (ext.trans ext')) takes.2)
          fun _ r₃ _ => (logged_attach location _ _).ext)
      exact .bind (.recording own (body id cs r₂)) fun _ r₃ _ => .refl r₃
termination_by structural d => d

end

/-- Only a nested definition denotes one and has references in it. -/
theorem eq_pending_of_foreign {c : Child} {d : Definition} (denoted : c.definition? = some d)
    (foreign : r.Foreign c.nodeRefs) : c = .pending d := by
  cases c with
  | pending d' => exact congrArg Child.pending (Option.some.inj denoted)
  | constant value => exact absurd foreign not_foreign_nil
  | empty | name | node | factory => cases denoted

theorem protests_tryBind (id : NodeId) {c : Child} (foreign : r.Foreign c.nodeRefs)
    (takes : c.TakesNodes) : Protests (tryBind id (.ok c) location) r := by
  rcases exec_tryBind_cases location id (.ok c) r with
    ⟨e, refused⟩ | ⟨_, d, node, ⟨⟩, denoted, here⟩
  · exact .of_error refused
  · refine .of_exec (exec_tryBind location denoted here) ?_
    obtain rfl := eq_pending_of_foreign denoted foreign
    obtain ⟨nodeClass, children, steps, record⟩ := d
    rw [Child.nodeRefs, Definition.nodeRefs, foreign_append] at foreign
    rw [Child.TakesNodes, Child.takenLists, Definition.takenLists, List.forall_mem_append] at takes
    dsimp only
    rcases foreign with first | second
    · refine .bind (protests_resolveChildren location _ children r first takes.1) fun cs r₁ _ => ?_
      exact .bind (extends_resolveChildren location _ steps r₁) fun ss r₂ _ =>
        (logged_attach location _ _).ext
    · refine .bindAfter (extends_resolveChildren location _ children r) fun cs r₁ _ ext => ?_
      exact .bind (protests_resolveChildren location _ steps r₁ (second.mono ext) takes.2)
        fun ss r₂ _ => (logged_attach location _ _).ext

theorem protests_bind (id : NodeId) {c : Child} (foreign : r.Foreign c.nodeRefs)
    (takes : c.TakesNodes) : Protests (bind id (.ok c) location) r :=
  .recording (protests_tryBind location id foreign takes)
    (extends_of_leads (leads_tryBind location id (.ok c) r (fun _ _ => nofun) nofun))

theorem protests_bindAnonymous (scope : ScopeId) {c : Child} (foreign : r.Foreign c.nodeRefs)
    (takes : c.TakesNodes) : Protests (bindAnonymous scope c location) r := by
  rw [bindAnonymous]
  cases denoted : c.definition? with
  | none => exact .of_error rfl
  | some d =>
    obtain rfl := eq_pending_of_foreign denoted foreign
    rw [Child.nodeRefs] at foreign
    rw [Child.TakesNodes, Child.takenLists] at takes
    exact protests_defineAnonymous location scope d r foreign takes

theorem protests_extendChildren (role : ChildRole) (id : NodeId) {cs : List Child}
    (foreign : r.Foreign (cs.flatMap Child.nodeRefs)) (takes : ∀ c ∈ cs, c.TakesNodes) :
    Protests (extendChildren role id cs location) r := by
  rw [extendChildren]
  refine .get ?_
  cases (r.get? id).filter (·.isBound) with
  | none => exact .of_error rfl
  | some node =>
    have protests : Protests (resolveChildren location node.scope (.positional cs)) r := by
      refine protests_resolveChildren location _ _ r ?_ fun l member => ?_
      · rwa [ChildList.nodeRefs_positional]
      · rw [ChildList.takenLists_positional, List.mem_flatMap] at member
        obtain ⟨c, inside, here⟩ := member
        exact takes c inside l here
    exact .bind protests fun l r₁ _ => extends_relink r₁ id _ l.nodeIds

end

end Repository

/-! ## 3. Factories -/

mutual

/-- Calling factories keeps the nodes that are in a child. -/
theorem Child.nodeRefs_expand (host : FactoryHost (StateM Workspace)) (calls : Nat) :
    ∀ (c : Child) (w : Workspace), c.nodeRefs ⊆ ((c.expandWithin host calls).run w).1.nodeRefs
  | .pending d, w => by
    rw [Child.expandWithin, Child.nodeRefs]
    exact Definition.nodeRefs_expand host d w
  | .node ref, w => by
    rw [Child.expandWithin]
    · exact List.Subset.refl _
    all_goals simp
  | .empty, _ | .name _, _ | .constant _, _ | .factory _ _, _ => by
    simp only [Child.nodeRefs]
    exact List.nil_subset _
termination_by structural c => c

theorem Entry.nodeRefs_expand (host : FactoryHost (StateM Workspace)) :
    ∀ (e : Entry) (w : Workspace), e.nodeRefs ⊆ ((e.expand host).run w).1.nodeRefs
  | ⟨label, child⟩, w => by
    rw [Entry.expand, Entry.nodeRefs]
    exact Child.nodeRefs_expand host callLimit child w
termination_by structural e => e

theorem Entry.allNodeRefs_expand (host : FactoryHost (StateM Workspace)) :
    ∀ (es : List Entry) (w : Workspace),
      Entry.allNodeRefs es ⊆ Entry.allNodeRefs ((Entry.expandAll host es).run w).1
  | [], _ => List.nil_subset _
  | e :: rest, w => by
    rw [Entry.expandAll, Entry.allNodeRefs]
    exact List.append_subset.mpr
      ⟨List.subset_append_of_subset_left _ (Entry.nodeRefs_expand host e w),
        List.subset_append_of_subset_right _ (Entry.allNodeRefs_expand host rest _)⟩
termination_by structural es => es

theorem ChildList.nodeRefs_expand (host : FactoryHost (StateM Workspace)) :
    ∀ (l : ChildList) (w : Workspace), l.nodeRefs ⊆ ((l.expand host).run w).1.nodeRefs
  | ⟨entries, keyed, true⟩, w => by
    rw [ChildList.expand]
    exact List.Subset.refl _
  | ⟨entries, keyed, false⟩, w => by
    rw [ChildList.expand, ChildList.nodeRefs]
    exact Entry.allNodeRefs_expand host entries w
termination_by structural l => l

theorem Definition.nodeRefs_expand (host : FactoryHost (StateM Workspace)) :
    ∀ (d : Definition) (w : Workspace), d.nodeRefs ⊆ ((d.expand host).run w).1.nodeRefs
  | ⟨nodeClass, children, steps, record⟩, w => by
    rw [Definition.expand, Definition.nodeRefs]
    exact List.append_subset.mpr
      ⟨List.subset_append_of_subset_left _ (ChildList.nodeRefs_expand host children w),
        List.subset_append_of_subset_right _ (ChildList.nodeRefs_expand host steps _)⟩
termination_by structural d => d

end

theorem nodeRefs_expandAll (host : FactoryHost (StateM Workspace)) (cs : List Child)
    (w : Workspace) :
    cs.flatMap Child.nodeRefs ⊆ ((expandAll host cs).run w).1.flatMap Child.nodeRefs := by
  induction cs generalizing w with
  | nil => exact List.nil_subset _
  | cons c cs ih =>
    exact List.append_subset.mpr
      ⟨List.subset_append_of_subset_left _ (c.nodeRefs_expand host callLimit w),
        List.subset_append_of_subset_right _ (ih _)⟩

/-! ## 4. Runs -/

open Repository

/-- An operation that is handed a node of another repository, anywhere in its arguments, fails or
records a diagnostic. -/
theorem Operation.protests {r : Repository} {op : Operation}
    (foreign : r.Foreign (op.arguments.flatMap Child.nodeRefs))
    (takes : op.Takes ChildList.HoldsNodes) : Protests op.run r := by
  have each : ∀ c ∈ op.arguments, c.TakesNodes := fun c member l inside =>
    takes l (List.mem_flatMap.mpr ⟨c, member, inside⟩)
  cases op with
  | bind id argument location =>
    cases argument with
    | error e => exact absurd foreign not_foreign_nil
    | ok c =>
      rw [Operation.arguments, List.flatMap_singleton] at foreign
      exact protests_bind location id foreign (each c List.mem_cons_self)
  | bindAnonymous scope c location =>
    rw [Operation.arguments, List.flatMap_singleton] at foreign
    exact .bind (protests_bindAnonymous location scope foreign (each c List.mem_cons_self))
      fun _ r₁ _ => .refl r₁
  | extend role id cs location => exact protests_extendChildren location role id foreign each
  | openScope | node | qualify | uniqueName | makeConstant | setOptions | addError | report | pin
    | unpin | hold | release | pushFrame | popFrame => exact absurd foreign not_foreign_nil

/-- The children handed to a call. -/
def Call.handed : Call → List Child
  | operation _ op => op.arguments
  | bind _ (.ok c) _ => [c]
  | bindIn _ (.ok c) _ => [c]
  | extend _ _ children _ => children
  | _ => []

/-- What a call asks with holds the nodes that are handed to it, and those that its factories give. -/
theorem Call.nodeRefs_own {call : Call} {w : Workspace} {op : Operation}
    (planted : ∀ id ∈ call.homes, (w.tree? id).isSome)
    (asks : call.operation? (call.prepared w).1.1 = some op) :
    (call.handed ++ (call.prepared w).1.1).flatMap Child.nodeRefs ⊆
      op.arguments.flatMap Child.nodeRefs := by
  obtain ⟨expanded, _, _⟩ := Call.prepared_spec planted
  have kept := nodeRefs_expandAll factoryHost call.given w
  rw [expanded] at asks ⊢
  rw [List.flatMap_append, List.append_subset]
  cases call with
  | operation id op =>
    cases asks
    exact ⟨List.Subset.refl _, List.nil_subset _⟩
  | bind h argument location =>
    cases argument with
    | error e =>
      cases asks
      exact ⟨List.nil_subset _, List.nil_subset _⟩
    | ok c =>
      cases asks
      exact ⟨kept, List.Subset.refl _⟩
  | bindIn s argument location =>
    cases argument with
    | error e => cases asks
    | ok c =>
      rw [Call.operation?] at asks
      cases node : c.node? with
      | some ref => simp [node] at asks
      | none =>
        have given : (Call.bindIn s (.ok c) location).given = [c] := by simp [Call.given, node]
        rw [given] at asks kept ⊢
        rw [node] at asks
        cases asks
        exact ⟨kept, List.Subset.refl _⟩
  | extend h role children location =>
    cases asks
    exact ⟨kept, List.Subset.refl _⟩
  | search s criteria location => cases asks

/-- The lists handed in that count as resolved hold nodes and empty places only. -/
def Event.TakesNodes (e : Event) : Prop :=
  ∀ op, e.request = .operation op → op.Takes ChildList.HoldsNodes

/-- The nodes among the children and step-children of bound nodes, at any depth, are of this
repository. -/
def Repository.HoldsOwn (r : Repository) : Prop :=
  ∀ id b, r.bindingOf? id = some b →
    ∀ ref ∈ b.children.nodeRefs ++ b.steps.nodeRefs, ref.repository = r.id

/-- What a run stores are nodes and empty places, and the nodes are its own. -/
theorem Repository.Runs.holdsOwn {id : RepositoryId} {options : Options} {log : List Event}
    {r : Repository} (run : (start id options).Runs log r) (takes : ∀ e ∈ log, e.TakesNodes) :
    r.HoldsOwn := by
  have led : LeadsTo (fun _ op => op.Takes ChildList.HoldsNodes) (start id options) r :=
    run.leadsTo.mono fun r op member => takes _ member op rfl
  have stores : Stores Child.IsResolved r :=
    led.stores (fun _ resolved => resolved) (fun _ _ takes => takes) (orderly_start id options).cached
      (stores_start id options)
  have fits : r.ChildrenFit .none :=
    (led.changes fun r op _ => Promise.allows_none r op).fits (Sound.start id options).fits
  intro node b bound ref member
  have refs (l : ChildList) : l.nodeRefs = l.members.flatMap Child.nodeRefs := by
    obtain ⟨entries, keyed, resolved⟩ := l
    exact Entry.allNodeRefs_eq entries
  rw [refs, refs, ← List.flatMap_append, List.mem_flatMap] at member
  obtain ⟨c, stored, inside⟩ := member
  obtain rfl := Child.eq_node_of_isResolved (stores node b bound c stored) inside
  exact (fits bound ref stored).1

/-- A call that has nothing to ask, and is handed a node of another repository, was to adopt it. -/
theorem Call.quiet_fails {call : Call} {w : Workspace}
    (quiet : call.operation? (call.prepared w).1.1 = none)
    (foreign : ∃ ref ∈ (call.handed ++ (call.prepared w).1.1).flatMap Child.nodeRefs,
      ref.repository ≠ call.home) : ∃ e, (call.run.run.run w).1 = .error e := by
  obtain ⟨ref, member, other⟩ := foreign
  cases call with
  | operation | bind | extend => cases quiet
  | search s criteria location => exact absurd member List.not_mem_nil
  | bindIn s argument location =>
    cases argument with
    | error e => exact absurd member List.not_mem_nil
    | ok c =>
      rw [Call.operation?] at quiet
      cases c with
      | node ref' =>
        obtain rfl : ref = ref' := List.mem_singleton.mp member
        have refused : (exec (adoptNode ref location) (w.repository s.repository)).1 =
            .error (.diagnostic (.unbindable anonymousName foreignKind location)) := by
          have distinct : ref.repository ≠ (w.repository s.repository).id := by
            rwa [Workspace.id_repository]
          rw [adoptNode, exec_bind_of_ok (exec_get _), if_pos (bne_iff_ne.mpr distinct)]
          rfl
        have ran := (Call.run_adopt s (c := .node ref) rfl location w).1
        rw [refused] at ran
        exact ⟨_, error_of_map ran⟩
      | empty | name | constant | pending | factory => cases quiet

theorem Call.protests {call : Call} {w : Workspace}
    (planted : ∀ id ∈ call.homes, (w.tree? id).isSome)
    (takes : ∀ e ∈ call.journal w, e.TakesNodes)
    (foreign : ∃ ref ∈ (call.handed ++ (call.prepared w).1.1).flatMap Child.nodeRefs,
      ref.repository ≠ call.home) :
    (∃ e, (call.run.run.run w).1 = .error e) ∨
      (w.repository call.home).errors.length <
        ((call.run.run.run w).2.repository call.home).errors.length := by
  cases own : call.own? w with
  | none => exact .inl (Call.quiet_fails (Option.map_eq_none_iff.mp own) foreign)
  | some e =>
    obtain ⟨_, outcome, _⟩ := Call.own_spec planted own
    obtain ⟨home, after⟩ := Call.own_home planted own
    have member : e ∈ call.journal w := by simp [Call.journal, own]
    obtain ⟨op, asks, rfl⟩ := Option.map_eq_some_iff.mp own
    obtain ⟨ref, inside, other⟩ := foreign
    rcases Operation.protests ⟨ref, Call.nodeRefs_own planted asks inside, home ▸ other⟩
      (takes _ member op rfl) with ⟨f, failed⟩ | longer
    · exact .inl ⟨f, error_of_map (outcome.trans failed)⟩
    · -- Factories have only added diagnostics before.
      obtain ⟨_, _, run⟩ := Call.prepared_spec planted
      have follows := run.follows (planted call.home call.home_mem)
      rw [after]
      exact .inr (Nat.lt_of_le_of_lt follows.run.continues.errors.length_le longer)

/-- Repositories are isolated. As long as the lists handed in that count as resolved hold nodes and
empty places only, no bound node has a node of another repository among its children or
step-children; and a call that is handed one, at any depth, or whose factories give one, fails or
has a diagnostic recorded. -/
theorem isolated {w : Workspace} {log : List Event} (run : Workspace.Runs {} log w)
    (takes : ∀ e ∈ log, e.TakesNodes) :
    (∀ id, (w.tree? id).isSome → (w.repository id).HoldsOwn) ∧
      ∀ call : Call, (∀ id ∈ call.homes, (w.tree? id).isSome) →
        (∀ e ∈ call.journal w, e.TakesNodes) →
          (∃ ref ∈ (call.handed ++ (call.prepared w).1.1).flatMap Child.nodeRefs,
            ref.repository ≠ call.home) →
            (∃ e, (call.run.run.run w).1 = .error e) ∨
              (w.repository call.home).errors.length <
                ((call.run.run.run w).2.repository call.home).errors.length := by
  refine ⟨fun id planted => ?_, fun call planted takes foreign =>
    Call.protests planted takes foreign⟩
  obtain ⟨options, follows⟩ := run.begun rfl planted
  exact follows.run.holdsOwn fun e member => takes e (List.mem_filter.mp member).1

/-- Two repositories with a node each, which have the same number. -/
def neighbours : Workspace :=
  ((({} : Workspace).plant {}).2.plant {}).2

def nameIn (id : RepositoryId) : Call :=
  .operation id (.node .root "a" default)

/-- A list that counts as resolved, read in the first repository. -/
def borrowed : ChildList :=
  ⟨[⟨.index 0, .node ⟨⟨0⟩, ⟨0⟩⟩⟩], false, true⟩

/-- In the second repository, the list is handed in inside a nested definition. -/
def bindBorrowed : Call :=
  .bind ⟨⟨⟨1⟩, ⟨0⟩⟩, "a", "a", .empty, .root⟩
    (.ok (.pending (.ofParts (.standard "Add")
      (.positional [.pending (.ofParts (.standard "Negate") borrowed .nil [])]) .nil []))) default

theorem isolated_bindBorrowed :
    ∃ log w, Workspace.Runs {} log w ∧ (∀ e ∈ log, e.TakesNodes) ∧
      (∀ e ∈ bindBorrowed.journal w, e.TakesNodes) ∧ (w.repository ⟨1⟩).HoldsOwn ∧
      (w.repository ⟨1⟩).isLive ⟨0⟩ ∧
      ((∃ e, (bindBorrowed.run.run.run w).1 = .error e) ∨
        (w.repository ⟨1⟩).errors.length <
          ((bindBorrowed.run.run.run w).2.repository ⟨1⟩).errors.length) := by
  let w₁ := ((nameIn ⟨0⟩).run.run.run neighbours).2
  let w₂ := ((nameIn ⟨1⟩).run.run.run w₁).2
  have first : neighbours.Runs ((nameIn ⟨0⟩).journal neighbours) w₁ := Call.runs (by decide +kernel)
  have second : w₁.Runs ((nameIn ⟨1⟩).journal w₁) w₂ := Call.runs (by decide +kernel)
  have run := (((Workspace.Runs.refl {}).plant {}).plant {}).trans (first.trans second)
  have nothing (r : Repository) : Event.TakesNodes ⟨.operation (.node .root "a" default), r⟩ := by
    rintro op ⟨⟩
    exact Operation.takes_of_nil rfl
  have takes : ∀ e ∈ (nameIn ⟨0⟩).journal neighbours ++ (nameIn ⟨1⟩).journal w₁, e.TakesNodes :=
    List.forall_mem_cons.mpr ⟨nothing _, List.forall_mem_singleton.mpr (nothing _)⟩
  have takes' : ∀ e ∈ bindBorrowed.journal w₂, e.TakesNodes := by
    refine List.forall_mem_singleton.mpr ?_
    rintro op ⟨⟩
    change ∀ l ∈ [borrowed], ∀ c ∈ l.members, c.IsResolved
    decide
  obtain ⟨own, protests⟩ := isolated run takes
  refine ⟨_, w₂, run, takes, takes', own ⟨1⟩ (by decide +kernel), by decide +kernel, ?_⟩
  refine protests bindBorrowed (by decide +kernel) takes' ⟨⟨⟨0⟩, ⟨0⟩⟩, ?_, by decide⟩
  change _ ∈ ([⟨⟨0⟩, ⟨0⟩⟩, ⟨⟨0⟩, ⟨0⟩⟩] : List NodeRef)
  decide

end NodeForest

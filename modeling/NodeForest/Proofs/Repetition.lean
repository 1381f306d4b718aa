import NodeForest.Proofs.Change
import NodeForest.Proofs.Represents

/-!
# Binding again

A bind that records no diagnostic has made or found a node for everything in its argument. The same
bind finds all of it, wherever it is called from, and changes nothing: names and constants still
have their nodes, and a generated name is the same as long as the children it is put together from
are. That leaves out nested definitions without children, whose names are counted, and references in
lists that count as resolved to numbers that are not given yet, whose nodes come later.

Results:
1. `Definition.Branching`: every nested definition has children.
2. `Lasts`: an action that gives a value and changes nothing, from some state on.
3. `lasts_anonymousNode`: the node under a generated name.
4. `lasts_resolveChildren`, `lasts_defineAnonymous`: the recursion.
5. `bind_again`: a repeated bind, named or anonymous; `not_bind_again_lateChild`: what references to
   later nodes do to it.
-/

namespace NodeForest

open Relation NodeForest.Action

/-! ## 1. Nested definitions with children -/

mutual

/-- A nested definition has children, and so have those in it. -/
def Child.Branching : Child → Prop
  | .pending d => d.children.isEmpty = false ∧ d.Branching
  | _ => True
termination_by structural c => c

def Entry.Branching : Entry → Prop
  | ⟨_, child⟩ => child.Branching
termination_by structural e => e

def Entry.AllBranching : List Entry → Prop
  | [] => True
  | e :: rest => e.Branching ∧ Entry.AllBranching rest
termination_by structural es => es

def ChildList.Branching : ChildList → Prop
  | ⟨entries, _, _⟩ => Entry.AllBranching entries
termination_by structural l => l

/-- All definitions among the children and step-children have children, at every depth. -/
def Definition.Branching : Definition → Prop
  | ⟨_, children, steps, _⟩ => children.Branching ∧ steps.Branching
termination_by structural d => d

end

namespace Repository

variable {p : Promise} {r r' r'' : Repository}

/-! ## 2. What lasts -/

theorem Steps.names (h : Steps p r r') (names : r.DistinctNames) : r'.DistinctNames :=
  Changes.names (Steps.changes h) names

/-- A node is found under its name from then on. -/
theorem Steps.lookup? (h : Steps p r r') (names : r.DistinctNames) {id : NodeId} {n : Node}
    (here : r.get? id = some n) : r'.lookup? n.name = some id := by
  obtain ⟨n', here', grows⟩ := h.grows here
  rw [← grows.name]
  exact lookup?_of_get? (h.names names) here'

/-- What a node does not lose stays the same, and a number without a node stays without one. -/
theorem Steps.map_get? {β : Type} (h : Steps p r r') {id : NodeId} (given : id.index < r.nodes.size)
    (f : Node → β) (keeps : ∀ {n n'}, n.Grows p.kept n' → f n' = f n) :
    (r'.get? id).map f = (r.get? id).map f := by
  cases here : r.get? id with
  | none => rw [h.gone given here]
  | some n =>
    obtain ⟨n', here', grows⟩ := h.grows here
    rw [here', Option.map_some, Option.map_some, keeps grows]

theorem Steps.scopeOf (h : Steps p r r') {id : NodeId} (live : r.isLive id) :
    r'.scopeOf id = r.scopeOf id := by
  rw [Repository.scopeOf, h.map_get? (lt_of_isLive live) (·.scope) (·.scope), Repository.scopeOf]

theorem Step.scopeName? (h : Step p r r') (lists : p.lists) (scope : ScopeId) :
    r'.scopeName? scope = r.scopeName? scope := by
  cases h with
  | @attach id _ b =>
    obtain ⟨_, _, _, _, same⟩ := attached_eq r id b.className b b.childIds
    rw [same]
    rfl
  | extend | setFields =>
    rw [relink_eq]
    rfl
  | share =>
    rw [withConstant_eq]
    rfl
  | @count s scope' name here =>
    simp only [Repository.scopeName?, Array.getElem?_setIfInBounds]
    split
    · rename_i same
      rw [← same, here]
      split <;> simp_all [Scope.counted]
    · rfl
  | openScope _ open' => exact absurd lists open'
  | register | note | keep => rfl

theorem Steps.scopeName? (h : Steps p r r') (lists : p.lists) (scope : ScopeId) :
    r'.scopeName? scope = r.scopeName? scope := by
  induction h with
  | refl => rfl
  | tail _ last ih => exact (last.scopeName? lists scope).trans ih

/-- A constant keeps its node. -/
theorem Step.shared (h : Step p r r') {key : Constant} {id : NodeId}
    (known : (OrderedMap.get? r.constants key).filter r.isLive = some id) :
    (OrderedMap.get? r'.constants key).filter r'.isLive = some id := by
  obtain ⟨cached, live⟩ := Option.filter_eq_some_iff.mp known
  refine Option.filter_eq_some_iff.mpr ⟨?_, Steps.isLive (.single h) live⟩
  cases h with
  | @attach target _ b =>
    obtain ⟨_, _, _, _, same⟩ := attached_eq r target b.className b b.childIds
    rw [same]
    exact cached
  | extend | setFields =>
    rw [relink_eq]
    exact cached
  | share value location unknown =>
    -- The node of `key` is live, so no other is made for it.
    have other : key ≠ value.key := by
      rintro rfl
      rw [known] at unknown
      cases unknown
    change OrderedMap.get? (OrderedMap.insert r.constants value.key ⟨r.nodes.size⟩) key = _
    rw [OrderedMap.get?_insert, if_neg (by simpa using other), cached]
  | register | note | count | openScope | keep => exact cached

theorem Steps.shared (h : Steps p r r') {key : Constant} {id : NodeId}
    (known : (OrderedMap.get? r.constants key).filter r.isLive = some id) :
    (OrderedMap.get? r'.constants key).filter r'.isLive = some id := by
  induction h with
  | refl => exact known
  | tail _ last ih => exact last.shared ih

/-- From `r` on, the action gives `y` and changes nothing, whatever steps are taken before it. -/
def Lasts {α : Type} (r : Repository) (a : Action α) (y : α) : Prop :=
  ∀ r', Steps .strict r r' → exec a r' = (.ok y, r')

namespace Lasts

variable {α β : Type} {a : Action α} {y : α}

theorem mono (h : Lasts r a y) (steps : Steps .strict r r') : Lasts r' a y :=
  fun r'' more => h r'' (steps.trans more)

theorem pure (r : Repository) (y : α) : Lasts r (Pure.pure y) y :=
  fun _ _ => rfl

theorem bind {f : α → Action β} {z : β} (h : Lasts r a y) (next : Lasts r (f y) z) :
    Lasts r (a >>= f) z := fun r' steps => by
  rw [exec_bind_of_ok (h r' steps)]
  exact next r' steps

/-- What an action reads is the same from then on, as far as it matters. -/
theorem get {f : Repository → Action α} (alike : ∀ r', Steps .strict r r' → f r' = a)
    (next : Lasts r a y) : Lasts r (MonadState.get >>= f) y := fun r' steps => by
  rw [exec_bind_of_ok (exec_get r'), alike r' steps]
  exact next r' steps

theorem recording {a : Action Unit} (h : Lasts r a ()) : Lasts r (Repository.recording a) () :=
  fun r' steps => exec_recording_of_ok (h r' steps)

end Lasts

/-- The child that stands for a node is the same from then on. -/
theorem lasts_child (r : Repository) (id : NodeId) :
    Lasts r (do return (← get).child id) (r.child id) := by
  refine .get (fun r' steps => ?_) (.pure r _)
  rw [child_of_extends (Steps.extends steps)]

section

variable (location' : Location)

/-- From then on the constant has the node that it was given. -/
theorem shared_makeConstant {value : Constant} {location : Location} {id : NodeId}
    (ran : (makeConstant value location).exec r = (.ok id, r')) :
    (OrderedMap.get? r'.constants value.key).filter r'.isLive = some id := by
  cases before : (OrderedMap.get? r.constants value.key).filter r.isLive with
  | some found =>
    rw [exec_makeConstant_known location before] at ran
    cases ran
    exact before
  | none =>
    rw [exec_makeConstant_new location before] at ran
    cases ran
    have cached : OrderedMap.get? (r.withConstant value location).constants value.key =
        some ⟨r.nodes.size⟩ := by
      change OrderedMap.get? (OrderedMap.insert r.constants value.key _) value.key = _
      rw [OrderedMap.get?_insert, if_pos (by simp)]
    refine Option.filter_eq_some_iff.mpr ⟨cached, ?_⟩
    rw [isLive, get?_withConstant, if_pos rfl]
    rfl

theorem lasts_makeConstant {value : Constant} {location : Location} {id : NodeId}
    (ran : (makeConstant value location).exec r = (.ok id, r')) :
    Lasts r' (makeConstant value location') id :=
  fun _ steps => exec_makeConstant_known location' (steps.shared (shared_makeConstant ran))

/-- An attachment that succeeds has made the node's definition what was attached, or found it to be
that. -/
theorem sameBinding_of_attach {id : NodeId} {d : Definition} {location : Location}
    (live : r.isLive id) (record : Record.WellFormed d.record) (children : d.children.WellFormed)
    (steps : d.steps.WellFormed) (ran : (attach id d location).exec r = (.ok (), r')) :
    ∃ b, r'.bindingOf? id = some b ∧ sameBinding b d.children d.steps d.record := by
  obtain ⟨n, here⟩ := isLive_iff.mp live
  cases binding : n.binding with
  | some b =>
    rw [exec_attach_bound d location here binding] at ran
    split at ran
    · rename_i same
      cases ran
      exact ⟨b, by rw [bindingOf?_of_get? here, binding], same⟩
    · cases ran
  | none =>
    rw [exec_attach_unbound d location here binding] at ran
    cases ran
    refine ⟨_, by rw [bindingOf?_noteClass, bindingOf?_relink, if_pos rfl, here]; rfl, ?_⟩
    simp [sameBinding, newBinding, Record.equal_self record, ChildList.equal_self _ children,
      ChildList.equal_self _ steps]

/-- What was attached is there, and is what would be attached again. -/
theorem lasts_attach {id : NodeId} {d : Definition} {location : Location} (live : r.isLive id)
    (record : Record.WellFormed d.record) (children : d.children.WellFormed)
    (steps : d.steps.WellFormed) (ran : (attach id d location).exec r = (.ok (), r')) :
    Lasts r' (attach id d location') () := by
  obtain ⟨b, bound, same⟩ := sameBinding_of_attach live record children steps ran
  intro r'' more
  obtain ⟨b', bound', grows⟩ := Steps.binding more bound
  obtain ⟨n', here', binding'⟩ := Option.bind_eq_some_iff.mp bound'
  have again : sameBinding b' d.children d.steps d.record := by
    rw [sameBinding, grows.record trivial, (grows.lists trivial).1, (grows.lists trivial).2]
    exact same
  rw [exec_attach_bound d location' here' binding', if_pos again]

/-! ## 3. Generated names -/

theorem childBasenames_eq_map (r : Repository) (cs : ChildList) :
    r.childBasenames cs = (cs.entries.map (·.child.nodeId?)).map fun id? =>
      ((id?.bind r.get?).map (·.basename)).getD "" := by
  rw [childBasenames, List.map_map]
  refine List.map_congr_left fun e _ => ?_
  rw [Function.comp]
  cases e.child.nodeId?.bind r.get? <;> rfl

theorem mergedQuals_eq_foldl (r : Repository) (cs : ChildList) :
    r.mergedQuals cs = (cs.entries.map (·.child.nodeId?)).foldl (fun quals id? =>
      ((id?.bind r.get?).map fun n => quals.merged n.quals .merge).getD quals) .empty := by
  rw [mergedQuals, List.foldl_map]
  refine List.foldl_ext _ _ _ fun quals e _ => ?_
  cases e.child.nodeId?.bind r.get? <;> rfl

/-- The children have the same basenames and qualifiers, also where a number has no node. -/
def SameHeads (r r' : Repository) (cs : ChildList) : Prop :=
  ∀ e ∈ cs.entries, (e.child.nodeId?.bind r'.get?).map (fun n => (n.basename, n.quals)) =
    (e.child.nodeId?.bind r.get?).map fun n => (n.basename, n.quals)

theorem Steps.heads (h : Steps .strict r r') {cs : ChildList}
    (fits : Promise.strict.Fits r cs.members) : SameHeads r r' cs := by
  intro e member
  cases node : e.child.nodeId? with
  | none => rfl
  | some id =>
    obtain ⟨ref, here, rfl⟩ := Option.map_eq_some_iff.mp node
    have inside : Child.node ref ∈ cs.members := by
      refine List.mem_map.mpr ⟨e, member, ?_⟩
      cases child : e.child <;> simp [child, Child.node?] at here
      rw [here]
    -- Without its number being given, a node might come later and change the name.
    exact h.map_get? ((fits ref inside).2 trivial) _ fun grows => by
      rw [grows.basename, grows.quals]

theorem SameHeads.childBasenames {cs : ChildList} (h : SameHeads r r' cs) :
    r'.childBasenames cs = r.childBasenames cs := by
  refine List.map_congr_left fun e member => ?_
  have heads := h e member
  cases here : e.child.nodeId?.bind r.get? <;> cases here' : e.child.nodeId?.bind r'.get? <;>
    simp_all

theorem SameHeads.mergedQuals {cs : ChildList} (h : SameHeads r r' cs) :
    r'.mergedQuals cs = r.mergedQuals cs := by
  refine List.foldl_ext _ _ _ fun quals e member => ?_
  have heads := h e member
  cases here : e.child.nodeId?.bind r.get? <;> cases here' : e.child.nodeId?.bind r'.get? <;>
    simp_all

/-- The node that an anonymous definition with children got is found under its name again. -/
theorem lasts_anonymousNode (names : r.DistinctNames) {scope : ScopeId} {nodeClass : NodeClass}
    {cs : ChildList} {location : Location} {id : NodeId} (filled : cs.isEmpty = false)
    (fits : Promise.strict.Fits r cs.members)
    (taken : r.anonymousNode scope nodeClass cs location = (id, r')) :
    Lasts r' (modifyGet fun r => r.anonymousNode scope nodeClass cs location') id := by
  intro r'' more
  have first : Steps .strict r r' := by
    have := (steps_anonymousNode (p := .strict) r scope nodeClass cs location).1
    rwa [taken] at this
  have all := first.trans more
  have again : r''.anonymousNode scope nodeClass cs location' = (id, r'') := by
    rw [anonymousNode, if_neg (by simp [filled])] at taken ⊢
    dsimp only at taken ⊢
    obtain ⟨n, here, named⟩ := named_getOrCreate taken
    have found := Steps.lookup? more (Steps.names first names) here
    have prefixed (name : String) : r''.scopedName scope name = r.scopedName scope name := by
      rw [scopedName, Steps.scopeName? all trivial, scopedName]
    have heads := Steps.heads all fits
    rw [heads.childBasenames, heads.mergedQuals, prefixed, qualify, getOrCreate, ← named, found]
  rw [exec_modifyGet, again]

/-! ## 4. The recursion -/

theorem wellFormed_resolveChild {scope : ScopeId} {label : Label} {c c' : Child}
    {location : Location} (ran : (resolveChild location scope label c).exec r = (.ok c', r')) :
    c'.WellFormed := by
  cases c with
  | empty =>
    rw [resolveChild] at ran
    cases ran
    trivial
  | node ref =>
    rw [exec_resolveChild_node] at ran
    split at ran
    · split at ran <;> cases ran
      trivial
    · cases ran
  | name name =>
    rw [exec_resolveChild_name] at ran
    cases found : r.lookupBound? name <;> rw [found] at ran <;> cases ran
    trivial
  | constant value =>
    rw [resolveChild] at ran
    obtain ⟨id, r₁, _, given⟩ := exec_bind_ok.mp ran
    rw [exec_bind_of_ok (exec_get r₁)] at given
    cases given
    trivial
  | pending d =>
    rw [resolveChild] at ran
    obtain ⟨id, r₁, _, given⟩ := exec_bind_ok.mp ran
    rw [exec_bind_of_ok (exec_get r₁)] at given
    cases given
    trivial
  | factory =>
    rw [resolveChild] at ran
    cases ran

theorem wellFormed_resolveEntries {scope : ScopeId} {location : Location} :
    ∀ {es es' : List Entry} {r r' : Repository},
      (resolveEntries location scope es).exec r = (.ok es', r') →
        Entry.AllWellFormed es'
  | [], es', r, r', ran => by
    rw [resolveEntries] at ran
    cases ran
    exact trivial
  | ⟨label, c⟩ :: rest, es', r, r', ran => by
    rw [resolveEntries] at ran
    obtain ⟨e, r₁, head, ran⟩ := exec_bind_ok.mp ran
    obtain ⟨rest', r₂, tail, ran⟩ := exec_bind_ok.mp ran
    cases ran
    rw [resolveEntry] at head
    obtain ⟨c', r₃, resolved, head⟩ := exec_bind_ok.mp head
    cases head
    exact ⟨wellFormed_resolveChild resolved, wellFormed_resolveEntries tail⟩

/-- Resolved children are well-formed. -/
theorem wellFormed_resolveChildren {scope : ScopeId} {location : Location} {l l' : ChildList}
    (wellFormed : l.WellFormed)
    (ran : (resolveChildren location scope l).exec r = (.ok l', r')) : l'.WellFormed := by
  obtain ⟨entries, keyed, resolved⟩ := l
  cases resolved with
  | true =>
    rw [exec_resolveChildren_resolved] at ran
    cases own : r.findForeign? entries <;> rw [own] at ran <;> cases ran
    exact wellFormed
  | false =>
    rw [resolveChildren, if_neg Bool.false_ne_true] at ran
    obtain ⟨es, r₁, inside, given⟩ := exec_bind_ok.mp ran
    cases given
    exact wellFormed_resolveEntries inside

/-- The step-children of a bound node have their nodes again, and what was attached is there. -/
theorem lasts_bindRest {scope : ScopeId} {location : Location} {id : NodeId} (live : r.isLive id)
    {d : Definition} (wellFormed : d.WellFormed) {cs : ChildList} (children : cs.WellFormed)
    (fits : Promise.strict.Fits r cs.members) (given : Allocates .strict r d.steps.takenRefs)
    (again : ∀ {r₁ ss}, (resolveChildren location scope d.steps).exec r = (.ok ss, r₁) →
      r₁.errors = r.errors → Lasts r₁ (resolveChildren location' scope d.steps) ss)
    (ran : (bindRest location scope id d cs).exec r = (.ok (), r'))
    (quiet : r'.errors = r.errors) : Lasts r' (bindRest location' scope id d cs) () := by
  obtain ⟨ss, r₁, resolved, attached⟩ := exec_bind_ok.mp ran
  have leads := leads_resolveChildren location scope d.steps r given
  have first : Steps .strict r r₁ := leads.steps resolved
  have second : Steps .strict r₁ r' :=
    (leads_attach (d := { d with children := cs, steps := ss })
      ((fits.mono first.extends).append (leads.value resolved)) fun _ =>
        wellFormed.classKey).steps attached
  have quiet₁ := (first.extends.quiet second.extends quiet).1
  have record : Record.WellFormed d.record := by
    obtain ⟨_, _, _, _⟩ := d
    rw [Definition.WellFormed] at wellFormed
    exact wellFormed.2.1
  exact ((again resolved quiet₁).mono second).bind (lasts_attach location' (first.isLive live)
    record children (wellFormed_resolveChildren wellFormed.steps resolved) attached)

mutual

theorem lasts_resolveChild (location : Location) (scope : ScopeId) (label : Label) :
    ∀ (c : Child) {r r' : Repository} {c' : Child}, r.DistinctNames →
      Allocates .strict r c.takenRefs → c.WellFormed → c.Branching →
        (resolveChild location scope label c).exec r = (.ok c', r') → r'.errors = r.errors →
          Lasts r' (resolveChild location' scope label c) c'
  | .empty, r, r', c', _, _, _, _, ran, _ => by
    rw [resolveChild] at ran ⊢
    cases ran
    exact .pure r _
  | .node ref, r, r', c', _, _, _, _, ran, _ => by
    rw [exec_resolveChild_node] at ran
    split at ran
    · rename_i own
      split at ran
      · rename_i live
        cases ran
        intro r'' steps
        rw [exec_resolveChild_node, if_pos (own.trans (Steps.extends steps).id.symm),
          if_pos (steps.isLive live)]
      · cases ran
    · cases ran
  | .name name, r, r', c', names, _, _, _, ran, _ => by
    rw [exec_resolveChild_name] at ran
    cases found : r.lookupBound? name with
    | none =>
      rw [found] at ran
      cases ran
    | some id =>
      rw [found] at ran
      cases ran
      intro r'' steps
      obtain ⟨here, bound⟩ := Option.filter_eq_some_iff.mp found
      obtain ⟨n, live, rfl⟩ := lookup?_eq_some here
      have again : r''.lookupBound? n.name = some id :=
        Option.filter_eq_some_iff.mpr ⟨steps.lookup? names live, steps.isBound bound⟩
      rw [exec_resolveChild_name, again, ← child_of_extends (Steps.extends steps)]
  | .constant value, r, r', c', _, _, _, _, ran, _ => by
    rw [resolveChild] at ran ⊢
    obtain ⟨id, r₁, made, given⟩ := exec_bind_ok.mp ran
    rw [exec_bind_of_ok (exec_get r₁)] at given
    cases given
    exact (lasts_makeConstant location' made).bind (lasts_child r' id)
  | .pending d, r, r', c', names, allocates, wellFormed, branching, ran, quiet => by
    rw [resolveChild] at ran ⊢
    obtain ⟨id, r₁, made, given⟩ := exec_bind_ok.mp ran
    rw [exec_bind_of_ok (exec_get r₁)] at given
    cases given
    rw [Child.takenRefs] at allocates
    rw [Child.WellFormed] at wellFormed
    rw [Child.Branching] at branching
    exact (lasts_defineAnonymous location scope d names allocates wellFormed branching.1 branching.2
      made quiet).bind (lasts_child r' id)
  | .factory _ _, r, r', c', _, _, _, _, ran, _ => by
    rw [resolveChild] at ran
    cases ran
termination_by structural c => c

theorem lasts_resolveEntry (location : Location) (scope : ScopeId) :
    ∀ (e : Entry) {r r' : Repository} {e' : Entry}, r.DistinctNames →
      Allocates .strict r e.takenRefs → e.WellFormed → e.Branching →
        (resolveEntry location scope e).exec r = (.ok e', r') → r'.errors = r.errors →
          Lasts r' (resolveEntry location' scope e) e'
  | ⟨label, c⟩, r, r', e', names, allocates, wellFormed, branching, ran, quiet => by
    rw [resolveEntry] at ran ⊢
    obtain ⟨c', r₁, resolved, given⟩ := exec_bind_ok.mp ran
    cases given
    rw [Entry.takenRefs] at allocates
    rw [Entry.WellFormed] at wellFormed
    rw [Entry.Branching] at branching
    exact (lasts_resolveChild location scope label c names allocates wellFormed branching resolved
      quiet).bind (.pure r' _)
termination_by structural e => e

theorem lasts_resolveEntries (location : Location) (scope : ScopeId) :
    ∀ (es : List Entry) {r r' : Repository} {es' : List Entry}, r.DistinctNames →
      Allocates .strict r (Entry.allTakenRefs es) → Entry.AllWellFormed es →
        Entry.AllBranching es → (resolveEntries location scope es).exec r = (.ok es', r') →
          r'.errors = r.errors → Lasts r' (resolveEntries location' scope es) es'
  | [], r, r', es', _, _, _, _, ran, _ => by
    rw [resolveEntries] at ran ⊢
    cases ran
    exact .pure r _
  | e :: rest, r, r', es', names, allocates, wellFormed, branching, ran, quiet => by
    rw [resolveEntries] at ran ⊢
    obtain ⟨e', r₁, head, ran⟩ := exec_bind_ok.mp ran
    obtain ⟨rest', r₂, tail, ran⟩ := exec_bind_ok.mp ran
    cases ran
    rw [Entry.allTakenRefs] at allocates
    rw [Entry.AllWellFormed] at wellFormed
    rw [Entry.AllBranching] at branching
    have first : Steps .strict r r₁ :=
      (leads_resolveEntry location scope e r allocates.left).steps head
    have later := allocates.right.mono first.extends
    have second : Steps .strict r₁ r' :=
      (leads_resolveEntries location scope rest r₁ later).steps tail
    obtain ⟨quiet₁, quiet₂⟩ := first.extends.quiet second.extends quiet
    refine .bind ?_ (.bind ?_ (.pure r' _))
    · exact (lasts_resolveEntry location scope e names allocates.left wellFormed.1 branching.1 head
        quiet₁).mono second
    · exact lasts_resolveEntries location scope rest (first.names names) later wellFormed.2
        branching.2 tail quiet₂
termination_by structural es => es

theorem lasts_resolveChildren (location : Location) (scope : ScopeId) :
    ∀ (l : ChildList) {r r' : Repository} {l' : ChildList}, r.DistinctNames →
      Allocates .strict r l.takenRefs → l.WellFormed → l.Branching →
        (resolveChildren location scope l).exec r = (.ok l', r') → r'.errors = r.errors →
          Lasts r' (resolveChildren location' scope l) l'
  | ⟨entries, keyed, true⟩, r, r', l', _, _, _, _, ran, _ => by
    rw [exec_resolveChildren_resolved] at ran
    cases own : r.findForeign? entries with
    | some e =>
      rw [own] at ran
      cases ran
    | none =>
      rw [own] at ran
      cases ran
      intro r'' steps
      have still : r''.findForeign? entries = none := by
        rw [findForeign?, (Steps.extends steps).id]
        exact own
      rw [exec_resolveChildren_resolved, still]
  | ⟨entries, keyed, false⟩, r, r', l', names, allocates, wellFormed, branching, ran, quiet => by
    rw [resolveChildren, if_neg Bool.false_ne_true] at ran ⊢
    obtain ⟨es, r₁, resolved, given⟩ := exec_bind_ok.mp ran
    cases given
    rw [ChildList.takenRefs] at allocates
    rw [ChildList.WellFormed] at wellFormed
    rw [ChildList.Branching] at branching
    exact (lasts_resolveEntries location scope entries names allocates wellFormed branching resolved
      quiet).bind (.pure r' _)
termination_by structural l => l

/-- An anonymous bind that recorded nothing gives the same node again, and changes nothing. -/
theorem lasts_defineAnonymous (location : Location) (scope : ScopeId) :
    ∀ (d : Definition) {r r' : Repository} {id : NodeId}, r.DistinctNames →
      Allocates .strict r d.takenRefs → d.WellFormed → d.children.isEmpty = false → d.Branching →
        (defineAnonymous location scope d).exec r = (.ok id, r') → r'.errors = r.errors →
          Lasts r' (defineAnonymous location' scope d) id
  | ⟨nodeClass, children, steps, record⟩, r, r', id, names, allocates, wellFormed, filled,
      branching, ran, quiet => by
    obtain ⟨cs, r₁, r₂, run⟩ := exec_defineAnonymous_quiet allocates wellFormed ran quiet
    rw [Definition.takenRefs] at allocates
    rw [Definition.Branching] at branching
    have before : Steps .strict r r₂ := run.first.trans run.second
    have later := allocates.right.mono before.extends
    have children' := wellFormed_resolveChildren wellFormed.children run.children
    have many := isEmpty_resolveChildren run.children
    -- Each part lasts from where it was done, and so through the parts that follow it.
    have resolves := lasts_resolveChildren location scope children names allocates.left
      wellFormed.children branching.1 run.children run.quiet₁
    have takes := lasts_anonymousNode location' (run.first.names names) (many.trans filled) run.fits
      run.node
    have rest := lasts_bindRest location' run.live wellFormed children'
      (run.fits.mono run.second.extends) later
      (fun resolved quiet => lasts_resolveChildren location _ steps (before.names names) later
        wellFormed.steps branching.2 resolved quiet) run.rest run.quiet₃
    rw [defineAnonymous]
    refine .bind (resolves.mono (run.second.trans run.third)) (.bind (takes.mono run.third)
      (.bind (.recording (.get (fun r'' steps => ?_) rest)) (.pure r' id)))
    have parts := Definition.ofParts_eq wellFormed
    simp only [bindRest, parts, Steps.scopeOf (run.third.trans steps) run.live]
termination_by structural d => d

end

/-- A named bind that recorded nothing does nothing any more. -/
theorem lasts_bind (names : r.DistinctNames) {id : NodeId} {c : Child} {location : Location}
    (given : Allocates .strict r c.takenRefs) (wellFormed : c.WellFormed)
    (branching : ∀ d, c.definition? = some d → d.Branching)
    (ran : (bind id (.ok c) location).exec r = (.ok (), r')) (quiet : r'.errors = r.errors) :
    Lasts r' (bind id (.ok c) location') () := by
  have body := leads_tryBind (p := .strict) location id (.ok c) r
    (fun _ same => by cases same; exact given) fun _ _ same => by cases same; exact wellFormed
  have done := exec_recording_quiet (Steps.extends body.1).errors ran quiet
  rcases exec_tryBind_cases location id (.ok c) r with
    ⟨e, refused⟩ | ⟨_, d, node, same, denoted, here⟩
  · rw [refused] at done
    cases done
  cases same
  have all : Steps .strict r r' := body.steps done
  rw [exec_tryBind location denoted here] at done
  obtain ⟨cs, r₁, resolved, done⟩ := exec_bind_ok.mp done
  have branching := branching d denoted
  have allocates : Allocates .strict r (d.children.takenRefs ++ d.steps.takenRefs) := by
    rw [← Definition.takenRefs_eq]
    exact allocates_of_definition? denoted given
  have wellFormed := wellFormed_of_definition? denoted wellFormed
  have branches : d.children.Branching ∧ d.steps.Branching := by
    obtain ⟨_, _, _, _⟩ := d
    rwa [Definition.Branching] at branching
  have leads := leads_resolveChildren location node.scope d.children r allocates.left
  have first : Steps .strict r r₁ := leads.steps resolved
  have later := allocates.right.mono first.extends
  have second : Steps .strict r₁ r' :=
    (leads_bindRest (leads.value resolved)
      (leads_resolveChildren location node.scope d.steps r₁ later) fun _ =>
        wellFormed.classKey).steps done
  obtain ⟨quiet₁, quiet₂⟩ := first.extends.quiet second.extends quiet
  have children := lasts_resolveChildren location' location node.scope d.children names
    allocates.left wellFormed.children branches.1 resolved quiet₁
  have rest := lasts_bindRest location' (first.isLive (isLive_iff.mpr ⟨node, here⟩)) wellFormed
    (wellFormed_resolveChildren wellFormed.children resolved) (leads.value resolved) later
    (fun resolved quiet => lasts_resolveChildren location' location node.scope d.steps
      (first.names names) later wellFormed.steps branches.2 resolved quiet) done quiet₂
  intro r'' steps
  refine exec_recording_of_ok ?_
  -- The node keeps its scope, so names are generated in the same one.
  obtain ⟨node', here', grows⟩ := Steps.grows (all.trans steps) here
  rw [exec_tryBind location' denoted here', grows.scope]
  exact ((children.mono second).bind rest) r'' steps

theorem lasts_bindAnonymous (names : r.DistinctNames) {id : NodeId} {c : Child} {d : Definition}
    (denoted : c.definition? = some d) (filled : d.children.isEmpty = false) {scope : ScopeId}
    {location : Location} (given : Allocates .strict r c.takenRefs) (wellFormed : c.WellFormed)
    (branching : d.Branching) (ran : (bindAnonymous scope c location).exec r = (.ok id, r'))
    (quiet : r'.errors = r.errors) : Lasts r' (bindAnonymous scope c location') id := by
  rw [bindAnonymous, denoted] at ran ⊢
  exact lasts_defineAnonymous location' location scope d names
    (allocates_of_definition? denoted given) (wellFormed_of_definition? denoted wellFormed) filled
    branching ran quiet

end

/-! ## 5. Repeated binds -/

/-- Binding again what was bound without a diagnostic changes nothing, provided that nested
definitions have children and the nodes in lists that count as resolved have their numbers. -/
theorem bind_again (reached : Reachable (fun _ _ => True) r) {c : Child} (wellFormed : c.WellFormed)
    (given : ∀ ref ∈ c.takenRefs, ref.repository = r.id → ref.id.index < r.nodes.size)
    (branching : ∀ d, c.definition? = some d → d.Branching) :
    (∀ id location r', (bind id (.ok c) location).exec r = (.ok (), r') → r'.errors = r.errors →
      ∀ location', (bind id (.ok c) location').exec r' = (.ok (), r')) ∧
    (∀ d, c.definition? = some d → d.children.isEmpty = false → ∀ scope location id r',
      (bindAnonymous scope c location).exec r = (.ok id, r') → r'.errors = r.errors →
        ∀ location', (bindAnonymous scope c location').exec r' = (.ok id, r')) := by
  have allocates : Allocates .strict r c.takenRefs := fun _ => given
  constructor
  · intro id location r' ran quiet location'
    exact lasts_bind location' reached.names allocates wellFormed branching ran quiet r' .refl
  · intro d denoted filled scope location id r' ran quiet location'
    exact lasts_bindAnonymous location' reached.names denoted filled allocates wellFormed
      (branching d denoted) ran quiet r' .refl

/-- A repository with one node that is not bound, under the number zero. -/
def oneNode : Repository :=
  Operation.after (.node .root "top" default) (start ⟨0⟩ {})

theorem reachable_oneNode : Reachable (fun _ _ => True) oneNode :=
  ⟨⟨0⟩, {}, .operation _ (.refl _) trivial⟩

/-- A negated sum of a constant and nothing. Its step-child is the node with the number zero, in a
list that counts as resolved. -/
def negatedSum : Child :=
  .pending (.ofParts (.standard "Negate")
    (.positional [.pending (.ofParts (.standard "Add")
      (.positional [.constant (.real (.zero false)), .empty]) .nil [])])
    ⟨[⟨.index 0, .node ⟨⟨0⟩, ⟨0⟩⟩⟩], false, true⟩ [])

theorem wellFormed_negatedSum : negatedSum.WellFormed := by
  have nothing : Record.WellFormed [] := by
    simp [Record.WellFormed, Value.WellFormed, Value.WellFormedFields, OrderedMap.keys]
  rw [negatedSum, Child.WellFormed]
  refine Definition.wellFormed_ofParts _ nothing ?_ ⟨trivial, trivial⟩
  exact ⟨Definition.wellFormed_ofParts _ nothing ⟨trivial, trivial, trivial⟩ trivial, trivial⟩

theorem branching_negatedSum : ∀ d, negatedSum.definition? = some d → d.Branching := by
  rintro d ⟨⟩
  exact ⟨⟨⟨rfl, ⟨trivial, trivial, trivial⟩, trivial⟩, trivial⟩, ⟨trivial, trivial⟩⟩

theorem bind_again_negatedSum :
    Reachable (fun _ _ => True) oneNode ∧ negatedSum.WellFormed ∧
      (∀ ref ∈ negatedSum.takenRefs,
        ref.repository = oneNode.id → ref.id.index < oneNode.nodes.size) ∧
      (∀ d, negatedSum.definition? = some d → d.Branching) ∧
      (∃ r', (bind ⟨0⟩ (.ok negatedSum) default).exec oneNode = (.ok (), r') ∧
        r'.errors = oneNode.errors ∧
          ∀ location', (bind ⟨0⟩ (.ok negatedSum) location').exec r' = (.ok (), r')) ∧
      ∃ d id r', negatedSum.definition? = some d ∧ d.children.isEmpty = false ∧
        (bindAnonymous .root negatedSum default).exec oneNode = (.ok id, r') ∧
          r'.errors = oneNode.errors ∧
            ∀ location', (bindAnonymous .root negatedSum location').exec r' = (.ok id, r') := by
  have given : ∀ ref ∈ negatedSum.takenRefs,
      ref.repository = oneNode.id → ref.id.index < oneNode.nodes.size := by decide +kernel
  obtain ⟨named, anonymous⟩ :=
    bind_again reachable_oneNode wellFormed_negatedSum given branching_negatedSum
  refine ⟨reachable_oneNode, wellFormed_negatedSum, given, branching_negatedSum, ?_, ?_⟩
  · obtain ⟨⟨⟩, ran⟩ := exec_of_isOk (r := oneNode) (a := bind ⟨0⟩ (.ok negatedSum) default)
      (by decide +kernel)
    have quiet : (exec (bind ⟨0⟩ (.ok negatedSum) default) oneNode).2.errors = oneNode.errors := by
      decide +kernel
    exact ⟨_, ran, quiet, named _ _ _ ran quiet⟩
  · obtain ⟨id, ran⟩ := exec_of_isOk (r := oneNode) (a := bindAnonymous .root negatedSum default)
      (by decide +kernel)
    have quiet : (exec (bindAnonymous .root negatedSum default) oneNode).2.errors =
        oneNode.errors := by decide +kernel
    exact ⟨_, id, _, rfl, rfl, ran, quiet, anonymous _ rfl rfl _ _ _ _ ran quiet⟩

/-- Its nested definition takes the node with the number two for a child, under a list that counts
as resolved. The bind gives that number to the step-child of the nested definition. -/
def lateChild : Child :=
  .pending (.ofParts (.standard "Top")
    (.positional [.pending (.ofParts (.standard "A")
      ⟨[⟨.index 0, .node ⟨⟨0⟩, ⟨2⟩⟩⟩], false, true⟩
      (.positional [.pending (.ofParts (.standard "B") (.positional [.empty]) .nil [])]) [])])
    .nil [])

theorem not_bind_again_lateChild :
    Reachable (fun _ _ => True) oneNode ∧ lateChild.WellFormed ∧
      (∀ d, lateChild.definition? = some d → d.Branching) ∧
      ∃ r', (bind ⟨0⟩ (.ok lateChild) default).exec oneNode = (.ok (), r') ∧
        r'.errors = oneNode.errors ∧
          (bind ⟨0⟩ (.ok lateChild) default).exec r' ≠ (.ok (), r') := by
  have nothing : Record.WellFormed [] := by
    simp [Record.WellFormed, Value.WellFormed, Value.WellFormedFields, OrderedMap.keys]
  have wellFormed : lateChild.WellFormed := by
    rw [lateChild, Child.WellFormed]
    refine Definition.wellFormed_ofParts _ nothing ⟨?_, trivial⟩ trivial
    refine Definition.wellFormed_ofParts _ nothing ⟨trivial, trivial⟩ ⟨?_, trivial⟩
    exact Definition.wellFormed_ofParts _ nothing ⟨trivial, trivial⟩ trivial
  have branching : ∀ d, lateChild.definition? = some d → d.Branching := by
    rintro d ⟨⟩
    exact ⟨⟨⟨rfl, ⟨trivial, trivial⟩, ⟨rfl, ⟨trivial, trivial⟩, trivial⟩, trivial⟩, trivial⟩,
      trivial⟩
  obtain ⟨⟨⟩, ran⟩ := exec_of_isOk (r := oneNode) (a := bind ⟨0⟩ (.ok lateChild) default)
    (by decide +kernel)
  have quiet : (exec (bind ⟨0⟩ (.ok lateChild) default) oneNode).2.errors = oneNode.errors := by
    decide +kernel
  refine ⟨reachable_oneNode, wellFormed, branching, _, ran, quiet, fun again => ?_⟩
  have more : (exec (bind ⟨0⟩ (.ok lateChild) default)
      (exec (bind ⟨0⟩ (.ok lateChild) default) oneNode).2).2.nodes.size = 4 := by decide +kernel
  have less : (exec (bind ⟨0⟩ (.ok lateChild) default) oneNode).2.nodes.size = 3 := by
    decide +kernel
  rw [again, less] at more
  cases more

end Repository

end NodeForest

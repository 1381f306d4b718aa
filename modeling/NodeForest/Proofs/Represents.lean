import NodeForest.Proofs.Check
import NodeForest.Proofs.Invariant

/-!
# Binding means what the definition says

A node represents a definition when it is bound with its class, fields and children, and the nodes
of nested definitions represent those, at every depth. A bind that records no diagnostic leaves its
node representing the definition: nodes that were there before are taken for a part of it only when
they represent that part, whatever their names are.

Results:
1. `Represents`: the meaning of definitions.
2. `Represents.steps`: what is bound later does not disturb it.
3. `represents_of_attach`: one attachment.
4. `exec_defineAnonymous_quiet`: an anonymous bind without a diagnostic, taken apart;
   `represented_resolveChildren`, `represents_defineAnonymous`: the recursion.
5. `represents_of_bind`: a bind without a diagnostic.
-/

namespace NodeForest

open Relation NodeForest.Action

namespace Repository

/-! ## 1. Meaning -/

mutual

/-- What an entry of a bound node stands for: an empty place, a node itself, the node bound under a
name, a node with an equal constant, or one that represents a nested definition. -/
def ChildRepresented (r : Repository) : Child → Child → Prop
  | .empty, c => c = .empty
  | .node ref, c => c = .node ref
  | .name name, c => ∃ id, c = r.child id ∧ r.nameOf? id = some name ∧ r.isBound id
  | .constant value, c => ∃ id b, c = r.child id ∧ r.bindingOf? id = some b ∧ b.Holds value.key
  | .pending d, c => ∃ id, c = r.child id ∧ Represents r d id
  | .factory _ _, _ => False
termination_by structural given => given

def EntryRepresented (r : Repository) : Entry → Entry → Prop
  | ⟨label, child⟩, e => e.label = label ∧ ChildRepresented r child e.child
termination_by structural given => given

def EntriesRepresented (r : Repository) : List Entry → List Entry → Prop
  | [], es => es = []
  | given :: rest, es =>
      ∃ e es', es = e :: es' ∧ EntryRepresented r given e ∧ EntriesRepresented r rest es'
termination_by structural given => given

/-- The list of a bound node has the same form and labels. A list that was resolved before is taken
as it is. -/
def ListRepresented (r : Repository) : ChildList → ChildList → Prop
  | ⟨entries, keyed, resolved⟩, l =>
      l.keyed = keyed ∧
        (if resolved then Entry.equalAll l.entries entries = true
          else EntriesRepresented r entries l.entries)
termination_by structural given => given

/-- The node is bound with the class, the fields and the children of the definition. -/
def Represents (r : Repository) : Definition → NodeId → Prop
  | ⟨nodeClass, children, steps, record⟩, id =>
      ∃ b, r.bindingOf? id = some b ∧ b.className = nodeClass.fullName ∧
        Record.equal b.record record ∧ ListRepresented r children b.children ∧
          ListRepresented r steps b.steps
termination_by structural given => given

end

/-! ## 2. Later steps -/

variable {r r' : Repository}

theorem child_of_extends (h : r.Extends r') (id : NodeId) : r'.child id = r.child id := by
  rw [child, child, h.id]

theorem nameOf?_of_steps {p : Promise} (h : Steps p r r') {id : NodeId} {name : String}
    (named : r.nameOf? id = some name) : r'.nameOf? id = some name := by
  obtain ⟨n, here, rfl⟩ := Option.map_eq_some_iff.mp named
  obtain ⟨n', here', grows⟩ := h.grows here
  rw [nameOf?, here', Option.map_some, grows.name]

theorem bindingOf?_of_steps (h : Steps .binding r r') {id : NodeId} {b : Binding}
    (here : r.bindingOf? id = some b) :
    ∃ b', r'.bindingOf? id = some b' ∧ b'.className = b.className ∧ b'.record = b.record ∧
      b'.children = b.children ∧ b'.steps = b.steps := by
  obtain ⟨b', here', grows⟩ := h.binding here
  exact ⟨b', here', grows.className, grows.record trivial, grows.lists trivial⟩

mutual

theorem ChildRepresented.steps (h : Steps .binding r r') :
    ∀ {given c : Child}, ChildRepresented r given c →
    ChildRepresented r' given c
  | .empty, c, same | .node ref, c, same => by
    rw [ChildRepresented] at same ⊢
    exact same
  | .name name, c, represented => by
    rw [ChildRepresented] at represented ⊢
    obtain ⟨id, rfl, named, bound⟩ := represented
    exact ⟨id, (child_of_extends h.extends id).symm, nameOf?_of_steps h named, h.isBound bound⟩
  | .constant value, c, represented => by
    rw [ChildRepresented] at represented ⊢
    obtain ⟨id, b, rfl, bound, holds⟩ := represented
    obtain ⟨b', bound', className, record, _⟩ := bindingOf?_of_steps h bound
    refine ⟨id, b', (child_of_extends h.extends id).symm, bound', ?_⟩
    rw [Binding.Holds, className, record]
    exact holds
  | .pending d, c, represented => by
    rw [ChildRepresented] at represented ⊢
    obtain ⟨id, rfl, represents⟩ := represented
    exact ⟨id, (child_of_extends h.extends id).symm, Represents.steps h represents⟩
  | .factory _ _, c, represented => by
    rw [ChildRepresented] at represented
    exact represented.elim

theorem EntryRepresented.steps (h : Steps .binding r r') :
    ∀ {given e : Entry}, EntryRepresented r given e →
    EntryRepresented r' given e
  | ⟨label, child⟩, e, represented => by
    rw [EntryRepresented] at represented ⊢
    exact ⟨represented.1, ChildRepresented.steps h represented.2⟩

theorem EntriesRepresented.steps (h : Steps .binding r r') :
    ∀ {given es : List Entry}, EntriesRepresented r given es →
    EntriesRepresented r' given es
  | [], es, represented => by
    rw [EntriesRepresented] at represented ⊢
    exact represented
  | given :: rest, es, represented => by
    rw [EntriesRepresented] at represented ⊢
    obtain ⟨e, es', rfl, first, later⟩ := represented
    exact ⟨e, es', rfl, EntryRepresented.steps h first, EntriesRepresented.steps h later⟩

theorem ListRepresented.steps (h : Steps .binding r r') :
    ∀ {given l : ChildList}, ListRepresented r given l →
    ListRepresented r' given l
  | ⟨entries, keyed, resolved⟩, l, represented => by
    rw [ListRepresented] at represented ⊢
    refine ⟨represented.1, ?_⟩
    cases resolved with
    | true => exact represented.2
    | false => exact EntriesRepresented.steps h represented.2

/-- What a node represents, it still represents after a bind. -/
theorem Represents.steps (h : Steps .binding r r') :
    ∀ {d : Definition} {id : NodeId}, Represents r d id → Represents r' d id
  | ⟨nodeClass, children, steps, record⟩, id, represents => by
    rw [Represents] at represents ⊢
    obtain ⟨b, bound, className, same, first, second⟩ := represents
    obtain ⟨b', bound', className', record', children', steps'⟩ := bindingOf?_of_steps h bound
    exact ⟨b', bound', by rw [className', className], by rw [record']; exact same,
      by rw [children']; exact ListRepresented.steps h first,
      by rw [steps']; exact ListRepresented.steps h second⟩

end

/-! ## 3. One attachment -/

/-- What resolving makes of a list: one that was resolved before stays as it is. -/
def ListResolved (r : Repository) (given l : ChildList) : Prop :=
  l.keyed = given.keyed ∧
    (if given.resolved = true then l.entries = given.entries
      else EntriesRepresented r given.entries l.entries)

theorem ListResolved.steps (h : Steps .binding r r') {given l : ChildList}
    (resolved : r.ListResolved given l) : r'.ListResolved given l := by
  refine ⟨resolved.1, ?_⟩
  have entries := resolved.2
  split
  · rename_i before
    rwa [if_pos before] at entries
  · rename_i before
    rw [if_neg before] at entries
    exact entries.steps h

/-- A child is represented by a node or an empty place, which equal themselves only. -/
theorem ChildRepresented.eq_of_equal {given c c' : Child} (h : ChildRepresented r given c)
    (same : c'.equal c) : c' = c := by
  refine Child.eq_of_equal ?_ same
  cases given <;> rw [ChildRepresented] at h
  · exact .inl h
  · obtain ⟨id, rfl, _⟩ := h
    exact .inr ⟨_, rfl⟩
  · obtain ⟨id, _, rfl, _⟩ := h
    exact .inr ⟨_, rfl⟩
  · exact .inr ⟨_, h⟩
  · obtain ⟨id, rfl, _⟩ := h
    exact .inr ⟨_, rfl⟩
  · exact h.elim

theorem EntriesRepresented.eq_of_equal : ∀ {given es es' : List Entry},
    EntriesRepresented r given es → Entry.equalAll es' es → es' = es
  | [], es, es', h, same => by
    rw [EntriesRepresented] at h
    subst h
    cases es' with
    | nil => rfl
    | cons => simp [Entry.equalAll] at same
  | ⟨label, child⟩ :: rest, es, es', h, same => by
    rw [EntriesRepresented] at h
    obtain ⟨⟨label₁, c₁⟩, es₁, rfl, first, later⟩ := h
    cases es' with
    | nil => simp [Entry.equalAll] at same
    | cons e' es' =>
      obtain ⟨label', c'⟩ := e'
      simp only [Entry.equalAll, Entry.equal, Bool.and_eq_true, beq_iff_eq] at same
      obtain ⟨⟨rfl, equal⟩, others⟩ := same
      rw [EntryRepresented] at first
      rw [first.2.eq_of_equal equal, EntriesRepresented.eq_of_equal later others]

/-- A list that equals the resolved one represents what that does. -/
theorem ListResolved.represented {given l l' : ChildList} (h : r.ListResolved given l)
    (same : l'.equal l) : r.ListRepresented given l' := by
  obtain ⟨entries, keyed, resolved⟩ := given
  obtain ⟨es, k, _⟩ := l
  obtain ⟨es', k', _⟩ := l'
  simp only [ChildList.equal, Bool.and_eq_true, beq_iff_eq] at same
  obtain ⟨form, inside⟩ := h
  rw [ListRepresented]
  refine ⟨same.1.trans form, ?_⟩
  cases resolved with
  | true =>
    obtain rfl : es = entries := inside
    exact same.2
  | false =>
    have represented : EntriesRepresented r entries es := inside
    obtain rfl : es' = es := represented.eq_of_equal same.2
    exact represented

theorem ListResolved.self {given l : ChildList} (h : r.ListResolved given l)
    (wellFormed : given.WellFormed) : r.ListRepresented given l := by
  obtain ⟨entries, keyed, resolved⟩ := given
  obtain ⟨form, inside⟩ := h
  rw [ListRepresented]
  refine ⟨form, ?_⟩
  cases resolved with
  | true =>
    rw [ChildList.WellFormed] at wellFormed
    rw [if_pos rfl, show l.entries = entries from inside]
    exact Entry.equalAll_self entries wellFormed
  | false => exact inside

/-- After a definition with resolved children is attached, the node represents it: because it got
the definition, or because it had an equal one. -/
theorem represents_of_attach (sound : Sound .binding r) {id : NodeId} (live : r.isLive id)
    {d : Definition} (wellFormed : d.WellFormed) {cs ss : ChildList} {location : Location}
    (first : r.ListResolved d.children cs) (second : r.ListResolved d.steps ss)
    (fits : Promise.binding.Fits r (cs.members ++ ss.members))
    (ran : (attach id { d with children := cs, steps := ss } location).exec r = (.ok (), r')) :
    r'.Represents d id := by
  obtain ⟨n, here⟩ := isLive_iff.mp live
  have steps : Steps .binding r r' :=
    (leads_attach (d := { d with children := cs, steps := ss }) fits fun _ =>
      wellFormed.classKey).steps ran
  obtain ⟨nodeClass, children, stepChildren, record⟩ := d
  rw [Represents]
  cases binding : n.binding with
  | none =>
    rw [exec_attach_unbound _ location here binding] at ran
    cases ran
    rw [Definition.WellFormed] at wellFormed
    obtain ⟨_, fields, wfChildren, wfSteps⟩ := wellFormed
    refine ⟨_, by rw [bindingOf?_noteClass, bindingOf?_relink, if_pos rfl, here]; rfl, rfl,
      Record.equal_self fields, (first.steps steps).self wfChildren,
      (second.steps steps).self wfSteps⟩
  | some b =>
    have bound : r.bindingOf? id = some b := by rw [bindingOf?_of_get? here, binding]
    rw [exec_attach_bound _ location here binding] at ran
    split at ran
    · rename_i same
      cases ran
      rw [sameBinding, Bool.and_eq_true, Bool.and_eq_true] at same
      obtain ⟨⟨fields, sameChildren⟩, sameSteps⟩ := same
      refine ⟨b, bound, ?_, fields, first.represented sameChildren, second.represented sameSteps⟩
      -- Both records name their class, so equal records name the same one.
      have named := Record.get?_text_of_equal fields (sound.classes trivial bound)
      rw [wellFormed.classKey] at named
      simpa using named.symm
    · cases ran

/-! ## 4. The recursion -/

/-- A bind whose children have been resolved resolves the step-children and attaches. -/
theorem represents_of_rest {r₁ r₂ : Repository} (sound : Sound .binding r)
    (before : Steps .binding r r₁) {id : NodeId} (live : r₁.isLive id) {d : Definition}
    (wellFormed : d.WellFormed) {cs ss : ChildList} {scope : ScopeId} {location : Location}
    (fits : Promise.binding.Fits r₁ cs.members)
    (first : r₁.errors = r.errors → r₁.ListResolved d.children cs)
    (resolved : (resolveChildren location scope d.steps).exec r₁ = (.ok ss, r₂))
    (second : r₂.errors = r₁.errors → r₂.ListResolved d.steps ss)
    (ran : (attach id { d with children := cs, steps := ss } location).exec r₂ = (.ok (), r'))
    (quiet : r'.errors = r.errors) : r'.Represents d id := by
  have resolves := leads_resolveChildren location scope d.steps r₁ (allocates_binding _)
  have more : Steps .binding r₁ r₂ := resolves.steps resolved
  have all := (fits.mono more.extends).append (resolves.value resolved)
  have last : Steps .binding r₂ r' :=
    (leads_attach (d := { d with children := cs, steps := ss }) all fun _ =>
      wellFormed.classKey).steps ran
  obtain ⟨quiet₁, rest⟩ := before.extends.quiet (Steps.extends (more.trans last)) quiet
  have quiet₂ := (more.extends.quiet last.extends rest).1
  exact represents_of_attach (more.sound (before.sound sound)) (more.isLive live) wellFormed
    ((first quiet₁).steps more) (second quiet₂) all ran

/-- The node of a constant has an equal one, whether it was found or made. -/
theorem holds_of_makeConstant (sound : Sound .binding r) {value : Constant} {location : Location}
    {id : NodeId} (ran : (makeConstant value location).exec r = (.ok id, r')) :
    ∃ b, r'.bindingOf? id = some b ∧ b.Holds value.key := by
  cases known : (OrderedMap.get? r.constants value.key).filter r.isLive with
  | some found =>
    rw [exec_makeConstant_known location known] at ran
    cases ran
    exact sound.constants trivial (Option.filter_eq_some_iff.mp known).1
  | none =>
    rw [exec_makeConstant_new location known] at ran
    cases ran
    exact ⟨_, by rw [bindingOf?_withConstant, if_pos rfl], holds_newBinding r value location⟩

/-- How an anonymous bind runs that records nothing: it resolves the children, takes a node and does
the rest of a bind, which record nothing either. -/
structure AnonymousRun (p : Promise) (location : Location) (scope : ScopeId) (d : Definition)
    (r r₁ r₂ r' : Repository) (cs : ChildList) (id : NodeId) : Prop where
  children : (resolveChildren location scope d.children).exec r = (.ok cs, r₁)
  node : r₁.anonymousNode scope d.nodeClass cs location = (id, r₂)
  rest : (bindRest location (r₂.scopeOf id) id d cs).exec r₂ = (.ok (), r')
  first : Steps p r r₁
  second : Steps p r₁ r₂
  third : Steps p r₂ r'
  fits : p.Fits r₁ cs.members
  live : r₂.isLive id
  quiet₁ : r₁.errors = r.errors
  quiet₃ : r'.errors = r₂.errors

theorem exec_defineAnonymous_quiet {p : Promise} {location : Location} {scope : ScopeId}
    {d : Definition} {id : NodeId} (given : Allocates p r d.takenRefs) (wellFormed : d.WellFormed)
    (ran : (defineAnonymous location scope d).exec r = (.ok id, r'))
    (quiet : r'.errors = r.errors) :
    ∃ cs r₁ r₂, AnonymousRun p location scope d r r₁ r₂ r' cs id := by
  obtain ⟨nodeClass, children, steps, record⟩ := d
  rw [Definition.takenRefs] at given
  rw [defineAnonymous] at ran
  obtain ⟨cs, r₁, resolved, ran⟩ := exec_bind_ok.mp ran
  rw [exec_bind_of_ok (exec_modifyGet _ r₁)] at ran
  have taken := steps_anonymousNode (p := p) r₁ scope nodeClass cs location
  rcases node : r₁.anonymousNode scope nodeClass cs location with ⟨id', r₂⟩
  rw [node] at ran taken
  dsimp only at ran taken
  obtain ⟨second, live⟩ := taken
  change exec (recording (anonymousBind location id' nodeClass cs steps record) >>= _) r₂ = _
    at ran
  obtain ⟨_, r₃, bound, ended⟩ := exec_bind_ok.mp ran
  cases ended
  have leads := leads_resolveChildren location scope children r given.left
  have first : Steps p r r₁ := leads.steps resolved
  have fits := leads.value resolved
  have before : Steps p r r₂ := first.trans second
  have body := leads_anonymousBind id nodeClass record
    (fun scope => leads_resolveChildren location scope steps r₂ (given.right.mono before.extends))
    (fits.mono second.extends)
  -- Nothing is recorded, so the bind inside has not failed.
  have third := (leads_recording body).steps bound
  obtain ⟨quiet₂, quiet₃⟩ := before.extends.quiet (Steps.extends third) quiet
  have done := exec_recording_quiet (Steps.extends body.1).errors bound quiet₃
  rw [anonymousBind, exec_bind_of_ok (exec_get r₂)] at done
  simp only [Definition.ofParts_eq wellFormed] at done
  exact ⟨cs, r₁, r₂, resolved, node, done, first, second, third, fits, live,
    (first.extends.quiet second.extends quiet₂).1, quiet₃⟩

section

variable (location : Location)

mutual

theorem represented_resolveChild (scope : ScopeId) (label : Label) :
    ∀ (given : Child) {r r' : Repository} {c : Child}, Sound .binding r → given.WellFormed →
      (resolveChild location scope label given).exec r = (.ok c, r') → r'.errors = r.errors →
        r'.ChildRepresented given c
  | .empty, r, r', c, _, _, ran, _ => by
    rw [resolveChild] at ran
    cases ran
    rw [ChildRepresented]
  | .node ref, r, r', c, _, _, ran, _ => by
    rw [exec_resolveChild_node] at ran
    rw [ChildRepresented]
    split at ran
    · split at ran
      · cases ran
        rfl
      · cases ran
    · cases ran
  | .name name, r, r', c, _, _, ran, _ => by
    rw [exec_resolveChild_name] at ran
    rw [ChildRepresented]
    cases found : r.lookupBound? name with
    | none =>
      rw [found] at ran
      cases ran
    | some id =>
      rw [found] at ran
      cases ran
      obtain ⟨here, bound⟩ := Option.filter_eq_some_iff.mp found
      obtain ⟨n, live, named⟩ := lookup?_eq_some here
      exact ⟨id, rfl, by rw [nameOf?, live, Option.map_some, named], bound⟩
  | .constant value, r, r', c, sound, _, ran, _ => by
    rw [resolveChild] at ran
    obtain ⟨id, r₁, made, given⟩ := exec_bind_ok.mp ran
    rw [exec_bind_of_ok (exec_get r₁)] at given
    cases given
    obtain ⟨b, bound, holds⟩ := holds_of_makeConstant sound made
    rw [ChildRepresented]
    exact ⟨id, b, rfl, bound, holds⟩
  | .pending d, r, r', c, sound, wellFormed, ran, quiet => by
    rw [resolveChild] at ran
    obtain ⟨id, r₁, made, given⟩ := exec_bind_ok.mp ran
    rw [exec_bind_of_ok (exec_get r₁)] at given
    cases given
    rw [Child.WellFormed] at wellFormed
    rw [ChildRepresented]
    exact ⟨id, rfl, represents_defineAnonymous scope d sound wellFormed made quiet⟩
  | .factory _ _, r, r', c, _, _, ran, _ => by
    rw [resolveChild] at ran
    cases ran
termination_by structural given => given

theorem represented_resolveEntry (scope : ScopeId) :
    ∀ (given : Entry) {r r' : Repository} {e : Entry}, Sound .binding r → given.WellFormed →
      (resolveEntry location scope given).exec r = (.ok e, r') → r'.errors = r.errors →
        r'.EntryRepresented given e
  | ⟨label, child⟩, r, r', e, sound, wellFormed, ran, quiet => by
    rw [resolveEntry] at ran
    obtain ⟨c, r₁, resolved, given⟩ := exec_bind_ok.mp ran
    cases given
    rw [Entry.WellFormed] at wellFormed
    rw [EntryRepresented]
    exact ⟨rfl, represented_resolveChild scope label child sound wellFormed resolved quiet⟩
termination_by structural given => given

theorem represented_resolveEntries (scope : ScopeId) :
    ∀ (given : List Entry) {r r' : Repository} {es : List Entry}, Sound .binding r →
      Entry.AllWellFormed given → (resolveEntries location scope given).exec r = (.ok es, r') →
        r'.errors = r.errors → r'.EntriesRepresented given es
  | [], r, r', es, _, _, ran, _ => by
    rw [resolveEntries] at ran
    cases ran
    rw [EntriesRepresented]
  | given :: rest, r, r', es, sound, wellFormed, ran, quiet => by
    rw [resolveEntries] at ran
    obtain ⟨e, r₁, head, ran⟩ := exec_bind_ok.mp ran
    obtain ⟨es', r₂, tail, ran⟩ := exec_bind_ok.mp ran
    cases ran
    rw [Entry.AllWellFormed] at wellFormed
    have first : Steps .binding r r₁ :=
      (leads_resolveEntry location scope given r (allocates_binding _)).steps head
    have second : Steps .binding r₁ r' :=
      (leads_resolveEntries location scope rest r₁ (allocates_binding _)).steps tail
    obtain ⟨quiet₁, quiet₂⟩ := first.extends.quiet second.extends quiet
    rw [EntriesRepresented]
    refine ⟨e, es', rfl, ?_, ?_⟩
    · exact (represented_resolveEntry scope given sound wellFormed.1 head quiet₁).steps second
    · exact represented_resolveEntries scope rest (first.sound sound) wellFormed.2 tail quiet₂
termination_by structural given => given

theorem resolved_resolveChildren (scope : ScopeId) :
    ∀ (given : ChildList) {r r' : Repository} {l : ChildList}, Sound .binding r →
      given.WellFormed → (resolveChildren location scope given).exec r = (.ok l, r') →
        r'.errors = r.errors → r'.ListResolved given l
  | ⟨entries, keyed, true⟩, r, r', l, _, _, ran, _ => by
    rw [exec_resolveChildren_resolved] at ran
    cases own : r.findForeign? entries with
    | some e =>
      rw [own] at ran
      cases ran
    | none =>
      rw [own] at ran
      cases ran
      exact ⟨rfl, rfl⟩
  | ⟨entries, keyed, false⟩, r, r', l, sound, wellFormed, ran, quiet => by
    rw [resolveChildren, if_neg Bool.false_ne_true] at ran
    obtain ⟨es, r₁, resolved, given⟩ := exec_bind_ok.mp ran
    cases given
    rw [ChildList.WellFormed] at wellFormed
    exact ⟨rfl, represented_resolveEntries scope entries sound wellFormed resolved quiet⟩
termination_by structural given => given

theorem represents_defineAnonymous (scope : ScopeId) :
    ∀ (d : Definition) {r r' : Repository} {id : NodeId}, Sound .binding r → d.WellFormed →
      (defineAnonymous location scope d).exec r = (.ok id, r') → r'.errors = r.errors →
        r'.Represents d id
  | ⟨nodeClass, children, steps, record⟩, r, r', id, sound, wellFormed, ran, quiet => by
    obtain ⟨cs, r₁, r₂, run⟩ :=
      exec_defineAnonymous_quiet (allocates_binding _) wellFormed ran quiet
    obtain ⟨ss, r₃, resolvedSteps, attached⟩ := exec_bind_ok.mp run.rest
    have before : Steps .binding r r₂ := run.first.trans run.second
    refine represents_of_rest sound before run.live wellFormed (run.fits.mono run.second.extends)
      (fun _ => ?_) resolvedSteps
      (resolved_resolveChildren _ steps (before.sound sound) wellFormed.steps resolvedSteps)
      attached quiet
    exact (resolved_resolveChildren scope children sound wellFormed.children run.children
      run.quiet₁).steps run.second
termination_by structural d => d

end

end

/-! ## 5. A bind -/

/-- As long as no fields of records are set, constants have the nodes of equal ones and records name
the classes. -/
theorem Reachable.sound_binding
    (reached : Reachable (fun _ op => op.WellFormed ∧ op.LeavesRecords) r)
    (building : r.phase = .building) : Sound .binding r := by
  have := reached.sound (p := ⟨False, True, False⟩)
    (fun _ _ given => ⟨False.elim, fun _ => given.1, fun _ => given.2, False.elim⟩) building
  exact { this with }

/-- A bind that records no diagnostic leaves its node representing the definition. -/
theorem represents_of_bind
    (reached : Reachable (fun _ op => op.WellFormed ∧ op.LeavesRecords) r)
    (building : r.phase = .building) {id : NodeId} {c : Child} {location : Location}
    (wellFormed : c.WellFormed) (ran : (bind id (.ok c) location).exec r = (.ok (), r'))
    (quiet : r'.errors = r.errors) : ∃ d, c.definition? = some d ∧ r'.Represents d id := by
  have sound := reached.sound_binding building
  have body := leads_tryBind (p := .binding) location id (.ok c) r
    (fun _ _ => allocates_binding _) fun _ _ same => by cases same; exact wellFormed
  have done := exec_recording_quiet (Steps.extends body.1).errors ran quiet
  rcases exec_tryBind_cases location id (.ok c) r with
    ⟨e, refused⟩ | ⟨_, d, node, same, denoted, here⟩
  · rw [refused] at done
    cases done
  · cases same
    refine ⟨d, denoted, ?_⟩
    rw [exec_tryBind location denoted here] at done
    obtain ⟨cs, r₁, resolved, done⟩ := exec_bind_ok.mp done
    obtain ⟨ss, r₂, resolvedSteps, attached⟩ := exec_bind_ok.mp done
    have wellFormed := wellFormed_of_definition? denoted wellFormed
    have children := leads_resolveChildren location node.scope d.children r (allocates_binding _)
    have first : Steps .binding r r₁ := children.steps resolved
    exact represents_of_rest sound first (first.isLive (isLive_iff.mpr ⟨node, here⟩)) wellFormed
      (children.value resolved)
      (resolved_resolveChildren location _ _ sound wellFormed.children resolved) resolvedSteps
      (resolved_resolveChildren location _ _ (first.sound sound) wellFormed.steps resolvedSteps)
      attached quiet

/-- A sum of a constant and a nested leaf. -/
def nestedSum : Child :=
  .pending (.ofParts (.standard "Add")
    (.positional [.constant (.real (.zero false)), .pending (.bare (.standard "Leaf"))]) .nil [])

theorem wellFormed_nestedSum : nestedSum.WellFormed := by
  have leaf : (Definition.bare (.standard "Leaf")).WellFormed := by
    refine Definition.wellFormed_ofParts _ ?_ ?_ ?_
    · simp [Record.WellFormed, Value.WellFormed, Value.WellFormedFields, OrderedMap.keys]
    · simp [ChildList.nil, ChildList.WellFormed, Entry.AllWellFormed]
    · simp [ChildList.nil, ChildList.WellFormed, Entry.AllWellFormed]
  rw [nestedSum, Child.WellFormed]
  refine Definition.wellFormed_ofParts _ ?_ ?_ ?_
  · simp [Record.WellFormed, Value.WellFormed, Value.WellFormedFields, OrderedMap.keys]
  · simp [ChildList.positional, Entry.numbered, ChildList.WellFormed, Entry.AllWellFormed,
      Entry.WellFormed, Child.WellFormed, leaf]
  · simp [ChildList.nil, ChildList.WellFormed, Entry.AllWellFormed]

theorem represents_of_bind_nestedSum :
    ∃ r r', Reachable (fun _ op => op.WellFormed ∧ op.LeavesRecords) r ∧ r.phase = .building ∧
      nestedSum.WellFormed ∧ (bind ⟨0⟩ (.ok nestedSum) default).exec r = (.ok (), r') ∧
        r'.errors = r.errors ∧ ∃ d, nestedSum.definition? = some d ∧ r'.Represents d ⟨0⟩ := by
  let r := Operation.after (.node .root "sum" default) (start ⟨0⟩ {})
  have reached : Reachable (fun _ op => op.WellFormed ∧ op.LeavesRecords) r :=
    ⟨⟨0⟩, {}, .operation _ (.refl _) ⟨(fun c member => by cases member), trivial⟩⟩
  have building : r.phase = .building := by decide +kernel
  have succeeds : ((bind ⟨0⟩ (.ok nestedSum) default).exec r).1.isOk := by decide +kernel
  have quiet : ((bind ⟨0⟩ (.ok nestedSum) default).exec r).2.errors = r.errors := by decide +kernel
  rcases ran : (bind ⟨0⟩ (.ok nestedSum) default).exec r with ⟨e | ⟨⟩, r'⟩
  · rw [ran] at succeeds
    cases succeeds
  · rw [ran] at quiet
    exact ⟨r, r', reached, building, wellFormed_nestedSum, ran, quiet,
      represents_of_bind reached building wellFormed_nestedSum ran quiet⟩

end Repository

end NodeForest

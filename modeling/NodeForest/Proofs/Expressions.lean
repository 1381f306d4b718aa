import NodeForest.Proofs.AnonymousBind
import NodeForest.Proofs.AnonymousCalls
import NodeForest.Proofs.Connect
import NodeForest.Proofs.ExpressionNames
import NodeForest.Proofs.Reporting

/-!
# Nodes of expressions

A definition with children is bound to the node of its name, whoever has registered that first. So
the same expression gets the same node again, and changes nothing as long as the node has kept its
definition. Different expressions get different nodes if their names differ. If they do not, which
is the case when the classes are the same in lower case, the children have the same basenames, and
their qualifiers make the same list, they get the same node, and the second one is refused.

Results:
1. `Definition.ofExpression`, `Binding.Expresses`: the definition that an expression comes to.
2. `AnonymousCall.Expression`, `Expression.comes`: an anonymous bind of an expression.
3. `expressions_apart`: two of them; `not_expressions_apart`: different expressions that get the
   same node.
-/

namespace NodeForest

open Relation NodeForest.Action

/-! ## 1. Definitions of expressions -/

/-- The definition of an expression, its children being resolved. -/
def Definition.ofExpression (c : NodeClass) (cs : ChildList) : Definition :=
  ⟨c, cs, .resolvedNil, [(Record.classKey, .text c.fullName)]⟩

/-- The binding is the one that an expression comes to. -/
structure Binding.Expresses (b : Binding) (c : NodeClass) (cs : ChildList) : Prop where
  record : b.record = [(Record.classKey, .text c.fullName)]
  keyed : b.children.keyed = cs.keyed
  entries : b.children.entries = cs.entries
  unkeyed : b.steps.keyed = false
  stepless : b.steps.entries = []

/-- It is that of the expressions with the same children and a class of the same full name. -/
theorem Binding.Expresses.iff {b : Binding} {c c' : NodeClass} {cs cs' : ChildList}
    (h : b.Expresses c cs) (resolved : cs'.resolved = cs.resolved) :
    b.Expresses c' cs' ↔ c'.fullName = c.fullName ∧ cs' = cs := by
  constructor
  · intro h'
    have record := h'.record.symm.trans h.record
    have keyed := h'.keyed.symm.trans h.keyed
    have entries := h'.entries.symm.trans h.entries
    obtain ⟨entries₀, keyed₀, resolved₀⟩ := cs
    obtain ⟨entries₁, keyed₁, resolved₁⟩ := cs'
    obtain rfl : entries₁ = entries₀ := entries
    obtain rfl : keyed₁ = keyed₀ := keyed
    obtain rfl : resolved₁ = resolved₀ := resolved
    exact ⟨by simpa using record, rfl⟩
  · rintro ⟨same, rfl⟩
    exact ⟨by rw [same]; exact h.record, h.keyed, h.entries, h.unkeyed, h.stepless⟩

/-- Binding something else leaves it so. -/
theorem Binding.Expresses.grows {b b' : Binding} {c : NodeClass} {cs : ChildList}
    (h : b.Expresses c cs) (more : b.Grows Promise.binding.kept b') : b'.Expresses c cs := by
  obtain ⟨children, steps⟩ := more.lists trivial
  refine ⟨(more.record trivial).trans h.record, ?_, ?_, ?_, ?_⟩
  · rw [children]
    exact h.keyed
  · rw [children]
    exact h.entries
  · rw [steps]
    exact h.unkeyed
  · rw [steps]
    exact h.stepless

theorem sameBinding_iff {b : Binding} {c : NodeClass} {cs : ChildList}
    (stand : ∀ child ∈ cs.members, child = .empty ∨ ∃ ref, child = .node ref) :
    Repository.sameBinding b cs .resolvedNil (Definition.ofExpression c cs).record ↔
      b.Expresses c cs := by
  have first : ChildList.equal b.children cs ↔ _ :=
    ChildList.equal_iff fun e member => stand e.child (List.mem_map_of_mem member)
  have none : ChildList.equal b.steps .resolvedNil ↔ _ :=
    ChildList.equal_iff fun e member => absurd member List.not_mem_nil
  unfold Repository.sameBinding Definition.ofExpression
  rw [Bool.and_eq_true, Bool.and_eq_true, Record.equal_singleton, first, none]
  constructor
  · rintro ⟨⟨record, keyed, entries⟩, unkeyed, stepless⟩
    exact ⟨record, keyed, entries, unkeyed, stepless⟩
  · intro h
    exact ⟨⟨h.record, h.keyed, h.entries⟩, h.unkeyed, h.stepless⟩

/-! ## 2. Binds of expressions -/

namespace AnonymousCall

/-- The call is made in a run of such operations. -/
def InRun (allowed : Repository → Operation → Prop) (call : AnonymousCall) : Prop :=
  ∃ r op, Repository.Reachable allowed r ∧ allowed r op ∧ op.Makes r call

theorem InRun.mono {allowed allowed' : Repository → Operation → Prop} {call : AnonymousCall}
    (h : call.InRun allowed) (weaker : ∀ r op, allowed r op → allowed' r op) :
    call.InRun allowed' := by
  obtain ⟨r, op, ⟨id, options, led⟩, allow, makes⟩ := h
  exact ⟨r, op, ⟨id, options, led.mono weaker⟩, weaker r op allow, makes⟩

/-- The call binds an expression: a definition with children, without step-children and without
fields. When `mid` is reached the children have been resolved to `cs`, and they are bound. -/
structure Expression (call : AnonymousCall) (cs : ChildList) (mid : Repository) : Prop where
  filled : call.definition.children.isEmpty = false
  stepless : call.definition.steps.isEmpty
  unkeyed : call.definition.steps.keyed = false
  bare : call.definition.record = [(Record.classKey, .text call.definition.nodeClass.fullName)]
  resolved : (Repository.resolveChildren call.location call.scope call.definition.children).exec
    call.before = (.ok cs, mid)
  bound : ∀ c ∈ cs.members, c = .empty ∨ ∃ ref, c = .node ref ∧ mid.isBound ref.id

/-- The name of the node that the expression gets. -/
def name (call : AnonymousCall) (cs : ChildList) (mid : Repository) : String :=
  mid.expressionName call.scope call.definition.nodeClass cs

/-- The call reports that the node was bound to another definition at `first`. It gives the node,
unless reporting fails. -/
def Refused (call : AnonymousCall) (mid : Repository) (id : NodeId) (first : Location) : Prop :=
  (call.outcome, call.after) =
    (Repository.addError (.nodeRedefined (mid.nameInMessage id) call.location first)
      mid.frames >>= fun _ => pure id).exec mid

/-- What comes of it when an expression gets the node: it is attached, or found there, or another
definition is. -/
inductive Ends (call : AnonymousCall) (cs : ChildList) (mid : Repository) (id : NodeId) : Prop
  | attached {b : Binding} : mid.bindingOf? id = none → call.outcome = .ok id →
      call.after.bindingOf? id = some b → b.Expresses call.definition.nodeClass cs →
      Ends call cs mid id
  | found {b : Binding} : mid.bindingOf? id = some b → b.Expresses call.definition.nodeClass cs →
      (call.outcome, call.after) = (.ok id, mid) → Ends call cs mid id
  | refused {b : Binding} : mid.bindingOf? id = some b →
      ¬b.Expresses call.definition.nodeClass cs → call.Refused mid id b.boundAt →
      Ends call cs mid id

end AnonymousCall

namespace AnonymousCall

open Repository

variable {call : AnonymousCall} {cs : ChildList} {mid : Repository} {id : NodeId}

/-- A report is recorded, or it fails. -/
theorem Refused.longer {first : Location} (h : call.Refused mid id first)
    (given : call.outcome = .ok id) : mid.errors.length < call.after.errors.length := by
  rw [Refused] at h
  let d := Diagnostic.nodeRedefined (mid.nameInMessage id) call.location first
  cases testing : mid.options.testing with
  | true =>
    have failed := exec_addError d mid.frames mid
    rw [if_pos testing] at failed
    rw [exec_bind_of_error failed, given] at h
    cases (Prod.mk.inj h).1
  | false =>
    have longer := lt_errors_addError d mid.frames testing
    rw [exec_bind] at h
    rcases reported : (addError d mid.frames).exec mid with ⟨_ | _, r⟩ <;>
      rw [reported] at h longer <;> obtain ⟨_, left⟩ := Prod.mk.inj h <;> rwa [left]

theorem Ends.gives (h : call.Ends cs mid id) : call.outcome = .ok id ∨
    ∃ b, mid.bindingOf? id = some b ∧ call.Refused mid id b.boundAt := by
  cases h with
  | attached _ given => exact .inl given
  | found _ _ ran => exact .inl (Prod.mk.inj ran).1
  | refused known _ refused => exact .inr ⟨_, known, refused⟩

/-- Unless it is reported that the node has another definition, it has that of the expression. -/
theorem Ends.expresses (h : call.Ends cs mid id) (given : call.outcome = .ok id)
    (quiet : call.after.errors = mid.errors) :
    ∃ b, call.after.bindingOf? id = some b ∧ b.Expresses call.definition.nodeClass cs := by
  cases h with
  | attached _ _ known expresses => exact ⟨_, known, expresses⟩
  | found known expresses ran => exact ⟨_, (Prod.mk.inj ran).2 ▸ known, expresses⟩
  | refused _ _ refused =>
    have longer := refused.longer given
    rw [quiet] at longer
    exact absurd longer (Nat.lt_irrefl _)

/-- A node with the definition of an expression is found by the same expression, and refused to
others. -/
theorem Ends.compare {b : Binding} {c : NodeClass} {cs' : ChildList} (h : call.Ends cs mid id)
    (known : mid.bindingOf? id = some b) (expresses : b.Expresses c cs')
    (resolved : cs.resolved = cs'.resolved) :
    (call.definition.nodeClass.fullName = c.fullName ∧ cs = cs' →
        (call.outcome, call.after) = (.ok id, mid)) ∧
      (¬(call.definition.nodeClass.fullName = c.fullName ∧ cs = cs') →
        call.Refused mid id b.boundAt) := by
  rw [← expresses.iff resolved]
  cases h with
  | attached unbound => cases known.symm.trans unbound
  | found there same ran =>
    cases known.symm.trans there
    exact ⟨fun _ => ran, fun other => absurd same other⟩
  | refused there other refused =>
    cases known.symm.trans there
    exact ⟨fun same => absurd same other, fun _ => refused⟩

end AnonymousCall

namespace AnonymousCall.Expression

open Repository

variable {call : AnonymousCall} {cs : ChildList} {mid r₂ : Repository} {id : NodeId}

theorem cs_filled (h : call.Expression cs mid) : cs.isEmpty = false :=
  (isEmpty_resolveChildren h.resolved).trans h.filled

theorem cs_resolved (h : call.Expression cs mid) : cs.resolved = true := by
  have ran := h.resolved
  generalize call.definition.children = children at ran
  obtain ⟨entries, keyed, resolved⟩ := children
  cases resolved with
  | true =>
    rw [exec_resolveChildren_resolved] at ran
    split at ran <;> cases ran
    rfl
  | false =>
    rw [resolveChildren, if_neg Bool.false_ne_true] at ran
    obtain ⟨es, _, _, given⟩ := exec_bind_ok.mp ran
    cases given
    rfl

theorem stand (h : call.Expression cs mid) :
    ∀ c ∈ cs.members, c = .empty ∨ ∃ ref, c = .node ref :=
  fun c member => (h.bound c member).imp_right fun ⟨ref, same, _⟩ => ⟨ref, same⟩

/-- Attaching the definition is all that is left to do for the node. -/
theorem exec_rest (h : call.Expression cs mid) (id : NodeId) (r₂ : Repository) :
    (anonymousBind call.location id call.definition.nodeClass cs call.definition.steps
        call.definition.record).exec r₂ =
      (attach id (.ofExpression call.definition.nodeClass cs) call.location).exec r₂ := by
  have same : Definition.ofParts call.definition.nodeClass cs
      ⟨[], call.definition.steps.keyed, true⟩ call.definition.record =
        .ofExpression call.definition.nodeClass cs := by
    rw [h.bare, h.unkeyed, Definition.ofParts, OrderedMap.insert, if_pos (beq_self_eq_true _)]
    rfl
  rw [exec_anonymousBind_stepless call.location h.stepless, same]

/-- How the bind of an expression comes out, when the node is taken. -/
theorem ends (h : call.Expression cs mid)
    (taken : mid.anonymousNode call.scope call.definition.nodeClass cs call.location = (id, r₂)) :
    call.Ends cs mid id := by
  have ran := call.ran.symm.trans (exec_defineAnonymous call.location call.scope h.resolved taken)
  rw [anonymousNode_filled h.cs_filled] at taken
  obtain ⟨n, here, named⟩ := named_getOrCreate taken
  have rest := h.exec_rest id r₂
  cases bound : n.binding with
  | none =>
    have unbound : mid.bindingOf? id = none := by
      rcases getOrCreate_cases taken with ⟨_, rfl⟩ | ⟨_, gone, _⟩
      · rw [bindingOf?_of_get? here, bound]
      · rw [bindingOf?, gone]
        rfl
    rw [exec_attach_unbound _ _ here bound] at rest
    rw [exec_bind_of_ok (exec_recording_of_ok rest), exec_pure] at ran
    obtain ⟨given, left⟩ := Prod.mk.inj ran
    let b := r₂.newBinding (.ofExpression call.definition.nodeClass cs) call.location
    refine .attached (b := b) unbound given ?_ ⟨rfl, rfl, rfl, rfl, rfl⟩
    rw [left, bindingOf?_noteClass, bindingOf?_relink, if_pos rfl, here]
    rfl
  | some b =>
    obtain rfl : r₂ = mid := by
      rcases getOrCreate_cases taken with ⟨_, same⟩ | ⟨_, _, unbound⟩
      · exact same
      · rw [bindingOf?_of_get? here, bound] at unbound
        cases unbound
    have known : r₂.bindingOf? id = some b := by rw [bindingOf?_of_get? here, bound]
    have same := sameBinding_iff (b := b) (c := call.definition.nodeClass) h.stand
    rw [exec_attach_bound _ _ here bound] at rest
    split at rest <;> rename_i equal
    · exact .found known (same.mp equal)
        (ran.trans (exec_bind_of_ok (exec_recording_of_ok rest)))
    · refine .refused known (fun expresses => equal (same.mpr expresses)) (ran.trans ?_)
      rw [exec_bind, exec_recording, rest, exec_bind, nameInMessage, nameOf?, here]
      rfl

theorem comes (h : call.Expression cs mid) : ∃ id,
    (mid.DistinctNames → ∀ {other n}, mid.get? other = some n →
      (id = other ↔ n.name = call.name cs mid)) ∧
    (∃ n, call.after.get? id = some n ∧ n.name = call.name cs mid) ∧
    (∀ other, call.outcome = .ok other → other = id) ∧ call.Ends cs mid id ∧
    Steps .none mid call.after := by
  rcases taken : mid.anonymousNode call.scope call.definition.nodeClass cs call.location
    with ⟨id, r₂⟩
  have ends := h.ends taken
  have ran := exec_defineAnonymous call.location call.scope h.resolved taken
  have second := (steps_anonymousNode (p := .none) mid call.scope call.definition.nodeClass cs
    call.location).1
  rw [call.ran] at ran
  rw [taken] at second
  rw [anonymousNode_filled h.cs_filled] at taken
  obtain ⟨n, here, named⟩ := named_getOrCreate taken
  have fits : Promise.none.Fits mid cs.members :=
    (leads_resolveChildren (p := .none) call.location call.scope _ _ False.elim).value h.resolved
  have rest := leads_anonymousRest call.location (fits.mono second.extends) id
    call.definition.nodeClass call.definition.steps call.definition.record
  have third := rest.steps ran.symm
  obtain ⟨n', here', grows⟩ := Steps.grows third here
  exact ⟨id, fun names _ _ live => getOrCreate_eq_iff names taken live,
    ⟨n', here', grows.name.trans named⟩, fun other given => rest.value (given ▸ ran.symm), ends,
    second.trans third⟩

theorem steps {p : Promise} (h : call.Expression cs mid)
    (given : Allocates p call.before call.definition.children.takenRefs) :
    Steps p call.before mid :=
  (leads_resolveChildren call.location call.scope _ _ given).steps h.resolved

theorem names {allowed : Repository → Operation → Prop} (h : call.Expression cs mid)
    (made : call.InRun allowed) : mid.DistinctNames ∧ mid.Qualified := by
  obtain ⟨r, op, reached, _, makes⟩ := made
  have steps : Steps .none r mid :=
    makes.serves.deeds.steps.trans (h.steps (p := .none) False.elim)
  refine ⟨?_, steps.qualified reached.consistent.qualified⟩
  intro _ _ _ _ here here' same
  exact Steps.names steps reached.names here here' same

/-- In a run with well bracketed names, a call that is on the way finds such names. -/
theorem wellBracketed (h : call.Expression cs mid) (made : call.InRun fun _ op => op.Bracketing) :
    mid.WellBracketed ∧ Flat (Text.lowercase call.definition.nodeClass.name) := by
  obtain ⟨r, op, reached, bracketing, makes⟩ := made
  obtain ⟨deeds, given, within⟩ := makes.serves
  obtain ⟨member, inner⟩ := List.cons_subset.mp given
  rw [Definition.inner_eq, List.append_subset] at inner
  have more : Deeds op call.before mid :=
    (deeds_resolveChildren call.location _ _ _ inner.1 within).steps h.resolved
  exact ⟨Deeds.wellBracketed (deeds.trans more) bracketing reached.wellBracketed,
    bracketing.classes _ member⟩

theorem bound_nodeIds (h : call.Expression cs mid) : ∀ id ∈ cs.nodeIds, mid.isBound id := by
  intro id member
  rw [ChildList.nodeIds_eq, Child.mem_nodeIds] at member
  obtain ⟨ref, member, rfl⟩ := member
  rcases h.bound _ member with empty | ⟨ref', same, bound⟩
  · cases empty
  · cases same
    exact bound

/-- Children that are still there have the names that they had. -/
theorem sameHeads (h : call.Expression cs mid) {mid' : Repository}
    (changes : Changes .none mid mid') (live : ∀ id ∈ cs.nodeIds, mid'.isLive id) :
    SameHeads mid mid' cs := by
  intro e inside
  cases number : e.child.nodeId? with
  | none => rfl
  | some id =>
    have member : id ∈ cs.nodeIds := List.mem_filterMap.mpr ⟨e, inside, number⟩
    obtain ⟨n', here'⟩ := isLive_iff.mp (live id member)
    have before := lt_of_isLive (isLive_of_isBound (h.bound_nodeIds id member))
    obtain ⟨n, here, named⟩ := changes.sameName before here'
    rw [Option.bind_some, Option.bind_some, here, here', Option.map_some, Option.map_some,
      named.basename, named.quals]

end AnonymousCall.Expression

/-! ## 3. Two expressions -/

/-- The calls bind expressions, the second one after the first one, which got the node `id`. The
second one gets the node `id'`. -/
structure AnonymousCall.Compares (first second : AnonymousCall) (cs cs' : ChildList)
    (mid mid' : Repository) (id id' : NodeId) : Prop where
  /-- The second one gives its node, or reports that it has another definition. -/
  gives : second.outcome = .ok id' ∨
    ∃ b, mid'.bindingOf? id' = some b ∧ second.Refused mid' id' b.boundAt
  /-- The nodes are the same exactly if their names are. -/
  named : id' = id ↔ second.name cs' mid' = first.name cs mid
  /-- They are the same if the expressions are. -/
  repeated : second.definition.nodeClass = first.definition.nodeClass → cs' = cs → id' = id
  /-- A name is made of the class in lower case, the basenames of the children and the text of
  their merged qualifiers. Well bracketed names are the same only if all of these are. -/
  told : first.InRun (fun _ op => op.Bracketing) → second.InRun (fun _ op => op.Bracketing) →
    (id' = id ↔
      Text.lowercase second.definition.nodeClass.name =
          Text.lowercase first.definition.nodeClass.name ∧
        mid'.childBasenames cs' = mid.childBasenames cs ∧
        qualifyName "" (mid'.mergedQuals cs') = qualifyName "" (mid.mergedQuals cs))
  /-- Nodes without qualifiers are told apart. -/
  apart : first.InRun (fun _ op => op.Bracketing) → second.InRun (fun _ op => op.Bracketing) →
    mid'.Unqualified cs → mid'.Unqualified cs' →
      (id' = id ↔
        Text.lowercase second.definition.nodeClass.name =
            Text.lowercase first.definition.nodeClass.name ∧
          cs'.nodeIds = cs.nodeIds)
  /-- If the node has kept the definition that the first one left it with, it is found to be the
  same by the same expressions, and is reported by others. -/
  kept : first.after.errors = mid.errors →
    second.before.bindingOf? id = first.after.bindingOf? id → id' = id →
      (second.definition.nodeClass.fullName = first.definition.nodeClass.fullName ∧ cs' = cs →
        (second.outcome, second.after) = (.ok id, mid')) ∧
      (¬(second.definition.nodeClass.fullName = first.definition.nodeClass.fullName ∧ cs' = cs) →
        ∃ b, first.after.bindingOf? id = some b ∧ second.Refused mid' id b.boundAt)

section

open Repository

variable {first second : AnonymousCall} {cs cs' : ChildList} {mid mid' : Repository} {id : NodeId}

/-- What the names of two expressions in one scope tell apart. -/
theorem AnonymousCall.Expression.name_eq_iff (expression : first.Expression cs mid)
    (expression' : second.Expression cs' mid') (scopes : second.scope = first.scope)
    (outer : mid'.scopeName? first.scope = mid.scopeName? first.scope)
    (inRun : first.InRun fun _ op => op.Bracketing)
    (inRun' : second.InRun fun _ op => op.Bracketing) :
    second.name cs' mid' = first.name cs mid ↔
      Text.lowercase second.definition.nodeClass.name =
          Text.lowercase first.definition.nodeClass.name ∧
        mid'.childBasenames cs' = mid.childBasenames cs ∧
        qualifyName "" (mid'.mergedQuals cs') = qualifyName "" (mid.mergedQuals cs) := by
  obtain ⟨bracketed, flat⟩ := expression.wellBracketed inRun
  obtain ⟨bracketed', flat'⟩ := expression'.wellBracketed inRun'
  rw [AnonymousCall.name, AnonymousCall.name, scopes]
  refine expressionName_inj bracketed bracketed' ?_ flat flat' expression.cs_filled
    expression'.cs_filled
  unfold scopePrefix
  rw [outer]

/-- As long as the node of an expression is there, it has the name of the expression. -/
theorem AnonymousCall.Expression.named_later (expression : first.Expression cs mid)
    (given : first.outcome = .ok id) {r : Repository} (later : Changes .none first.after r) {n : Node}
    (here : r.get? id = some n) : n.name = first.name cs mid := by
  obtain ⟨_, _, ⟨n₁, here₁, named₁⟩, given₁, _, _⟩ := expression.comes
  obtain rfl := given₁ id given
  obtain ⟨n₂, here₂, same⟩ := later.sameName (lt_of_isLive (isLive_iff.mpr ⟨n₁, here₁⟩)) here
  cases here₁.symm.trans here₂
  exact same.name.trans named₁

/-- A second expression is bound in the scope of a first one, whose node is still there. -/
theorem expressions_apart (made : second.InRun fun _ _ => True)
    (expression : first.Expression cs mid) (expression' : second.Expression cs' mid')
    (scopes : second.scope = first.scope) (inside : first.scope.index < first.before.scopes.size)
    (given : first.outcome = .ok id) (later : Changes .none first.after second.before)
    (live : second.before.isLive id) : ∃ id', first.Compares second cs cs' mid mid' id id' := by
  obtain ⟨_, _, _, given₁, ends, onward⟩ := expression.comes
  obtain rfl := given₁ id given
  obtain ⟨id', found, _, _, ends', _⟩ := expression'.comes
  have resolving : Steps .none second.before mid' := expression'.steps (p := .none) False.elim
  have later' : Changes .none first.after mid' := later.trans (Steps.changes resolving)
  have changes : Changes .none mid mid' := (Steps.changes onward).trans later'
  obtain ⟨names, qualified⟩ := expression'.names made
  have named : id' = id ↔ second.name cs' mid' = first.name cs mid := by
    obtain ⟨n, here⟩ := isLive_iff.mp live
    obtain ⟨n', here', _⟩ := Steps.grows resolving here
    rw [found names here', expression.named_later given later' here', eq_comm]
  have outer : mid'.scopeName? first.scope = mid.scopeName? first.scope := by
    have started : Changes .none first.before mid :=
      Steps.changes (expression.steps (p := .none) False.elim)
    rw [started.scopeName? inside, Changes.scopeName? (started.trans changes) inside]
  have told (inRun : first.InRun fun _ op => op.Bracketing)
      (inRun' : second.InRun fun _ op => op.Bracketing) :=
    named.trans (expression.name_eq_iff expression' scopes outer inRun inRun')
  refine ⟨id', ends'.gives, named, ?_, told, ?_, ?_⟩
  · rintro classes rfl
    have heads := expression.sameHeads changes fun id member =>
      isLive_of_isBound (expression'.bound_nodeIds id member)
    rw [named, AnonymousCall.name, AnonymousCall.name, classes, scopes]
    exact expressionName_congr _ outer heads
  · intro inRun inRun' plain plain'
    have heads := expression.sameHeads changes plain.isLive
    rw [told inRun inRun', ← heads.childBasenames, ← heads.mergedQuals, plain.mergedQuals,
      plain'.mergedQuals, plain.childBasenames_eq_iff plain' names qualified]
    simp only [and_true]
  · rintro quiet unaltered rfl
    obtain ⟨b, known, expresses⟩ := ends.expresses given quiet
    obtain ⟨b', known', more⟩ := Steps.binding
      (expression'.steps (allocates_binding _)) (unaltered.trans known)
    have children := expression'.cs_resolved.trans expression.cs_resolved.symm
    obtain ⟨found, refused⟩ := ends'.compare known' (expresses.grows more) children
    refine ⟨found, fun other => ⟨b, known, ?_⟩⟩
    rw [← more.boundAt]
    exact refused other

end

namespace Repository

/-- A definition with nodes for children. -/
def overNodes (c : NodeClass) (ids : List NodeId) : Definition :=
  .ofParts c (.positional (ids.map (start ⟨0⟩ {}).child)) .nil []

theorem expression_overNodes {r : Repository} (own : r.id = ⟨0⟩) {ids : List NodeId}
    (filled : ids ≠ []) (bound : ∀ id ∈ ids, r.isBound id) (location : Location) (scope : ScopeId)
    (c : NodeClass) : AnonymousCall.Expression ⟨location, scope, overNodes c ids, r⟩
      ⟨Entry.numbered 0 (ids.map (start ⟨0⟩ {}).child), false, true⟩ r := by
  have members : ∀ c ∈ (Entry.numbered 0 (ids.map (start ⟨0⟩ {}).child)).map (·.child),
      ∃ id ∈ ids, c = .node ⟨⟨0⟩, id⟩ := by
    intro c member
    rw [Entry.child_numbered] at member
    obtain ⟨id, inside, rfl⟩ := List.mem_map.mp member
    exact ⟨id, inside, rfl⟩
  have settled : ∀ e ∈ Entry.numbered 0 (ids.map (start ⟨0⟩ {}).child), r.Settled e.child := by
    intro e inside
    obtain ⟨id, given, same⟩ := members e.child (List.mem_map_of_mem inside)
    refine .inr ⟨id, ?_, isLive_of_isBound (bound id given)⟩
    rw [same, child, own]
  refine ⟨?_, rfl, rfl, rfl, exec_resolveChildren_settled location scope settled, ?_⟩
  · cases ids with
    | nil => exact absurd rfl filled
    | cons => rfl
  · intro c member
    obtain ⟨id, given, same⟩ := members c member
    exact .inr ⟨_, same, bound id given⟩

/-- Leaves of these names, bound one after the other. -/
def boundLeaves (named : List (String × Qualifiers)) : Repository :=
  (start ⟨0⟩ {}).afterAll (named.zipIdx.flatMap fun ((basename, quals), i) =>
    [.qualify basename .root quals default,
      .bind ⟨i⟩ (.ok (.pending (.bare (.standard "Leaf")))) default])

/-- An expression over leaves. -/
def firstSum (named : List (String × Qualifiers)) (c : NodeClass) (ids : List NodeId) :
    AnonymousCall :=
  ⟨⟨"trees.rs", 1, 5⟩, .root, overNodes c ids, boundLeaves named⟩

/-- An expression that is bound some operations later. -/
def secondSum (first : AnonymousCall) (between : List Operation) (c : NodeClass)
    (ids : List NodeId) : AnonymousCall :=
  ⟨⟨"trees.rs", 2, 5⟩, .root, overNodes c ids, first.after.afterAll between⟩

theorem id_afterAll (r : Repository) (ops : List Operation) : (r.afterAll ops).id = r.id :=
  (Steps.extends (steps_afterAll r ops)).id

theorem after_bindAnonymous (location : Location) (scope : ScopeId) (d : Definition)
    (r : Repository) : Operation.after (.bindAnonymous scope (.pending d) location) r =
      (⟨location, scope, d, r⟩ : AnonymousCall).after := by
  have ran := AnonymousCall.ran ⟨location, scope, d, r⟩
  show (exec (defineAnonymous location scope d >>= fun _ => pure ()) r).2 = _
  rw [exec_bind]
  dsimp only at ran
  rw [ran]
  cases AnonymousCall.outcome ⟨location, scope, d, r⟩ <;> rfl

theorem inRun_anonymous {allowed : Repository → Operation → Prop} {location : Location}
    {scope : ScopeId} {d : Definition} {r : Repository} (reached : Reachable allowed r)
    (allow : allowed r (.bindAnonymous scope (.pending d) location)) :
    AnonymousCall.InRun allowed ⟨location, scope, d, r⟩ :=
  ⟨r, _, reached, allow, .anonymous rfl (.own scope d r)⟩

section

variable {allowed : Repository → Operation → Prop} (named : List (String × Qualifiers))
variable (between : List Operation) (c c' : NodeClass) (ids ids' : List NodeId)

/-- Both expressions are bound in one run. -/
theorem inRun_sums (leaves : Reachable allowed (boundLeaves named))
    (fine : ∀ op ∈ between, ∀ r, allowed r op)
    (binds : ∀ c₀ ∈ [c, c'], ∀ ids location r,
      allowed r (.bindAnonymous .root (.pending (overNodes c₀ ids)) location)) :
    (firstSum named c ids).InRun allowed ∧
      (secondSum (firstSum named c ids) between c' ids').InRun allowed ∧
      LeadsTo allowed (firstSum named c ids).after
        (secondSum (firstSum named c ids) between c' ids').before := by
  have onward := (LeadsTo.refl _).afterAll (allowsAll_of_forall fine (firstSum named c ids).after)
  have reached : Reachable allowed (firstSum named c ids).after := by
    rw [firstSum, ← after_bindAnonymous]
    exact leaves.trans (.operation _ (.refl _) (binds c (by simp) ..))
  exact ⟨inRun_anonymous leaves (binds c (by simp) ..),
    inRun_anonymous (reached.trans onward) (binds c' (by simp) ..), onward⟩

theorem expression_firstSum (filled : ids ≠ [])
    (bound : ∀ id ∈ ids, (boundLeaves named).isBound id) :
    (firstSum named c ids).Expression
      ⟨Entry.numbered 0 (ids.map (start ⟨0⟩ {}).child), false, true⟩ (boundLeaves named) :=
  expression_overNodes (id_afterAll _ _) filled bound _ _ c

theorem expression_secondSum (filled : ids' ≠ [])
    (bound : ∀ id ∈ ids', ((firstSum named c ids).after.afterAll between).isBound id) :
    (secondSum (firstSum named c ids) between c' ids').Expression
      ⟨Entry.numbered 0 (ids'.map (start ⟨0⟩ {}).child), false, true⟩
      ((firstSum named c ids).after.afterAll between) := by
  have own : ((firstSum named c ids).after.afterAll between).id = ⟨0⟩ := by
    rw [id_afterAll, firstSum, ← after_bindAnonymous, (Operation.extends_after _ _).id]
    exact id_afterAll _ _
  exact expression_overNodes own filled bound _ _ c'

end

theorem reachable_boundLeaves {named : List (String × Qualifiers)}
    (bracketed : ∀ leaf ∈ named, Bracketed leaf.1) :
    Reachable (fun _ op => op.Bracketing) (boundLeaves named) := by
  refine ⟨⟨0⟩, {}, (LeadsTo.refl _).afterAll (allowsAll_of_forall (fun op member _ => ?_) _)⟩
  obtain ⟨⟨leaf, i⟩, inside, member⟩ := List.mem_flatMap.mp member
  have text := bracketed leaf (List.fst_mem_of_mem_zipIdx inside)
  rcases List.mem_cons.mp member with rfl | member
  · exact ⟨fun _ given => Option.some.inj given ▸ text, nofun⟩
  · obtain rfl := List.mem_singleton.mp member
    refine ⟨nofun, fun d given => ?_⟩
    obtain rfl : d = .bare (.standard "Leaf") := List.mem_singleton.mp given
    decide +kernel

theorem bracketing_overNodes {c : NodeClass} (flat : Flat (Text.lowercase c.name))
    (ids : List NodeId) (location : Location) :
    (Operation.bindAnonymous .root (.pending (overNodes c ids)) location).Bracketing := by
  refine ⟨nofun, fun d given => ?_⟩
  have inner : (overNodes c ids).inner = [] := by
    rw [Definition.inner_eq, overNodes, Definition.ofParts, ChildList.definitions_positional]
    simp [Repository.child, Child.definitions, ChildList.nil, ChildList.definitions,
      Entry.allDefinitions]
  have only : d ∈ overNodes c ids :: (overNodes c ids).inner := given
  rw [inner] at only
  obtain rfl := List.mem_singleton.mp only
  exact flat

/-- The sums of two leaves in either order get nodes of their own. -/
theorem expressions_apart_swapped :
    ∃ (first second : AnonymousCall) (cs cs' : ChildList) (mid mid' : Repository)
      (id id' : NodeId), second.InRun (fun _ _ => True) ∧
      first.Expression cs mid ∧ second.Expression cs' mid' ∧ second.scope = first.scope ∧
      first.scope.index < first.before.scopes.size ∧ first.outcome = .ok id ∧
      Changes .none first.after second.before ∧ second.before.isLive id ∧
      first.Compares second cs cs' mid mid' id id' ∧ id' ≠ id := by
  let named : List (String × Qualifiers) := [("x", .empty), ("y", .empty)]
  let add := NodeClass.standard "Add"
  let first := firstSum named add [⟨0⟩, ⟨1⟩]
  let second := secondSum first [] add [⟨1⟩, ⟨0⟩]
  have leaves : Reachable (fun _ op => op.Bracketing) (boundLeaves named) :=
    reachable_boundLeaves (by decide +kernel)
  have flat : Flat (Text.lowercase add.name) := by decide +kernel
  obtain ⟨inRun, inRun', later⟩ := inRun_sums named [] add add [⟨0⟩, ⟨1⟩] [⟨1⟩, ⟨0⟩] leaves nofun
    fun c member ids location _ => by
      obtain rfl : c = add := by simpa using member
      exact bracketing_overNodes flat ids location
  have expression := expression_firstSum named add [⟨0⟩, ⟨1⟩] (by decide) (by decide +kernel)
  have expression' := expression_secondSum named [] add add [⟨0⟩, ⟨1⟩] [⟨1⟩, ⟨0⟩] (by decide)
    (by decide +kernel)
  have given : first.outcome = .ok ⟨2⟩ := by decide +kernel
  have inside : first.scope.index < first.before.scopes.size := by decide +kernel
  have live : second.before.isLive ⟨2⟩ := by decide +kernel
  have onward : Changes .none first.after second.before :=
    later.changes fun r op _ => Promise.allows_none r op
  have made : second.InRun fun _ _ => True := inRun'.mono fun _ _ _ => trivial
  obtain ⟨id', compares⟩ :=
    expressions_apart made expression expression' rfl inside given onward live
  refine ⟨first, second, _, _, _, _, ⟨2⟩, id', made, expression, expression', rfl, inside, given,
    onward, live, compares, fun same => ?_⟩
  obtain ⟨_, basenames, _⟩ := (compares.told inRun inRun').mp same
  revert basenames
  decide +kernel

/-- The expressions are bound in one scope, get the same node, and the second one is refused because
of the first one. -/
structure Clash (first second : AnonymousCall) : Prop where
  made : first.InRun fun _ _ => True
  made' : second.InRun fun _ _ => True
  later : LeadsTo (fun _ _ => True) first.after second.before
  expression : ∃ cs mid, first.Expression cs mid
  expression' : ∃ cs mid, second.Expression cs mid
  scopes : second.scope = first.scope
  refused : ∃ id name, first.outcome = .ok id ∧ second.outcome = .ok id ∧ first.after.errors = [] ∧
    second.after.errors.head? = some (.nodeRedefined name second.location first.location)

/-- The two expressions over these leaves clash. -/
def SumsClash (named : List (String × Qualifiers)) (c : NodeClass) (ids : List NodeId)
    (between : List Operation) (c' : NodeClass) (ids' : List NodeId) : Prop :=
  Clash (firstSum named c ids) (secondSum (firstSum named c ids) between c' ids')

theorem sumsClash_of_refused {named : List (String × Qualifiers)} {between : List Operation}
    {c c' : NodeClass} {ids ids' : List NodeId} (id : NodeId) (name : String) (filled : ids ≠ [])
    (filled' : ids' ≠ []) (bound : ∀ id ∈ ids, (boundLeaves named).isBound id)
    (bound' : ∀ id ∈ ids', ((firstSum named c ids).after.afterAll between).isBound id)
    (given : (firstSum named c ids).outcome = .ok id)
    (given' : (secondSum (firstSum named c ids) between c' ids').outcome = .ok id)
    (quiet : (firstSum named c ids).after.errors = [])
    (refused : (secondSum (firstSum named c ids) between c' ids').after.errors.head? =
      some (.nodeRedefined name ⟨"trees.rs", 2, 5⟩ ⟨"trees.rs", 1, 5⟩)) :
    SumsClash named c ids between c' ids' := by
  have leaves : Reachable (fun _ _ => True) (boundLeaves named) :=
    ⟨⟨0⟩, {}, (LeadsTo.refl _).afterAll (allowsAll_of_forall (fun _ _ _ => trivial) _)⟩
  obtain ⟨made, made', later⟩ := inRun_sums named between c c' ids ids' leaves
    (fun _ _ _ => trivial) fun _ _ _ _ _ => trivial
  exact ⟨made, made', later, ⟨_, _, expression_firstSum named c ids filled bound⟩,
    ⟨_, _, expression_secondSum named between c c' ids ids' filled' bound'⟩, rfl, id, name, given,
    given', quiet, refused⟩

/-- Expressions that get the same node without being the same, and one that does not find its node
as it left it:

* the same qualifier at different children;
* different children whose names make the same list;
* classes that are the same in lower case;
* a node that has got another child since. -/
theorem not_expressions_apart :
    let add := NodeClass.standard "Add"
    let negate := NodeClass.standard "Negate"
    let one := Qualifiers.empty.withPositional "1"
    SumsClash [("x", .empty), ("x", one), ("y", .empty), ("y", one)] add [⟨1⟩, ⟨2⟩] []
        add [⟨0⟩, ⟨3⟩] ∧
      SumsClash [("a,b", .empty), ("c", .empty), ("a", .empty), ("b,c", .empty)] add [⟨0⟩, ⟨1⟩] []
        add [⟨2⟩, ⟨3⟩] ∧
      SumsClash [("x", .empty)] negate [⟨0⟩] [] (.standard "NEGATE") [⟨0⟩] ∧
      SumsClash [("x", .empty), ("y", .empty)] negate [⟨0⟩]
        [.extend .child ⟨2⟩ [.node ⟨⟨0⟩, ⟨1⟩⟩] default] negate [⟨0⟩] := by
  refine ⟨sumsClash_of_refused ⟨4⟩ "add(x,y):1" ?_ ?_ ?_ ?_ ?_ ?_ ?_ ?_,
    sumsClash_of_refused ⟨4⟩ "add(a,b,c)" ?_ ?_ ?_ ?_ ?_ ?_ ?_ ?_,
    sumsClash_of_refused ⟨1⟩ "negate(x)" ?_ ?_ ?_ ?_ ?_ ?_ ?_ ?_,
    sumsClash_of_refused ⟨2⟩ "negate(x)" ?_ ?_ ?_ ?_ ?_ ?_ ?_ ?_⟩
  all_goals decide +kernel

end Repository

end NodeForest

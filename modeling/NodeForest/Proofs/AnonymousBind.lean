import NodeForest.Proofs.GeneratedName
import NodeForest.Proofs.Outcomes
import NodeForest.Proofs.Repetition

/-!
# What anonymous binds record

An anonymous bind has two ways to fail. What is wrong with its children is returned; what is wrong
afterwards, with the step-children or because the generated name is that of a node bound to another
definition, is recorded, and the bind goes on. When nothing is recorded, a node that is given is
bound to the definition. Without step-children only the second reason to record is left: that a
generated name is taken.

Results:
1. `Stepless`, `NameTaken`: definitions without step-children, and what is left to record for them.
2. `Records`: a change that records diagnostics of one kind only.
3. `records_resolveChildren`, `records_defineAnonymous`: the recursion.
4. `boundTo_of_defineAnonymous`: the node that is given when nothing is recorded.
5. `anonymous_bind_records`: both together; `not_anonymous_bind_returns_missingStep`: a failure that
   is not returned.
-/

namespace NodeForest

open Relation NodeForest.Action

/-! ## 1. Definitions without step-children -/

/-- None of the definitions has step-children. -/
def Stepless (ds : List Definition) : Prop :=
  ∀ d ∈ ds, d.steps.isEmpty

/-- The diagnostic says that the name generated for one of the definitions is that of a node bound
to another one. -/
def NameTaken (location : Location) (ds : List Definition) (e : Diagnostic) : Prop :=
  ∃ d ∈ ds, ∃ name first, d.GoesBy name ∧ e = .nodeRedefined name location first

namespace Repository

variable {kind : Diagnostic → Prop} {r r' r'' : Repository}

/-! ## 2. What is recorded -/

/-- Diagnostics of the given kind are recorded, each with its trail, and nothing else. -/
def Records (kind : Diagnostic → Prop) (r r' : Repository) : Prop :=
  r'.options = r.options ∧ ∃ found : List Finding,
    r'.errors = r.errors ++ found.flatMap (·.recorded r.options) ∧
      ∀ f ∈ found, kind f.diagnostic

namespace Records

theorem of_eq (options : r'.options = r.options) (errors : r'.errors = r.errors) :
    Records kind r r' :=
  ⟨options, [], by simp [errors], nofun⟩

theorem trans (h : Records kind r r') (h' : Records kind r' r'') : Records kind r r'' := by
  obtain ⟨options, found, errors, kinds⟩ := h
  obtain ⟨options', found', errors', kinds'⟩ := h'
  refine ⟨options'.trans options, found ++ found', ?_, fun f member => ?_⟩
  · rw [errors', errors, options, List.flatMap_append, List.append_assoc]
  · exact (List.mem_append.mp member).elim (kinds f) (kinds' f)

theorem of_steps (h : ReflTransGen (Records kind) r r') : Records kind r r' := by
  induction h with
  | refl => exact .of_eq rfl rfl
  | tail _ step ih => exact ih.trans step

end Records

theorem records_addError {e : Diagnostic} (expected : kind e) (trail : List Location)
    (r : Repository) : Records kind r ((addError e trail).exec r).2 := by
  rw [exec_addError]
  split
  · exact .of_eq rfl rfl
  · refine ⟨rfl, [⟨e, trail⟩], ?_, by simpa using expected⟩
    simp [noting, Finding.recorded]

/-- What an action without records fails with is recorded. -/
theorem records_recording {a : Action Unit} {r₁ : Repository} {x : Except Failure Unit}
    (run : exec a r = (x, r₁)) (options : r₁.options = r.options) (errors : r₁.errors = r.errors)
    (expected : ∀ e, x = .error (.diagnostic e) → kind e) :
    Records kind r (exec (recording a) r).2 := by
  have quiet : Records kind r r₁ := .of_eq options errors
  rw [exec_recording, run]
  rcases x with (e | es | _) | _
  · exact quiet.trans (records_addError (expected e rfl) r₁.frames r₁)
  all_goals exact quiet

/-! ## 3. The recursion -/

section

variable (location : Location)

/-- Nothing is to be done for an empty list. -/
theorem exec_resolveChildren_empty {l : ChildList} (empty : l.isEmpty) (scope : ScopeId)
    (r : Repository) :
    (resolveChildren location scope l).exec r = (.ok ⟨[], l.keyed, true⟩, r) := by
  obtain ⟨entries, keyed, resolved⟩ := l
  obtain rfl : entries = [] := List.isEmpty_iff.mp empty
  cases resolved with
  | true =>
    rw [exec_resolveChildren_resolved]
    rfl
  | false =>
    rw [resolveChildren, if_neg Bool.false_ne_true, resolveEntries]
    rfl

/-- An attachment records nothing, and is only refused where the name of its node is taken. -/
theorem exec_attach_named {id : NodeId} {n : Node} (d : Definition) (here : r.get? id = some n) :
    ∃ x r₁, (attach id d location).exec r = (x, r₁) ∧ r₁.options = r.options ∧
      r₁.errors = r.errors ∧
        ∀ e, x = .error (.diagnostic e) → ∃ first, e = .nodeRedefined n.name location first := by
  cases bound : n.binding with
  | none =>
    obtain ⟨_, _, _, _, attached⟩ := attached_eq r id d.nodeClass.fullName (r.newBinding d location)
      (r.newBinding d location).childIds
    refine ⟨_, _, exec_attach_unbound d location here bound, ?_, ?_, nofun⟩ <;> rw [attached]
  | some b =>
    have ran := exec_attach_bound d location here bound
    split at ran
    · exact ⟨_, _, ran, rfl, rfl, nofun⟩
    · refine ⟨_, _, ran, rfl, rfl, fun e failed => ?_⟩
      cases failed
      exact ⟨_, rfl⟩

/-- Without step-children an anonymous bind, its children being resolved, only attaches. -/
theorem exec_anonymousBind_stepless {steps : ChildList} (stepless : steps.isEmpty) (id : NodeId)
    (c : NodeClass) (cs : ChildList) (record : Record) (r : Repository) :
    (anonymousBind location id c cs steps record).exec r =
      (attach id (.ofParts c cs ⟨[], steps.keyed, true⟩ record) location).exec r := by
  rw [anonymousBind, exec_bind_of_ok (exec_get r),
    exec_bind_of_ok (exec_resolveChildren_empty location stepless _ r)]

/-- The node is given, unless reporting fails. -/
theorem leads_anonymousRest {cs : ChildList} (fits : Promise.none.Fits r cs.members) (id : NodeId)
    (c : NodeClass) (steps : ChildList) (record : Record) :
    Leads (Step .none)
      (recording (anonymousBind location id c cs steps record) >>= fun _ => pure id) r
      fun given _ => given = id :=
  .bind (leads_recording (leads_anonymousBind id c record (fun scope =>
    leads_resolveChildren location scope steps r False.elim) fits)) fun _ _ _ _ => .pure rfl

theorem records_anonymousBind {ds : List Definition} {d : Definition} (inside : d ∈ ds)
    (stepless : d.steps.isEmpty) {id : NodeId} {n : Node} (here : r.get? id = some n)
    (goes : d.GoesBy n.name) (cs : ChildList) :
    Records (NameTaken location ds) r
      (exec (recording (anonymousBind location id d.nodeClass cs d.steps d.record)) r).2 := by
  obtain ⟨x, r₁, ran, options, errors, refused⟩ := exec_attach_named location
    (.ofParts d.nodeClass cs ⟨[], d.steps.keyed, true⟩ d.record) here
  have attached : exec (anonymousBind location id d.nodeClass cs d.steps d.record) r = (x, r₁) := by
    rw [exec_anonymousBind_stepless location stepless, ran]
  refine records_recording attached options errors fun e failed => ?_
  obtain ⟨first, rfl⟩ := refused e failed
  exact ⟨d, inside, n.name, first, goes, rfl⟩

theorem records_anonymousNode (r : Repository) (scope : ScopeId) (nodeClass : NodeClass)
    (cs : ChildList) : Records kind r (r.anonymousNode scope nodeClass cs location).2 :=
  .of_eq (Steps.extends (steps_anonymousNode (p := .none) r scope nodeClass cs location).1).options
    (errors_anonymousNode r scope nodeClass cs location)

theorem records_makeConstant (value : Constant) (r : Repository) :
    Records kind r ((makeConstant value location).exec r).2 := by
  cases known : (OrderedMap.get? r.constants value.key).filter r.isLive with
  | some id =>
    rw [exec_makeConstant_known location known]
    exact .of_eq rfl rfl
  | none =>
    rw [exec_makeConstant_new location known]
    exact .of_eq (by rw [withConstant_eq]) (by rw [withConstant_eq])

end

section

variable {ds : List Definition} (location : Location)

mutual

theorem records_resolveChild (stepless : Stepless ds) (scope : ScopeId) (label : Label) :
    ∀ (c : Child) (r : Repository), c.definitions ⊆ ds →
      Leads (Records (NameTaken location ds)) (resolveChild location scope label c) r
        fun _ _ => True
  | .empty, r, _ => by
    rw [resolveChild]
    exact .pure trivial
  | .node ref, r, _ => by
    rw [Leads, exec_resolveChild_node]
    exact ⟨.refl, fun _ _ => trivial⟩
  | .name name, r, _ => by
    rw [Leads, exec_resolveChild_name]
    exact ⟨.refl, fun _ _ => trivial⟩
  | .constant value, r, _ => by
    rw [resolveChild]
    exact .bind (P := fun _ _ => True)
      ⟨.single (records_makeConstant location value r), fun _ _ => trivial⟩
      fun _ _ _ _ => .get (.pure trivial)
  | .pending d, r, inside => by
    rw [Child.definitions] at inside
    rw [resolveChild]
    exact .bind (records_defineAnonymous stepless scope d r inside)
      fun _ _ _ _ => .get (.pure trivial)
  | .factory _ _, r, _ => by
    rw [resolveChild]
    exact .throw _

theorem records_resolveEntry (stepless : Stepless ds) (scope : ScopeId) :
    ∀ (e : Entry) (r : Repository), e.definitions ⊆ ds →
      Leads (Records (NameTaken location ds)) (resolveEntry location scope e) r fun _ _ => True
  | ⟨label, child⟩, r, inside => by
    rw [Entry.definitions] at inside
    rw [resolveEntry]
    exact .bind (records_resolveChild stepless scope label child r inside)
      fun _ _ _ _ => .pure trivial

theorem records_resolveEntries (stepless : Stepless ds) (scope : ScopeId) :
    ∀ (es : List Entry) (r : Repository), Entry.allDefinitions es ⊆ ds →
      Leads (Records (NameTaken location ds)) (resolveEntries location scope es) r fun _ _ => True
  | [], r, _ => by
    rw [resolveEntries]
    exact .pure trivial
  | e :: rest, r, inside => by
    rw [Entry.allDefinitions, List.append_subset] at inside
    rw [resolveEntries]
    refine .bind (records_resolveEntry stepless scope e r inside.1) fun _ r₁ _ _ => ?_
    exact .bind (records_resolveEntries stepless scope rest r₁ inside.2)
      fun _ _ _ _ => .pure trivial

theorem records_resolveChildren (stepless : Stepless ds) (scope : ScopeId) :
    ∀ (l : ChildList) (r : Repository), l.definitions ⊆ ds →
      Leads (Records (NameTaken location ds)) (resolveChildren location scope l) r fun _ _ => True
  | ⟨entries, keyed, true⟩, r, _ => by
    rw [Leads, exec_resolveChildren_resolved]
    exact ⟨.refl, fun _ _ => trivial⟩
  | ⟨entries, keyed, false⟩, r, inside => by
    rw [ChildList.definitions, if_neg Bool.false_ne_true] at inside
    rw [resolveChildren, if_neg Bool.false_ne_true]
    exact .bind (records_resolveEntries stepless scope entries r inside)
      fun _ _ _ _ => .pure trivial

theorem records_defineAnonymous (stepless : Stepless ds) (scope : ScopeId) :
    ∀ (d : Definition) (r : Repository), d :: d.inner ⊆ ds →
      Leads (Records (NameTaken location ds)) (defineAnonymous location scope d) r
        fun _ _ => True
  | ⟨nodeClass, children, steps, record⟩, r, inside => by
    obtain ⟨member, inner⟩ := List.cons_subset.mp inside
    rw [Definition.inner_eq, List.append_subset] at inner
    rw [defineAnonymous]
    -- Which of the two kinds of names is generated depends on whether there are children.
    refine .bind (P := fun cs _ => cs.isEmpty = children.isEmpty)
      ⟨(records_resolveChildren stepless scope children r inner.1).1,
        fun cs ok => isEmpty_resolveChildren (Prod.ext ok rfl)⟩ fun cs r₁ _ shape => ?_
    have named : Records (NameTaken location ds) r₁ _ :=
      records_anonymousNode location r₁ scope nodeClass cs
    rcases taken : r₁.anonymousNode scope nodeClass cs location with ⟨id, r₂⟩
    rw [taken] at named
    refine .bind (P := fun y r' => id = y ∧ r₂ = r')
      (.modifyGet (.single (by rw [taken]; exact named)) (by rw [taken]; exact ⟨rfl, rfl⟩)) ?_
    rintro _ _ _ ⟨rfl, rfl⟩
    obtain ⟨n, here, goes⟩ := named_anonymousNode
      (d := ⟨nodeClass, children, steps, record⟩) shape taken
    have recorded := records_anonymousBind location member (stepless _ member) here goes cs
    exact .bind (P := fun _ _ => True) ⟨.single recorded, fun _ _ => trivial⟩
      fun _ _ _ _ => .pure trivial

end

end

/-! ## 4. The node that is given -/

/-- The node is the one that is taken for the resolved children, and its binding is the one that the
definition comes to: what its children and step-children are resolved to, and its fields. -/
def BoundTo (location : Location) (scope : ScopeId) (d : Definition) (r r' : Repository)
    (id : NodeId) : Prop :=
  ∃ b cs ss r₁ r₂ r₃, (resolveChildren location scope d.children).exec r = (.ok cs, r₁) ∧
    r₁.anonymousNode scope d.nodeClass cs location = (id, r₂) ∧
    (resolveChildren location (r₂.scopeOf id) d.steps).exec r₂ = (.ok ss, r₃) ∧
    r'.bindingOf? id = some b ∧ sameBinding b cs ss d.record

theorem boundTo_of_defineAnonymous {location : Location} {scope : ScopeId} {d : Definition}
    {id : NodeId} (wellFormed : d.WellFormed)
    (ran : (defineAnonymous location scope d).exec r = (.ok id, r'))
    (quiet : r'.errors = r.errors) : BoundTo location scope d r r' id := by
  obtain ⟨cs, r₁, r₂, run⟩ := exec_defineAnonymous_quiet (allocates_binding _) wellFormed ran quiet
  obtain ⟨ss, r₃, steps, attached⟩ := exec_bind_ok.mp run.rest
  have more : Steps .binding r₂ r₃ :=
    (leads_resolveChildren location _ d.steps r₂ (allocates_binding _)).steps steps
  obtain ⟨b, bound, same⟩ := sameBinding_of_attach (d := { d with children := cs, steps := ss })
    (more.isLive run.live) wellFormed.record
    (wellFormed_resolveChildren wellFormed.children run.children)
    (wellFormed_resolveChildren wellFormed.steps steps) attached
  exact ⟨b, cs, ss, r₁, r₂, r₃, run.children, run.node, steps, bound, same⟩

/-! ## 5. An anonymous bind -/

/-- An anonymous bind that records nothing gives a node that is bound to the definition; after
operations that set no fields of records, at every depth. When no definition in the argument has
step-children, only that the name generated for one of them is taken can be recorded. -/
theorem anonymous_bind_records {scope : ScopeId} {argument : Child} {location : Location}
    {outcome : Except Failure NodeId} (wellFormed : argument.WellFormed)
    (ran : (bindAnonymous scope argument location).exec r = (outcome, r')) :
    (r'.errors = r.errors → ∀ id, outcome = .ok id → ∃ d, argument.definition? = some d ∧
      BoundTo location scope d r r' id ∧
        (Reachable (fun _ op => op.WellFormed ∧ op.LeavesRecords) r → r.phase = .building →
          r'.Represents d id)) ∧
    ((∀ d, argument.definition? = some d → Stepless (d :: d.inner)) →
      ∃ found : List Finding, r'.errors = r.errors ++ found.flatMap (·.recorded r.options) ∧
        ∀ f ∈ found, ∃ d, argument.definition? = some d ∧
          NameTaken location (d :: d.inner) f.diagnostic) := by
  cases denoted : argument.definition? with
  | none =>
    simp only [bindAnonymous, denoted] at ran
    cases ran
    exact ⟨fun _ _ given => (by cases given), fun _ => ⟨[], by simp, by simp⟩⟩
  | some d =>
    simp only [bindAnonymous, denoted] at ran
    refine ⟨?_, fun stepless => ?_⟩
    · rintro quiet id rfl
      have wellFormed := wellFormed_of_definition? denoted wellFormed
      refine ⟨d, rfl, boundTo_of_defineAnonymous wellFormed ran quiet, fun reached building => ?_⟩
      exact represents_defineAnonymous location scope d (reached.sound_binding building) wellFormed
        ran quiet
    · have recorded := records_defineAnonymous location (stepless d rfl) scope d r
        (List.Subset.refl _)
      obtain ⟨_, found, errors, kinds⟩ := Records.of_steps (recorded.steps ran)
      exact ⟨found, errors, fun f member => ⟨d, rfl, kinds f member⟩⟩

theorem anonymous_bind_records_nestedSum :
    nestedSum.WellFormed ∧ (∀ d, nestedSum.definition? = some d → Stepless (d :: d.inner)) ∧
      ∃ id r' d, (bindAnonymous .root nestedSum default).exec (start ⟨0⟩ {}) = (.ok id, r') ∧
        r'.errors = [] ∧ nestedSum.definition? = some d ∧
          BoundTo default .root d (start ⟨0⟩ {}) r' id ∧ r'.Represents d id ∧
          ∃ found : List Finding, r'.errors = found.flatMap (·.recorded {}) ∧
            ∀ f ∈ found, NameTaken default (d :: d.inner) f.diagnostic := by
  have stepless : ∀ d, nestedSum.definition? = some d → Stepless (d :: d.inner) := by
    rintro d ⟨⟩
    unfold Stepless
    decide +kernel
  obtain ⟨id, ran⟩ := exec_of_isOk (r := start ⟨0⟩ {}) (a := bindAnonymous .root nestedSum default)
    (by decide +kernel)
  have quiet : (exec (bindAnonymous .root nestedSum default) (start ⟨0⟩ {})).2.errors = [] := by
    decide +kernel
  obtain ⟨given, only⟩ := anonymous_bind_records wellFormed_nestedSum ran
  obtain ⟨d, denoted, bound, represents⟩ := given quiet id rfl
  obtain ⟨found, errors, taken⟩ := only stepless
  refine ⟨wellFormed_nestedSum, stepless, id, _, d, ran, quiet, denoted, bound,
    represents ⟨⟨0⟩, {}, .refl _⟩ rfl, found, errors, fun f member => ?_⟩
  obtain ⟨d', denoted', named⟩ := taken f member
  cases denoted.symm.trans denoted'
  exact named

/-- A negation of a nested leaf, with a step-child that is not there. -/
def missingStep : Child :=
  .pending (.ofParts (.standard "Negate") (.positional [.pending (.bare (.standard "Leaf"))])
    (.positional [.name "missing"]) [])

/-- The missing step-child is recorded, and the node that is given is not bound. -/
theorem not_anonymous_bind_returns_missingStep :
    (start ⟨0⟩ {}).options.testing = false ∧ missingStep.node? = none ∧
      ∃ id r', (bindAnonymous .root missingStep default).exec (start ⟨0⟩ {}) = (.ok id, r') ∧
        r'.errors = [.childNotFound (.index 0) "missing" default] ∧ r'.isBound id = false := by
  refine ⟨rfl, rfl, ⟨1⟩, ((bindAnonymous .root missingStep default).exec (start ⟨0⟩ {})).2,
    Prod.ext ?_ rfl, ?_, ?_⟩
  all_goals decide +kernel

end Repository

end NodeForest

import NodeForest.Proofs.Rebinding

/-!
# Rebinding to an equal child

A node that can be bound to a child again can be bound to an equal one, with the reservations under
which binding to both comes to the same. That constants have their nodes is none of them for a node
that was bound to the one child before: its bind has made them.

Results:
1. `agrees_bind`: what an accepted bind leaves of its constants.
2. `Repository.Accepts`; `accepts_equal`: equal children, their definitions and their binds;
   `not_accepts_equal`: what bits that keys drop, and lists that count as resolved, do to them.
-/

namespace NodeForest

open Relation NodeForest.Action

namespace Repository

variable {r r' : Repository}

/-! ## 1. What an earlier bind has left -/

section

variable {location : Location} {known : NodeRef → Prop}

/-- The same of the step-children, which are resolved before a definition is attached. -/
theorem agrees_bindRest {scope : ScopeId} {id : NodeId} {d : Definition} {cs ss' : ChildList}
    (wellFormed : d.WellFormed) (fits : Promise.binding.Fits r cs.members)
    (ran : (bindRest location scope id d cs).exec r = (.ok (), r')) (quiet : r'.errors = r.errors)
    (again : ∀ {r₁ l}, (resolveChildren location scope d.steps).exec r = (.ok l, r₁) →
      r₁.errors = r.errors → d.steps.Agrees r₁.Shares known ss') :
    d.steps.Agrees r'.Shares known ss' := by
  obtain ⟨l, r₁, resolved, attached⟩ := exec_bind_ok.mp ran
  have leads := leads_resolveChildren location scope d.steps r (allocates_binding _)
  have first : Steps .binding r r₁ := leads.steps resolved
  have second : Steps .binding r₁ r' :=
    (leads_attach (d := { d with children := cs, steps := l })
      ((fits.mono first.extends).append (leads.value resolved)) fun _ =>
        wellFormed.classKey).steps attached
  have quiet₁ := (first.extends.quiet second.extends quiet).1
  exact (again resolved quiet₁).mono (fun _ => second.shares) fun _ given => given

mutual

/-- Once a child has been resolved without a diagnostic, its constants have their nodes. -/
theorem agrees_resolveChild {scope : ScopeId} {label : Label} :
    ∀ {a b c : Child} {r r' : Repository}, a.WellFormed →
      (resolveChild location scope label a).exec r = (.ok c, r') → r'.errors = r.errors →
        a.Agrees (fun _ => True) known b → a.Agrees r'.Shares known b
  | .constant v, b, c, r, r', _, ran, _, _ => by
    cases b with
    | constant w =>
      rw [resolveChild] at ran
      obtain ⟨id, r₁, made, given⟩ := exec_bind_ok.mp ran
      rw [exec_bind_of_ok (exec_get r₁)] at given
      cases given
      exact .inr ⟨id, shared_makeConstant made⟩
    | _ => trivial
  | .pending d, b, c, r, r', wellFormed, ran, quiet, agrees => by
    cases b with
    | pending d' =>
      rw [resolveChild] at ran
      obtain ⟨id, r₁, made, given⟩ := exec_bind_ok.mp ran
      rw [exec_bind_of_ok (exec_get r₁)] at given
      cases given
      rw [Child.WellFormed] at wellFormed
      rw [Child.Agrees] at agrees ⊢
      exact agrees_defineAnonymous wellFormed made quiet agrees
    | _ => trivial
  | .empty, b, _, _, _, _, _, _, _ | .name _, b, _, _, _, _, _, _, _
  | .node _, b, _, _, _, _, _, _, _ | .factory _ _, b, _, _, _, _, _, _, _ => by
    cases b <;> trivial
termination_by structural a => a

theorem agrees_resolveEntry {scope : ScopeId} :
    ∀ {a b e : Entry} {r r' : Repository}, a.WellFormed →
      (resolveEntry location scope a).exec r = (.ok e, r') → r'.errors = r.errors →
        a.Agrees (fun _ => True) known b → a.Agrees r'.Shares known b
  | ⟨label, c⟩, ⟨label', c'⟩, e, r, r', wellFormed, ran, quiet, agrees => by
    rw [resolveEntry] at ran
    obtain ⟨c'', r₁, resolved, given⟩ := exec_bind_ok.mp ran
    cases given
    rw [Entry.WellFormed] at wellFormed
    rw [Entry.Agrees] at agrees ⊢
    exact agrees_resolveChild wellFormed resolved quiet agrees
termination_by structural a => a

theorem agrees_resolveEntries {scope : ScopeId} :
    ∀ {as bs es : List Entry} {r r' : Repository}, Entry.AllWellFormed as →
      (resolveEntries location scope as).exec r = (.ok es, r') → r'.errors = r.errors →
        Entry.AllAgree (fun _ => True) known as bs → Entry.AllAgree r'.Shares known as bs
  | [], bs, es, r, r', _, _, _, _ => by trivial
  | a :: as, bs, es, r, r', wellFormed, ran, quiet, agrees => by
    cases bs with
    | nil => trivial
    | cons b bs =>
      rw [resolveEntries] at ran
      obtain ⟨e, r₁, head, ran⟩ := exec_bind_ok.mp ran
      obtain ⟨es, r₂, tail, ran⟩ := exec_bind_ok.mp ran
      cases ran
      rw [Entry.AllWellFormed] at wellFormed
      rw [Entry.AllAgree] at agrees ⊢
      have first : Steps .binding r r₁ :=
        (leads_resolveEntry location scope a r (allocates_binding _)).steps head
      have second : Steps .binding r₁ r' :=
        (leads_resolveEntries location scope as r₁ (allocates_binding _)).steps tail
      obtain ⟨quiet₁, quiet₂⟩ := first.extends.quiet second.extends quiet
      exact ⟨(agrees_resolveEntry wellFormed.1 head quiet₁ agrees.1).mono (fun _ => second.shares)
        (fun _ given => given), agrees_resolveEntries wellFormed.2 tail quiet₂ agrees.2⟩
termination_by structural as => as

theorem agrees_resolveChildren {scope : ScopeId} :
    ∀ {a b l : ChildList} {r r' : Repository}, a.WellFormed →
      (resolveChildren location scope a).exec r = (.ok l, r') → r'.errors = r.errors →
        a.Agrees (fun _ => True) known b → a.Agrees r'.Shares known b
  | ⟨es, keyed, resolved⟩, ⟨es', keyed', resolved'⟩, l, r, r', wellFormed, ran, quiet, agrees => by
    rw [ChildList.Agrees] at agrees ⊢
    split at agrees
    · rename_i flags
      rw [if_pos flags]
      rintro rfl
      rw [resolveChildren, if_neg Bool.false_ne_true] at ran
      obtain ⟨es₁, r₁, inside, given⟩ := exec_bind_ok.mp ran
      cases given
      exact agrees_resolveEntries wellFormed inside quiet (agrees rfl)
    · rename_i flags
      rw [if_neg flags]
      exact agrees
termination_by structural a => a

theorem agrees_defineAnonymous {scope : ScopeId} :
    ∀ {a b : Definition} {id : NodeId} {r r' : Repository}, a.WellFormed →
      (defineAnonymous location scope a).exec r = (.ok id, r') → r'.errors = r.errors →
        a.Agrees (fun _ => True) known b → a.Agrees r'.Shares known b
  | ⟨nodeClass, cs, ss, record⟩, ⟨_, cs', ss', _⟩, id, r, r', wellFormed, ran, quiet, agrees => by
    obtain ⟨l, r₁, r₂, run⟩ := exec_defineAnonymous_quiet (allocates_binding _) wellFormed ran quiet
    rw [Definition.Agrees] at agrees ⊢
    have later : Steps .binding r₁ r' := run.second.trans run.third
    refine ⟨(agrees_resolveChildren wellFormed.children run.children run.quiet₁ agrees.1).mono
      (fun _ => later.shares) (fun _ given => given), ?_⟩
    exact agrees_bindRest wellFormed (run.fits.mono run.second.extends) run.rest run.quiet₃
      (fun resolved quiet => agrees_resolveChildren wellFormed.steps resolved quiet agrees.2)
termination_by structural a => a

end

theorem agrees_tryBind {d d' : Definition} {id : NodeId} (wellFormed : d.WellFormed)
    (ran : (tryBind id (.ok (.pending d)) location).exec r = (.ok (), r'))
    (quiet : r'.errors = r.errors) (agrees : d.Agrees (fun _ => True) known d') :
    d.Agrees r'.Shares known d' := by
  rcases exec_tryBind_cases location id (.ok (.pending d)) r with
    ⟨e, refused⟩ | ⟨_, _, node, same, denoted, here⟩
  · rw [refused] at ran
    cases ran
  · cases same
    cases denoted
    rw [exec_tryBind location rfl here] at ran
    obtain ⟨cs, r₁, resolved, ran⟩ := exec_bind_ok.mp ran
    have leads := leads_resolveChildren location node.scope d.children r (allocates_binding _)
    have first : Steps .binding r r₁ := leads.steps resolved
    have second : Steps .binding r₁ r' :=
      (leads_bindRest (leads.value resolved) (leads_resolveChildren location node.scope d.steps r₁
        (allocates_binding _)) fun _ => wellFormed.classKey).steps ran
    obtain ⟨quiet₁, quiet₂⟩ := first.extends.quiet second.extends quiet
    obtain ⟨nodeClass, children, steps, record⟩ := d
    obtain ⟨_, children', steps', _⟩ := d'
    rw [Definition.Agrees] at agrees ⊢
    refine ⟨(agrees_resolveChildren wellFormed.children resolved quiet₁ agrees.1).mono
      (fun _ => second.shares) (fun _ given => given), ?_⟩
    exact agrees_bindRest wellFormed (leads.value resolved) ran quiet₂
      (fun resolved quiet => agrees_resolveChildren wellFormed.steps resolved quiet agrees.2)

/-- Once a node has been bound to a child without a diagnostic, the constants in it have their
nodes. -/
theorem agrees_bind {a b : Child} {id : NodeId} (wellFormed : a.WellFormed)
    (numbers : a.SameConstants b)
    (ran : (bind id (.ok a) location).exec r = (.ok (), r')) (quiet : r'.errors = r.errors)
    (agrees : a.Agrees (fun _ => True) known b) : a.Agrees r'.Shares known b := by
  cases a with
  | constant v =>
    cases b with
    | constant w => exact .inl (numbers v w rfl rfl)
    | _ => trivial
  | pending d =>
    cases b with
    | pending d' =>
      have body := leads_tryBind (p := .binding) location id (.ok (.pending d)) r
        (fun _ _ => allocates_binding _) fun _ _ same => by cases same; exact wellFormed
      have done := exec_recording_quiet (Steps.extends body.1).errors ran quiet
      rw [Child.WellFormed] at wellFormed
      rw [Child.Agrees] at agrees ⊢
      exact agrees_tryBind wellFormed done quiet agrees
    | _ => trivial
  | _ => cases b <;> trivial

end

/-! ## 2. Accepted binds -/

/-- Binding the node to the child ends without a diagnostic. -/
def Accepts (r : Repository) (id : NodeId) (c : Child) (location : Location) : Prop :=
  ((bind id (.ok c) location).exec r).1.isOk ∧
    ((bind id (.ok c) location).exec r).2.errors = r.errors

instance (r : Repository) (id : NodeId) (c : Child) (location : Location) :
    Decidable (r.Accepts id c location) :=
  inferInstanceAs (Decidable (_ ∧ _))

theorem Accepts.exec {id : NodeId} {c : Child} {location : Location}
    (accepted : r.Accepts id c location) :
    ∃ r', (bind id (.ok c) location).exec r = (.ok (), r') ∧ r'.errors = r.errors := by
  obtain ⟨⟨⟩, ran⟩ := exec_of_isOk accepted.1
  exact ⟨_, ran, accepted.2⟩

theorem Accepts.of_together {id : NodeId} {a b : Child} {location : Location}
    (h : TogetherMatching Eq (bind id (.ok a) location) (bind id (.ok b) location) r r)
    (accepted : r.Accepts id a location) : r.Accepts id b location := by
  obtain ⟨r₁, ran, quiet⟩ := accepted.exec
  obtain ⟨outcomes, states⟩ := h
  rw [ran] at outcomes states
  refine ⟨?_, states.errors ▸ quiet⟩
  generalize ((bind id (.ok b) location).exec r).1 = x at outcomes
  cases outcomes
  rfl

/-- Equal children denote equal definitions exactly if they are not constants with different bits.
Then a node can be bound to the one whenever it can be bound to the other, if a bind finds no
difference in them; constants do not make one if the node was bound to one of the children before. -/
theorem accepts_equal {a b : Child} (same : a.equal b) :
    (a.SameConstants b ↔ Option.Rel (fun d d' => d.equal d') a.definition? b.definition?) ∧
    (a.WellFormed → b.WellFormed → a.SameConstants b → ∀ r : Repository, r.WellFormed → ∀ id,
      (a.Agrees r.Shares r.Knows b ∨
        a.Agrees (fun _ => True) r.Knows b ∧ ∃ r₀ location₀ r₁,
          (bind id (.ok a) location₀).exec r₀ = (.ok (), r₁) ∧ r₁.errors = r₀.errors ∧
            LeadsTo (fun _ _ => True) r₁ r ∧ r.phase = .building) →
      ∀ location, r.Accepts id a location → r.Accepts id b location) := by
  constructor
  · refine ⟨Child.equal_definition? same, ?_⟩
    rintro denoted v w rfl rfl
    obtain ⟨equal⟩ := denoted
    exact Definition.equal_ofConstant_iff.mp equal
  · intro wellFormed wellFormed' numbers r stored id agrees location accepted
    have agrees : a.Agrees r.Shares r.Knows b := by
      rcases agrees with agrees | ⟨agrees, r₀, location₀, r₁, ran, quiet, led, building⟩
      · exact agrees
      · have steps : Steps .none r₁ r := led.steps (fun r op _ => Promise.allows_none r op) building
        exact (agrees_bind wellFormed numbers ran quiet agrees).mono (fun _ => steps.shares)
          fun _ given => given
    exact .of_together (together_bind location stored.matches wellFormed wellFormed' same numbers
      agrees id) accepted

/-- A negated zero. -/
def negatedZero (negative : Bool) : Child :=
  .pending (.ofParts (.standard "Negate") (.positional [.constant (.real (.zero negative))]) .nil [])

theorem wellFormed_nothing : Record.WellFormed [] := by
  simp [Record.WellFormed, Value.WellFormed, Value.WellFormedFields, OrderedMap.keys]

theorem wellFormed_negatedZero (negative : Bool) : (negatedZero negative).WellFormed := by
  rw [negatedZero, Child.WellFormed]
  exact Definition.wellFormed_ofParts _ wellFormed_nothing ⟨trivial, trivial⟩ trivial

/-- The repository with one node, after it has been bound to a child. -/
def oneBound (c : Child) : Repository :=
  Operation.after (.bind ⟨0⟩ (.ok c) default) oneNode

theorem wellFormed_oneBound {c : Child} (wellFormed : c.WellFormed) : (oneBound c).WellFormed := by
  have fine {op : Operation} (children : op.WellFormed)
      (other : ∀ id options location, op ≠ .setOptions id options location) :
      op.HandsWellFormed := ⟨children, fun same => absurd same (other _ _ _)⟩
  refine Reachable.wellFormed ⟨⟨0⟩, {}, .operation _ (.operation _ (.refl _) ?_) ?_⟩
  · exact fine nofun nofun
  · exact fine (List.forall_mem_singleton.mpr wellFormed) nofun

/-- A node that was bound to a negated zero can be bound to the negated other one. -/
theorem accepts_equal_negatedZero :
    (negatedZero false).equal (negatedZero true) ∧
      (oneBound (negatedZero false)).Accepts ⟨0⟩ (negatedZero false) default ∧
        (oneBound (negatedZero false)).Accepts ⟨0⟩ (negatedZero true) default := by
  have same : (negatedZero false).equal (negatedZero true) := by decide +kernel
  have accepted : (oneBound (negatedZero false)).Accepts ⟨0⟩ (negatedZero false) default := by
    decide +kernel
  obtain ⟨⟨⟩, ran⟩ := exec_of_isOk (r := oneNode)
    (a := bind ⟨0⟩ (.ok (negatedZero false)) default) (by decide +kernel)
  have quiet : (exec (bind ⟨0⟩ (.ok (negatedZero false)) default) oneNode).2.errors =
      oneNode.errors := by decide +kernel
  have agrees : (negatedZero false).Agrees (fun _ => True)
      (oneBound (negatedZero false)).Knows (negatedZero true) :=
    ⟨fun _ => ⟨.inr trivial, trivial⟩, fun _ => trivial⟩
  refine ⟨same, accepted, (accepts_equal same).2 (wellFormed_negatedZero _)
    (wellFormed_negatedZero _) nofun _ (wellFormed_oneBound (wellFormed_negatedZero _)) ⟨0⟩ ?_
    default accepted⟩
  exact .inr ⟨agrees, oneNode, default, _, ran, quiet, .refl _, by decide +kernel⟩

/-- The children are equal, but a node that can be bound to the one again cannot be bound to the
other. -/
structure Separates (r : Repository) (a b : Child) : Prop where
  reached : Reachable (fun _ _ => True) r
  left : a.WellFormed
  right : b.WellFormed
  equal : a.equal b
  accepted : r.Accepts ⟨0⟩ a default
  refused : ¬r.Accepts ⟨0⟩ b default

/-- A sum of one child. -/
def sumOf (children : ChildList) : Child :=
  .pending (.ofParts (.standard "Add") children .nil [])

theorem wellFormed_sumOf {children : ChildList} (wellFormed : children.WellFormed) :
    (sumOf children).WellFormed := by
  rw [sumOf, Child.WellFormed]
  exact Definition.wellFormed_ofParts _ wellFormed_nothing wellFormed trivial

/-- One node is bound to the other, which is not bound but has a name that a bind generates. -/
def heldByName : Repository :=
  Operation.after (.bind ⟨0⟩ (.ok (sumOf (.positional [.node ⟨⟨0⟩, ⟨1⟩⟩]))) default)
    (Operation.after (.node .root "negate(c0.0)" default) oneNode)

/-- One node is bound to a list with the name of another one, which counts as resolved. -/
def heldUnresolved : Repository :=
  Operation.after (.bind ⟨0⟩ (.ok (sumOf ⟨[⟨.index 0, .name "leaf"⟩], false, true⟩)) default)
    (Operation.after (.bind ⟨1⟩ (.ok (.pending (.bare (.standard "Leaf")))) default)
      (Operation.after (.node .root "leaf" default) oneNode))

/-- A signalling not-a-number. -/
def signalling : Binary64 :=
  ⟨0x7ff0000000000001⟩

/-- Constants of which only the keys are the same denote different definitions: zeros, and a
signalling not-a-number and its quiet one. Zeros in nested definitions make a difference as long as
they have no node, and so do names in a list that counts as resolved. -/
theorem not_accepts_equal :
    (¬Option.Rel (fun d d' => d.equal d') (Child.constant (.real (.zero false))).definition?
        (Child.constant (.real (.zero true))).definition?) ∧
      Separates (oneBound (.constant (.real (.zero false)))) (.constant (.real (.zero false)))
        (.constant (.real (.zero true))) ∧
      (¬Option.Rel (fun d d' => d.equal d') (Child.constant (.real signalling)).definition?
        (Child.constant (.real signalling.quiet)).definition?) ∧
      Separates (oneBound (.constant (.real signalling))) (.constant (.real signalling))
        (.constant (.real signalling.quiet)) ∧
      Separates heldByName (sumOf (.positional [negatedZero false]))
        (sumOf (.positional [negatedZero true])) ∧
      Separates heldUnresolved (sumOf ⟨[⟨.index 0, .name "leaf"⟩], false, true⟩)
        (sumOf (.positional [.name "leaf"])) := by
  have after {r : Repository} (op : Operation) (reached : Reachable (fun _ _ => True) r) :
      Reachable (fun _ _ => True) (op.after r) := by
    obtain ⟨id, options, led⟩ := reached
    exact ⟨id, options, .operation op led trivial⟩
  have nested (negative : Bool) : (sumOf (.positional [negatedZero negative])).WellFormed :=
    wellFormed_sumOf ⟨wellFormed_negatedZero negative, trivial⟩
  refine ⟨?_, ?_, ?_, ?_, ?_, ?_⟩
  · rintro ⟨same⟩
    exact absurd same (by decide +kernel)
  · exact ⟨after _ reachable_oneNode, trivial, trivial, by decide +kernel, by decide +kernel,
      by decide +kernel⟩
  · rintro ⟨same⟩
    exact absurd same (by decide +kernel)
  · exact ⟨after _ reachable_oneNode, trivial, trivial, by decide +kernel, by decide +kernel,
      by decide +kernel⟩
  · exact ⟨after _ (after _ reachable_oneNode), nested false, nested true, by decide +kernel,
      by decide +kernel, by decide +kernel⟩
  · exact ⟨after _ (after _ (after _ reachable_oneNode)), wellFormed_sumOf ⟨trivial, trivial⟩,
      wellFormed_sumOf ⟨trivial, trivial⟩, by decide +kernel, by decide +kernel, by decide +kernel⟩

end Repository

end NodeForest

import NodeForest.Proofs.Check
import NodeForest.Proofs.GeneratedName

/-!
# Binds that fail

A bind examines its node last, when the children have been resolved. Until then, the binds of nested
definitions are the only ones, and those are of the nodes with their generated names. So a bind that
fails leaves its node as it was, except that nested definitions may have taken it for a child,
unless one of them has taken it for itself.

Results:
1. `Has`: a node that has at most got further parents.
2. `spares_attach`, `spares_anonymousNode`: the functions below the recursion.
3. `spares_resolveChildren`, `spares_defineAnonymous`: the recursion.
4. `has_of_tryBind_fails`, `failed_bind_spares`: a bind that fails;
   `not_failed_bind_spares_namesake`: one that binds its node as a part of itself.
-/

namespace NodeForest

open Relation NodeForest.Action

/-- No definition among some can take the node for its own: the node is bound, or it has a name that
none of them goes by. -/
def Node.Safe (n : Node) (ds : List Definition) : Prop :=
  n.isBound ∨ ∀ d ∈ ds, ¬d.GoesBy n.name

theorem Node.Safe.subset {n : Node} {ds ds' : List Definition} (h : n.Safe ds')
    (inside : ds ⊆ ds') : n.Safe ds :=
  h.imp_right fun none d member => none d (inside member)

namespace Repository

variable {id : NodeId} {n : Node} {r r' : Repository}

/-! ## 1. What is kept -/

/-- The node is there as it is given, with further parents at most. -/
def Has (id : NodeId) (n : Node) (r : Repository) : Prop :=
  ∃ parents, n.parents <+: parents ∧ r.get? id = some { n with parents }

theorem Has.of_get? (here : r.get? id = some n) : r.Has id n :=
  ⟨n.parents, List.prefix_refl _, here⟩

/-- A change keeps the node, if it was there. -/
def Spares (id : NodeId) (n : Node) (r r' : Repository) : Prop :=
  r.Has id n → r'.Has id n

theorem Has.spared (h : r.Has id n) (steps : ReflTransGen (Spares id n) r r') : r'.Has id n := by
  induction steps with
  | refl => exact h
  | tail _ step ih => exact step ih

theorem Spares.of_get? (same : id.index < r.nodes.size → r'.get? id = r.get? id) :
    Spares id n r r' := fun h => by
  obtain ⟨parents, more, here⟩ := h
  exact ⟨parents, more, by rw [same (index_lt_of_get? here), here]⟩

/-! ## 2. Below the recursion -/

/-- Another node that gets a definition becomes a parent at most. -/
theorem spares_relink {other : NodeId} (apart : id ≠ other) (f : Option Binding → Option Binding)
    (children : List NodeId) : Spares id n r (r.relink other f children) := by
  rintro ⟨parents, more, here⟩
  rw [Has, get?_relink, here, Option.map_some]
  simp only [apart, ↓reduceIte]
  split
  · rw [Node.withParent]
    split
    · exact ⟨parents, more, rfl⟩
    · exact ⟨parents ++ [other], more.trans (List.prefix_append _ _), rfl⟩
  · exact ⟨parents, more, rfl⟩

/-- A bound node is not bound again. -/
theorem spares_attach {other : NodeId} {d : Definition} {location : Location} (h : r.Has id n)
    (apart : other = id → n.isBound) :
    Leads (Spares id n) (attach other d location) r fun _ _ => True := by
  refine ⟨.single fun _ => ?_, fun _ _ => trivial⟩
  cases there : r.get? other with
  | none => rwa [exec_attach_gone d location there]
  | some m =>
    cases bound : m.binding with
    | some b =>
      rw [exec_attach_bound d location there bound]
      split <;> exact h
    | none =>
      rw [exec_attach_unbound d location there bound]
      have distinct : id ≠ other := by
        rintro rfl
        obtain ⟨parents, _, here⟩ := h
        rw [here] at there
        cases there
        have unbound : n.binding = none := bound
        simpa [Node.isBound, unbound] using apart rfl
      obtain ⟨parents, more, here⟩ := spares_relink distinct _ _ h
      exact ⟨parents, more, by rw [get?_noteClass]; exact here⟩

theorem spares_addError (d : Diagnostic) (trail : List Location) (r : Repository) :
    Leads (Spares id n) (addError d trail) r fun _ _ => True := by
  refine ⟨.single ?_, fun _ _ => trivial⟩
  rw [exec_addError]
  split <;> exact .of_get? fun _ => rfl

theorem spares_recording {a : Action Unit}
    (h : Leads (Spares id n) a r fun _ _ => True) :
    Leads (Spares id n) (recording a) r fun _ _ => True := by
  refine ⟨?_, fun _ _ => trivial⟩
  rw [exec_recording]
  rcases run : exec a r with ⟨(d | ds | _) | _, r₁⟩
  · exact (h.steps run).trans (spares_addError d r₁.frames r₁).1
  all_goals exact h.steps run

theorem spares_makeConstant (value : Constant) (location : Location) (r : Repository) :
    Leads (Spares id n) (makeConstant value location) r fun _ _ => True := by
  refine ⟨.single ?_, fun _ _ => trivial⟩
  cases known : (OrderedMap.get? r.constants value.key).filter r.isLive with
  | some shared =>
    rw [exec_makeConstant_known location known]
    exact .of_get? fun _ => rfl
  | none =>
    rw [exec_makeConstant_new location known]
    exact .of_get? fun given => get?_withConstant_of_ne r value location (Nat.ne_of_lt given)

theorem spares_getOrCreate (r : Repository) (name basename : String) (scope : ScopeId)
    (quals : Qualifiers) (location : Location) :
    Spares id n r (r.getOrCreate name basename scope quals location).2 := by
  rw [getOrCreate]
  split
  · exact .of_get? fun _ => rfl
  · exact .of_get? fun given => by rw [get?_register, if_neg (Nat.ne_of_lt given)]

theorem spares_anonymousNode (r : Repository) (scope : ScopeId) (nodeClass : NodeClass)
    (children : ChildList) (location : Location) :
    Spares id n r (r.anonymousNode scope nodeClass children location).2 := by
  rw [anonymousNode]
  split
  · have counted : Spares id n r (r.uniqueName scope (Text.lowercase nodeClass.name)).2 := by
      rw [uniqueName]
      split <;> exact .of_get? fun _ => rfl
    exact fun h => spares_getOrCreate _ _ _ scope .empty location (counted h)
  · exact spares_getOrCreate r _ _ scope _ location

/-! ## 3. The recursion -/

section

variable (location : Location)

mutual

theorem spares_resolveChild (scope : ScopeId) (label : Label) : ∀ (c : Child) (r : Repository),
    r.Has id n → n.Safe c.definitions →
      Leads (Spares id n) (resolveChild location scope label c) r fun _ _ => True
  | .empty, r, _, _ => by
    rw [resolveChild]
    exact .pure trivial
  | .node ref, r, _, _ => by
    rw [Leads, exec_resolveChild_node]
    exact ⟨.refl, fun _ _ => trivial⟩
  | .name name, r, _, _ => by
    rw [Leads, exec_resolveChild_name]
    exact ⟨.refl, fun _ _ => trivial⟩
  | .constant value, r, _, _ => by
    rw [resolveChild]
    exact .bind (spares_makeConstant value location r) fun _ _ _ _ => .get (.pure trivial)
  | .pending d, r, h, safe => by
    rw [Child.definitions] at safe
    rw [resolveChild]
    exact .bind (spares_defineAnonymous scope d r h safe) fun _ _ _ _ => .get (.pure trivial)
  | .factory _ _, r, _, _ => by
    rw [resolveChild]
    exact .throw _

theorem spares_resolveEntry (scope : ScopeId) : ∀ (e : Entry) (r : Repository),
    r.Has id n → n.Safe e.definitions →
      Leads (Spares id n) (resolveEntry location scope e) r fun _ _ => True
  | ⟨label, child⟩, r, h, safe => by
    rw [Entry.definitions] at safe
    rw [resolveEntry]
    exact .bind (spares_resolveChild scope label child r h safe) fun _ _ _ _ => .pure trivial

theorem spares_resolveEntries (scope : ScopeId) : ∀ (es : List Entry) (r : Repository),
    r.Has id n → n.Safe (Entry.allDefinitions es) →
      Leads (Spares id n) (resolveEntries location scope es) r fun _ _ => True
  | [], r, _, _ => by
    rw [resolveEntries]
    exact .pure trivial
  | e :: rest, r, h, safe => by
    rw [Entry.allDefinitions] at safe
    rw [resolveEntries]
    refine .bind (spares_resolveEntry scope e r h (safe.subset (List.subset_append_left _ _)))
      fun _ r₁ first _ => ?_
    exact .bind (spares_resolveEntries scope rest r₁ (h.spared first)
      (safe.subset (List.subset_append_right _ _))) fun _ _ _ _ => .pure trivial

theorem spares_resolveChildren (scope : ScopeId) : ∀ (l : ChildList) (r : Repository),
    r.Has id n → n.Safe l.definitions →
      Leads (Spares id n) (resolveChildren location scope l) r fun _ _ => True
  | ⟨entries, keyed, true⟩, r, _, _ => by
    rw [Leads, exec_resolveChildren_resolved]
    exact ⟨.refl, fun _ _ => trivial⟩
  | ⟨entries, keyed, false⟩, r, h, safe => by
    rw [ChildList.definitions, if_neg Bool.false_ne_true] at safe
    rw [resolveChildren, if_neg Bool.false_ne_true]
    exact .bind (spares_resolveEntries scope entries r h safe) fun _ _ _ _ => .pure trivial

theorem spares_defineAnonymous (scope : ScopeId) : ∀ (d : Definition) (r : Repository),
    r.Has id n → n.Safe (d :: d.inner) →
      Leads (Spares id n) (defineAnonymous location scope d) r fun _ _ => True
  | ⟨nodeClass, children, steps, record⟩, r, h, safe => by
    have inner := safe.subset (List.subset_cons_self _ _)
    rw [Definition.inner_eq] at inner
    rw [defineAnonymous]
    have resolves := spares_resolveChildren scope children r h
      (inner.subset (List.subset_append_left _ _))
    refine .bind (P := fun cs _ => cs.isEmpty = children.isEmpty)
      ⟨resolves.1, fun cs ok => isEmpty_resolveChildren (Prod.ext ok rfl)⟩
      fun cs r₁ first shape => ?_
    have named : Spares id n r₁ _ := spares_anonymousNode r₁ scope nodeClass cs location
    rcases taken : r₁.anonymousNode scope nodeClass cs location with ⟨other, r₂⟩
    rw [taken] at named
    have h₂ : r₂.Has id n := named (h.spared first)
    -- If the generated node is this one, then the definition goes by its name.
    have apart : other = id → n.isBound := by
      rintro rfl
      obtain ⟨m, there, goes⟩ := named_anonymousNode
        (d := ⟨nodeClass, children, steps, record⟩) shape taken
      obtain ⟨parents, _, here⟩ := h₂
      rw [here] at there
      cases there
      exact safe.resolve_right fun none => none _ List.mem_cons_self goes
    refine .bind (P := fun y r' => other = y ∧ r₂ = r')
      (.modifyGet (.single (by rw [taken]; exact named)) (by rw [taken]; exact ⟨rfl, rfl⟩)) ?_
    rintro _ _ _ ⟨rfl, rfl⟩
    have body : Leads (Spares id n) (anonymousBind location other nodeClass cs steps record) r₂
        fun _ _ => True := by
      refine .get (.bind (spares_resolveChildren _ steps r₂ h₂
        (inner.subset (List.subset_append_right _ _))) fun ss r₃ more _ => ?_)
      exact spares_attach (h₂.spared more) apart
    exact .bind (spares_recording body) fun _ _ _ _ => .pure trivial

end

end

/-! ## 4. A bind that fails -/

/-- The definitions that binding the argument may bind elsewhere, at every depth. -/
def nestedIn (argument : Except BuildError Child) : List Definition :=
  ((argument.toOption.bind Child.definition?).map Definition.inner).getD []

/-- Only the binds of nested definitions come before the failure, whatever it is. -/
theorem has_of_tryBind_fails {argument : Except BuildError Child} {location : Location}
    {e : Failure} (h : r.Has id n) (safe : n.Safe (nestedIn argument))
    (fails : ((tryBind id argument location).exec r).1 = .error e) :
    ((tryBind id argument location).exec r).2.Has id n := by
  rcases exec_tryBind_cases location id argument r with
    ⟨d, refused⟩ | ⟨c, d, node, rfl, denoted, there⟩
  · rw [refused]
    exact h
  · have inner : n.Safe (d.children.definitions ++ d.steps.definitions) := by
      simpa [nestedIn, Except.toOption, denoted, Definition.inner_eq] using safe
    rw [exec_tryBind location denoted there] at fails ⊢
    have first := spares_resolveChildren location node.scope d.children r h
      (inner.subset (List.subset_append_left _ _))
    rcases resolved : (resolveChildren location node.scope d.children).exec r with ⟨e | cs, r₁⟩
    · rw [exec_bind_of_error resolved]
      exact h.spared (first.steps resolved)
    have h₁ := h.spared (first.steps resolved)
    have second := spares_resolveChildren location node.scope d.steps r₁ h₁
      (inner.subset (List.subset_append_right _ _))
    rw [exec_bind_of_ok resolved] at fails ⊢
    rcases resolved : (resolveChildren location node.scope d.steps).exec r₁ with ⟨e | ss, r₂⟩
    · rw [exec_bind_of_error resolved]
      exact h₁.spared (second.steps resolved)
    have h₂ := h₁.spared (second.steps resolved)
    rw [exec_bind_of_ok resolved] at fails ⊢
    -- An attachment only fails when the node is bound, and then it changes nothing.
    obtain ⟨parents, more, found⟩ := h₂
    cases bound : n.binding with
    | none =>
      rw [exec_attach_unbound _ location found bound] at fails
      cases fails
    | some b =>
      rw [exec_attach_bound _ location found bound]
      split <;> exact ⟨parents, more, found⟩

/-- A bind that fails, whether the failure is recorded or returned, changes nothing about its node
but the parents, unless a definition in the argument goes by the name of the node. -/
theorem failed_bind_spares {argument : Except BuildError Child} {location : Location} {e : Failure}
    (here : r.get? id = some n) (safe : n.Safe (nestedIn argument))
    (fails : ((tryBind id argument location).exec r).1 = .error e) :
    ∃ parents, n.parents <+: parents ∧
      ((bind id argument location).exec r).2.get? id = some { n with parents } := by
  have tried := has_of_tryBind_fails (.of_get? here) safe fails
  -- A diagnostic is recorded on top of what has been tried, which does not touch the nodes.
  rw [bind, exec_recording]
  rcases run : (tryBind id argument location).exec r with ⟨(d | ds | _) | _, r₁⟩ <;>
    rw [run] at tried
  · exact tried.spared (spares_addError d r₁.frames r₁).1
  all_goals exact tried

/-- A repository with one node, which is not bound. -/
def soleNode (name : String) : Repository :=
  Operation.after (.node .root name default) (start ⟨0⟩ {})

/-- The node is a child of a nested negation; there is no node with the other child's name. -/
def negatedAndMissing : Child :=
  .pending (.ofParts (.standard "Add")
    (.positional [.pending (.ofParts (.standard "Negate")
      (.positional [.node ⟨⟨0⟩, ⟨0⟩⟩]) .nil []), .name "missing"]) .nil [])

theorem failed_bind_spares_top :
    ∃ n e, (soleNode "top").get? ⟨0⟩ = some n ∧ n.Safe (nestedIn (.ok negatedAndMissing)) ∧
      ((tryBind ⟨0⟩ (.ok negatedAndMissing) default).exec (soleNode "top")).1 = .error e ∧
      ∃ parents, n.parents <+: parents ∧
        ((bind ⟨0⟩ (.ok negatedAndMissing) default).exec (soleNode "top")).2.get? ⟨0⟩ =
          some { n with parents } := by
  have fails : ¬((tryBind ⟨0⟩ (.ok negatedAndMissing) default).exec (soleNode "top")).1.isOk := by
    decide +kernel
  obtain ⟨n, here⟩ : ∃ n, (soleNode "top").get? ⟨0⟩ = some n :=
    isLive_iff.mp (by decide +kernel)
  have named : (soleNode "top").nameOf? ⟨0⟩ = some "top" := by decide +kernel
  rw [nameOf?, here, Option.map_some, Option.some.injEq] at named
  have safe : n.Safe (nestedIn (.ok negatedAndMissing)) :=
    .inr fun d _ goes => absurd (paren_mem_of_goesBy goes) (by rw [named]; decide +kernel)
  rcases failed : ((tryBind ⟨0⟩ (.ok negatedAndMissing) default).exec (soleNode "top")).1 with e | _
  · exact ⟨n, e, here, safe, rfl, failed_bind_spares here safe failed⟩
  · rw [failed] at fails
    exact absurd rfl fails

/-- A sum of a nested leaf and a node that is not there. -/
def leafAndMissing : Child :=
  .pending (.ofParts (.standard "Add")
    (.positional [.pending (.bare (.standard "Leaf")), .name "missing"]) .nil [])

/-- The leaf goes by the name of the node that the sum is to be bound to. The bind of the sum fails,
and the node is bound: it is the leaf. -/
theorem not_failed_bind_spares_namesake :
    Reachable (fun r op => op.NamesAllocated r) (soleNode "(leaf)") ∧
      (soleNode "(leaf)").isLive ⟨0⟩ ∧ (soleNode "(leaf)").isBound ⟨0⟩ = false ∧
      ((tryBind ⟨0⟩ (.ok leafAndMissing) default).exec (soleNode "(leaf)")).1 =
        .error (.diagnostic (.childNotFound (.index 1) "missing" default)) ∧
      ((bind ⟨0⟩ (.ok leafAndMissing) default).exec (soleNode "(leaf)")).2.classOf? ⟨0⟩ =
        some "MeqLeaf" := by
  refine ⟨⟨⟨0⟩, {}, .operation _ (.refl _) fun c member => by cases member⟩, ?_⟩
  decide +kernel

end Repository

end NodeForest

import NodeForest.Proofs.Action
import NodeForest.Proofs.Table
import NodeForest.Repository.Resolve

/-!
# The check before a resolve

The check records its findings one after the other. It stops at once in testing mode, and when the
limit is reached; what it has recorded then is a part of the findings from the front.

Results:
1. `exec_addError`: recording one diagnostic; `exec_recording_quiet`: recording none.
2. `exec_reportUninitialized`: the whole check, `errors_reportUninitialized`: it records and does
   nothing else.
3. `findings_eq_nil`: nothing is found exactly when every child is a bound node.
4. `offences`, `primary_findings`: each offending entry is found once, in order.
-/

namespace NodeForest

open NodeForest.Action

/-- What is recorded for a finding. -/
def Repository.Finding.recorded (o : Options) (f : Finding) : List Diagnostic :=
  Repository.recorded o f.diagnostic f.trail

namespace Repository

variable {r r₁ : Repository}

/-! ## 1. One diagnostic -/

/-- The repository with some diagnostics recorded. -/
def noting (r : Repository) (ds : List Diagnostic) : Repository :=
  { r with errors := r.errors ++ ds }

theorem noting_noting (ds ds' : List Diagnostic) :
    (r.noting ds).noting ds' = r.noting (ds ++ ds') := by
  simp [noting]

theorem noting_nil (r : Repository) : r.noting [] = r := by
  simp [noting]

theorem exec_addError (d : Diagnostic) (trail : List Location) (r : Repository) :
    (addError d trail).exec r =
      if r.options.testing then (.error (.diagnostic d), r)
      else
        let noted := r.noting (recorded r.options d trail)
        (if noted.limitReached then .error (.cumulative noted.errors) else .ok (), noted) := by
  rw [addError, exec_bind_of_ok (exec_get r)]
  cases r.options.testing with
  | true => rfl
  | false =>
    dsimp only [Bool.false_eq_true, ↓reduceIte]
    rw [if_neg Bool.false_ne_true, if_neg Bool.false_ne_true, exec_bind_of_ok (exec_set _ _)]
    change exec (if (r.noting (recorded r.options d trail)).limitReached then _ else _) _ = _
    split <;> rfl

theorem limitReached_iff :
    r.limitReached ↔ ∃ limit, r.options.errorLimit = some limit ∧ limit ≤ r.errors.length := by
  rw [limitReached]
  cases r.options.errorLimit with
  | none => simp
  | some limit => simp

/-- What is recorded for a diagnostic begins with it. -/
theorem recorded_ne_nil (o : Options) (d : Diagnostic) (trail : List Location) :
    recorded o d trail ≠ [] := by
  simp [recorded]

/-- In collecting mode a diagnostic is recorded, whether the limit is reached or not. -/
theorem lt_errors_addError (d : Diagnostic) (trail : List Location)
    (collecting : r.options.testing = false) :
    r.errors.length < ((addError d trail).exec r).2.errors.length := by
  rw [exec_addError, if_neg (by simp [collecting])]
  have := List.length_pos_iff.mpr (recorded_ne_nil r.options d trail)
  simp only [noting, List.length_append]
  omega

/-- A recording that ends without a new diagnostic has had none to record. -/
theorem exec_recording_quiet {a : Action Unit} {r' : Repository}
    (grows : r.errors <+: (exec a r).2.errors)
    (ran : (recording a).exec r = (.ok (), r')) (quiet : r'.errors = r.errors) :
    exec a r = (.ok (), r') := by
  rw [exec_recording] at ran
  rcases run : exec a r with ⟨(d | ds | _) | _, r₁⟩ <;> rw [run] at ran grows
  · dsimp only at ran grows
    cases testing : r₁.options.testing with
    | true =>
      rw [exec_addError, if_pos testing] at ran
      cases ran
    | false =>
      have longer := lt_errors_addError d r₁.frames testing
      rw [ran, quiet] at longer
      exact absurd grows.length_le (Nat.not_le.mpr longer)
  · cases ran
  · cases ran
  · exact ran

/-! ## 2. The whole check -/

/-- The repository with the first `k` of some findings recorded. -/
def notingFindings (r : Repository) (fs : List Finding) (k : Nat) : Repository :=
  r.noting ((fs.take k).flatMap (·.recorded r.options))

theorem notingFindings_cons (r : Repository) (f : Finding) (fs : List Finding) (k : Nat) :
    r.notingFindings (f :: fs) (k + 1) =
      (r.noting (recorded r.options f.diagnostic f.trail)).notingFindings fs k := by
  rw [notingFindings, notingFindings, noting_noting]
  rfl

theorem notingFindings_zero (r : Repository) (fs : List Finding) : r.notingFindings fs 0 = r :=
  noting_nil r

/-- Recording findings gets to the end, or as far as the limit. -/
theorem exec_addErrors (collecting : r.options.testing = false) (fs : List Finding) :
    ∃ k ≤ fs.length, ∃ outcome,
      (fs.forM fun f => addError f.diagnostic f.trail).exec r = (outcome, r.notingFindings fs k) ∧
        (outcome = .ok () ∧ k = fs.length ∨
          outcome = .error (.cumulative (r.notingFindings fs k).errors) ∧
            (r.notingFindings fs k).limitReached) := by
  induction fs generalizing r with
  | nil => exact ⟨0, Nat.le_refl 0, .ok (), by rw [notingFindings_zero]; rfl, .inl ⟨rfl, rfl⟩⟩
  | cons f fs ih =>
    have first := exec_addError f.diagnostic f.trail r
    rw [if_neg (by simp [collecting])] at first
    dsimp only at first
    split at first
    · rename_i reached
      have one := notingFindings_cons r f fs 0
      rw [notingFindings_zero] at one
      refine ⟨1, by simp, _, ?_, .inr ⟨rfl, by rw [one]; exact reached⟩⟩
      rw [List.forM, exec_bind_of_error first, one]
    · obtain ⟨k, inside, outcome, rest, ends⟩ :=
        ih (r := r.noting (recorded r.options f.diagnostic f.trail)) collecting
      refine ⟨k + 1, by simpa using inside, outcome, ?_, ?_⟩
      · rw [List.forM, exec_bind_of_ok first, notingFindings_cons]
        exact rest
      · rw [notingFindings_cons, List.length_cons, Nat.add_right_cancel_iff]
        exact ends

/-- In testing mode the first finding is returned. -/
theorem exec_addErrors_testing (testing : r.options.testing) (fs : List Finding) :
    (fs.forM fun f => addError f.diagnostic f.trail).exec r =
      (match fs with
        | [] => .ok ()
        | f :: _ => .error (.diagnostic f.diagnostic), r) := by
  cases fs with
  | nil => rfl
  | cons f fs =>
    have first := exec_addError f.diagnostic f.trail r
    rw [if_pos testing] at first
    rw [List.forM, exec_bind_of_error first]

theorem exec_reportUninitialized (r : Repository) :
    reportUninitialized.exec r =
      (r.findings.forM fun f => addError f.diagnostic f.trail).exec r := by
  rw [reportUninitialized, exec_bind_of_ok (exec_get r)]

/-- The check records diagnostics and does nothing else. -/
theorem errors_reportUninitialized (r : Repository) :
    ∃ ds, (reportUninitialized.exec r).2 = r.noting ds := by
  rw [exec_reportUninitialized]
  cases testing : r.options.testing with
  | true => exact ⟨[], by rw [exec_addErrors_testing testing, noting_nil]⟩
  | false =>
    obtain ⟨k, _, outcome, run, _⟩ := exec_addErrors testing r.findings
    exact ⟨_, by rw [run]; rfl⟩

/-- A check that is passed without a diagnostic has found nothing. -/
theorem findings_of_passed (passed : reportUninitialized.exec r = (.ok (), r₁))
    (quiet : r₁.errors = []) : r.findings = [] ∧ r₁ = r := by
  rw [exec_reportUninitialized] at passed
  cases testing : r.options.testing with
  | true =>
    rw [exec_addErrors_testing testing] at passed
    cases found : r.findings with
    | nil =>
      rw [found] at passed
      exact ⟨rfl, (congrArg Prod.snd passed).symm⟩
    | cons f fs =>
      rw [found] at passed
      cases passed
  | false =>
    obtain ⟨k, _, outcome, run, ends⟩ := exec_addErrors testing r.findings
    rw [passed] at run
    obtain ⟨rfl, rfl⟩ := Prod.mk.inj run
    rcases ends with ⟨_, rfl⟩ | ⟨failed, _⟩
    · cases found : r.findings with
      | nil => exact ⟨rfl, notingFindings_zero r []⟩
      | cons f fs =>
        have := congrArg List.length quiet
        simp [found, notingFindings, noting, Finding.recorded, recorded] at this
    · cases failed

theorem exec_reportUninitialized_of_none (none : r.findings = []) :
    reportUninitialized.exec r = (.ok (), r) := by
  rw [exec_reportUninitialized, none]
  rfl

/-! ## 3. What is found -/

/-- Every child and step-child is a bound node. -/
def Complete (r : Repository) : Prop :=
  ∀ parent child, child ∈ r.childIdsOf parent → r.isBound child

theorem uninitializedFindings_ne_nil (r : Repository) (parent : Node) (label : Label)
    (child : NodeId) : r.uninitializedFindings parent label child ≠ [] := by
  rw [uninitializedFindings]
  split <;> simp

theorem childIds_eq (n : Node) :
    n.childIds = (n.children.entries ++ n.steps.entries).filterMap (·.child.nodeId?) := by
  rw [Node.childIds, Node.children, Node.steps]
  cases n.binding with
  | none => rfl
  | some b => simp [Binding.childIds, ChildList.nodeIds]

theorem findingsOf_eq_nil {parent : Node} :
    r.findingsOf parent = [] ↔ ∀ child ∈ parent.childIds, r.isBound child := by
  rw [findingsOf, List.flatMap_eq_nil_iff, childIds_eq]
  constructor
  · intro none child member
    obtain ⟨e, inside, here⟩ := List.mem_filterMap.mp member
    have := none e inside
    rw [here] at this
    refine Classical.byContradiction fun unbound => ?_
    exact uninitializedFindings_ne_nil r parent e.label child (by simpa [unbound] using this)
  · intro bound e inside
    cases here : e.child.nodeId? with
    | none => rfl
    | some child =>
      have := bound child (List.mem_filterMap.mpr ⟨e, inside, here⟩)
      simp [this]

/-- Nothing is found exactly when every child is a bound node. -/
theorem findings_eq_nil : r.findings = [] ↔ r.Complete := by
  rw [findings, List.flatMap_eq_nil_iff]
  constructor
  · intro none parent child member
    have bound := isBound_of_mem_childIdsOf member
    obtain ⟨n, here⟩ := isLive_iff.mp (isLive_of_isBound bound)
    have inside : (parent, n) ∈ r.entries.filter (·.2.isBound) :=
      List.mem_filter.mpr ⟨mem_entries.mpr here, by simpa [isBound, here] using bound⟩
    rw [childIdsOf, here] at member
    exact findingsOf_eq_nil.mp (none _ inside) child member
  · rintro complete ⟨parent, n⟩ inside
    have here := mem_entries.mp (List.mem_filter.mp inside).1
    refine findingsOf_eq_nil.mpr fun child member => complete parent child ?_
    rw [childIdsOf, here]
    exact member

/-! ## 4. Offending entries -/

/-- The diagnostic for an entry of a node, if it refers to a node that is not bound. -/
def offence? (r : Repository) (parent : Node) (e : Entry) : Option Diagnostic :=
  match e.child.nodeId? with
  | some child =>
      if r.isBound child then none
      else some (.uninitializedChild e.label ((r.nameOf? child).getD child.render) parent.name
        parent.boundOrDefinedAt)
  | none => none

/-- The diagnostics for all offending entries of bound nodes: parents in registration order,
children before step-children. -/
def offences (r : Repository) : List Diagnostic :=
  (r.entries.filter (·.2.isBound)).flatMap fun entry =>
    (entry.2.children.entries ++ entry.2.steps.entries).filterMap (r.offence? entry.2)

/-- Of what is recorded for a diagnostic, the rest shows where it came from. -/
theorem primary_recorded (o : Options) (d : Diagnostic) (trail : List Location) :
    Diagnostic.primary (recorded o d trail) = Diagnostic.primary [d] := by
  have frames : Diagnostic.primary (trailEntries o d.location trail) = [] := by
    simp only [Diagnostic.primary, trailEntries, List.filter_map]
    exact List.map_eq_nil_iff.mpr (List.filter_eq_nil_iff.mpr fun _ _ shown => by cases shown)
  have next : Diagnostic.primary d.next?.toList = [] := by
    cases d <;> rfl
  simp only [Diagnostic.primary] at frames next ⊢
  rw [recorded, ← List.singleton_append, List.append_assoc, List.filter_append, List.filter_append,
    frames, next, List.append_nil, List.append_nil]

theorem primary_recorded_findings (o : Options) (fs : List Finding) :
    Diagnostic.primary (fs.flatMap (·.recorded o)) =
      Diagnostic.primary (fs.map (·.diagnostic)) := by
  induction fs with
  | nil => rfl
  | cons f fs ih =>
    have first := primary_recorded o f.diagnostic f.trail
    simp only [Diagnostic.primary] at first ih ⊢
    rw [List.flatMap_cons, List.filter_append, ih, Finding.recorded, first, List.map_cons,
      ← List.filter_append, List.singleton_append]

/-- The findings about an entry are its diagnostic and a note. -/
theorem primary_uninitializedFindings (parent : Node) (label : Label) (child : NodeId) :
    Diagnostic.primary ((r.uninitializedFindings parent label child).map (·.diagnostic)) =
      [.uninitializedChild label ((r.nameOf? child).getD child.render) parent.name
        parent.boundOrDefinedAt] := by
  rw [uninitializedFindings]
  split <;> rfl

theorem primary_findingsOf (parent : Node) :
    Diagnostic.primary ((r.findingsOf parent).map (·.diagnostic)) =
      (parent.children.entries ++ parent.steps.entries).filterMap (r.offence? parent) := by
  rw [findingsOf, List.map_flatMap, Diagnostic.primary, List.filter_flatMap,
    List.filterMap_eq_flatMap_toList]
  refine List.flatMap_congr fun e _ => ?_
  rw [offence?]
  cases e.child.nodeId? with
  | none => rfl
  | some child =>
    dsimp only
    by_cases bound : r.isBound child
    · rw [if_pos bound, if_pos bound]
      rfl
    · rw [if_neg bound, if_neg bound]
      exact primary_uninitializedFindings parent e.label child

/-- Each offending entry is reported once, in order. -/
theorem primary_findings (r : Repository) :
    Diagnostic.primary (r.findings.map (·.diagnostic)) = r.offences := by
  rw [findings, offences, List.map_flatMap, Diagnostic.primary, List.filter_flatMap]
  exact List.flatMap_congr fun entry _ => primary_findingsOf entry.2

end Repository

end NodeForest

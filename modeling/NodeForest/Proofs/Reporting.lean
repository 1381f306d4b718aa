import NodeForest.Proofs.Change
import NodeForest.Proofs.Outcomes
import NodeForest.Proofs.Settle

/-!
# Nothing that went wrong is lost

A run that collects its diagnostics goes on after each failure, and the resolve at its end returns
all of them. It succeeds only if nothing failed on the way, however deep, and nothing is missing at
the end.

Results:
1. `errors_afterAll`: what a run records, by the binds that it makes.
2. `primary_take_findings`: the part of a check that is recorded reports offending entries.
3. `resolve_loses_nothing`: the resolve at the end of a run.
-/

namespace NodeForest

open Relation NodeForest.Action

namespace Repository

variable {r : Repository}

/-! ## 1. Runs -/

/-- The outcomes of all binds that operations make, one operation after the other. -/
def outcomes (r : Repository) : List Operation → List Outcome
  | [] => []
  | op :: ops => op.binds r ++ outcomes (op.after r) ops

theorem steps_afterAll (r : Repository) (ops : List Operation) :
    Steps .none r (r.afterAll ops) := by
  induction ops generalizing r with
  | nil => exact .refl
  | cons op ops ih =>
    exact (Operation.steps (Promise.allows_none r op)).trans (ih (op.after r))

/-- An operation records nothing exactly when it reports nothing and all its binds succeed. -/
theorem errors_after (collecting : r.options.testing = false) (op : Operation) :
    (op.after r).errors = r.errors ↔ ¬op.Reports ∧ ∀ o ∈ op.binds r, o = .ok () := by
  by_cases reports : op.Reports
  · have loud (d : Diagnostic) (trail : List Location) :
        ((addError d trail).exec r).2.errors ≠ r.errors := fun same =>
      (lt_errors_addError d trail collecting).ne' (congrArg List.length same)
    refine iff_of_false ?_ fun quiet => quiet.1 reports
    cases op with
    | addError d trail => exact loud d trail
    | report d => exact loud d r.frames
    | _ => exact reports.elim
  · rw [and_iff_right reports]
    exact (Operation.logged collecting reports).quiet

/-- The same of a run, by induction on its operations: what is recorded stays. -/
theorem errors_afterAll (collecting : r.options.testing = false) (ops : List Operation) :
    (r.afterAll ops).errors = r.errors ↔
      (∀ op ∈ ops, ¬op.Reports) ∧ ∀ o ∈ outcomes r ops, o = .ok () := by
  induction ops generalizing r with
  | nil => simp [afterAll, outcomes]
  | cons op ops ih =>
    have first := op.extends_after r
    have rest := Steps.extends (steps_afterAll (op.after r) ops)
    have both : (r.afterAll (op :: ops)).errors = r.errors ↔
        (op.after r).errors = r.errors ∧
          ((op.after r).afterAll ops).errors = (op.after r).errors :=
      ⟨first.quiet rest, fun ⟨here, later⟩ => later.trans here⟩
    rw [both, errors_after collecting, ih (by rw [first.options, collecting]), outcomes,
      List.forall_mem_cons, List.forall_mem_append]
    exact and_and_and_comm

/-! ## 2. Offending entries -/

/-- The part of the findings that has been recorded reports the offending entries from the front. -/
theorem primary_take_findings (r : Repository) (k : Nat) :
    Diagnostic.primary ((r.findings.take k).flatMap (·.recorded r.options)) <+: r.offences := by
  rw [primary_recorded_findings, ← primary_findings]
  exact ((List.take_prefix k _).map _).filter _

/-- Every child is bound when this is so of every entry of every bound node. -/
theorem complete_iff : r.Complete ↔ ∀ parent n, r.get? parent = some n → n.isBound →
    ∀ e ∈ n.children.entries ++ n.steps.entries, ∀ ref, e.child = .node ref → r.isBound ref.id := by
  constructor
  · intro complete parent n here _ e inside ref stands
    refine complete parent ref.id ?_
    rw [childIdsOf, here, Option.map_some, Option.getD_some, childIds_eq]
    exact List.mem_filterMap.mpr ⟨e, inside, by rw [stands]; rfl⟩
  · intro bound parent child member
    have above := isBound_of_mem_childIdsOf member
    obtain ⟨n, here⟩ := isLive_iff.mp (isLive_of_isBound above)
    rw [childIdsOf, here, Option.map_some, Option.getD_some, childIds_eq] at member
    obtain ⟨e, inside, stands⟩ := List.mem_filterMap.mp member
    cases node : e.child with
    | node ref =>
      rw [node] at stands
      cases stands
      exact bound parent n here (by simpa [isBound, here] using above) e inside ref node
    | _ =>
      rw [node] at stands
      cases stands

/-! ## 3. The resolve at the end -/

/-- Past the check, a resolve fails with what has been recorded, if anything has. -/
theorem exec_resolve_checked {r₁ : Repository} (location : Location)
    (building : r.phase = .building) (passed : reportUninitialized.exec r = (.ok (), r₁)) :
    ((resolve Hook.idle location).exec r).1 =
      if r₁.errors.isEmpty then .ok (some ()) else .error (.cumulative r₁.errors) := by
  rw [exec_resolve_idle location building passed, (thinned_settle _).errors]
  cases r₁.errors.isEmpty <;> rfl

/-- If the check fails, so does the resolve. -/
theorem exec_resolve_unchecked {r₁ : Repository} {e : Failure} (location : Location)
    (building : r.phase = .building) (failed : reportUninitialized.exec r = (.error e, r₁)) :
    ((resolve Hook.idle location).exec r).1 = .error e := by
  rw [exec_resolve _ _ building, runResolve, exec_bind_of_error failed]

/-- A resolve succeeds exactly when nothing is recorded and every child is bound. -/
theorem resolve_ok_iff (location : Location) (building : r.phase = .building) :
    (∃ given, ((resolve Hook.idle location).exec r).1 = .ok given) ↔
      r.errors = [] ∧ r.Complete := by
  rw [← findings_eq_nil]
  constructor
  · rintro ⟨given, ok⟩
    rcases check : reportUninitialized.exec r with ⟨e | ⟨⟩, r₁⟩
    · rw [exec_resolve_unchecked location building check] at ok
      cases ok
    · rw [exec_resolve_checked location building check] at ok
      split at ok
      · rename_i quiet
        obtain ⟨none, rfl⟩ := findings_of_passed check (List.isEmpty_iff.mp quiet)
        exact ⟨List.isEmpty_iff.mp quiet, none⟩
      · cases ok
  · rintro ⟨quiet, none⟩
    refine ⟨some (), ?_⟩
    rw [exec_resolve_checked location building (exec_reportUninitialized_of_none none), quiet]
    rfl

/-- In collecting mode, a resolve fails with all that is recorded: what was before it and then the
findings, unless the limit is reached. -/
theorem resolve_error {e : Failure} (location : Location) (building : r.phase = .building)
    (collecting : r.options.testing = false)
    (failed : ((resolve Hook.idle location).exec r).1 = .error e) :
    ∃ k ≤ r.findings.length, e = .cumulative (r.notingFindings r.findings k).errors ∧
      (k = r.findings.length ∨ (r.notingFindings r.findings k).limitReached) := by
  obtain ⟨k, inside, outcome, check, ends⟩ := exec_addErrors collecting r.findings
  rw [← exec_reportUninitialized] at check
  refine ⟨k, inside, ?_, ends.imp And.right And.right⟩
  rcases ends with ⟨rfl, _⟩ | ⟨rfl, _⟩
  · rw [exec_resolve_checked location building check] at failed
    split at failed
    · cases failed
    · exact (Except.error.inj failed).symm
  · rw [exec_resolve_unchecked location building check] at failed
    exact (Except.error.inj failed).symm

/-- The resolve at the end of a run that collects its diagnostics succeeds exactly when no bind of
the run failed, nothing was reported, and every child of a bound node is bound. Otherwise it fails
with what the run recorded, followed by the diagnostics for the offending entries: all of them,
unless the limit is reached, and otherwise the first ones. -/
theorem resolve_loses_nothing (id : RepositoryId) (options : Options)
    (collecting : options.testing = false) (ops : List Operation) (location : Location) :
    let r := (start id options).afterAll ops
    let outcome := ((resolve Hook.idle location).exec r).1
    r.phase = .building ∧
      ((∃ given, outcome = .ok given) ↔
        (∀ o ∈ outcomes (start id options) ops, o = .ok ()) ∧ (∀ op ∈ ops, ¬op.Reports) ∧
          ∀ parent n, r.get? parent = some n → n.isBound →
            ∀ e ∈ n.children.entries ++ n.steps.entries, ∀ ref, e.child = .node ref →
              r.isBound ref.id) ∧
      ∀ e, outcome = .error e → ∃ added, e = .cumulative (r.errors ++ added) ∧
        Diagnostic.primary added <+: r.offences ∧
        ((∀ limit, options.errorLimit = some limit → (r.errors ++ added).length < limit) →
          Diagnostic.primary added = r.offences) := by
  intro r outcome
  have run := Steps.extends (steps_afterAll (start id options) ops)
  have building : r.phase = .building := run.phase
  have given : r.options = options := run.options
  refine ⟨building, ?_, fun e failed => ?_⟩
  · rw [resolve_ok_iff location building, complete_iff]
    have quiet := errors_afterAll (r := start id options) collecting ops
    exact (and_congr_left' (quiet.trans and_comm)).trans and_assoc
  · obtain ⟨k, inside, rfl, ends⟩ :=
      resolve_error location building (by rw [given, collecting]) failed
    refine ⟨(r.findings.take k).flatMap (·.recorded r.options), rfl, primary_take_findings r k, ?_⟩
    intro below
    rcases ends with rfl | reached
    · rw [List.take_length, primary_recorded_findings, primary_findings]
    · -- The limit is one of the options that the run began with.
      obtain ⟨limit, limited, full⟩ := limitReached_iff.mp reached
      exact absurd (below limit (given ▸ limited)) (Nat.not_lt.mpr full)

/-- A run in which a node gets a child that is never bound. -/
def unboundChild : List Operation :=
  [.node .root "parent" default, .node .root "child" default,
    .bind ⟨0⟩ (.ok (.pending (.ofParts (.standard "Add") (.positional [.node ⟨⟨0⟩, ⟨1⟩⟩]) .nil [])))
      default]

theorem resolve_loses_nothing_unboundChild :
    let options : Options := { errorLimit := none }
    let r := (start ⟨0⟩ options).afterAll unboundChild
    options.testing = false ∧
      ∃ ds, ((resolve Hook.idle default).exec r).1 = .error (.cumulative ds) ∧
        Diagnostic.primary ds = [.uninitializedChild (.index 0) "child" "parent" default] := by
  intro options r
  obtain ⟨_, succeeds, fails⟩ :=
    resolve_loses_nothing ⟨0⟩ options rfl unboundChild default
  have quiet : r.errors = [] := by decide +kernel
  have one : r.offences = [.uninitializedChild (.index 0) "child" "parent" default] := by
    decide +kernel
  refine ⟨rfl, ?_⟩
  cases outcome : ((resolve Hook.idle default).exec r).1 with
  | ok given =>
    have complete := complete_iff.mpr (succeeds.mp ⟨given, outcome⟩).2.2
    have none := primary_findings r
    rw [findings_eq_nil.mpr complete, one] at none
    cases none
  | error e =>
    obtain ⟨added, rfl, _, all⟩ := fails e outcome
    refine ⟨_, rfl, ?_⟩
    rw [quiet, List.nil_append]
    exact (all fun limit limited => by cases limited).trans one

end Repository

end NodeForest

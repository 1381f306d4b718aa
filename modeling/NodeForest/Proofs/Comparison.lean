import Mathlib.Data.List.Forall2
import NodeForest.Proofs.Action

/-!
# Runs side by side

Two actions run, each on a repository of its own. `Together` says that both fail or both give a
value, and that what they come to is related: the repositories by `R`, the failures by `E`, the
values by `V`. Such facts are put together along the two actions, one rule for each combinator.
-/

namespace NodeForest

variable {α β γ δ : Type}

/-- Both fail, with failures related by `E`, or both give values, related by `V`. -/
inductive Outcomes (E : Failure → Failure → Prop) (V : α → β → Prop) :
    Except Failure α → Except Failure β → Prop
  | ok {y : α} {z : β} : V y z → Outcomes E V (.ok y) (.ok z)
  | error {e e' : Failure} : E e e' → Outcomes E V (.error e) (.error e')

/-- Failures of one kind: diagnostics related by `D`, or collected lists related by `L`. -/
inductive Failure.Like (D : Diagnostic → Diagnostic → Prop)
    (L : List Diagnostic → List Diagnostic → Prop) : Failure → Failure → Prop
  | diagnostic {d d' : Diagnostic} : D d d' → Like D L (.diagnostic d) (.diagnostic d')
  | cumulative {ds ds' : List Diagnostic} : L ds ds' → Like D L (.cumulative ds) (.cumulative ds')
  | notResolved : Like D L .notResolved .notResolved

theorem Failure.like_eq {e e' : Failure} : Failure.Like Eq Eq e e' ↔ e = e' := by
  constructor
  · rintro (rfl | rfl | _) <;> rfl
  · rintro rfl
    cases e with
    | diagnostic d => exact .diagnostic rfl
    | cumulative ds => exact .cumulative rfl
    | notResolved => exact .notResolved

/-- Run on `r` and `r'`, the actions have related outcomes and leave related repositories. -/
structure Together (R : Repository → Repository → Prop) (E : Failure → Failure → Prop)
    (V : α → β → Prop) (a : Action α) (b : Action β) (r r' : Repository) : Prop where
  outcomes : Outcomes E V (a.exec r).1 (b.exec r').1
  states : R (a.exec r).2 (b.exec r').2

/-- A diagnostic is recorded with the frames of the repository. -/
theorem Action.exec_report (d : Diagnostic) (r : Repository) :
    (Repository.report d).exec r = (Repository.addError d r.frames).exec r :=
  exec_bind_of_ok (exec_get r)

namespace Together

open NodeForest.Action

variable {R : Repository → Repository → Prop} {E : Failure → Failure → Prop}
variable {D : Diagnostic → Diagnostic → Prop} {L : List Diagnostic → List Diagnostic → Prop}
variable {V : α → β → Prop} {W : γ → δ → Prop} {a : Action α} {b : Action β} {r r' : Repository}

theorem of_runs {x : Except Failure α} {x' : Except Failure β} {r₁ r₁' : Repository}
    (run : a.exec r = (x, r₁)) (run' : b.exec r' = (x', r₁')) (outcomes : Outcomes E V x x')
    (states : R r₁ r₁') : Together R E V a b r r' :=
  ⟨by rw [run, run']; exact outcomes, by rw [run, run']; exact states⟩

/-- Actions that run like two that go together. -/
theorem of_exec {a₀ : Action α} {b₀ : Action β} {r₀ r₀' : Repository}
    (same : a.exec r = a₀.exec r₀) (same' : b.exec r' = b₀.exec r₀')
    (h : Together R E V a₀ b₀ r₀ r₀') : Together R E V a b r r' :=
  ⟨by rw [same, same']; exact h.outcomes, by rw [same, same']; exact h.states⟩

theorem pure {y : α} {z : β} (values : V y z) (states : R r r') :
    Together R E V (Pure.pure y) (Pure.pure z) r r' :=
  ⟨.ok values, states⟩

theorem throw {e e' : Failure} (failures : E e e') (states : R r r') :
    Together R E V (MonadExcept.throw e) (MonadExcept.throw e') r r' :=
  ⟨.error failures, states⟩

/-- What follows may depend on how the two actions before it have run. -/
theorem bind_of_runs {f : α → Action γ} {g : β → Action δ} (h : Together R E V a b r r')
    (next : ∀ y z r₁ r₁', a.exec r = (.ok y, r₁) → b.exec r' = (.ok z, r₁') → V y z → R r₁ r₁' →
      Together R E W (f y) (g z) r₁ r₁') : Together R E W (a >>= f) (b >>= g) r r' := by
  obtain ⟨outcomes, states⟩ := h
  rcases first : a.exec r with ⟨x, r₁⟩
  rcases second : b.exec r' with ⟨x', r₁'⟩
  rw [first, second] at outcomes states
  rcases outcomes with ⟨values⟩ | ⟨failures⟩
  · exact of_exec (exec_bind_of_ok first) (exec_bind_of_ok second)
      (next _ _ r₁ r₁' first second values states)
  · refine ⟨?_, ?_⟩ <;> rw [exec_bind_of_error first, exec_bind_of_error second]
    · exact .error failures
    · exact states

theorem bind {f : α → Action γ} {g : β → Action δ} (h : Together R E V a b r r')
    (next : ∀ y z r₁ r₁', V y z → R r₁ r₁' → Together R E W (f y) (g z) r₁ r₁') :
    Together R E W (a >>= f) (b >>= g) r r' :=
  h.bind_of_runs fun y z r₁ r₁' _ _ => next y z r₁ r₁'

theorem get {f : Repository → Action γ} {g : Repository → Action δ}
    (h : Together R E W (f r) (g r') r r') :
    Together R E W (MonadState.get >>= f) (MonadState.get >>= g) r r' :=
  of_exec (exec_bind_of_ok (exec_get r)) (exec_bind_of_ok (exec_get r')) h

theorem set {V : Unit → Unit → Prop} {r₁ r₁' : Repository} (values : V () ()) (states : R r₁ r₁') :
    Together R E V (MonadState.set r₁) (MonadState.set r₁') r r' :=
  ⟨.ok values, states⟩

theorem modifyGet {f : Repository → α × Repository} {g : Repository → β × Repository}
    (values : V (f r).1 (g r').1) (states : R (f r).2 (g r').2) :
    Together R E V (MonadState.modifyGet f) (MonadState.modifyGet g) r r' :=
  ⟨.ok values, states⟩

/-- A diagnostic that both actions end with is recorded by both. -/
theorem recording {V : Unit → Unit → Prop} {a b : Action Unit}
    (report : ∀ {d d' r r'}, D d d' → R r r' →
      Together R (Failure.Like D L) V (Repository.report d) (Repository.report d') r r')
    (h : Together R (Failure.Like D L) V a b r r') :
    Together R (Failure.Like D L) V (Repository.recording a) (Repository.recording b) r r' := by
  obtain ⟨outcomes, states⟩ := h
  rcases first : a.exec r with ⟨x, r₁⟩
  rcases second : b.exec r' with ⟨x', r₁'⟩
  rw [first, second] at outcomes states
  have left := exec_recording a r
  have right := exec_recording b r'
  rw [first] at left
  rw [second] at right
  rcases outcomes with ⟨values⟩ | ⟨⟨like⟩ | ⟨like⟩ | _⟩
  · exact of_exec left right ⟨.ok values, states⟩
  · exact of_exec (left.trans (exec_report _ r₁).symm) (right.trans (exec_report _ r₁').symm)
      (report like states)
  · exact of_exec left right ⟨.error (.cumulative like), states⟩
  · exact of_exec left right ⟨.error .notResolved, states⟩

/-- The same for each of two lists, item by item. -/
theorem forM {ι κ : Type} {I : ι → κ → Prop} {f : ι → Action Unit} {g : κ → Action Unit}
    {V : Unit → Unit → Prop} (values : V () ())
    (each : ∀ {i j r r'}, I i j → R r r' → Together R E V (f i) (g j) r r') {is : List ι}
    {js : List κ} (items : List.Forall₂ I is js) (states : R r r') :
    Together R E V (is.forM f) (js.forM g) r r' := by
  induction items generalizing r r' with
  | nil => exact .pure values states
  | cons item _ ih => exact .bind (each item states) fun _ _ _ _ _ states => ih states

end Together

end NodeForest

import Mathlib.Logic.Relation
import NodeForest.Repository.Report

/-!
# How actions run

An action takes a repository to an outcome and a repository. This module says what each way of
putting actions together does to both.

Results:
1. `exec_bind`, `exec_tryCatch` and the other `exec_*`: one equation for each combinator;
   `exec_bind_ok`, `exec_bind_error`: a sequence that gives a value, or fails, is taken apart.
2. `Leads`: an action that only takes steps of a given kind, whether it fails or not, and gives a
   value with a given property; `Leads.bind` and the rules beside it.
-/

namespace NodeForest

namespace Action

variable {α β : Type}

/-! ## 1. Equations -/

/-- The outcome of an action on a repository, and the repository after it. -/
def exec (a : Action α) (r : Repository) : Except Failure α × Repository :=
  a.run r

@[simp]
theorem exec_pure (y : α) (r : Repository) : exec (pure y) r = (.ok y, r) := rfl

@[simp]
theorem exec_throw (e : Failure) (r : Repository) :
    exec (throw e : Action α) r = (.error e, r) := rfl

@[simp]
theorem exec_get (r : Repository) : exec get r = (.ok r, r) := rfl

@[simp]
theorem exec_set (r r' : Repository) : exec (set r') r = (.ok (), r') := rfl

@[simp]
theorem exec_modify (f : Repository → Repository) (r : Repository) :
    exec (modify f) r = (.ok (), f r) := rfl

@[simp]
theorem exec_modifyGet (f : Repository → α × Repository) (r : Repository) :
    exec (modifyGet f) r = (.ok (f r).1, (f r).2) := rfl

theorem exec_bind (a : Action α) (f : α → Action β) (r : Repository) :
    exec (a >>= f) r = match exec a r with
      | (.ok y, r₁) => exec (f y) r₁
      | (.error e, r₁) => (.error e, r₁) := by
  change (match exec a r with | (x, r₁) => ExceptT.bindCont f x r₁) = _
  rcases exec a r with ⟨_ | _, _⟩ <;> rfl

theorem exec_tryCatch (a : Action α) (h : Failure → Action α) (r : Repository) :
    exec (tryCatch a h) r = match exec a r with
      | (.ok y, r₁) => (.ok y, r₁)
      | (.error e, r₁) => exec (h e) r₁ := by
  unfold exec ExceptT.run
  simp only [tryCatch, tryCatchThe, MonadExceptOf.tryCatch, ExceptT.tryCatch, ExceptT.mk, bind,
    StateT.bind]
  rcases a r with ⟨_ | _, _⟩ <;> rfl

theorem exec_bind_of_ok {a : Action α} {f : α → Action β} {r r₁ : Repository} {y : α}
    (h : exec a r = (.ok y, r₁)) : exec (a >>= f) r = exec (f y) r₁ := by
  rw [exec_bind, h]

theorem exec_bind_of_error {a : Action α} {f : α → Action β} {r r₁ : Repository} {e : Failure}
    (h : exec a r = (.error e, r₁)) : exec (a >>= f) r = (.error e, r₁) := by
  rw [exec_bind, h]

/-- A sequence gives a value exactly by both of its parts doing so. -/
theorem exec_bind_ok {a : Action α} {f : α → Action β} {r r' : Repository} {z : β} :
    exec (a >>= f) r = (.ok z, r') ↔
      ∃ y r₁, exec a r = (.ok y, r₁) ∧ exec (f y) r₁ = (.ok z, r') := by
  rw [exec_bind]
  rcases exec a r with ⟨e | y, r₁⟩
  · simp
  · exact ⟨fun h => ⟨y, r₁, rfl, h⟩, fun ⟨_, _, same, h⟩ => by cases same; exact h⟩

theorem exec_of_isOk {a : Action α} {r : Repository} (h : (exec a r).1.isOk) :
    ∃ y, exec a r = (.ok y, (exec a r).2) := by
  rcases run : exec a r with ⟨_ | y, r'⟩
  · rw [run] at h
    cases h
  · exact ⟨y, rfl⟩

/-- A recording keeps a single diagnostic, and hands on whatever else there is. -/
theorem exec_recording (a : Action Unit) (r : Repository) :
    exec (Repository.recording a) r = match exec a r with
      | (.error (.diagnostic d), r₁) => exec (Repository.addError d r₁.frames) r₁
      | (x, r₁) => (x, r₁) := by
  rw [Repository.recording, exec_tryCatch]
  rcases exec a r with ⟨(d | ds | _) | _, r₁⟩ <;> rfl

/-! ## 2. Actions that take steps -/

open Relation

/-- From `r`, the action only takes steps of `S`, and when it gives a value, `Q` holds of the value
and the repository then. -/
def Leads (S : Repository → Repository → Prop) (a : Action α) (r : Repository)
    (Q : α → Repository → Prop) : Prop :=
  ReflTransGen S r (exec a r).2 ∧ ∀ y, (exec a r).1 = .ok y → Q y (exec a r).2

namespace Leads

variable {S : Repository → Repository → Prop} {r r' : Repository}
variable {P Q : α → Repository → Prop} {a : Action α}

theorem steps (h : Leads S a r Q) {x : Except Failure α} (run : exec a r = (x, r')) :
    ReflTransGen S r r' := by
  have := h.1
  rwa [run] at this

theorem value (h : Leads S a r Q) {y : α} (run : exec a r = (.ok y, r')) : Q y r' := by
  have := h.2 y (by rw [run])
  rwa [run] at this

/-- Actions that run alike from `r` lead to the same. -/
theorem of_exec {b : Action α} (same : exec a r = exec b r) (h : Leads S b r Q) :
    Leads S a r Q := by
  rwa [Leads, same]

theorem mono {S' : Repository → Repository → Prop} (weaker : ∀ r r', S r r' → S' r r')
    (h : Leads S a r Q) : Leads S' a r Q :=
  ⟨ReflTransGen.mono weaker _ _ h.1, h.2⟩

/-- What holds of the value may be left out. -/
theorem forget (h : Leads S a r P) : Leads S a r fun _ _ => True :=
  ⟨h.1, fun _ _ => trivial⟩

theorem pure {y : α} (h : Q y r) : Leads S (Pure.pure y) r Q :=
  ⟨.refl, fun z ok => by cases ok; exact h⟩

theorem throw (e : Failure) : Leads S (MonadExcept.throw e) r Q :=
  ⟨.refl, fun _ ok => by cases ok⟩

theorem bind {f : α → Action β} {Q : β → Repository → Prop} (h : Leads S a r P)
    (next : ∀ y r₁, ReflTransGen S r r₁ → P y r₁ → Leads S (f y) r₁ Q) :
    Leads S (a >>= f) r Q := by
  rcases run : exec a r with ⟨e | y, r₁⟩
  · rw [Leads, exec_bind_of_error run]
    exact ⟨h.steps run, fun z ok => by cases ok⟩
  · have rest := next y r₁ (h.steps run) (h.value run)
    rw [Leads, exec_bind_of_ok run]
    exact ⟨(h.steps run).trans rest.1, rest.2⟩

theorem get {f : Repository → Action β} {Q : β → Repository → Prop} (h : Leads S (f r) r Q) :
    Leads S (MonadState.get >>= f) r Q := by
  rw [Leads, exec_bind_of_ok (exec_get r)]
  exact h

theorem modifyGet {f : Repository → α × Repository} (step : ReflTransGen S r (f r).2)
    (h : Q (f r).1 (f r).2) : Leads S (MonadState.modifyGet f) r Q :=
  ⟨step, fun z ok => by cases ok; exact h⟩

theorem set {Q : Unit → Repository → Prop} (step : ReflTransGen S r r') (h : Q () r') :
    Leads S (MonadState.set r') r Q :=
  ⟨step, fun z ok => by cases ok; exact h⟩

end Leads

end Action

end NodeForest

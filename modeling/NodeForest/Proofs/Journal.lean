import NodeForest.Proofs.Change
import NodeForest.Proofs.CallSite
import NodeForest.Proofs.Outcomes
import NodeForest.Proofs.Reporting

/-!
# Journals

What is asked of a repository is written down here in the order in which it ends, whoever asks: a
script, a factory that is called on the way, or the hook of a resolve. So an operation stands before
the resolve whose hook called it, and the binds of a factory stand before the bind that its argument
was for. The first entry of which something is true is the innermost one.

Results:
1. `Event`: one entry; `Repository.Runs`: a run with its journal; `Runs.leadsTo`, `Runs.continues`,
   `Runs.before`; `Covers.resolve_of_hook`: what a resolve keeps of what its hook leaves.
2. `Workspace.Runs`: runs over any number of repositories; `Workspace.Runs.follows`,
   `Workspace.Runs.begun`: what they are for one of them.
-/

namespace NodeForest

open NodeForest.Action

/-! ## 1. Events -/

/-- What a repository is asked to do. -/
inductive Request where
  | operation (op : Operation)
  | resolve (hook : Hook Unit) (location : Location)

def Request.run : Request → Action Unit
  | operation op => op.run
  | resolve hook location => do
      let _ ← Repository.resolve hook location

/-- An entry of a journal: a request, and the repository that it was made to. -/
structure Event where
  request : Request
  before : Repository

namespace Event

/-- The number of the repository. -/
def home (e : Event) : RepositoryId :=
  e.before.id

def outcome (e : Event) : Outcome :=
  (e.request.run.exec e.before).1

def after (e : Event) : Repository :=
  (e.request.run.exec e.before).2

end Event

/-- What an action does when its value is left out. -/
theorem exec_discard {α : Type} (a : Action α) (r : Repository) :
    exec (do let _ ← a) r = ((exec a r).1.map fun _ => (), (exec a r).2) := by
  rw [exec_bind]
  rcases exec a r with ⟨_ | _, _⟩ <;> rfl

theorem Event.after_resolve (hook : Hook Unit) (location : Location) (r : Repository) :
    (Event.mk (.resolve hook location) r).after =
      ((Repository.resolve hook location).exec r).2 :=
  congrArg Prod.snd (exec_discard _ r)

namespace Repository

/-- A resolve of `r` gets as far as calling its hook, on `r'`. -/
def CallsHook (r r' : Repository) : Prop :=
  r.phase = .building ∧ reportUninitialized.exec r = (.ok (), r')

theorem CallsHook.unique {r r₁ r₂ : Repository} (h : r.CallsHook r₁) (h' : r.CallsHook r₂) :
    r₁ = r₂ :=
  congrArg Prod.snd (h.2.symm.trans h'.2)

/-- Before a hook is called, diagnostics are recorded, and nothing else changes. -/
theorem CallsHook.noting {r r' : Repository} (called : r.CallsHook r') :
    ∃ ds, r' = r.noting ds := by
  obtain ⟨ds, same⟩ := errors_reportUninitialized r
  rw [called.2] at same
  exact ⟨ds, same⟩

/-- What a resolve keeps of what its hook leaves, if that is called. -/
theorem Covers.resolve_of_hook {I : Repository → Prop} (covers : Covers fun r r' => I r → I r')
    {hook : Hook Unit} {location : Location} {r : Repository}
    (hooked : ∀ r₂, r.CallsHook r₂ → I ((hook location).exec r₂).2)
    (idle : (∀ r₂, ¬r.CallsHook r₂) → I r) : I ((Repository.resolve hook location).exec r).2 := by
  cases phase : r.phase with
  | resolved roots =>
    rw [exec_resolve_resolved hook location phase]
    exact idle fun r₂ called => by cases phase.symm.trans called.1
  | failed =>
    rw [exec_resolve_failed hook location phase]
    exact idle fun r₂ called => by cases phase.symm.trans called.1
  | building =>
    have attempt : I ((Repository.runResolve hook location).exec r).2 := by
      rcases check : reportUninitialized.exec r with ⟨e | ⟨⟩, r₂⟩
      · obtain ⟨ds, same⟩ := errors_reportUninitialized r
        rw [check] at same
        rw [Repository.runResolve, exec_bind_of_error check]
        dsimp only at same ⊢
        rw [same]
        refine covers.note r ds (idle fun r₃ called => ?_)
        cases check.symm.trans called.2
      · have left := hooked r₂ ⟨phase, check⟩
        rw [Repository.runResolve, exec_bind_of_ok check]
        rcases ran : (hook location).exec r₂ with ⟨e | y, r₃⟩ <;> rw [ran] at left
        · rw [exec_bind_of_error ran]
          exact left
        · have settled := covers.settle r₃ left
          rw [exec_bind_of_ok ran, exec_bind_of_ok (exec_get r₃)]
          dsimp only
          rw [exec_bind_of_ok (exec_set _ _)]
          cases r₃.settle.1.errors.isEmpty with
          | true => exact covers.place _ settled
          | false => exact settled
    rw [exec_resolve hook location phase]
    rcases run : (Repository.runResolve hook location).exec r with ⟨_ | ⟨roots, given⟩, r₁⟩ <;>
      rw [run] at attempt <;> exact covers.turn _ _ attempt

/-- `Runs r log r'`: a run from `r` to `r'`, and its journal.

* `operation`: any operation, whether it fails or not.
* `inHook`: a resolve has begun, and its hook is about to be called.
* `resolve`: a resolve with a hook that does to the repository it is called on what a run does,
  whose journal stands before the resolve. -/
inductive Runs : Repository → List Event → Repository → Prop
  | refl (r : Repository) : Runs r [] r
  | operation {r r₁ : Repository} {log : List Event} (op : Operation) :
      Runs r log r₁ → Runs r (log ++ [⟨.operation op, r₁⟩]) (op.after r₁)
  | inHook {r r₁ r₂ : Repository} {log : List Event} :
      Runs r log r₁ → r₁.CallsHook r₂ → Runs r log r₂
  | resolve {r r₁ : Repository} {log inside : List Event} (hook : Hook Unit)
      (location : Location) : Runs r log r₁ →
      (∀ r₂, r₁.CallsHook r₂ → Runs r₂ inside ((hook location).exec r₂).2) →
      ((∀ r₂, ¬r₁.CallsHook r₂) → inside = []) →
      Runs r (log ++ (inside ++ [⟨.resolve hook location, r₁⟩]))
        (Event.mk (.resolve hook location) r₁).after

variable {r r' : Repository} {log : List Event}

namespace Runs

/-- The operations of a run are in its journal. -/
theorem leadsTo (run : Runs r log r') :
    LeadsTo (fun r op => ⟨.operation op, r⟩ ∈ log) r r' := by
  induction run with
  | refl => exact .refl _
  | @operation r r₁ log op _ ih =>
    exact .operation op (ih.mono fun _ _ member => List.mem_append_left _ member)
      (List.mem_append_right _ List.mem_cons_self)
  | inHook _ called ih => exact .inHook ih called.1 called.2
  | @resolve r r₁ log inside hook location _ _ _ ih hooked =>
    rw [Event.after_resolve]
    refine .resolve hook location (ih.mono fun _ _ member => List.mem_append_left _ member)
      fun r₂ building passed => (hooked r₂ ⟨building, passed⟩).mono fun _ _ member => ?_
    exact List.mem_append_right _ (List.mem_append_left _ member)

theorem continues (run : Runs r log r') : Continues r r' :=
  run.leadsTo.continues

/-- Whatever is written down was asked of the repository. -/
theorem home (run : Runs r log r') : ∀ e ∈ log, e.home = r.id := by
  induction run with
  | refl => exact fun _ member => absurd member List.not_mem_nil
  | operation op run ih =>
    rw [List.forall_mem_append, List.forall_mem_singleton]
    exact ⟨ih, run.continues.id⟩
  | inHook _ _ ih => exact ih
  | @resolve r r₁ log inside hook location run hooked idle ih inner =>
    rw [List.forall_mem_append, List.forall_mem_append, List.forall_mem_singleton]
    refine ⟨ih, fun e member => ?_, run.continues.id⟩
    by_cases called : ∃ r₂, r₁.CallsHook r₂
    · obtain ⟨r₂, called⟩ := called
      have reports := (leads_reportUninitialized (p := .none) r₁).steps called.2
      rw [inner r₂ called e member, (Steps.extends reports).id, run.continues.id]
    · rw [idle (not_exists.mp called)] at member
      cases member

theorem trans {r₁ r₂ : Repository} {log' : List Event} (run : Runs r log r₁)
    (run' : Runs r₁ log' r₂) : Runs r (log ++ log') r₂ := by
  induction run' with
  | refl => rwa [List.append_nil]
  | operation op _ ih =>
    rw [← List.append_assoc]
    exact .operation op (ih run)
  | inHook _ called ih => exact .inHook (ih run) called
  | resolve hook location _ hooked idle ih _ =>
    rw [← List.append_assoc]
    exact .resolve hook location (ih run) hooked idle

/-- Each entry is made to a repository that the run has led to, with a beginning of its journal. -/
theorem before (run : Runs r log r') : ∀ e ∈ log, ∃ earlier, earlier <+: log ∧
    Runs r earlier e.before := by
  induction run with
  | refl => exact fun _ member => absurd member List.not_mem_nil
  | @operation r r₁ log op run ih =>
    rw [List.forall_mem_append, List.forall_mem_singleton]
    refine ⟨fun e member => ?_, log, List.prefix_append _ _, run⟩
    obtain ⟨earlier, begins, run'⟩ := ih e member
    exact ⟨earlier, begins.trans (List.prefix_append _ _), run'⟩
  | inHook _ _ ih => exact ih
  | @resolve r r₁ log inside hook location run hooked idle ih inner =>
    rw [List.forall_mem_append, List.forall_mem_append, List.forall_mem_singleton]
    refine ⟨fun e member => ?_, fun e member => ?_, log, List.prefix_append _ _, run⟩
    · obtain ⟨earlier, begins, run'⟩ := ih e member
      exact ⟨earlier, begins.trans (List.prefix_append _ _), run'⟩
    · by_cases called : ∃ r₂, r₁.CallsHook r₂
      · obtain ⟨r₂, called⟩ := called
        obtain ⟨earlier, begins, run'⟩ := inner r₂ called e member
        refine ⟨log ++ earlier, ?_, (Runs.inHook run called).trans run'⟩
        exact (List.prefix_append_right_inj log).mpr (begins.trans (List.prefix_append _ _))
      · rw [idle (not_exists.mp called)] at member
        cases member

/-- A single operation. -/
theorem single (op : Operation) (r : Repository) :
    Runs r [⟨.operation op, r⟩] (op.after r) :=
  .operation op (.refl r)

end Runs

/-- What operations write down, one after the other. -/
def journal (r : Repository) : List Operation → List Event
  | [] => []
  | op :: ops => ⟨.operation op, r⟩ :: journal (op.after r) ops

theorem runs_afterAll : ∀ (ops : List Operation) (r : Repository),
    Runs r (r.journal ops) (r.afterAll ops)
  | [], r => .refl r
  | op :: ops, r => (Runs.single op r).trans (runs_afterAll ops (op.after r))

end Repository

/-! ## 2. Runs over several repositories -/

namespace Workspace

/-- `Runs w log w'`: a run from `w` to `w'`, and its journal.

* `plant`: a new repository.
* `within`: a run on one of the repositories.
* `beside`: what stands beside the repositories is changed, such as the groups of their roots. -/
inductive Runs : Workspace → List Event → Workspace → Prop
  | refl (w : Workspace) : Runs w [] w
  | plant {w w₁ : Workspace} {log : List Event} (options : Options) :
      Runs w log w₁ → Runs w log (w₁.plant options).2
  | within {w w₁ : Workspace} {log inside : List Event} {r : Repository} (id : RepositoryId) :
      Runs w log w₁ → (w₁.tree? id).isSome → (w₁.repository id).Runs inside r →
      Runs w (log ++ inside) (w₁.updateRepository id fun _ => r)
  | beside {w w₁ w₂ : Workspace} {log : List Event} : Runs w log w₁ →
      (∀ id, (w₂.tree? id).map (·.repository) = (w₁.tree? id).map (·.repository)) →
      Runs w log w₂

variable {w w₁ w' : Workspace} {log : List Event} {id : RepositoryId}

/-- A run has led a planted repository from `r` to where it is. -/
structure Follows (r : Repository) (log : List Event) (w : Workspace) (id : RepositoryId) :
    Prop where
  planted : (w.tree? id).isSome
  run : r.Runs (log.filter (·.home = id)) (w.repository id)

theorem repository_of_tree? {t : Tree} (found : w.tree? id = some t) :
    w.repository id = t.repository := by
  rw [repository, found]
  rfl

theorem tree?_plant_of_isSome (planted : (w.tree? id).isSome) (options : Options) :
    (w.plant options).2.tree? id = w.tree? id := by
  rw [tree?_plant, Option.or_of_isSome planted]

namespace Follows

variable {r r' : Repository}

theorem plant (follows : Follows r log w id) (options : Options) :
    Follows r log (w.plant options).2 id := by
  have same := tree?_plant_of_isSome follows.planted options
  refine ⟨by rw [same]; exact follows.planted, ?_⟩
  rw [repository, same]
  exact follows.run

theorem beside (follows : Follows r log w id)
    (same : ∀ id, (w'.tree? id).map (·.repository) = (w.tree? id).map (·.repository)) :
    Follows r log w' id := by
  refine ⟨?_, ?_⟩
  · rw [← Option.isSome_map (f := (·.repository)), same, Option.isSome_map]
    exact follows.planted
  · rw [repository, same]
    exact follows.run

theorem within (follows : Follows r log w id) {other : RepositoryId} {inside : List Event}
    (run : (w.repository other).Runs inside r') :
    Follows r (log ++ inside) (w.updateRepository other fun _ => r') id := by
  have number : r'.id = other := run.continues.id.trans (w.id_repository other)
  have home (e : Event) (member : e ∈ inside) : e.home = other :=
    (run.home e member).trans (w.id_repository other)
  refine ⟨by rw [isSome_tree?_updateRepository w number]; exact follows.planted, ?_⟩
  obtain ⟨t, found⟩ := Option.isSome_iff_exists.mp follows.planted
  have before := follows.run
  rw [repository_of_tree? found] at before
  rw [List.filter_append, repository, tree?_updateRepository w number, found]
  by_cases here : id = other
  · subst here
    rw [repository_of_tree? found] at run
    have all : inside.filter (fun e => e.home = id) = inside :=
      List.filter_eq_self.mpr fun e member => decide_eq_true (home e member)
    simpa [all] using before.trans run
  · have none : inside.filter (fun e => e.home = id) = [] :=
      List.filter_eq_nil_iff.mpr fun e member => by simp [home e member, Ne.symm here]
    simpa [none, here] using before

end Follows

namespace Runs

/-- What a run is for a repository that was there at its beginning. -/
theorem follows (run : Runs w log w') (planted : (w.tree? id).isSome) :
    Follows (w.repository id) log w' id := by
  induction run with
  | refl => exact ⟨planted, .refl _⟩
  | plant options _ ih => exact ih.plant options
  | within other _ _ run ih => exact ih.within run
  | beside _ same ih => exact ih.beside same

/-- A repository that was not there at the beginning has been new on the way. -/
theorem begun (run : Runs w log w') (unplanted : w.tree? id = none)
    (planted : (w'.tree? id).isSome) :
    ∃ options, Follows (Repository.start id options) log w' id := by
  suffices (w'.tree? id = none ∧ log.filter (·.home = id) = []) ∨
      ∃ options, Follows (Repository.start id options) log w' id by
    refine this.resolve_left fun none => ?_
    rw [none.1] at planted
    cases planted
  clear planted
  induction run with
  | refl => exact .inl ⟨unplanted, rfl⟩
  | @plant w₁ log options _ ih =>
    rcases ih with ⟨none, quiet⟩ | ⟨options', follows⟩
    · have found := tree?_plant w₁ options id
      rw [none, Option.none_or] at found
      split at found
      · refine .inr ⟨options, by rw [found]; rfl, ?_⟩
        rw [repository_of_tree? found, quiet]
        exact .refl _
      · exact .inl ⟨found, quiet⟩
    · exact .inr ⟨options', follows.plant options⟩
  | @within w₁ log inside r other _ there run ih =>
    rcases ih with ⟨none, quiet⟩ | ⟨options', follows⟩
    · have number : r.id = other := run.continues.id.trans (w₁.id_repository other)
      have apart : other ≠ id := by
        rintro rfl
        rw [none] at there
        cases there
      refine .inl ⟨by rw [tree?_updateRepository w₁ number, none]; rfl, ?_⟩
      rw [List.filter_append, quiet, List.nil_append]
      refine List.filter_eq_nil_iff.mpr fun e member => ?_
      simp [(run.home e member).trans (w₁.id_repository other), apart]
    · exact .inr ⟨options', follows.within run⟩
  | beside _ same ih =>
    rcases ih with ⟨none, quiet⟩ | ⟨options', follows⟩
    · refine .inl ⟨?_, quiet⟩
      have := same id
      rwa [none, Option.map_none, Option.map_eq_none_iff] at this
    · exact .inr ⟨options', follows.beside same⟩

theorem planted (run : Runs w log w') (planted : (w.tree? id).isSome) : (w'.tree? id).isSome :=
  (run.follows planted).planted

theorem trans {log' : List Event} (run : Runs w log w₁) (run' : Runs w₁ log' w') :
    Runs w (log ++ log') w' := by
  induction run' with
  | refl => rwa [List.append_nil]
  | plant options _ ih => exact .plant options ih
  | within id _ there run' ih =>
    rw [← List.append_assoc]
    exact .within id ih there run'
  | beside _ same ih => exact .beside ih same

end Runs

/-- A workspace with one repository. -/
def single (options : Options) (r : Repository) : Workspace :=
  (({} : Workspace).plant options).2.updateRepository ⟨0⟩ fun _ => r

theorem repository_single (options : Options) {r : Repository} (number : r.id = ⟨0⟩) :
    (single options r).repository ⟨0⟩ = r := by
  rw [single, repository_updateRepository _ number rfl, if_pos rfl]

theorem runs_single (options : Options) (ops : List Operation) :
    Runs {} ((Repository.start ⟨0⟩ options).journal ops)
      (single options ((Repository.start ⟨0⟩ options).afterAll ops)) :=
  .within ⟨0⟩ (.plant options (.refl {})) rfl (Repository.runs_afterAll ops _)

end Workspace

/-- Reading something off a repository changes nothing. -/
theorem run_readIn_bind {α β : Type} (id : RepositoryId) (read : Repository → α) (next : α → Work β)
    (w : Workspace) :
    (readIn id read >>= next).run.run w = (next (read (w.repository id))).run.run w :=
  rfl

end NodeForest

import NodeForest.Proofs.Comparison
import NodeForest.Proofs.ForestImage

/-!
# Keeping more

Two repositories that differ only in what they keep: the second has further handles and pins, or
has orphans for roots. Nothing looks at what is kept before nodes are removed, so up to there a
resolve does the same to both.

Results:
1. `KeepsMore`: the second keeps more.
2. `Indifferent`: actions that do the same to both; `indifferent_prepare`: a resolve up to the
   removal is one of them.
-/

namespace NodeForest

open NodeForest.Action

namespace Repository

variable {r r' : Repository}

/-! ## 1. What is kept -/

/-- The repository with other handles and pins, and with or without orphans for roots. -/
def keeping (r : Repository) (held pinned : List NodeId) (orphans : Bool) : Repository :=
  { r with held, pinned, options := { r.options with orphansAreRoots := orphans } }

/-- The other repository is this one, except that it may keep more. -/
inductive KeepsMore (r : Repository) : Repository → Prop
  | more (held pinned : List NodeId) (orphans : Bool) : (∀ id ∈ r.held, id ∈ held) →
      (∀ id ∈ r.pinned, id ∈ pinned) → (r.options.orphansAreRoots → orphans) →
      KeepsMore r (r.keeping held pinned orphans)

theorem keepsMore_hold (r : Repository) (id : NodeId) : r.KeepsMore (r.hold id) :=
  .more (id :: r.held) r.pinned r.options.orphansAreRoots (fun _ => List.mem_cons_of_mem _)
    (fun _ member => member) fun orphans => orphans

namespace KeepsMore

theorem nodeInScope (more : r.KeepsMore r') (scope : ScopeId) (name : String)
    (location : Location) :
    (r.nodeInScope scope name location).1 = (r'.nodeInScope scope name location).1 ∧
      (r.nodeInScope scope name location).2.KeepsMore (r'.nodeInScope scope name location).2 := by
  obtain ⟨held, pinned, orphans, handles, pins, roots⟩ := more
  have found : (r.keeping held pinned orphans).lookup? (r.scopedName scope name) =
      r.lookup? (r.scopedName scope name) := rfl
  have named : (r.keeping held pinned orphans).scopedName scope name = r.scopedName scope name :=
    rfl
  simp only [Repository.nodeInScope, getOrCreate, named, found]
  cases r.lookup? (r.scopedName scope name) <;> exact ⟨rfl, .more _ _ _ handles pins roots⟩

theorem update (more : r.KeepsMore r') (id : NodeId) (f : Node → Node) :
    (r.update id f).KeepsMore (r'.update id f) := by
  obtain ⟨held, pinned, orphans, handles, pins, roots⟩ := more
  exact .more _ _ _ handles pins roots

theorem updateAll (more : r.KeepsMore r') (ids : List NodeId) (f : Node → Node) :
    (r.updateAll ids f).KeepsMore (r'.updateAll ids f) := by
  induction ids generalizing r r' with
  | nil => exact more
  | cons id ids ih => exact ih (more.update id f)

theorem relink (more : r.KeepsMore r') (id : NodeId) (f : Option Binding → Option Binding)
    (children : List NodeId) : (r.relink id f children).KeepsMore (r'.relink id f children) :=
  (more.update id _).updateAll children _

theorem noteClass (more : r.KeepsMore r') (id : NodeId) (className : String) :
    (r.noteClass id className).KeepsMore (r'.noteClass id className) := by
  obtain ⟨held, pinned, orphans, handles, pins, roots⟩ := more
  simp only [Repository.noteClass]
  split_ifs <;> exact .more _ _ _ handles pins roots

theorem pin (more : r.KeepsMore r') (id : NodeId) : (r.pin id).KeepsMore (r'.pin id) := by
  obtain ⟨held, pinned, orphans, handles, pins, roots⟩ := more
  have live : (r.keeping held pinned orphans).isLive id = r.isLive id := rfl
  have kept : (r.keeping held pinned orphans).pinned = pinned := rfl
  simp only [Repository.pin, live, kept]
  split_ifs with fresh fresh' fresh'
  · refine .more held (pinned ++ [id]) orphans handles (fun other member => ?_) roots
    exact List.mem_append.mpr ((List.mem_append.mp member).imp_left (pins other))
  · -- It is pinned already in the one that keeps more.
    refine .more held pinned orphans handles (fun other member => ?_) roots
    rcases List.mem_append.mp member with old | new
    · exact pins other old
    · have same : other = id := by simpa using new
      subst same
      simp_all
  · refine .more held (pinned ++ [id]) orphans handles (fun other member => ?_) roots
    exact List.mem_append_left _ (pins other member)
  · exact .more _ _ _ handles pins roots

theorem unpin (more : r.KeepsMore r') (id : NodeId) : (r.unpin id).KeepsMore (r'.unpin id) := by
  obtain ⟨held, pinned, orphans, handles, pins, roots⟩ := more
  refine .more held (pinned.filter (· != id)) orphans handles (fun other member => ?_) roots
  obtain ⟨pinned, different⟩ := List.mem_filter.mp member
  exact List.mem_filter.mpr ⟨pins other pinned, different⟩

end KeepsMore

/-! ## 2. Until nodes are removed -/

/-- The action does the same to a repository and to one that keeps more. -/
def Indifferent {α : Type} (a : Action α) : Prop :=
  ∀ {r r' : Repository}, r.KeepsMore r' → Together KeepsMore (Failure.Like Eq Eq) Eq a a r r'

theorem indifferent_addError (d : Diagnostic) (trail : List Location) :
    Indifferent (addError d trail) := by
  rintro r _ ⟨held, pinned, orphans, handles, pins, roots⟩
  have run := exec_addError d trail r
  have run' := exec_addError d trail (r.keeping held pinned orphans)
  have same : (r.keeping held pinned orphans).options.testing = r.options.testing := rfl
  rw [same] at run'
  split at run
  · rename_i testing
    rw [if_pos testing] at run'
    exact .of_runs run run' (.error (.diagnostic rfl)) (.more _ _ _ handles pins roots)
  · rename_i collecting
    rw [if_neg collecting] at run'
    refine .of_runs run run' ?_ (.more _ _ _ handles pins roots)
    have reached : ((r.keeping held pinned orphans).noting
        (recorded r.options d trail)).limitReached =
          (r.noting (recorded r.options d trail)).limitReached := rfl
    change Outcomes _ _ _ (if ((r.keeping held pinned orphans).noting
      (recorded r.options d trail)).limitReached then _ else _)
    rw [reached]
    split
    · exact .error (.cumulative rfl)
    · exact .ok rfl

theorem indifferent_report (d : Diagnostic) : Indifferent (report d) := by
  rintro r _ ⟨held, pinned, orphans, handles, pins, roots⟩
  exact .get (indifferent_addError d r.frames (.more _ _ _ handles pins roots))

theorem Indifferent.recording {a : Action Unit} (h : Indifferent a) :
    Indifferent (recording a) := by
  intro r r' more
  refine .recording ?_ (h more)
  rintro d _ r r' rfl more
  exact indifferent_report d more

theorem indifferent_attach (id : NodeId) (d : Definition) (location : Location) :
    Indifferent (attach id d location) := by
  intro r r' more
  refine .get ?_
  have same : r'.get? id = r.get? id := by cases more; rfl
  have frames : r'.frames = r.frames := by cases more; rfl
  dsimp only
  rw [same, frames]
  cases r.get? id with
  | none => exact .pure rfl more
  | some n =>
    dsimp only
    cases n.binding with
    | some b =>
      dsimp only
      split
      · exact .throw (.diagnostic rfl) more
      · exact .pure rfl more
    | none =>
      exact .set rfl ((more.relink id (fun _ => some (r.newBinding d location))
        (r.newBinding d location).childIds).noteClass id _)

theorem exec_tryBind_gone {id : NodeId} {d : Definition} {location : Location}
    (gone : r.get? id = none) : (tryBind id (.ok (.pending d)) location).exec r =
      (.error (.diagnostic (.unboundNode (r.nameInMessage id) "bind" location)), r) := by
  rw [tryBind, exec_bind_of_ok (exec_get r)]
  simp only [Child.definition?, gone]
  rfl

theorem indifferent_bindMux (id : NodeId) (location : Location) :
    Indifferent (bind id (.ok (.pending muxDefinition)) location) := by
  refine Indifferent.recording fun {r r'} more => ?_
  have same : r'.get? id = r.get? id := by cases more; rfl
  cases here : r.get? id with
  | none =>
    have named : r'.nameInMessage id = r.nameInMessage id := by cases more; rfl
    refine .of_runs (exec_tryBind_gone here) (exec_tryBind_gone (same.trans here)) ?_ more
    exact .error (.diagnostic (by rw [named]))
  | some n =>
    -- The mux has no children yet, so the bind comes down to attaching its definition.
    have live : r.isLive id := isLive_iff.mpr ⟨n, here⟩
    have live' : r'.isLive id := isLive_iff.mpr ⟨n, same.trans here⟩
    exact .of_exec (exec_tryBind_mux location live) (exec_tryBind_mux location live')
      (indifferent_attach id resolvedMux location more)

theorem indifferent_obtainMux (location : Location) : Indifferent (obtainMux location) := by
  intro r r' more
  rw [obtainMux]
  refine .get ?_
  have same : r'.mux = r.mux := by cases more; rfl
  rw [same]
  cases r.mux with
  | some mux => exact .pure rfl more
  | none =>
    obtain ⟨found, after⟩ := more.nodeInScope .root muxName location
    refine .bind (V := Eq) (.modifyGet found after) ?_
    rintro id _ r₁ r₁' rfl more₁
    exact .bind (indifferent_bindMux id location more₁) fun _ _ _ _ _ more₂ => .pure rfl more₂

theorem exec_extendChildren_unbound {role : ChildRole} {id : NodeId} {cs : List Child}
    {location : Location} (unbound : ¬r.isBound id) :
    (extendChildren role id cs location).exec r =
      (.error (.diagnostic (.uninitializedNode (r.nameInMessage id) location)), r) := by
  have none : (r.get? id).filter (·.isBound) = .none := by
    rw [Option.filter_eq_none_iff]
    intro n here bound
    exact unbound (by simpa [isBound, here] using bound)
  rw [extendChildren, exec_bind_of_ok (exec_get r), none]
  rfl

/-- The repository with resolved children appended to a list of a node. -/
def appending (r : Repository) (role : ChildRole) (id : NodeId) (cs : List Child) : Repository :=
  r.relink id (·.map (extendBinding role cs)) (cs.filterMap Child.nodeId?)

theorem exec_connect {id : NodeId} {cs steps : List Child} (location : Location)
    (settled : ∀ c ∈ cs ++ steps, r.Settled c) (bound : r.isBound id) :
    (do addChildren id cs location; addSteps id steps location).exec r =
      (.ok (), (r.appending .child id cs).appending .step id steps) := by
  rw [addChildren, exec_bind_of_ok (exec_extendChildren_settled location
    (fun c member => settled c (List.mem_append_left _ member)) bound)]
  refine exec_extendChildren_settled location (fun c member => ?_) (isBound_relink (by simp) bound)
  rcases settled c (List.mem_append_right _ member) with empty | ⟨child, same, live⟩
  · exact .inl empty
  · refine .inr ⟨child, ?_, ?_⟩
    · rw [same, relink_eq]
      rfl
    · rwa [isLive_relink]

theorem indifferent_connect {id : NodeId} {cs steps : List Child} (location : Location)
    (settled : ∀ c ∈ cs ++ steps, r.Settled c) (more : r.KeepsMore r') :
    Together KeepsMore (Failure.Like Eq Eq) Eq
      (do addChildren id cs location; addSteps id steps location)
      (do addChildren id cs location; addSteps id steps location) r r' := by
  have same : r'.isBound id = r.isBound id := by cases more; rfl
  by_cases bound : r.isBound id
  · have settled' : ∀ c ∈ cs ++ steps, r'.Settled c := by cases more; exact settled
    exact .of_runs (exec_connect location settled bound)
      (exec_connect location settled' (same.trans bound)) (.ok rfl)
      ((more.relink id _ _).relink id _ _)
  · have named : r'.nameInMessage id = r.nameInMessage id := by cases more; rfl
    have unbound' : ¬r'.isBound id := by rwa [same]
    refine .of_runs (exec_bind_of_error (exec_extendChildren_unbound bound))
      (exec_bind_of_error (exec_extendChildren_unbound unbound')) ?_ more
    exact .error (.diagnostic (by rw [named]))

theorem indifferent_mux (location : Location) : Indifferent (Hook.mux location) := by
  intro r r' more
  rw [Hook.mux]
  refine .get ?_
  have sinks : r'.sinks = r.sinks := by cases more; rfl
  have spigots : r'.spigots = r.spigots := by cases more; rfl
  have mux : r'.mux = r.mux := by cases more; rfl
  rw [sinks, spigots, mux]
  dsimp only
  split
  · cases r.mux with
    | some mux => exact .modifyGet rfl (more.unpin mux)
    | none => exact .pure rfl more
  · refine .bind (indifferent_obtainMux location more) ?_
    rintro mux _ r₁ r₁' rfl more₁
    refine .bind (V := Eq) (.modifyGet rfl (more₁.pin mux)) fun _ _ r₂ r₂' _ more₂ => .get ?_
    have sinks : r₂'.withoutMux r₂'.sinks = r₂.withoutMux r₂.sinks := by cases more₂; rfl
    have spigots : r₂'.withoutMux r₂'.spigots = r₂.withoutMux r₂.spigots := by cases more₂; rfl
    rw [sinks, spigots]
    refine indifferent_connect location (fun c member => ?_) more₂
    rcases List.mem_append.mp member with sink | spigot
    · exact settled_withoutMux c sink
    · exact settled_withoutMux c spigot

theorem indifferent_prepare {hook : Hook Unit} (either : hook = Hook.idle ∨ hook = Hook.mux)
    (location : Location) : Indifferent (prepare hook location) := by
  intro r r' more
  refine .bind (V := Eq) ?_ fun _ _ r₁ r₁' _ more₁ => ?_
  · have same : r'.findings = r.findings := by cases more; rfl
    refine .get ?_
    rw [same]
    exact .forM rfl (fun same more => same ▸ indifferent_addError _ _ more)
      (List.forall₂_same.mpr fun _ _ => rfl) more
  · rcases either with rfl | rfl
    · exact .pure rfl more₁
    · exact indifferent_mux location more₁

end Repository

end NodeForest

import NodeForest.Proofs.Change
import NodeForest.Proofs.Settle

/-!
# A failed resolve

A further resolve is answered from what has been recorded. In collecting mode that is all there is
to tell: the check, the hook and the resolve itself fail only with everything that has been recorded
by then, so a further resolve fails alike. In testing mode the first diagnostic is returned instead,
and not recorded.

Results:
1. `FailsInFull`: an action that fails with all that is recorded, if at all.
2. `failsInFull_mux`: so does the hook for the data mux, which always gets hold of a bound node,
   `isBound_obtainMux`.
3. `resolve_fails_again`: the further resolve; `resolve_fails_differently`: in testing mode it does
   not know of a finding that the first one has returned.
-/

namespace NodeForest

open NodeForest.Action

/-! ## 1. Failing with all that is recorded -/

namespace Action

variable {α β : Type}

/-- If the action fails from `r`, it is with all that has been recorded by then. -/
def FailsInFull (a : Action α) (r : Repository) : Prop :=
  ∀ e r', exec a r = (.error e, r') → e = .cumulative r'.errors

namespace FailsInFull

variable {a : Action α} {f : α → Action β} {r r₁ : Repository}

theorem of_ok {y : α} (ran : exec a r = (.ok y, r₁)) : FailsInFull a r := by
  intro e r' failed
  rw [ran] at failed
  cases failed

theorem bind (first : FailsInFull a r)
    (next : ∀ y r₁, exec a r = (.ok y, r₁) → FailsInFull (f y) r₁) :
    FailsInFull (a >>= f) r := by
  intro e r' failed
  rcases ran : exec a r with ⟨e' | y, r₁⟩
  · rw [exec_bind_of_error ran] at failed
    cases failed
    exact first e r' ran
  · rw [exec_bind_of_ok ran] at failed
    exact next y r₁ ran e r' failed

/-- What comes after an action that does not fail. -/
theorem after {y : α} (ran : exec a r = (.ok y, r₁)) (next : FailsInFull (f y) r₁) :
    FailsInFull (a >>= f) r :=
  (of_ok ran).bind fun _ _ same => by
    rw [ran] at same
    cases same
    exact next

end FailsInFull

end Action

namespace Repository

variable {r r' : Repository} {location : Location}

theorem failsInFull_addError (collecting : r.options.testing = false) (d : Diagnostic)
    (trail : List Location) : FailsInFull (addError d trail) r := by
  intro e r' failed
  rw [exec_addError, if_neg (by simp [collecting])] at failed
  dsimp only at failed
  split at failed <;> cases failed
  rfl

/-- A recording of an action that returns single diagnostics and takes nothing back. -/
theorem failsInFull_recording {a : Action Unit}
    (single : ∀ e r', exec a r = (.error e, r') →
      (∃ d, e = .diagnostic d) ∧ r'.options.testing = false) : FailsInFull (recording a) r := by
  intro e r' failed
  rw [exec_recording] at failed
  rcases ran : exec a r with ⟨e' | ⟨⟩, r₁⟩ <;> rw [ran] at failed
  · obtain ⟨⟨d, rfl⟩, collecting⟩ := single e' r₁ ran
    exact failsInFull_addError collecting d r₁.frames e r' failed
  · cases failed

theorem failsInFull_reportUninitialized (collecting : r.options.testing = false) :
    FailsInFull reportUninitialized r := by
  intro e r' failed
  rw [exec_reportUninitialized] at failed
  obtain ⟨k, _, outcome, ran, ends⟩ := exec_addErrors collecting r.findings
  rw [ran] at failed
  cases failed
  rcases ends with ⟨done, _⟩ | ⟨full, _⟩
  · cases done
  · exact Except.error.inj full

/-! ## 2. The hook for the data mux -/

theorem failsInFull_bindMux (collecting : r.options.testing = false) {id : NodeId}
    (live : r.isLive id) : FailsInFull (bind id (.ok (.pending muxDefinition)) location) r := by
  refine failsInFull_recording fun e r' failed => ?_
  rw [exec_tryBind_mux location live] at failed
  rcases exec_attach_cases resolvedMux location live with ⟨r₁, ran, _⟩ | ⟨d, ran, _⟩ <;>
    rw [ran] at failed <;> cases failed
  exact ⟨⟨d, rfl⟩, collecting⟩

/-- The node that a mux is bound to is bound then, be it to something else. -/
theorem isBound_bindMux {id : NodeId} (live : r.isLive id)
    (ran : (bind id (.ok (.pending muxDefinition)) location).exec r = (.ok (), r')) :
    r'.isBound id := by
  rw [bind, exec_recording, exec_tryBind_mux location live] at ran
  rcases exec_attach_cases resolvedMux location live with ⟨r₁, attached, bound⟩ |
    ⟨d, refused, bound⟩
  · rw [attached] at ran
    cases ran
    exact bound
  · rw [refused] at ran
    exact Steps.isBound ((leads_addError (p := .none) d r.frames r).steps ran) bound

theorem live_nodeInScope (r : Repository) (scope : ScopeId) (name : String) (location : Location) :
    (r.nodeInScope scope name location).2.isLive (r.nodeInScope scope name location).1 :=
  (steps_nodeInScope (p := .none) r scope name location).2

theorem failsInFull_obtainMux (collecting : r.options.testing = false) :
    FailsInFull (obtainMux location) r := by
  rw [obtainMux]
  refine .after (exec_get r) ?_
  cases r.mux with
  | some mux => exact .of_ok (exec_pure mux r)
  | none =>
    refine .after (exec_modifyGet _ r) ?_
    have same := (Steps.extends (steps_nodeInScope (p := .none) r .root muxName location).1).options
    refine .bind (failsInFull_bindMux (same ▸ collecting)
      (live_nodeInScope r .root muxName location)) fun _ r₂ _ => .of_ok (exec_pure _ r₂)

/-- The mux that is obtained is bound. -/
theorem isBound_obtainMux (noted : ∀ mux, r.mux = some mux → r.isBound mux) {mux : NodeId}
    (ran : (obtainMux location).exec r = (.ok mux, r')) : r'.isBound mux := by
  rw [obtainMux, exec_bind_of_ok (exec_get r)] at ran
  cases known : r.mux with
  | some mux' =>
    rw [known] at ran
    cases ran
    exact noted mux known
  | none =>
    rw [known] at ran
    dsimp only at ran
    rw [exec_bind_of_ok (exec_modifyGet _ r)] at ran
    obtain ⟨_, r₁, bound, rest⟩ := exec_bind_ok.mp ran
    cases rest
    exact isBound_bindMux (live_nodeInScope r .root muxName location) bound

theorem Settled.mono {p : Promise} {c : Child} (settled : r.Settled c) (steps : Steps p r r') :
    r'.Settled c := by
  refine settled.imp_right fun ⟨id, same, live⟩ => ⟨id, ?_, Steps.isLive steps live⟩
  rw [same, child, child, (Steps.extends steps).id]

/-- Sinks and spigots are live, so that a bound mux takes them. -/
theorem failsInFull_mux (collecting : r.options.testing = false)
    (noted : ∀ mux, r.mux = some mux → r.isBound mux) : FailsInFull (Hook.mux location) r := by
  rw [Hook.mux]
  refine .after (exec_get r) ?_
  dsimp only
  split
  · cases r.mux with
    | some mux => exact .of_ok (exec_modify _ r)
    | none => exact .of_ok (exec_pure () r)
  · refine .bind (failsInFull_obtainMux collecting) fun mux r₁ obtained => ?_
    refine .after (exec_modify _ r₁) (.after (exec_get _) ?_)
    have bound : (r₁.pin mux).isBound mux :=
      Steps.isBound (steps_pin (p := .none) r₁ mux) (isBound_obtainMux noted obtained)
    have unbound : ∀ c ∈ (r₁.pin mux).withoutMux (r₁.pin mux).sinks, (r₁.pin mux).Settled c :=
      settled_withoutMux
    have sinks := @exec_extendChildren_settled _ .child _ _ location unbound bound
    have takes := leads_extendChildren (p := .none) .child mux
      ((r₁.pin mux).withoutMux (r₁.pin mux).sinks) location _ allocates_withoutMux not_false
    have more : Steps .none (r₁.pin mux) _ := takes.steps sinks
    -- The spigots were looked through before the sinks were taken, and are still live then.
    exact .after sinks <| .of_ok <| exec_extendChildren_settled location
      (fun c member => (settled_withoutMux c member).mono more) (Steps.isBound more bound)

/-! ## 3. The further resolve -/

section

variable {α : Type} {hook : Hook α}

theorem failsInFull_runResolve (collecting : r.options.testing = false)
    (hooked : ∀ r₁, reportUninitialized.exec r = (.ok (), r₁) →
      FailsInFull (hook location) r₁) : FailsInFull (runResolve hook location) r := by
  rw [runResolve]
  refine .bind (failsInFull_reportUninitialized collecting) fun _ r₁ checked => ?_
  refine .bind (hooked r₁ checked) fun given r₂ _ => .after (exec_get r₂) ?_
  dsimp only
  refine .after (exec_set _ _) ?_
  intro e r' failed
  split at failed <;> cases failed
  rfl

/-- A resolve that has failed with all that is recorded fails alike ever after. -/
theorem resolve_again (building : r.phase = .building)
    (inFull : FailsInFull (runResolve hook location) r) {e : Failure}
    (failed : (resolve hook location).exec r = (.error e, r')) {β : Type} (hook' : Hook β)
    (location' : Location) : (resolve hook' location').exec r' = (.error e, r') := by
  rw [exec_resolve hook location building] at failed
  rcases ran : (runResolve hook location).exec r with ⟨e' | ⟨roots, given⟩, r₁⟩ <;>
    rw [ran] at failed <;> cases failed
  rw [exec_resolve_failed hook' location' rfl, inFull e r₁ ran]

end

/-- In collecting mode, after a failed resolve every further one fails with the same diagnostics,
and nothing changes. -/
theorem resolve_fails_again {hook : Hook Unit} (either : hook = Hook.idle ∨ hook = Hook.mux)
    (reached : Reachable (fun _ _ => True) r) (building : r.phase = .building)
    (collecting : r.options.testing = false) {e : Failure}
    (failed : (resolve hook location).exec r = (.error e, r')) {β : Type} (hook' : Hook β)
    (location' : Location) : (resolve hook' location').exec r' = (.error e, r') := by
  refine resolve_again building (failsInFull_runResolve collecting fun r₁ checked => ?_) failed
    hook' location'
  rcases either with rfl | rfl
  · exact .of_ok (exec_pure () r₁)
  · -- The check takes steps only, so the mux that is noted is still a bound node.
    have checks : Steps .none r r₁ := (leads_reportUninitialized r).steps checked
    have sound := Steps.sound checks
      (reached.sound (fun r op _ => Promise.allows_none r op) building)
    exact failsInFull_mux ((Steps.extends checks).options ▸ collecting) fun mux known =>
      sound.noted mux (.inr (.inr known))

/-- In testing mode the first finding is returned, and a further resolve does not know of it. -/
theorem resolve_fails_differently {α : Type} (hook : Hook α) (building : r.phase = .building)
    (testing : r.options.testing) {f : Finding} {fs : List Finding} (found : r.findings = f :: fs)
    {β : Type} (hook' : Hook β) (location' : Location) :
    let failed := (resolve hook location).exec r
    failed.1 = .error (.diagnostic f.diagnostic) ∧
      (resolve hook' location').exec failed.2 = (.error (.cumulative r.errors), failed.2) := by
  have check : reportUninitialized.exec r = (.error (.diagnostic f.diagnostic), r) := by
    rw [exec_reportUninitialized, exec_addErrors_testing testing, found]
  have failed : (resolve hook location).exec r =
      (.error (.diagnostic f.diagnostic), { r with phase := .failed }) := by
    rw [exec_resolve hook location building, runResolve, exec_bind_of_error check]
  rw [failed]
  exact ⟨rfl, exec_resolve_failed hook' location' rfl⟩

/-- A node with a child that is never bound. -/
def missingChild (options : Options) : Repository :=
  let negation : Definition :=
    .ofParts (.standard "Negate") (.positional [.node ⟨⟨0⟩, ⟨1⟩⟩]) .nil []
  Operation.after (.bind ⟨0⟩ (.ok (.pending negation)) default)
    (Operation.after (.node .root "b" default)
      (Operation.after (.node .root "a" default) (start ⟨0⟩ options)))

theorem reachable_missingChild (options : Options) :
    Reachable (fun _ _ => True) (missingChild options) :=
  ⟨⟨0⟩, options,
    .operation _ (.operation _ (.operation _ (.refl _) trivial) trivial) trivial⟩

theorem resolve_fails_again_missingChild :
    Reachable (fun _ _ => True) (missingChild {}) ∧
      ∃ e r', (resolve Hook.mux default).exec (missingChild {}) = (.error e, r') ∧
        (resolve Hook.idle default).exec r' = (.error e, r') := by
  have building : (missingChild {}).phase = .building := by decide +kernel
  have collecting : (missingChild {}).options.testing = false := by decide +kernel
  have fails : ¬((resolve Hook.mux default).exec (missingChild {})).1.isOk := by decide +kernel
  rcases failed : (resolve Hook.mux default).exec (missingChild {}) with ⟨e | given, r'⟩
  · exact ⟨reachable_missingChild {}, e, r', rfl,
      resolve_fails_again (.inr rfl) (reachable_missingChild {}) building collecting failed
        Hook.idle default⟩
  · rw [failed] at fails
    exact absurd rfl fails

/-- In testing mode the second resolve fails with nothing to tell. -/
theorem not_resolve_fails_again_testing :
    Reachable (fun _ _ => True) (missingChild { testing := true }) ∧
      ∃ d r', (resolve Hook.idle default).exec (missingChild { testing := true }) =
          (.error (.diagnostic d), r') ∧
        (resolve Hook.idle default).exec r' = (.error (.cumulative []), r') := by
  have building : (missingChild { testing := true }).phase = .building := by decide +kernel
  have testing : (missingChild { testing := true }).options.testing := by decide +kernel
  have quiet : (missingChild { testing := true }).errors = [] := by decide +kernel
  have nonempty : (missingChild { testing := true }).findings ≠ [] := by decide +kernel
  obtain ⟨f, fs, found⟩ := List.exists_cons_of_ne_nil nonempty
  obtain ⟨first, second⟩ : (exec _ _).1 = _ ∧ exec (resolve _ default) _ = _ :=
    resolve_fails_differently Hook.idle building testing found Hook.idle default
  rw [quiet] at second
  exact ⟨reachable_missingChild _, f.diagnostic, _, Prod.ext first rfl, second⟩

end Repository

end NodeForest

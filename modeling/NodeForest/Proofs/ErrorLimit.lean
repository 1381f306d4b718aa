import NodeForest.Proofs.CallJournal
import NodeForest.Proofs.Settle

/-!
# The error limit

In collecting mode with a limit, a repository has room for diagnostics until the limit is reached.
The recording that reaches it is the last one: the failure with all diagnostics passes through
every bind around it, and none of them records it again.

Results:
1. `Room`, `Stopped`, `Heeds`: how an action may end; `Heeds.bind`, `Heeds.recording` and the rules
   beside them.
2. `heeds_resolveChild`, `heeds_tryBind`, `Operation.heeds`, `heeds_resolve`: whatever is asked of
   a repository.
3. `Runs.heeds`: in a run, the first entry of the journal that reaches the limit has stopped there.
4. `limit_stops_first`: the same for runs over several repositories, and for calls.
-/

namespace NodeForest

open NodeForest.Action

namespace Repository

/-! ## 1. How actions end -/

/-- The repository collects diagnostics, up to a limit that is not reached. -/
structure Room (limit : Nat) (r : Repository) : Prop where
  collecting : r.options.testing = false
  limited : r.options.errorLimit = some limit
  below : r.errors.length < limit

variable {α β : Type} {limit : Nat} {r r' r₁ : Repository}

theorem Room.of_same (room : r.Room limit) (options : r'.options = r.options)
    (errors : r'.errors = r.errors) : r'.Room limit :=
  ⟨options ▸ room.collecting, options ▸ room.limited, errors ▸ room.below⟩

/-- The limit has been reached, and all diagnostics are the outcome. What was recorded last is what
reached it. -/
structure Stopped (limit : Nat) (x : Except Failure α × Repository) : Prop where
  outcome : x.1 = .error (.cumulative x.2.errors)
  reached : limit ≤ x.2.errors.length
  last : ∃ (before : List Diagnostic) (d : Diagnostic) (trail : List Location),
    before.length < limit ∧ x.2.errors = before ++ recorded x.2.options d trail

/-- From a repository with room, the action leaves room, or stops. -/
def Heeds (limit : Nat) (a : Action α) (r : Repository) : Prop :=
  r.Room limit → (exec a r).2.Room limit ∨ Stopped limit (exec a r)

namespace Heeds

variable {a : Action α}

/-- An action that records nothing. -/
theorem silent (options : (exec a r).2.options = r.options)
    (errors : (exec a r).2.errors = r.errors) : Heeds limit a r :=
  fun room => .inl (room.of_same options errors)

theorem pure (y : α) : Heeds limit (Pure.pure y) r :=
  silent rfl rfl

theorem throw (e : Failure) : Heeds limit (MonadExcept.throw e : Action α) r :=
  silent rfl rfl

theorem modifyGet {f : Repository → α × Repository} (options : (f r).2.options = r.options)
    (errors : (f r).2.errors = r.errors) : Heeds limit (MonadState.modifyGet f) r :=
  silent options errors

theorem of_exec {b : Action α} (same : exec a r = exec b r) (h : Heeds limit b r) :
    Heeds limit a r := by
  rwa [Heeds, same]

/-- What stops in front of other actions skips them. -/
theorem bind {f : α → Action β} (first : Heeds limit a r)
    (next : ∀ y r₁, exec a r = (.ok y, r₁) → Heeds limit (f y) r₁) : Heeds limit (a >>= f) r := by
  intro room
  have ends := first room
  rcases run : exec a r with ⟨e | y, r₁⟩ <;> rw [run] at ends
  · rw [exec_bind_of_error run]
    rcases ends with left | ⟨outcome, reached, last⟩
    · exact .inl left
    · dsimp only at outcome
      cases outcome
      exact .inr ⟨rfl, reached, last⟩
  · rw [exec_bind_of_ok run]
    rcases ends with left | stopped
    · exact next y r₁ run left
    · cases stopped.outcome

theorem get {f : Repository → Action β} (h : Heeds limit (f r) r) :
    Heeds limit (MonadState.get >>= f) r :=
  of_exec (exec_bind_of_ok (exec_get r)) h

end Heeds

/-- Recording a diagnostic stops exactly when it reaches the limit. -/
theorem heeds_addError (d : Diagnostic) (trail : List Location) :
    Heeds limit (addError d trail) r := by
  intro room
  have ran := exec_addError d trail r
  rw [if_neg (by simp [room.collecting])] at ran
  dsimp only at ran
  rw [ran]
  by_cases reached : (r.noting (recorded r.options d trail)).limitReached
  · obtain ⟨limit', limited, full⟩ := limitReached_iff.mp reached
    obtain rfl : limit = limit' := Option.some.inj (room.limited.symm.trans limited)
    rw [if_pos reached]
    exact .inr ⟨rfl, full, r.errors, d, trail, room.below, rfl⟩
  · refine .inl ⟨room.collecting, room.limited, Nat.lt_of_not_le fun full => reached ?_⟩
    exact limitReached_iff.mpr ⟨limit, room.limited, full⟩

/-- A recording hands on what has stopped, and does not record it again. -/
theorem Heeds.recording {a : Action Unit} (h : Heeds limit a r) :
    Heeds limit (Repository.recording a) r := by
  intro room
  have ends := h room
  rw [exec_recording]
  rcases run : exec a r with ⟨(d | ds | _) | _, r₁⟩ <;> rw [run] at ends
  · rcases ends with left | stopped
    · exact heeds_addError d r₁.frames left
    · cases stopped.outcome
  all_goals exact ends

/-! ## 2. What is asked of a repository -/

section

variable (location : Location)

theorem heeds_attach (id : NodeId) (d : Definition) : Heeds limit (attach id d location) r :=
  have logged := logged_attach location (r := r) id d
  .silent logged.ext.options (logged.quiet.mpr fun _ member => absurd member List.not_mem_nil)

theorem heeds_makeConstant (value : Constant) : Heeds limit (makeConstant value location) r := by
  cases known : (OrderedMap.get? r.constants value.key).filter r.isLive with
  | some id =>
    have ran := exec_makeConstant_known location known
    exact .silent (by rw [ran]) (by rw [ran])
  | none =>
    have ran := exec_makeConstant_new location known
    exact .silent (by rw [ran, withConstant_eq]) (by rw [ran, withConstant_eq])

mutual

theorem heeds_resolveChild (scope : ScopeId) (label : Label) : ∀ (c : Child) (r : Repository),
    Heeds limit (resolveChild location scope label c) r
  | .empty, r => by
    rw [resolveChild]
    exact .pure _
  | .node ref, r => by
    have ran := exec_resolveChild_node location scope label ref r
    exact .silent (by rw [ran]) (by rw [ran])
  | .name name, r => by
    have ran := exec_resolveChild_name location scope label name r
    exact .silent (by rw [ran]) (by rw [ran])
  | .constant value, r => by
    rw [resolveChild]
    exact .bind (heeds_makeConstant location value) fun _ _ _ => .get (.pure _)
  | .pending d, r => by
    rw [resolveChild]
    exact .bind (heeds_defineAnonymous scope d r) fun _ _ _ => .get (.pure _)
  | .factory _ _, r => by
    rw [resolveChild]
    exact .throw _
termination_by structural c => c

theorem heeds_resolveEntry (scope : ScopeId) : ∀ (e : Entry) (r : Repository),
    Heeds limit (resolveEntry location scope e) r
  | ⟨label, child⟩, r => by
    rw [resolveEntry]
    exact .bind (heeds_resolveChild scope label child r) fun _ _ _ => .pure _
termination_by structural e => e

theorem heeds_resolveEntries (scope : ScopeId) : ∀ (es : List Entry) (r : Repository),
    Heeds limit (resolveEntries location scope es) r
  | [], r => by
    rw [resolveEntries]
    exact .pure _
  | e :: rest, r => by
    rw [resolveEntries]
    exact .bind (heeds_resolveEntry scope e r) fun _ r₁ _ =>
      .bind (heeds_resolveEntries scope rest r₁) fun _ _ _ => .pure _
termination_by structural es => es

theorem heeds_resolveChildren (scope : ScopeId) : ∀ (l : ChildList) (r : Repository),
    Heeds limit (resolveChildren location scope l) r
  | ⟨entries, keyed, true⟩, r => by
    have ran := exec_resolveChildren_resolved location scope entries keyed r
    exact .silent (by rw [ran]) (by rw [ran])
  | ⟨entries, keyed, false⟩, r => by
    rw [resolveChildren, if_neg Bool.false_ne_true]
    exact .bind (heeds_resolveEntries scope entries r) fun _ _ _ => .pure _
termination_by structural l => l

/-- An anonymous bind records what its step-children return, and hands on what has stopped. -/
theorem heeds_defineAnonymous (scope : ScopeId) : ∀ (d : Definition) (r : Repository),
    Heeds limit (defineAnonymous location scope d) r
  | ⟨nodeClass, children, steps, record⟩, r => by
    rw [defineAnonymous]
    refine .bind (heeds_resolveChildren scope children r) fun cs r₁ _ => ?_
    obtain ⟨named, _⟩ := steps_anonymousNode (p := .none) r₁ scope nodeClass cs location
    refine .bind (.modifyGet named.extends.options
      (errors_anonymousNode r₁ scope nodeClass cs location)) fun id r₂ _ => ?_
    have body : Heeds limit (anonymousBind location id nodeClass cs steps record) r₂ :=
      .get (.bind (heeds_resolveChildren _ steps r₂) fun _ _ _ => heeds_attach location _ _)
    exact .bind (.recording body) fun _ _ _ => .pure _
termination_by structural d => d

end

theorem heeds_tryBind (id : NodeId) (argument : Except BuildError Child) :
    Heeds limit (tryBind id argument location) r := by
  rcases exec_tryBind_cases location id argument r with
    ⟨e, refused⟩ | ⟨c, d, node, rfl, denoted, here⟩
  · exact .silent (by rw [refused]) (by rw [refused])
  · refine .of_exec (exec_tryBind location denoted here) ?_
    refine .bind (heeds_resolveChildren location node.scope d.children r) fun cs r₁ _ => ?_
    exact .bind (heeds_resolveChildren location node.scope d.steps r₁) fun ss r₂ _ =>
      heeds_attach location _ _

theorem heeds_bindAnonymous (scope : ScopeId) (argument : Child) :
    Heeds limit (bindAnonymous scope argument location) r := by
  rw [bindAnonymous]
  cases argument.definition? with
  | none => exact .throw _
  | some d => exact heeds_defineAnonymous location scope d r

theorem heeds_extendChildren (role : ChildRole) (id : NodeId) (cs : List Child) :
    Heeds limit (extendChildren role id cs location) r := by
  rw [extendChildren]
  refine .get ?_
  cases (r.get? id).filter (·.isBound) with
  | none => exact .throw _
  | some node =>
    refine .bind (heeds_resolveChildren location node.scope (.positional cs) r) fun l r₁ _ => ?_
    exact .modifyGet (extends_relink r₁ id _ l.nodeIds).options (errors_relink id _ l.nodeIds)

end

theorem heeds_addErrors (fs : List Finding) (r : Repository) :
    Heeds limit (fs.forM fun f => addError f.diagnostic f.trail) r := by
  induction fs generalizing r with
  | nil => exact .pure _
  | cons f fs ih => exact .bind (heeds_addError f.diagnostic f.trail) fun _ r₁ _ => ih r₁

theorem heeds_reportUninitialized (r : Repository) : Heeds limit reportUninitialized r :=
  .get (heeds_addErrors r.findings r)

end Repository

open Repository

theorem Operation.heeds {limit : Nat} {r : Repository} (op : Operation) :
    Heeds limit op.run r := by
  have ext := op.extends_after r
  have silent (reports : ¬op.Reports) (none : op.binds r = []) : Heeds limit op.run r := by
    intro room
    have logged := op.logged room.collecting reports
    rw [none] at logged
    exact .inl (room.of_same ext.options
      (logged.quiet.mpr fun _ member => absurd member List.not_mem_nil))
  have value {α : Type} {a : Action α} (h : Heeds limit a r) :
      Heeds limit (do let _ ← a) r := .bind h fun _ _ _ => .pure _
  cases op with
  | bind id argument location => exact .recording (heeds_tryBind location id argument)
  | bindAnonymous scope argument location => exact value (heeds_bindAnonymous location scope argument)
  | makeConstant c location => exact value (heeds_makeConstant location c)
  | extend role id cs location => exact heeds_extendChildren location role id cs
  | addError d trail => exact heeds_addError d trail
  | report d => exact .get (heeds_addError d r.frames)
  | openScope | node | qualify | uniqueName | setOptions | pin | unpin | hold | release | pushFrame
    | popFrame => exact silent not_false rfl

namespace Repository

variable {α β : Type} {limit : Nat} {r r' r₁ : Repository}

/-- A resolve stops in the check, or its hook has left no room. -/
theorem heeds_resolve {hook : Hook α} {location : Location}
    (hooked : ∀ r₂, r.CallsHook r₂ → ((hook location).exec r₂).2.Room limit) :
    Heeds limit (resolve hook location) r := by
  cases phase : r.phase with
  | resolved roots =>
    have ran := exec_resolve_resolved hook location phase
    exact .silent (by rw [ran]) (by rw [ran])
  | failed =>
    have ran := exec_resolve_failed hook location phase
    exact .silent (by rw [ran]) (by rw [ran])
  | building =>
    have attempt : Heeds limit (runResolve hook location) r := by
      rw [runResolve]
      refine .bind (heeds_reportUninitialized r) fun _ r₂ passed => ?_
      refine .bind (fun _ => .inl (hooked r₂ ⟨phase, passed⟩)) fun given r₃ _ room => .inl ?_
      have thinned := thinned_settle r₃
      have settled : r₃.settle.1.Room limit := room.of_same thinned.options thinned.errors
      rw [exec_bind_of_ok (exec_get r₃)]
      dsimp only
      rw [exec_bind_of_ok (exec_set _ _)]
      cases r₃.settle.1.errors.isEmpty with
      | true => exact settled.of_same (by rw [place_eq]; rfl) (by rw [place_eq]; rfl)
      | false => exact settled
    intro room
    have ends := attempt room
    rw [exec_resolve hook location phase]
    rcases run : (runResolve hook location).exec r with ⟨e | ⟨roots, given⟩, r₁⟩ <;>
      rw [run] at ends
    · rcases ends with left | ⟨outcome, reached, last⟩
      · exact .inl (left.of_same rfl rfl)
      · dsimp only at outcome
        cases outcome
        exact .inr ⟨rfl, reached, last⟩
    · rcases ends with left | stopped
      · exact .inl (left.of_same rfl rfl)
      · cases stopped.outcome

/-! ## 3. Runs -/

variable {log : List Event}

/-- The first entry of a journal after which there is no room has stopped. -/
def StopsFirst (limit : Nat) (log : List Event) : Prop :=
  ∃ earlier e later, log = earlier ++ e :: later ∧ (∀ e' ∈ earlier, e'.after.Room limit) ∧
    Stopped limit (e.outcome, e.after)

theorem StopsFirst.append (h : StopsFirst limit log) (more : List Event) :
    StopsFirst limit (log ++ more) := by
  obtain ⟨earlier, e, later, rfl, room, stopped⟩ := h
  exact ⟨earlier, e, later ++ more, by simp, room, stopped⟩

theorem StopsFirst.after {before : List Event} (room : ∀ e ∈ before, e.after.Room limit)
    (h : StopsFirst limit log) : StopsFirst limit (before ++ log) := by
  obtain ⟨earlier, e, later, rfl, room', stopped⟩ := h
  exact ⟨before ++ earlier, e, later, by simp, List.forall_mem_append.mpr ⟨room, room'⟩, stopped⟩

theorem stopsFirst_singleton {e : Event} (stopped : Stopped limit (e.outcome, e.after)) :
    StopsFirst limit [e] :=
  ⟨[], e, [], rfl, fun _ member => absurd member List.not_mem_nil, stopped⟩

theorem Room.callsHook (room : r.Room limit) (called : r.CallsHook r') : r'.Room limit := by
  have checked := heeds_reportUninitialized r room
  rw [called.2] at checked
  exact checked.resolve_right fun stopped => by cases stopped.outcome

/-- A run leaves room throughout, or stops. -/
theorem Runs.heeds (run : Runs r log r') (room : r.Room limit) :
    (r'.Room limit ∧ ∀ e ∈ log, e.after.Room limit) ∨ StopsFirst limit log := by
  induction run with
  | refl => exact .inl ⟨room, fun _ member => absurd member List.not_mem_nil⟩
  | @operation r r₁ log op _ ih =>
    rcases ih room with ⟨left, all⟩ | stops
    · rcases op.heeds left with after | stopped
      · exact .inl ⟨after, List.forall_mem_append.mpr ⟨all, List.forall_mem_singleton.mpr after⟩⟩
      · exact .inr ((stopsFirst_singleton stopped).after all)
    · exact .inr (stops.append _)
  | inHook _ called ih =>
    rcases ih room with ⟨left, all⟩ | stops
    · exact .inl ⟨left.callsHook called, all⟩
    · exact .inr stops
  | @resolve r r₁ log inside hook location _ hooked idle ih inner =>
    rcases ih room with ⟨left, all⟩ | stops
    · -- What the hook has done comes first: it has left room, or there the run has stopped.
      have within : ((∀ e ∈ inside, e.after.Room limit) ∧
          ∀ r₂, r₁.CallsHook r₂ → ((hook location).exec r₂).2.Room limit) ∨
            StopsFirst limit inside := by
        by_cases called : ∃ r₂, r₁.CallsHook r₂
        · obtain ⟨r₂, called⟩ := called
          refine (inner r₂ called (left.callsHook called)).imp_left fun ⟨after, each⟩ =>
            ⟨each, fun r₃ called' => ?_⟩
          rwa [← called.unique called']
        · have none := not_exists.mp called
          rw [idle none]
          exact .inl ⟨fun _ member => absurd member List.not_mem_nil,
            fun r₂ called => absurd called (none r₂)⟩
      rcases within with ⟨each, hooked⟩ | stops
      · have asked : Heeds limit (Request.resolve hook location).run r₁ :=
          .bind (heeds_resolve hooked) fun _ _ _ => .pure _
        rcases asked left with after | stopped
        · refine .inl ⟨after, ?_⟩
          rw [List.forall_mem_append, List.forall_mem_append, List.forall_mem_singleton]
          exact ⟨all, each, after⟩
        · exact .inr (((stopsFirst_singleton stopped).after each).after all)
      · exact .inr ((stops.append _).after all)
    · exact .inr (stops.append _)

end Repository

/-! ## 4. Runs over several repositories -/

section

variable {limit : Nat} {log earlier : List Event} {id : RepositoryId} {e : Event} {w : Workspace}

/-- The entry is about the repository, which has reached the limit with it and not before. -/
structure ReachesFirst (limit : Nat) (id : RepositoryId) (earlier : List Event) (e : Event) :
    Prop where
  home : e.home = id
  below : ∀ e' ∈ earlier, e'.home = id → e'.after.errors.length < limit
  reached : limit ≤ e.after.errors.length

/-- There is only one first entry to reach the limit. -/
theorem ReachesFirst.stopped {later : List Event} (first : ReachesFirst limit id earlier e)
    (stops : StopsFirst limit ((earlier ++ e :: later).filter (·.home = id))) :
    Stopped limit (e.outcome, e.after) := by
  obtain ⟨earlier', e', later', same, room, stopped⟩ := stops
  let reaches (e : Event) : Bool := limit ≤ e.after.errors.length
  have found' : ((earlier ++ e :: later).filter (·.home = id)).find? reaches = some e' := by
    rw [List.find?_eq_some_iff_append]
    refine ⟨decide_eq_true stopped.reached, earlier', later', same, fun e₁ member => ?_⟩
    simpa [reaches] using (room e₁ member).below
  have found : ((earlier ++ e :: later).filter (·.home = id)).find? reaches = some e := by
    rw [List.find?_eq_some_iff_append]
    refine ⟨decide_eq_true first.reached, earlier.filter (·.home = id),
      later.filter (·.home = id), by simp [first.home], fun e₁ member => ?_⟩
    rw [List.mem_filter, decide_eq_true_iff] at member
    simpa [reaches] using first.below e₁ member.1 member.2
  cases found.symm.trans found'
  exact stopped

/-- A repository that is in collecting mode with a limit has had room when it was new. -/
theorem heeds_begun (run : Workspace.Runs {} log w) (planted : (w.tree? id).isSome)
    (collecting : (w.repository id).options.testing = false)
    (limited : (w.repository id).options.errorLimit = some limit) (positive : 1 ≤ limit) :
    ((w.repository id).Room limit ∧ ∀ e ∈ log.filter (·.home = id), e.after.Room limit) ∨
      StopsFirst limit (log.filter (·.home = id)) := by
  obtain ⟨options, follows⟩ := run.begun rfl planted
  have same := follows.run.continues.options
  rw [same] at collecting limited
  exact follows.run.heeds ⟨collecting, limited, positive⟩

/-- The error limit is never passed silently. As long as everything asked of a repository so far has
succeeded, the binds of factories included, fewer diagnostics than the limit are recorded. The
innermost operation or resolve that reaches the limit returns all diagnostics, and nothing is
recorded any more after the one that reached it; so does a call when what reaches the limit is what
it asks itself. -/
theorem limit_stops_first (run : Workspace.Runs {} log w) (planted : (w.tree? id).isSome)
    (collecting : (w.repository id).options.testing = false)
    (limited : (w.repository id).options.errorLimit = some limit) (positive : 1 ≤ limit) :
    ((∀ e ∈ log, e.home = id → e.outcome = .ok ()) →
        (w.repository id).errors.length < limit) ∧
      (∀ earlier e later, log = earlier ++ e :: later → ReachesFirst limit id earlier e →
        Stopped limit (e.outcome, e.after)) ∧
      ∀ call : Call, (∀ home ∈ call.homes, (w.tree? home).isSome) →
        ∀ e, call.own? w = some e → ReachesFirst limit id (log ++ (call.prepared w).1.2) e →
          (call.run.run.run w).1 = .error (.cumulative e.after.errors) ∧
            (call.run.run.run w).2.repository id = e.after ∧
              Stopped limit (e.outcome, e.after) := by
  have first {w' : Workspace} {log' earlier : List Event} {e : Event} (later : List Event)
      (more : w.Runs log' w') (split : log ++ log' = earlier ++ e :: later)
      (reaches : ReachesFirst limit id earlier e) : Stopped limit (e.outcome, e.after) := by
    have follows := more.follows planted
    have same := follows.run.continues.options
    have heeds := heeds_begun (run.trans more) follows.planted (by rw [same, collecting])
      (by rw [same, limited]) positive
    rw [split] at heeds
    refine reaches.stopped (heeds.resolve_left fun ⟨_, room⟩ => ?_)
    have inside : e ∈ (earlier ++ e :: later).filter (·.home = id) := by simp [reaches.home]
    exact absurd reaches.reached (Nat.not_le.mpr (room e inside).below)
  refine ⟨fun fine => ?_, fun earlier e later split reaches => ?_, fun call homes e own reaches => ?_⟩
  · rcases heeds_begun run planted collecting limited positive with ⟨room, _⟩ | stops
    · exact room.below
    · obtain ⟨earlier, e, later, split, _, stopped⟩ := stops
      have inside : e ∈ log.filter (·.home = id) := by simp [split]
      rw [List.mem_filter, decide_eq_true_iff] at inside
      cases stopped.outcome.symm.trans (fine e inside.1 inside.2)
  · exact first later (.refl w) (by rw [List.append_nil, split]) reaches
  · have runs := Call.runs homes
    obtain ⟨_, outcome, _⟩ := Call.own_spec homes own
    obtain ⟨home, after⟩ := Call.own_home homes own
    have stopped := first [] runs (by
      rw [Call.journal, own, Option.toList_some, List.append_assoc]) reaches
    refine ⟨error_of_map (outcome.trans stopped.outcome), ?_, stopped⟩
    rw [← reaches.home, home, after]

end

/-- A workspace with one repository that collects a single diagnostic. -/
def strictWorkspace : Workspace :=
  (({} : Workspace).plant { errorLimit := some 1 }).2

/-- A node is named. -/
def nameTop : Call :=
  .operation ⟨0⟩ (.node .root "top" default)

/-- A step-child that was never bound. -/
def missingStep : Child :=
  .pending (.ofParts (.standard "Add") .nil (.positional [.name "missing"]) [])

/-- The node is bound to what a factory binds. -/
def bindTop : Call :=
  .bind ⟨⟨⟨0⟩, ⟨0⟩⟩, "top", "top", .empty, .root⟩
    (.ok (.factory 0 (.bind ⟨⟨0⟩, .root⟩ missingStep default))) default

/-- The bind that the factory makes is the one that stops, inside the bind of the node. -/
theorem limit_stops_first_bindTop :
    ∃ log w earlier e later, Workspace.Runs {} log w ∧ (w.tree? ⟨0⟩).isSome ∧
      (w.repository ⟨0⟩).options.testing = false ∧
      (w.repository ⟨0⟩).options.errorLimit = some 1 ∧
      log = earlier ++ e :: later ∧ later.length = 1 ∧ ReachesFirst 1 ⟨0⟩ earlier e ∧
      Repository.Stopped 1 (e.outcome, e.after) ∧
      e.request.run = (Operation.bindAnonymous .root missingStep default).run := by
  let w₁ := (nameTop.run.run.run strictWorkspace).2
  let w₂ := (bindTop.run.run.run w₁).2
  let e : Event := ⟨.operation (.bindAnonymous .root missingStep default), w₁.repository ⟨0⟩⟩
  have named : strictWorkspace.Runs (nameTop.journal strictWorkspace) w₁ :=
    Call.runs (by decide +kernel)
  have bound : w₁.Runs (bindTop.journal w₁) w₂ := Call.runs (by decide +kernel)
  have run := ((Workspace.Runs.refl {}).plant { errorLimit := some 1 }).trans (named.trans bound)
  have split : nameTop.journal strictWorkspace ++ bindTop.journal w₁ =
      nameTop.journal strictWorkspace ++ e :: (bindTop.own? w₁).toList := rfl
  have reaches : ReachesFirst 1 ⟨0⟩ (nameTop.journal strictWorkspace) e :=
    ⟨by decide +kernel, by decide +kernel, by decide +kernel⟩
  have collecting : (w₂.repository ⟨0⟩).options.testing = false := by decide +kernel
  have limited : (w₂.repository ⟨0⟩).options.errorLimit = some 1 := by decide +kernel
  have stops := (limit_stops_first run (by decide +kernel) collecting limited (by decide)).2.1
    _ e _ split reaches
  exact ⟨_, w₂, _, e, _, run, by decide +kernel, collecting, limited, split, by decide +kernel,
    reaches, stops, rfl⟩

end NodeForest

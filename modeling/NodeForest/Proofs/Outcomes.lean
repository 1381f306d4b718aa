import NodeForest.Proofs.Check
import NodeForest.Proofs.Decomposition

/-!
# Outcomes of binds

A bind inside another one may fail while that goes on, and what called both does not see it. Here
the outcomes of all binds that an operation makes are listed, those of nested definitions and of
constants before that of the bind they are made for. In collecting mode, nothing is recorded by an
operation exactly when all of them succeed.

Results:
1. `childBinds`, `definitionBinds`, …, `Operation.binds`: the outcomes, along the recursion.
2. `Logged`: an action whose recorded diagnostics are accounted for; `Logged.recording`: each bind
   accounts for its own.
3. `logged_definitionBinds`, `Operation.logged`: all operations that report nothing themselves.
-/

namespace NodeForest

open Relation NodeForest.Action

/-- How a bind ends. -/
abbrev Outcome := Except Failure Unit

namespace Repository

/-! ## 1. The binds of an operation -/

/-- The outcomes of what follows an action that gives a value. -/
def afterOk {α : Type} (a : Action α) (next : α → Repository → List Outcome) (r : Repository) :
    List Outcome :=
  match exec a r with
  | (.ok y, r₁) => next y r₁
  | (.error _, _) => []

section

variable (location : Location)

/-- A constant without a node is bound to a new one. -/
def constantBinds (value : Constant) (r : Repository) : List Outcome :=
  match (OrderedMap.get? r.constants value.key).filter r.isLive with
  | some _ => []
  | none =>
      let name := r.newConstantName value
      let (id, r) := r.getOrCreate name name .root .empty location
      [((attach id (constantDefinition value) location).exec r).1]

mutual

def childBinds (scope : ScopeId) : Child → Repository → List Outcome
  | .constant value, r => constantBinds location value r
  | .pending d, r => definitionBinds scope d r
  | _, _ => []
termination_by structural c => c

def entryBinds (scope : ScopeId) : Entry → Repository → List Outcome
  | ⟨_, child⟩, r => childBinds scope child r
termination_by structural e => e

def entriesBinds (scope : ScopeId) : List Entry → Repository → List Outcome
  | [], _ => []
  | e :: rest, r =>
      entryBinds scope e r ++
        afterOk (resolveEntry location scope e) (fun _ => entriesBinds scope rest) r
termination_by structural es => es

def listBinds (scope : ScopeId) : ChildList → Repository → List Outcome
  | ⟨entries, _, resolved⟩, r => if resolved then [] else entriesBinds scope entries r
termination_by structural l => l

/-- The binds for the children, those for the step-children, and the bind of the definition. -/
def definitionBinds (scope : ScopeId) : Definition → Repository → List Outcome
  | ⟨nodeClass, children, steps, record⟩, r =>
      listBinds scope children r ++
        afterOk (resolveChildren location scope children) (fun cs r =>
          let (id, r) := r.anonymousNode scope nodeClass cs location
          listBinds (r.scopeOf id) steps r ++
            [((anonymousBind location id nodeClass cs steps record).exec r).1]) r
termination_by structural d => d

end

/-- The binds made for the two lists of a definition. -/
def partBinds (scope : ScopeId) (d : Definition) (r : Repository) : List Outcome :=
  listBinds location scope d.children r ++
    afterOk (resolveChildren location scope d.children)
      (fun _ r => listBinds location scope d.steps r) r

/-- The binds of a named bind, its own last. -/
def namedBinds (id : NodeId) (argument : Except BuildError Child) (r : Repository) :
    List Outcome :=
  (match argument.toOption.bind Child.definition?, r.get? id with
    | some d, some node => partBinds location node.scope d r
    | _, _ => []) ++
    [((tryBind id argument location).exec r).1]

end

end Repository

open Repository in
/-- The outcomes of all binds that an operation makes. -/
def Operation.binds (r : Repository) : Operation → List Outcome
  | .bind target argument location => namedBinds location target argument r
  | .bindAnonymous scope argument location =>
      match argument.definition? with
      | some d => definitionBinds location scope d r
      | none => []
  | .makeConstant value location => constantBinds location value r
  | .extend _ target children location =>
      match (r.get? target).filter (·.isBound) with
      | some n => listBinds location n.scope (.positional children) r
      | none => []
  | _ => []

/-- The operation is one that reports a diagnostic. -/
def Operation.Reports : Operation → Prop
  | .addError _ _ => True
  | .report _ => True
  | _ => False

namespace Repository

/-! ## 2. Accounting -/

/-- In collecting mode, the action records nothing exactly when all outcomes of the log are
successes, and fails with more than one diagnostic only when some are not. -/
structure Logged {α : Type} (a : Action α) (r : Repository) (log : List Outcome) : Prop where
  ext : r.Extends (exec a r).2
  quiet : (exec a r).2.errors = r.errors ↔ ∀ o ∈ log, o = .ok ()
  failure : ∀ e, (exec a r).1 = .error e → (∃ d, e = .diagnostic d) ∨ ∃ o ∈ log, o ≠ .ok ()

namespace Logged

variable {α β : Type} {a : Action α} {r r₁ : Repository} {log : List Outcome}

theorem extends_of_exec (h : Logged a r log) {x : Except Failure α} (ran : exec a r = (x, r₁)) :
    r.Extends r₁ := by
  have := h.ext
  rwa [ran] at this

/-- An action that records nothing, and fails with one diagnostic if it does. -/
theorem silent (ext : r.Extends (exec a r).2) (same : (exec a r).2.errors = r.errors)
    (failure : ∀ e, (exec a r).1 = .error e → ∃ d, e = .diagnostic d) : Logged a r [] :=
  ⟨ext, by simp [same], fun e failed => .inl (failure e failed)⟩

theorem of_eq {b : Action α} {log' : List Outcome} (h : Logged b r log')
    (same : exec a r = exec b r) (logs : log = log') : Logged a r log := by
  subst logs
  exact ⟨same ▸ h.ext, by rw [same]; exact h.quiet, by rw [same]; exact h.failure⟩

theorem pure (y : α) (r : Repository) : Logged (Pure.pure y) r [] :=
  silent (.refl r) rfl fun _ failed => by cases failed

theorem throw (d : Diagnostic) (r : Repository) :
    Logged (MonadExcept.throw (.diagnostic d) : Action α) r [] :=
  silent (.refl r) rfl fun _ failed => by cases failed; exact ⟨d, rfl⟩

theorem modifyGet {f : Repository → α × Repository} (ext : r.Extends (f r).2)
    (same : (f r).2.errors = r.errors) : Logged (MonadState.modifyGet f) r [] :=
  silent ext same fun _ failed => by cases failed

/-- What follows adds its own outcomes. -/
theorem bind {f : α → Action β} {next : α → Repository → List Outcome} (h : Logged a r log)
    (rest : ∀ y r₁, exec a r = (.ok y, r₁) → Logged (f y) r₁ (next y r₁)) :
    Logged (a >>= f) r (log ++ afterOk a next r) := by
  rcases run : exec a r with ⟨e | y, r₁⟩
  · have ran : exec (a >>= f) r = (.error e, r₁) := exec_bind_of_error run
    obtain ⟨ext, quiet, failure⟩ := h
    rw [run] at ext quiet failure
    refine ⟨by rw [ran]; exact ext, by simpa [ran, afterOk, run] using quiet, ?_⟩
    simpa [ran, afterOk, run] using failure
  · have ran : exec (a >>= f) r = exec (f y) r₁ := exec_bind_of_ok run
    have second := rest y r₁ run
    have ext : r.Extends r₁ := h.extends_of_exec run
    have quiet : r₁.errors = r.errors ↔ ∀ o ∈ log, o = .ok () := by simpa [run] using h.quiet
    refine ⟨by rw [ran]; exact ext.trans second.ext, ?_, ?_⟩
    · rw [ran]
      simp only [afterOk, run, List.forall_mem_append, ← quiet, ← second.quiet]
      constructor
      · exact fun same => ext.quiet second.ext same
      · rintro ⟨first, later⟩
        exact later.trans first
    · intro e failed
      rw [ran] at failed
      rcases second.failure e failed with single | ⟨o, member, wrong⟩
      · exact .inl single
      · refine .inr ⟨o, List.mem_append_right _ ?_, wrong⟩
        simpa only [afterOk, run] using member

theorem andThen {f : α → Action β} (h : Logged a r log)
    (rest : ∀ y r₁, exec a r = (.ok y, r₁) → Logged (f y) r₁ []) : Logged (a >>= f) r log := by
  have both : Logged (a >>= f) r (log ++ afterOk a (fun _ _ => []) r) := h.bind rest
  have none : afterOk a (fun _ _ => []) r = [] := by
    rw [afterOk]
    split <;> rfl
  rwa [none, List.append_nil] at both

theorem get {f : Repository → Action β} (h : Logged (f r) r log) :
    Logged (MonadState.get >>= f) r log :=
  h.of_eq (exec_bind_of_ok (exec_get r)) rfl

/-- A single diagnostic is recorded. -/
theorem noted {a : Action Unit} {d : Diagnostic} (h : Logged a r log)
    (run : exec a r = (.error (.diagnostic d), r₁)) (collecting : r.options.testing = false) :
    Logged (Repository.recording a) r (log ++ [.error (.diagnostic d)]) := by
  have ext := h.extends_of_exec run
  have ran : exec (Repository.recording a) r = exec (addError d r₁.frames) r₁ := by
    rw [exec_recording, run]
  have collecting₁ : r₁.options.testing = false := by rw [ext.options, collecting]
  have longer := lt_errors_addError d r₁.frames collecting₁
  have last : Except.error (.diagnostic d) ∈ log ++ [(.error (.diagnostic d) : Outcome)] := by simp
  refine ⟨?_, iff_of_false (fun same => ?_) (fun all => nomatch all _ last), fun _ _ =>
    .inr ⟨_, last, nofun⟩⟩
  · rw [ran]
    exact ext.trans (Steps.extends (leads_addError (p := .none) d r₁.frames r₁).1)
  · rw [ran] at same
    rw [same] at longer
    exact absurd ext.errors.length_le (Nat.not_le.mpr longer)

/-- More than one diagnostic is handed on; then some bind has failed before. -/
theorem handedOn {a : Action Unit} {e : Failure} (h : Logged a r log)
    (run : exec a r = (.error e, r₁)) (several : ∀ d, e ≠ .diagnostic d)
    (ran : exec (Repository.recording a) r = (.error e, r₁)) :
    Logged (Repository.recording a) r (log ++ [.error e]) := by
  have last : Except.error e ∈ log ++ [(.error e : Outcome)] := by simp
  refine ⟨?_, iff_of_false (fun same => ?_) (fun all => nomatch all _ last), fun _ _ =>
    .inr ⟨_, last, nofun⟩⟩
  · rw [ran]
    exact h.extends_of_exec run
  · have quiet := h.quiet
    rw [ran] at same
    rw [run] at quiet
    rcases h.failure e (by rw [run]) with ⟨d, single⟩ | ⟨o, member, wrong⟩
    · exact several d single
    · exact wrong (quiet.mp same o member)

/-- A recording adds the outcome of what it records. -/
theorem recording {a : Action Unit} (h : Logged a r log) (collecting : r.options.testing = false) :
    Logged (Repository.recording a) r (log ++ [(exec a r).1]) := by
  have ran := exec_recording a r
  rcases run : exec a r with ⟨(d | ds | _) | ⟨⟩, r₁⟩ <;> rw [run] at ran
  · exact h.noted run collecting
  · exact h.handedOn run (fun d same => by cases same) ran
  · exact h.handedOn run (fun d same => by cases same) ran
  · have quiet := h.quiet
    rw [run] at quiet
    refine ⟨by rw [ran]; exact h.extends_of_exec run, ?_, fun e failed => ?_⟩
    · rw [ran, List.forall_mem_append, ← quiet]
      simp
    · rw [ran] at failed
      cases failed

end Logged

/-! ## 3. The binds of the repository -/

section

variable (location : Location) {r : Repository}

theorem errors_noteClass (id : NodeId) (className : String) :
    (r.noteClass id className).errors = r.errors := by
  obtain ⟨_, _, _, same⟩ := noteClass_eq r id className
  rw [same]

theorem errors_relink (id : NodeId) (f : Option Binding → Option Binding) (children : List NodeId) :
    (r.relink id f children).errors = r.errors := by
  rw [relink_eq]

theorem errors_getOrCreate (r : Repository) (name basename : String) (scope : ScopeId)
    (quals : Qualifiers) :
    (r.getOrCreate name basename scope quals location).2.errors = r.errors := by
  rw [getOrCreate]
  split <;> rfl

theorem errors_uniqueName (r : Repository) (scope : ScopeId) (name : String) :
    (r.uniqueName scope name).2.errors = r.errors := by
  rw [uniqueName]
  split <;> rfl

theorem errors_anonymousNode (r : Repository) (scope : ScopeId) (nodeClass : NodeClass)
    (children : ChildList) (location : Location) :
    (r.anonymousNode scope nodeClass children location).2.errors = r.errors := by
  rw [anonymousNode]
  split
  · exact (errors_getOrCreate location _ _ _ _ _).trans (errors_uniqueName r scope _)
  · exact errors_getOrCreate location _ _ _ _ _

theorem logged_attach (id : NodeId) (d : Definition) : Logged (attach id d location) r [] := by
  cases here : r.get? id with
  | none =>
    have ran := exec_attach_gone d location here
    exact .silent (by rw [ran]; exact .refl r) (by rw [ran]) fun e failed => by
      rw [ran] at failed
      cases failed
  | some n =>
    cases bound : n.binding with
    | some b =>
      have ran := exec_attach_bound d location here bound
      split at ran
      · exact .silent (by rw [ran]; exact .refl r) (by rw [ran]) fun e failed => by
          rw [ran] at failed
          cases failed
      · exact .silent (by rw [ran]; exact .refl r) (by rw [ran]) fun e failed => by
          rw [ran] at failed
          cases failed
          exact ⟨_, rfl⟩
    | none =>
      have ran := exec_attach_unbound d location here bound
      exact .silent (by rw [ran]; exact (extends_relink ..).trans (extends_noteClass ..))
        (by rw [ran]; exact (errors_noteClass _ _).trans (errors_relink _ _ _)) fun e failed => by
          rw [ran] at failed
          cases failed

theorem logged_makeConstant (value : Constant) :
    Logged (makeConstant value location) r (constantBinds location value r) := by
  have ext := Steps.extends (leads_makeConstant (p := .none) value location r).1
  cases known : (OrderedMap.get? r.constants value.key).filter r.isLive with
  | some id =>
    have none : constantBinds location value r = [] := by simp only [constantBinds, known]
    have ran := exec_makeConstant_known location known
    rw [none]
    exact .silent ext (by rw [ran]) fun e failed => by rw [ran] at failed; cases failed
  | none =>
    -- The name is free, so the node is new, and attaching to it cannot fail.
    have free : r.lookup? (r.newConstantName value) = none := lookup?_freeConstantName r _
    have here := get?_register r (r.newConstantName value) (r.newConstantName value) .root .empty
      location ⟨r.nodes.size⟩
    rw [if_pos rfl] at here
    have attached := exec_attach_unbound (constantDefinition value) location here rfl
    have one : constantBinds location value r = [.ok ()] := by
      simp only [constantBinds, known, getOrCreate, free, attached]
    have ran := exec_makeConstant_new location known
    rw [one]
    refine ⟨ext, iff_of_true ?_ (by simp), fun e failed => by rw [ran] at failed; cases failed⟩
    rw [ran]
    exact errors_relink _ _ _

theorem logged_anonymousBind {id : NodeId} {nodeClass : NodeClass} {cs steps : ChildList}
    {record : Record} {log : List Outcome}
    (resolves : Logged (resolveChildren location (r.scopeOf id) steps) r log) :
    Logged (anonymousBind location id nodeClass cs steps record) r log :=
  .get (resolves.andThen fun _ _ _ => logged_attach location _ _)

mutual

theorem logged_resolveChild (scope : ScopeId) (label : Label) : ∀ (c : Child) {r : Repository},
    r.options.testing = false →
      Logged (resolveChild location scope label c) r (childBinds location scope c r)
  | .empty, r, _ => by
    rw [resolveChild, childBinds]
    · exact .pure _ _
    all_goals simp
  | .node ref, r, _ => by
    have ran := exec_resolveChild_node location scope label ref r
    rw [childBinds]
    · refine .silent (by rw [ran]; exact .refl r) (by rw [ran]) fun e failed => ?_
      rw [ran] at failed
      dsimp only at failed
      split at failed
      · split at failed <;> cases failed
        exact ⟨_, rfl⟩
      · cases failed
        exact ⟨_, rfl⟩
    all_goals simp
  | .name name, r, _ => by
    have ran := exec_resolveChild_name location scope label name r
    rw [childBinds]
    · refine .silent (by rw [ran]; exact .refl r) (by rw [ran]) fun e failed => ?_
      rw [ran] at failed
      dsimp only at failed
      split at failed <;> cases failed
      exact ⟨_, rfl⟩
    all_goals simp
  | .constant value, r, _ => by
    rw [resolveChild, childBinds]
    exact (logged_makeConstant location value).andThen fun _ _ _ => .get (.pure _ _)
  | .pending d, r, collecting => by
    rw [resolveChild, childBinds]
    exact (logged_defineAnonymous scope d collecting).andThen fun _ _ _ => .get (.pure _ _)
  | .factory _ _, r, _ => by
    rw [resolveChild, childBinds]
    · exact .throw _ _
    all_goals simp
termination_by structural c => c

theorem logged_resolveEntry (scope : ScopeId) : ∀ (e : Entry) {r : Repository},
    r.options.testing = false →
      Logged (resolveEntry location scope e) r (entryBinds location scope e r)
  | ⟨label, child⟩, r, collecting => by
    rw [resolveEntry, entryBinds]
    exact (logged_resolveChild scope label child collecting).andThen fun _ _ _ => .pure _ _
termination_by structural e => e

theorem logged_resolveEntries (scope : ScopeId) : ∀ (es : List Entry) {r : Repository},
    r.options.testing = false →
      Logged (resolveEntries location scope es) r (entriesBinds location scope es r)
  | [], r, _ => by
    rw [resolveEntries, entriesBinds]
    exact .pure _ _
  | e :: rest, r, collecting => by
    rw [resolveEntries, entriesBinds]
    have head := logged_resolveEntry scope e collecting
    refine head.bind fun e' r₁ ran => ?_
    have first : r.Extends r₁ := head.extends_of_exec ran
    exact (logged_resolveEntries scope rest (by rw [first.options, collecting])).andThen
      fun _ _ _ => .pure _ _
termination_by structural es => es

theorem logged_resolveChildren (scope : ScopeId) : ∀ (l : ChildList) {r : Repository},
    r.options.testing = false →
      Logged (resolveChildren location scope l) r (listBinds location scope l r)
  | ⟨entries, keyed, true⟩, r, _ => by
    have ran := exec_resolveChildren_resolved location scope entries keyed r
    rw [listBinds, if_pos rfl]
    refine .silent (by rw [ran]; exact .refl r) (by rw [ran]) fun e failed => ?_
    rw [ran] at failed
    dsimp only at failed
    split at failed <;> cases failed
    exact ⟨_, rfl⟩
  | ⟨entries, keyed, false⟩, r, collecting => by
    rw [resolveChildren, listBinds, if_neg Bool.false_ne_true, if_neg Bool.false_ne_true]
    exact (logged_resolveEntries scope entries collecting).andThen fun _ _ _ => .pure _ _
termination_by structural l => l

theorem logged_defineAnonymous (scope : ScopeId) : ∀ (d : Definition) {r : Repository},
    r.options.testing = false →
      Logged (defineAnonymous location scope d) r (definitionBinds location scope d r)
  | ⟨nodeClass, children, steps, record⟩, r, collecting => by
    rw [defineAnonymous, definitionBinds]
    have resolves := logged_resolveChildren scope children collecting
    refine resolves.bind fun cs r₁ ran => ?_
    have first : r.Extends r₁ := resolves.extends_of_exec ran
    obtain ⟨second, _⟩ := steps_anonymousNode (p := .none) r₁ scope nodeClass cs location
    have collecting₂ :
        (r₁.anonymousNode scope nodeClass cs location).2.options.testing = false := by
      rw [second.extends.options, first.options, collecting]
    have named : Logged (modifyGet fun r => r.anonymousNode scope nodeClass cs location) r₁ [] :=
      .modifyGet second.extends (errors_anonymousNode r₁ scope nodeClass cs location)
    have rest : ∀ id r₂, r₁.anonymousNode scope nodeClass cs location = (id, r₂) →
        Logged
          (recording (anonymousBind location id nodeClass cs steps record) >>= fun _ => pure id) r₂
          (listBinds location (r₂.scopeOf id) steps r₂ ++
            [((anonymousBind location id nodeClass cs steps record).exec r₂).1]) := by
      rintro id r₂ taken
      rw [taken] at collecting₂
      exact ((logged_anonymousBind location (logged_resolveChildren _ steps collecting₂)).recording
        collecting₂).andThen fun _ _ _ => .pure _ _
    exact named.bind fun id r₂ taken => rest id r₂ (by cases taken; rfl)
termination_by structural d => d

end

/-! ## 4. Operations -/

theorem logged_tryBind (id : NodeId) (argument : Except BuildError Child)
    (collecting : r.options.testing = false) :
    Logged (tryBind id argument location) r
      (match argument.toOption.bind Child.definition?, r.get? id with
        | some d, some node => partBinds location node.scope d r
        | _, _ => []) := by
  cases argument with
  | error source => exact .get (.throw _ _)
  | ok c =>
    cases denoted : c.definition? with
    | none =>
      rw [tryBind]
      refine .get ?_
      simp only [Except.toOption, Option.bind_some, denoted]
      exact .throw _ _
    | some d =>
      cases here : r.get? id with
      | none =>
        rw [tryBind]
        refine .get ?_
        simp only [Except.toOption, Option.bind_some, denoted, here]
        exact .throw _ _
      | some node =>
        simp only [Except.toOption, Option.bind_some, denoted]
        refine .of_eq ?_ (exec_tryBind location denoted here) rfl
        have first := logged_resolveChildren location node.scope d.children collecting
        refine first.bind fun cs r₁ ran => ?_
        have ext : r.Extends r₁ := first.extends_of_exec ran
        exact (logged_resolveChildren location node.scope d.steps
          (by rw [ext.options, collecting])).andThen fun _ _ _ => logged_attach location _ _

theorem logged_bind (id : NodeId) (argument : Except BuildError Child)
    (collecting : r.options.testing = false) :
    Logged (bind id argument location) r (namedBinds location id argument r) :=
  (logged_tryBind location id argument collecting).recording collecting

theorem logged_extendChildren (role : ChildRole) (id : NodeId) (cs : List Child)
    (collecting : r.options.testing = false) :
    Logged (extendChildren role id cs location) r
      (match (r.get? id).filter (·.isBound) with
        | some n => listBinds location n.scope (.positional cs) r
        | none => []) := by
  rw [extendChildren]
  refine .get ?_
  cases (r.get? id).filter (·.isBound) with
  | none => exact .throw _ _
  | some n =>
    refine (logged_resolveChildren location n.scope (.positional cs) collecting).andThen
      fun l r₁ _ => .modifyGet (extends_relink ..) (errors_relink ..)

theorem logged_setOptions (id : NodeId) (options : List (String × Value)) :
    Logged (setOptions id options location) r [] := by
  rw [setOptions]
  refine .get ?_
  dsimp only
  split
  · exact (Logged.throw _ _).andThen fun _ _ ran => by cases ran
  · exact .modifyGet (extends_relink r id _ []) (errors_relink id _ [])

end

end Repository

open Repository

theorem Operation.logged {r : Repository} {op : Operation} (collecting : r.options.testing = false)
    (reports : ¬op.Reports) : Logged op.run r (op.binds r) := by
  have ext : r.Extends (op.after r) := op.extends_after r
  have plain (ran : (op.run.exec r).1 = .ok ()) (same : (op.after r).errors = r.errors) :
      Logged op.run r [] :=
    .silent ext same fun e failed => by rw [ran] at failed; cases failed
  cases op with
  | openScope | unpin | hold | release | pushFrame | popFrame => exact plain rfl rfl
  | node scope name location => exact plain rfl (errors_getOrCreate location _ _ _ _ _)
  | qualify basename scope quals location => exact plain rfl (errors_getOrCreate location _ _ _ _ _)
  | uniqueName scope name => exact plain rfl (errors_uniqueName r scope name)
  | pin id =>
    refine plain rfl ?_
    change (r.pin id).errors = _
    rw [Repository.pin]
    split <;> rfl
  | bind id argument location => exact logged_bind location id argument collecting
  | bindAnonymous scope argument location =>
    refine Logged.andThen (a := Repository.bindAnonymous scope argument location) ?_
      fun _ _ _ => .pure _ _
    rw [Repository.bindAnonymous, Operation.binds]
    cases argument.definition? with
    | none => exact .throw _ _
    | some d => exact logged_defineAnonymous location scope d collecting
  | makeConstant value location =>
    exact (logged_makeConstant location value).andThen fun _ _ _ => .pure _ _
  | extend role id children location =>
    exact logged_extendChildren location role id children collecting
  | setOptions id options location => exact logged_setOptions location id options
  | addError | report => exact absurd trivial reports

end NodeForest

import NodeForest.Proofs.StoreView

/-!
# Binding in a store

What a procedure does to an intact store is what an action does to the repository that the store
shows: it ends in the same way, and leaves an intact store that shows what the action leaves. This
holds of everything that comes before a resolve, wherever it is broken off.

Results:
1. `Procedure.Implements`: a procedure does what an action does; `Implements.bind` and the rules
   beside it.
2. `implements_addError`, `implements_recording`: diagnostics.
3. `Intact.getOrCreate`, `Intact.uniqueName`: names.
4. `implements_attach`: the fields of a slot are written one after the other;
   `implements_makeConstant`.
5. `implements_defineAnonymous`: the recursion over nested definitions.
6. `implements_tryBind`, `implements_extendChildren`, `implements_setOptions`: single operations.
7. `Operation.perform`, `Operation.implements`: every operation.
-/

namespace NodeForest

variable {α β : Type}

/-! ## 1. Procedures and actions -/

/-- A value, and an intact store that shows the repository beside the same value. -/
structure Store.Shows (x : α × Store) (y : α × Repository) : Prop where
  intact : x.2.Intact
  same : (x.1, x.2.view) = y

namespace Procedure

/-- The outcome of a procedure on a store, and the store after it. -/
def exec (p : Procedure α) (s : Store) : Except Failure α × Store :=
  p.run s

theorem exec_get (s : Store) : exec get s = (.ok s, s) := rfl

theorem exec_bind (p : Procedure α) (f : α → Procedure β) (s : Store) :
    (p >>= f).exec s = match p.exec s with
      | (.ok y, s₁) => (f y).exec s₁
      | (.error e, s₁) => (.error e, s₁) := by
  change (match p.exec s with | (x, s₁) => ExceptT.bindCont f x s₁) = _
  rcases p.exec s with ⟨_ | _, _⟩ <;> rfl

theorem exec_tryCatch (p : Procedure α) (h : Failure → Procedure α) (s : Store) :
    exec (tryCatch p h) s = match p.exec s with
      | (.ok y, s₁) => (.ok y, s₁)
      | (.error e, s₁) => (h e).exec s₁ := by
  unfold exec ExceptT.run
  simp only [tryCatch, tryCatchThe, MonadExceptOf.tryCatch, ExceptT.tryCatch, ExceptT.mk, bind,
    StateT.bind]
  rcases p s with ⟨_ | _, _⟩ <;> rfl

/-- On the store, the procedure does what the action does on the repository that is shown. -/
structure Implements (p : Procedure α) (a : Action α) (s : Store) : Prop where
  intact : (p.exec s).2.Intact
  outcome : (p.exec s).1 = (a.exec s.view).1
  view : (p.exec s).2.view = (a.exec s.view).2

namespace Implements

variable {p : Procedure α} {a : Action α} {s : Store}

theorem pure (intact : s.Intact) (y : α) : Implements (Pure.pure y) (Pure.pure y) s :=
  ⟨intact, rfl, rfl⟩

theorem throw (intact : s.Intact) (e : Failure) :
    Implements (MonadExcept.throw e : Procedure α) (MonadExcept.throw e) s :=
  ⟨intact, rfl, rfl⟩

/-- Nothing follows a failure. -/
theorem fail {f : α → Procedure β} {g : α → Action β} (intact : s.Intact) (e : Failure) :
    Implements (MonadExcept.throw e >>= f) (MonadExcept.throw e >>= g) s :=
  ⟨intact, rfl, rfl⟩

theorem change {f : Store → Store} {g : Repository → Repository} (intact : (f s).Intact)
    (view : (f s).view = g s.view) : Implements (modify f) (modify g) s :=
  ⟨intact, rfl, view⟩

theorem put {s' : Store} {r : Repository} (intact : s'.Intact) (view : s'.view = r) :
    Implements (set s') (set r) s :=
  ⟨intact, rfl, view⟩

theorem give {f : Store → α × Store} {g : Repository → α × Repository}
    (shows : Store.Shows (f s) (g s.view)) : Implements (modifyGet f) (modifyGet g) s := by
  obtain ⟨intact, same⟩ := shows
  refine ⟨intact, ?_, ?_⟩
  · rw [Action.exec_modifyGet, ← same]
    rfl
  · rw [Action.exec_modifyGet, ← same]
    rfl

/-- What the procedure comes to, the action comes to as well. -/
theorem ran (h : Implements p a s) {x : Except Failure α} {s₁ : Store}
    (run : p.exec s = (x, s₁)) : s₁.Intact ∧ a.exec s.view = (x, s₁.view) := by
  obtain ⟨intact, outcome, view⟩ := h
  rw [run] at intact outcome view
  exact ⟨intact, Prod.ext outcome.symm view.symm⟩

theorem of_run {x : Except Failure α} {s₁ : Store} (run : p.exec s = (x, s₁)) (intact : s₁.Intact)
    (ran : a.exec s.view = (x, s₁.view)) : Implements p a s := by
  refine ⟨?_, ?_, ?_⟩ <;> rw [run]
  · exact intact
  · rw [ran]
  · rw [ran]

/-- What follows is run on what the first part has come to. -/
theorem bind_run {f : α → Procedure β} {g : α → Action β} (first : Implements p a s)
    (next : ∀ y s₁, s₁.Intact → p.exec s = (.ok y, s₁) → a.exec s.view = (.ok y, s₁.view) →
      Implements (f y) (g y) s₁) :
    Implements (p >>= f) (a >>= g) s := by
  rcases run : p.exec s with ⟨e | y, s₁⟩
  · obtain ⟨intact, fails⟩ := first.ran run
    have whole : (p >>= f).exec s = (.error e, s₁) := by rw [Procedure.exec_bind, run]
    exact .of_run whole intact (Action.exec_bind_of_error fails)
  · obtain ⟨intact, gives⟩ := first.ran run
    obtain ⟨intact', ends⟩ := (next y s₁ intact run gives).ran rfl
    have whole : (p >>= f).exec s = (f y).exec s₁ := by rw [Procedure.exec_bind, run]
    exact .of_run whole intact' ((Action.exec_bind_of_ok gives).trans ends)

theorem bind {f : α → Procedure β} {g : α → Action β} (first : Implements p a s)
    (next : ∀ y s₁, s₁.Intact → Implements (f y) (g y) s₁) : Implements (p >>= f) (a >>= g) s :=
  first.bind_run fun y s₁ intact _ _ => next y s₁ intact

theorem handle {h : Failure → Procedure α} {k : Failure → Action α} (first : Implements p a s)
    (next : ∀ e s₁, s₁.Intact → Implements (h e) (k e) s₁) :
    Implements (tryCatch p h) (tryCatch a k) s := by
  rcases run : p.exec s with ⟨e | y, s₁⟩
  · obtain ⟨intact, fails⟩ := first.ran run
    obtain ⟨intact', ends⟩ := (next e s₁ intact).ran rfl
    have whole : exec (tryCatch p h) s = (h e).exec s₁ := by rw [Procedure.exec_tryCatch, run]
    refine .of_run whole intact' ?_
    rw [Action.exec_tryCatch, fails]
    exact ends
  · obtain ⟨intact, gives⟩ := first.ran run
    have whole : exec (tryCatch p h) s = (.ok y, s₁) := by rw [Procedure.exec_tryCatch, run]
    refine .of_run whole intact ?_
    rw [Action.exec_tryCatch, gives]

theorem ite {c : Prop} [Decidable c] {q : Procedure α} {b : Action α} (yes : Implements p a s)
    (no : Implements q b s) : Implements (if c then p else q) (if c then a else b) s := by
  split
  · exact yes
  · exact no

/-- The state is read. -/
theorem get {f : Store → Procedure β} {g : Repository → Action β}
    (next : Implements (f s) (g s.view) s) :
    Implements (MonadState.get >>= f) (MonadState.get >>= g) s := by
  obtain ⟨intact, outcome, view⟩ := next
  exact ⟨intact, outcome, view⟩

end Implements

end Procedure

open Procedure

namespace Store

variable {s : Store}

/-! ## 2. Diagnostics -/

theorem implements_addError (d : Diagnostic) (trail : List Location) (intact : s.Intact) :
    Implements (addError d trail) (Repository.addError d trail) s := by
  refine .get ?_
  refine .ite (.fail intact _) ?_
  refine .bind (.put (intact.same rfl rfl) rfl) fun _ s₁ intact₁ => ?_
  exact .ite (.throw intact₁ _) (.pure intact₁ _)

theorem implements_report (d : Diagnostic) (intact : s.Intact) :
    Implements (report d) (Repository.report d) s :=
  .get (implements_addError d _ intact)

theorem implements_recording {p : Procedure Unit} {a : Action Unit} (h : Implements p a s) :
    Implements (recording p) (Repository.recording a) s := by
  refine h.handle fun e s₁ intact₁ => ?_
  cases e with
  | diagnostic d => exact implements_report d intact₁
  | cumulative ds => exact .throw intact₁ _
  | notResolved => exact .throw intact₁ _

/-! ## 3. Names -/

theorem Intact.getOrCreate (intact : s.Intact) (name basename : String) (scope : ScopeId)
    (quals : Qualifiers) (location : Location) :
    Shows (s.getOrCreate name basename scope quals location)
      (s.view.getOrCreate name basename scope quals location) := by
  rw [Store.getOrCreate, Repository.getOrCreate, intact.lookup?]
  cases free : s.lookup? name with
  | some id => exact ⟨intact, rfl⟩
  | none =>
    obtain ⟨intact', view⟩ := intact.register free basename scope quals location
    refine ⟨intact', ?_⟩
    rw [view, nodes_size_view]

theorem Intact.addScope (intact : s.Intact) (parent : ScopeId) (name : String)
    (quals : Qualifiers) :
    Shows (s.addScope parent name quals) (s.view.addScope parent name quals) :=
  ⟨intact.same rfl rfl, rfl⟩

theorem Intact.uniqueName (intact : s.Intact) (scope : ScopeId) (name : String) :
    Shows (s.uniqueName scope name) (s.view.uniqueName scope name) := by
  have scopes : s.view.scopes = s.scopes := rfl
  rw [Store.uniqueName, Repository.uniqueName, scopes]
  cases s.scopes[scope.index]? with
  | none => exact ⟨intact, rfl⟩
  | some data => exact ⟨intact.same rfl rfl, rfl⟩

theorem Intact.nodeInScope (intact : s.Intact) (scope : ScopeId) (name : String)
    (location : Location) :
    Shows (s.nodeInScope scope name location) (s.view.nodeInScope scope name location) :=
  intact.getOrCreate ..

theorem Intact.qualify (intact : s.Intact) (basename : String) (scope : ScopeId)
    (quals : Qualifiers) (location : Location) :
    Shows (s.qualify basename scope quals location)
      (s.view.qualify basename scope quals location) :=
  intact.getOrCreate ..

theorem Intact.pin (intact : s.Intact) (id : NodeId) :
    (s.pin id).Intact ∧ (s.pin id).view = s.view.pin id := by
  rw [Store.pin, Repository.pin, isLive_view]
  change (if _ then _ else _ : Store).Intact ∧
    _ = if s.isLive id && !s.pinned.contains id then _ else _
  split
  · exact ⟨intact.same rfl rfl, rfl⟩
  · exact ⟨intact, rfl⟩

/-! ## 4. One bind -/

theorem Intact.noteClass (intact : s.Intact) (id : NodeId) (className : String) :
    (s.noteClass id className).Intact ∧
      (s.noteClass id className).view = s.view.noteClass id className := by
  rw [Store.noteClass, Repository.noteClass]
  split
  · exact ⟨intact.same rfl rfl, rfl⟩
  · split
    · exact ⟨intact.same rfl rfl, rfl⟩
    · split
      · exact ⟨intact.same rfl rfl, rfl⟩
      · exact ⟨intact, rfl⟩

theorem update_update (s : Store) (id : NodeId) (f g : Slot → Slot) :
    (s.update id f).update id g = s.update id fun slot => g (f slot) := by
  refine congrArg (fun slots => { s with slots }) (Array.ext_getElem? fun i => ?_)
  simp only [update, Array.getElem?_modify]
  split
  · rw [Option.map_map]
    exact congrArg (Option.map · _) (funext fun slot => Option.map_map ..)
  · rfl

/-- Writes that commute may be made in either order. -/
theorem update_comm {f g : Slot → Slot} (comm : ∀ slot, f (g slot) = g (f slot)) (s : Store)
    (id other : NodeId) : (s.update id f).update other g = (s.update other g).update id f := by
  refine congrArg (fun slots => { s with slots }) (Array.ext_getElem? fun i => ?_)
  simp only [update, Array.getElem?_modify]
  split <;> split <;> try rfl
  rw [Option.map_map, Option.map_map]
  refine congrArg (Option.map · _) (funext fun slot => ?_)
  cases slot with
  | none => rfl
  | some slot => exact congrArg some (comm slot).symm

theorem updateAll_comm {f g : Slot → Slot} (comm : ∀ slot, f (g slot) = g (f slot)) (s : Store)
    (ids : List NodeId) (id : NodeId) :
    (s.updateAll ids f).update id g = (s.update id g).updateAll ids f := by
  induction ids generalizing s with
  | nil => rfl
  | cons first ids ih =>
    rw [updateAll, List.foldl_cons, ← updateAll, ih, update_comm comm]
    rfl

theorem noteClass_update (s : Store) (id other : NodeId) (className : String) (f : Slot → Slot) :
    (s.noteClass id className).update other f = (s.update other f).noteClass id className := by
  rw [Store.noteClass, Store.noteClass]
  split
  · rfl
  · split
    · rfl
    · split <;> rfl

/-- A slot with all fields of a definition written but the record. -/
def drafted (d : Definition) (location : Location) (frames : List Location) (slot : Slot) : Slot :=
  { slot with
    className := some d.nodeClass.fullName, children := d.children, steps := d.steps,
    boundAt := some location, bindTrail := frames }

/-- A slot with all of them written. -/
def filled (d : Definition) (location : Location) (frames : List Location) (slot : Slot) : Slot :=
  { drafted d location frames slot with record := some d.record }

/-- What an attachment comes to: the record may as well be written with the other fields. -/
theorem attached_eq (s : Store) (id : NodeId) (d : Definition) (location : Location)
    (frames : List Location) (children : List NodeId) :
    (((s.update id (drafted d location frames)).addParent id children).noteClass id
        d.nodeClass.fullName).update id ({ · with record := some d.record }) =
      ((s.update id (filled d location frames)).addParent id children).noteClass id
        d.nodeClass.fullName := by
  rw [noteClass_update, Store.addParent, updateAll_comm, update_update]
  · rfl
  · intro slot
    dsimp only
    split <;> rfl

/-- A slot that was unbound shows the new definition. -/
theorem node_filled {slot : Slot} (whole : slot.Whole) (unbound : slot.record = none)
    (s : Store) (d : Definition) (location : Location) :
    (filled d location s.frames slot).node =
      { slot.node with binding := some (s.view.newBinding d location) } := by
  have fresh : (filled d location s.frames slot).placement = none :=
    Slot.placement_eq_none (whole.unbound unbound).2.2.2
  rw [Slot.node, Slot.binding, fresh]
  rfl

/-- Filling an unbound slot, which then becomes a parent. -/
theorem Intact.fill (intact : s.Intact) {id : NodeId} {slot : Slot} (here : s.get? id = some slot)
    (unbound : slot.record = none) (d : Definition) (location : Location)
    (children : List NodeId) :
    ((s.update id (filled d location s.frames)).addParent id children).Intact ∧
      ((s.update id (filled d location s.frames)).addParent id children).view =
        s.view.relink id (fun _ => some (s.view.newBinding d location)) children := by
  have whole : ∀ slot', s.get? id = some slot' → (filled d location s.frames slot').Whole :=
    fun _ _ => ⟨rfl, rfl, fun none => by cases none⟩
  have shows : ∀ slot', s.get? id = some slot' → (filled d location s.frames slot').node =
      { slot'.node with binding := some (s.view.newBinding d location) } := by
    intro slot' there
    rw [here] at there
    cases there
    exact node_filled (intact.whole id slot here) unbound s d location
  exact intact.relink (f := filled d location s.frames)
    (g := fun _ => some (s.view.newBinding d location)) (fun _ => rfl) whole shows children

theorem implements_attach (id : NodeId) (d : Definition) (location : Location) (intact : s.Intact) :
    Implements (attach id d location) (Repository.attach id d location) s := by
  refine .get ?_
  dsimp only
  rw [get?_view]
  cases here : s.get? id with
  | none => exact .pure intact _
  | some slot =>
    dsimp only [Option.map_some]
    cases written : slot.record with
    | some record =>
      have bound : slot.node.binding = some
          { className := slot.className.getD "", children := slot.children, steps := slot.steps,
            record, boundAt := slot.boundOrDefinedAt, trail := slot.bindTrail,
            placement := slot.placement } := by
        rw [Slot.node, Slot.binding, written]
        rfl
      rw [bound]
      exact .ite (.throw intact _) (.pure intact _)
    | none =>
      have unbound : slot.node.binding = none := by
        rw [Slot.node, Slot.binding, written]
        rfl
      rw [unbound]
      have children : (s.update id (drafted d location s.frames)).childIdsOf id =
          (s.view.newBinding d location).childIds := by
        rw [childIdsOf, get?_update, if_pos rfl, here]
        rfl
      obtain ⟨intact₁, view₁⟩ :=
        intact.fill here written d location (s.view.newBinding d location).childIds
      obtain ⟨intact₂, view₂⟩ := intact₁.noteClass id d.nodeClass.fullName
      rw [← attached_eq, ← children] at intact₂
      refine ⟨intact₂, rfl, ?_⟩
      rw [← attached_eq, view₁] at view₂
      refine Eq.trans ?_ view₂
      rw [← children]
      rfl

theorem Intact.freeConstantName (intact : s.Intact) (base : String) :
    s.view.freeConstantName base = s.freeConstantName base := by
  have taken : (fun n => (s.view.lookup? (Repository.constantName base n)).isNone) =
      fun n => (s.lookup? (Repository.constantName base n)).isNone :=
    funext fun n => by rw [intact.lookup?]
  rw [Repository.freeConstantName, nodes_size_view, taken]
  rfl

theorem implements_makeConstant (value : Constant) (location : Location) (intact : s.Intact) :
    Implements (makeConstant value location) (Repository.makeConstant value location) s := by
  refine .get ?_
  have known : (OrderedMap.get? s.view.constants value.key).filter s.view.isLive =
      (OrderedMap.get? s.constants value.key).filter s.isLive :=
    congrArg (Option.filter · _) (funext s.isLive_view)
  dsimp only
  rw [known]
  cases (OrderedMap.get? s.constants value.key).filter s.isLive with
  | some id => exact .pure intact _
  | none =>
    dsimp only
    rw [intact.freeConstantName]
    refine .bind (.give (intact.getOrCreate ..)) fun id s₁ intact₁ => ?_
    refine .bind (implements_recording (implements_attach id _ location intact₁))
      fun _ s₂ intact₂ => ?_
    exact .bind (.change (intact₂.same rfl rfl) rfl) fun _ s₃ intact₃ => .pure intact₃ _

/-! ## 5. The recursion -/

theorem mergedQuals_view (s : Store) (children : ChildList) :
    s.view.mergedQuals children = s.mergedQuals children := by
  rw [Repository.mergedQuals, Store.mergedQuals, childSlots, List.foldl_map]
  congr 1
  funext quals e
  cases e.child.nodeId? with
  | none => rfl
  | some id =>
    rw [Option.bind_some, Option.bind_some, get?_view]
    cases s.get? id <;> rfl

theorem childBasenames_view (s : Store) (children : ChildList) :
    s.view.childBasenames children = s.childBasenames children := by
  rw [Repository.childBasenames, Store.childBasenames, childSlots, List.map_map]
  refine List.map_congr_left fun e _ => ?_
  rw [Function.comp_apply]
  cases e.child.nodeId? with
  | none => rfl
  | some id =>
    rw [Option.bind_some, Option.bind_some, get?_view]
    cases s.get? id <;> rfl

theorem Intact.anonymousNode (intact : s.Intact) (scope : ScopeId) (nodeClass : NodeClass)
    (children : ChildList) (location : Location) :
    Shows (s.anonymousNode scope nodeClass children location)
      (s.view.anonymousNode scope nodeClass children location) := by
  rw [Store.anonymousNode, Repository.anonymousNode]
  split
  · obtain ⟨intact', same⟩ := intact.uniqueName scope (Text.lowercase nodeClass.name)
    rw [← same]
    exact intact'.nodeInScope ..
  · rw [childBasenames_view, mergedQuals_view]
    exact intact.qualify ..

section

variable (location : Location)

mutual

theorem implements_resolveChild (scope : ScopeId) (label : Label) : ∀ (c : Child) {s : Store},
    s.Intact → Implements (resolveChild location scope label c)
      (Repository.resolveChild location scope label c) s
  | .empty, s, intact => by
    rw [resolveChild, Repository.resolveChild]
    exact .pure intact _
  | .node ref, s, intact => by
    rw [resolveChild, Repository.resolveChild]
    refine .get ?_
    rw [isLive_view]
    exact .ite (.fail intact _) (.ite (.fail intact _) (.pure intact _))
  | .name name, s, intact => by
    rw [resolveChild, Repository.resolveChild]
    refine .get ?_
    rw [intact.lookupBound?]
    cases s.lookupBound? name with
    | none => exact .throw intact _
    | some id => exact .pure intact _
  | .constant value, s, intact => by
    rw [resolveChild, Repository.resolveChild]
    exact .bind (implements_makeConstant value location intact) fun id s₁ intact₁ =>
      .get (.pure intact₁ _)
  | .pending d, s, intact => by
    rw [resolveChild, Repository.resolveChild]
    exact .bind (implements_defineAnonymous scope d intact) fun id s₁ intact₁ =>
      .get (.pure intact₁ _)
  | .factory _ _, s, intact => by
    rw [resolveChild, Repository.resolveChild]
    exact .throw intact _

theorem implements_resolveEntry (scope : ScopeId) : ∀ (e : Entry) {s : Store},
    s.Intact → Implements (resolveEntry location scope e)
      (Repository.resolveEntry location scope e) s
  | ⟨label, child⟩, s, intact => by
    rw [resolveEntry, Repository.resolveEntry]
    exact .bind (implements_resolveChild scope label child intact) fun _ s₁ intact₁ =>
      .pure intact₁ _

theorem implements_resolveEntries (scope : ScopeId) : ∀ (es : List Entry) {s : Store},
    s.Intact → Implements (resolveEntries location scope es)
      (Repository.resolveEntries location scope es) s
  | [], s, intact => by
    rw [resolveEntries, Repository.resolveEntries]
    exact .pure intact _
  | e :: rest, s, intact => by
    rw [resolveEntries, Repository.resolveEntries]
    refine .bind (implements_resolveEntry scope e intact) fun _ s₁ intact₁ => ?_
    exact .bind (implements_resolveEntries scope rest intact₁) fun _ s₂ intact₂ => .pure intact₂ _

theorem implements_resolveChildren (scope : ScopeId) : ∀ (l : ChildList) {s : Store},
    s.Intact → Implements (resolveChildren location scope l)
      (Repository.resolveChildren location scope l) s
  | ⟨entries, keyed, resolved⟩, s, intact => by
    rw [resolveChildren, Repository.resolveChildren]
    refine .ite (.get ?_) ?_
    · have foreign : s.view.findForeign? entries = s.findForeign? entries := rfl
      rw [foreign]
      cases s.findForeign? entries with
      | none => exact .pure intact _
      | some e => exact .throw intact _
    · exact .bind (implements_resolveEntries scope entries intact) fun _ s₁ intact₁ =>
        .pure intact₁ _

theorem implements_defineAnonymous (scope : ScopeId) : ∀ (d : Definition) {s : Store},
    s.Intact → Implements (defineAnonymous location scope d)
      (Repository.defineAnonymous location scope d) s
  | ⟨nodeClass, children, steps, record⟩, s, intact => by
    rw [defineAnonymous, Repository.defineAnonymous]
    refine .bind (implements_resolveChildren scope children intact) fun cs s₁ intact₁ => ?_
    refine .bind (.give (intact₁.anonymousNode ..)) fun id s₂ intact₂ => ?_
    refine .bind (implements_recording (.get ?_)) fun _ s₃ intact₃ => .pure intact₃ _
    rw [scopeOf_view]
    exact .bind (implements_resolveChildren _ steps intact₂) fun _ s₃ intact₃ =>
      implements_attach id _ location intact₃

end

end

/-! ## 6. Operations -/

theorem implements_tryBind (id : NodeId) (argument : Except BuildError Child)
    (location : Location) (intact : s.Intact) :
    Implements (tryBind id argument location) (Repository.tryBind id argument location) s := by
  refine .get ?_
  dsimp only
  rw [nameInMessage_view, get?_view]
  cases argument with
  | error source => exact .throw intact _
  | ok child =>
    dsimp only
    cases child.definition? with
    | none => exact .throw intact _
    | some d =>
      cases s.get? id with
      | none => exact .throw intact _
      | some slot =>
        refine .bind (implements_resolveChildren location _ d.children intact)
          fun cs s₁ intact₁ => ?_
        exact .bind (implements_resolveChildren location _ d.steps intact₁) fun _ s₂ intact₂ =>
          implements_attach id _ location intact₂

theorem implements_bind (id : NodeId) (argument : Except BuildError Child) (location : Location)
    (intact : s.Intact) :
    Implements (bind id argument location) (Repository.bind id argument location) s :=
  implements_recording (implements_tryBind id argument location intact)

theorem implements_bindAnonymous (scope : ScopeId) (argument : Child) (location : Location)
    (intact : s.Intact) : Implements (bindAnonymous scope argument location)
      (Repository.bindAnonymous scope argument location) s := by
  rw [bindAnonymous, Repository.bindAnonymous]
  cases argument.definition? with
  | none => exact .throw intact _
  | some d => exact implements_defineAnonymous location scope d intact

/-- Extending a list of a slot extends that of the definition shown. -/
theorem node_extendSlot (role : Repository.ChildRole) (cs : List Child) (slot : Slot) :
    (extendSlot role cs slot).node =
      { slot.node with binding := slot.binding.map (Repository.extendBinding role cs) } := by
  rw [Slot.node, Slot.binding, Slot.node, Slot.binding, Option.map_map]
  cases role <;> rfl

theorem whole_extendSlot {slot : Slot} (whole : slot.Whole) (bound : slot.isBound)
    (role : Repository.ChildRole) (cs : List Child) : (extendSlot role cs slot).Whole := by
  have written : slot.record ≠ none := Option.isSome_iff_ne_none.mp bound
  cases role <;> exact ⟨whole.className, whole.boundAt, fun none => absurd none written⟩

theorem implements_extendChildren (role : Repository.ChildRole) (id : NodeId)
    (children : List Child) (location : Location) (intact : s.Intact) :
    Implements (extendChildren role id children location)
      (Repository.extendChildren role id children location) s := by
  refine .get ?_
  dsimp only
  rw [nameInMessage_view, get?_view, Option.filter_map]
  have bound : (fun slot : Slot => slot.node.isBound) = (·.isBound) := funext Slot.isBound_node
  rw [show (fun n : Node => n.isBound) ∘ Slot.node = (·.isBound) from bound]
  cases here : (s.get? id).filter (·.isBound) with
  | none => exact .throw intact _
  | some slot =>
    refine .bind_run (implements_resolveChildren location _ _ intact)
      fun resolved s₁ intact₁ _ ran => ?_
    -- The node is still bound when its new children have been resolved.
    have before : s.view.isBound id := by
      obtain ⟨here, bound⟩ := Option.filter_eq_some_iff.mp here
      rw [isBound_view, Store.isBound, here]
      exact bound
    have steps := (Repository.leads_resolveChildren (p := .none) location _ _ _
      fun none => none.elim).steps ran
    have after := Repository.Steps.isBound steps before
    have whole : ∀ slot, s₁.get? id = some slot →
        (extendSlot role (resolved.entries.map (·.child)) slot).Whole := by
      intro slot there
      rw [isBound_view, Store.isBound, there] at after
      exact whole_extendSlot (intact₁.whole id slot there) after role _
    obtain ⟨intact₂, view₂⟩ := intact₁.relink
      (g := (·.map (Repository.extendBinding role (resolved.entries.map (·.child)))))
      (fun slot => by cases role <;> rfl) whole (fun slot _ => node_extendSlot role _ slot)
      resolved.nodeIds
    exact ⟨intact₂, rfl, view₂⟩

/-- Fields of the record of a slot are those of the record shown. -/
theorem node_setOptions (options : List (String × Value)) (slot : Slot) :
    Slot.node { slot with record := slot.record.map (OrderedMap.insertAll · options) } =
      { slot.node with
        binding := slot.binding.map fun b =>
          { b with record := OrderedMap.insertAll b.record options } } := by
  rw [Slot.node, Slot.binding, Slot.node, Slot.binding, Option.map_map, Option.map_map]
  rfl

theorem implements_setOptions (id : NodeId) (options : List (String × Value))
    (location : Location) (intact : s.Intact) :
    Implements (setOptions id options location) (Repository.setOptions id options location) s := by
  refine .get ?_
  dsimp only
  rw [nameInMessage_view, isBound_view]
  refine .ite (.fail intact _) ?_
  have whole : ∀ slot, s.get? id = some slot → Slot.Whole
      { slot with record := slot.record.map (OrderedMap.insertAll · options) } := by
    intro slot here
    have before := intact.whole id slot here
    refine ⟨?_, ?_, fun none => before.unbound (Option.map_eq_none_iff.mp none)⟩
    · rw [Option.isSome_map]
      exact before.className
    · rw [Option.isSome_map]
      exact before.boundAt
  exact ⟨intact.update (fun _ => rfl) whole, rfl,
    view_update fun slot _ => node_setOptions options slot⟩

end Store

/-! ## 7. Every operation -/

/-- The operation on a store; what it gives is left out. -/
def Operation.perform : Operation → Procedure Unit
  | openScope parent name quals => do
      let _ ← modifyGet fun s => s.addScope parent name quals
  | node scope name location => do
      let _ ← modifyGet fun s => s.nodeInScope scope name location
  | qualify basename scope quals location => do
      let _ ← modifyGet fun s => s.qualify basename scope quals location
  | uniqueName scope name => do
      let _ ← modifyGet fun s => s.uniqueName scope name
  | bind id argument location => Store.bind id argument location
  | bindAnonymous scope argument location => do
      let _ ← Store.bindAnonymous scope argument location
  | makeConstant value location => do
      let _ ← Store.makeConstant value location
  | extend role id children location => Store.extendChildren role id children location
  | setOptions id options location => Store.setOptions id options location
  | addError d trail => Store.addError d trail
  | report d => Store.report d
  | pin id => modify (·.pin id)
  | unpin id => modify (·.unpin id)
  | hold id => modify (·.hold id)
  | release id => modify (·.release id)
  | pushFrame location => modify (·.pushFrame location)
  | popFrame => modify Store.popFrame

/-- An operation does to an intact store what it does to the repository that the store shows. -/
theorem Operation.implements (op : Operation) {s : Store} (intact : s.Intact) :
    Implements op.perform op.run s := by
  have drop {α : Type} {p : Procedure α} {a : Action α} (h : Implements p a s) :
      Implements (do let _ ← p) (do let _ ← a) s := h.bind fun _ _ intact₁ => .pure intact₁ _
  cases op with
  | openScope => exact drop (.give (intact.addScope ..))
  | node => exact drop (.give (intact.nodeInScope ..))
  | qualify => exact drop (.give (intact.qualify ..))
  | uniqueName => exact drop (.give (intact.uniqueName ..))
  | bind => exact Store.implements_bind _ _ _ intact
  | bindAnonymous => exact drop (Store.implements_bindAnonymous _ _ _ intact)
  | makeConstant => exact drop (Store.implements_makeConstant _ _ intact)
  | extend => exact Store.implements_extendChildren _ _ _ _ intact
  | setOptions => exact Store.implements_setOptions _ _ _ intact
  | addError => exact Store.implements_addError _ _ intact
  | report => exact Store.implements_report _ intact
  | pin id => exact .change (intact.pin id).1 (intact.pin id).2
  | unpin | hold | release | pushFrame | popFrame => exact .change (intact.same rfl rfl) rfl

end NodeForest

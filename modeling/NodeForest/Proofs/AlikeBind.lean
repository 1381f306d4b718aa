import NodeForest.Proofs.Alike
import NodeForest.Proofs.Decomposition

/-!
# Binding alike

On repositories that differ in call sites only, operations that differ in call sites only come to
the same: both fail or both succeed, with outcomes that differ in locations only, and leave
repositories that differ in call sites only. Each operation is compared with the one that has no
locations.

Results:
1. `RunAlike`: the comparison; `runAlike_addError`, `RunAlike.recording`: diagnostics.
2. `runAlike_resolveChild` and the others beside it: what a definition is made of.
3. `runAlike_operation`: all public operations.
-/

namespace NodeForest

namespace Repository

variable {α β : Type} {r r' : Repository}

/-! ## 1. The comparison -/

/-- On repositories that are alike the actions come to outcomes that are alike, and leave
repositories that are alike. -/
def RunAlike (V : α → β → Prop) (a : Action α) (b : Action β) : Prop :=
  ∀ r r' : Repository, r.Alike r' →
    Together Alike SameFailure V a b r r'

theorem runAlike_addError {d d' : Diagnostic} (same : SameDiagnostic d d')
    (trail trail' : List Location) : RunAlike Eq (addError d trail) (addError d' trail') := by
  intro r r' alike
  have run := exec_addError d trail r
  have run' := exec_addError d' trail' r'
  rw [← alike.options] at run'
  -- Trails of other lengths would count towards a limit; without one nothing is cut short.
  have never (r : Repository) (unlimited : r.options.errorLimit = none) (ds : List Diagnostic) :
      (r.noting ds).limitReached = false := by
    simp [limitReached, noting, unlimited]
  have never' := alike.options ▸ alike.unlimited
  split at run
  · rename_i testing
    rw [if_pos testing] at run'
    exact .of_runs run run' (.error (.diagnostic same)) alike
  · rename_i collecting
    rw [if_neg collecting] at run'
    dsimp only at run run'
    rw [never _ alike.unlimited, if_neg Bool.false_ne_true] at run
    rw [never _ never', if_neg Bool.false_ne_true] at run'
    refine .of_runs run run' (.ok rfl) ?_
    obtain ⟨nodes, errors, unlimited⟩ := alike
    exact .sites nodes (errors.append (sameErrors_recorded _ same trail trail')) unlimited

theorem runAlike_report {d d' : Diagnostic} (same : SameDiagnostic d d') :
    RunAlike Eq (report d) (report d') :=
  fun _ _ alike => .get (runAlike_addError same _ _ _ _ alike)

theorem RunAlike.recording {a b : Action Unit} (h : RunAlike Eq a b) :
    RunAlike Eq (recording a) (recording b) :=
  fun r r' alike => .recording (fun same alike => runAlike_report same _ _ alike) (h r r' alike)

/-- Actions that are alike to the same, are alike. -/
theorem RunAlike.through {a b c : Action α} (h : RunAlike Eq a c) (h' : RunAlike Eq b c) :
    RunAlike Eq a b := by
  intro r r' alike
  obtain ⟨outcomes, states⟩ := h r r' alike
  obtain ⟨outcomes', states'⟩ := h' r' r' alike.self
  exact ⟨outcomes.through outcomes', states.trans states'.symm⟩

/-! ## 2. Definitions -/

/-- Whether a definition is that of a node does not depend on locations. -/
theorem sameBinding_congr {b b' : Binding} (same : b.unsited = b'.unsited)
    {children children' steps steps' : ChildList}
    (sameChildren : children.unsited = children'.unsited)
    (sameSteps : steps.unsited = steps'.unsited) (record : Record) :
    sameBinding b children steps record = sameBinding b' children' steps' record := by
  simp only [Binding.unsited, Binding.mk.injEq] at same
  obtain ⟨_, lists, stepLists, records, _⟩ := same
  rw [sameBinding, sameBinding, records, ← b.children.equal_unsited, ← b.steps.equal_unsited,
    ← b'.children.equal_unsited, ← b'.steps.equal_unsited, lists, stepLists, sameChildren,
    sameSteps]

theorem runAlike_attach (id : NodeId) (nodeClass : NodeClass)
    {children children' steps steps' : ChildList} (record : Record)
    (sameChildren : children.unsited = children'.unsited)
    (sameSteps : steps.unsited = steps'.unsited) (location location' : Location) :
    RunAlike Eq (attach id ⟨nodeClass, children, steps, record⟩ location)
      (attach id ⟨nodeClass, children', steps', record⟩ location') := by
  intro r r' alike
  obtain ⟨gone, gone'⟩ | ⟨n, n', here, here', same⟩ := alike.node_cases id
  · exact .of_runs (exec_attach_gone _ _ gone) (exec_attach_gone _ _ gone') (.ok rfl) alike
  have name : n.name = n'.name := (congrArg Node.name same :)
  obtain ⟨unbound, unbound'⟩ | ⟨b, b', bound, bound', same⟩ := Node.binding_cases same
  · -- The location goes into the new binding, and nowhere else.
    refine .of_runs (exec_attach_unbound _ _ here unbound) (exec_attach_unbound _ _ here' unbound')
      (.ok rfl) ?_
    have childIds : children.nodeIds ++ steps.nodeIds = children'.nodeIds ++ steps'.nodeIds := by
      rw [← children.nodeIds_unsited, ← steps.nodeIds_unsited, ← children'.nodeIds_unsited,
        ← steps'.nodeIds_unsited, sameChildren, sameSteps]
    simp only [Binding.childIds, newBinding, childIds]
    refine (alike.relink id _ fun _ _ _ => ?_).noteClass id _
    rw [Option.map_some, Option.map_some, Binding.unsited, Binding.unsited]
    simp only [sameChildren, sameSteps]
  · -- Children and fields are compared; the locations only tell of the redefinition.
    have run := exec_attach_bound ⟨nodeClass, children, steps, record⟩ location here bound
    have run' := exec_attach_bound ⟨nodeClass, children', steps', record⟩ location' here' bound'
    dsimp only at run run'
    rw [← sameBinding_congr same sameChildren sameSteps] at run'
    split at run
    · rename_i equal
      rw [if_pos equal] at run'
      exact .of_runs run run' (.ok rfl) alike
    · rename_i different
      rw [if_neg different] at run'
      refine .of_runs run run' (.error (.diagnostic ?_)) alike
      rw [SameDiagnostic, Diagnostic.unsited, Diagnostic.unsited, name]

theorem runAlike_makeConstant (value : Constant) (location location' : Location) :
    RunAlike Eq (makeConstant value location) (makeConstant value location') := by
  intro r r' alike
  have live : r.isLive = r'.isLive := funext alike.isLive
  refine .get ?_
  dsimp only
  rw [← alike.constants, ← live, ← alike.freeConstantName]
  cases (OrderedMap.get? r.constants value.key).filter r.isLive with
  | some id => exact .pure rfl alike
  | none =>
    obtain ⟨found, created⟩ := alike.getOrCreate _ _ .root .empty location location'
    refine .bind (V := Eq) (.modifyGet found created) ?_
    rintro id _ r₁ r₁' rfl alike₁
    refine .bind (V := Eq)
      (RunAlike.recording (runAlike_attach id _ _ rfl rfl location location') _ _ alike₁)
      fun _ _ r₂ r₂' _ alike₂ => ?_
    refine .bind (V := Eq) (.modifyGet rfl ?_) fun _ _ _ _ _ alike₃ => .pure rfl alike₃
    obtain ⟨nodes, errors, unlimited⟩ := alike₂
    exact .sites nodes errors unlimited

theorem runAlike_illegalChild {α β : Type} {V : α → β → Prop} (label : Label) (kind : String)
    (location location' : Location) :
    RunAlike V (illegalChild label kind location) (illegalChild label kind location') :=
  fun _ _ alike => .throw (.diagnostic rfl) alike

theorem Alike.findForeign? (alike : r.Alike r') (es : List Entry) :
    r'.findForeign? (Entry.allUnsited es) = (r.findForeign? es).map Entry.unsited := by
  simp only [Repository.findForeign?, Entry.allUnsited_eq, List.find?_map, alike.id]
  congr 2
  funext e
  simp

section

variable (location location' : Location)

mutual

theorem runAlike_resolveChild (scope : ScopeId) (label : Label) : ∀ c : Child,
    RunAlike (fun y z => y.unsited = z.unsited) (resolveChild location scope label c)
      (resolveChild location' scope label c.unsited)
  | .empty => fun _ _ alike => by
    rw [Child.unsited, resolveChild, resolveChild]
    exact .pure rfl alike
  | .node ref => fun r r' alike => by
    have run := exec_resolveChild_node location scope label ref r
    have run' := exec_resolveChild_node location' scope label ref r'
    rw [← alike.id, ← alike.isLive] at run'
    rw [Child.unsited]
    refine .of_runs run run' ?_ alike
    split
    · split
      · exact .ok rfl
      · exact .error (.diagnostic rfl)
    · exact .error (.diagnostic rfl)
  | .name name => fun r r' alike => by
    rw [Child.unsited, resolveChild, resolveChild]
    refine .get ?_
    rw [← alike.lookupBound?]
    cases r.lookupBound? name with
    | some id => exact .pure (by rw [child, child, alike.id]) alike
    | none => exact .throw (.diagnostic rfl) alike
  | .constant value => fun _ _ alike => by
    rw [Child.unsited, resolveChild, resolveChild]
    refine .bind (runAlike_makeConstant value location location' _ _ alike) ?_
    rintro id _ r₁ r₁' rfl alike₁
    exact .get (.pure (by rw [child, child, alike₁.id]) alike₁)
  | .pending d => fun _ _ alike => by
    rw [Child.unsited, resolveChild, resolveChild]
    refine .bind (runAlike_defineAnonymous scope d _ _ alike) ?_
    rintro id _ r₁ r₁' rfl alike₁
    exact .get (.pure (by rw [child, child, alike₁.id]) alike₁)
  | .factory id body => fun _ _ alike => by
    rw [Child.unsited, resolveChild, resolveChild]
    exact runAlike_illegalChild _ _ _ _ _ _ alike
termination_by structural c => c

theorem runAlike_resolveEntry (scope : ScopeId) : ∀ e : Entry,
    RunAlike (fun y z => y.unsited = z.unsited) (resolveEntry location scope e)
      (resolveEntry location' scope e.unsited)
  | ⟨label, child⟩ => fun _ _ alike => by
    rw [Entry.unsited, resolveEntry, resolveEntry]
    refine .bind (runAlike_resolveChild scope label child _ _ alike)
      fun y z r₁ r₁' same alike₁ => ?_
    exact .pure (by rw [Entry.unsited, Entry.unsited, same]) alike₁
termination_by structural e => e

theorem runAlike_resolveEntries (scope : ScopeId) : ∀ es : List Entry,
    RunAlike (fun y z => Entry.allUnsited y = Entry.allUnsited z)
      (resolveEntries location scope es) (resolveEntries location' scope (Entry.allUnsited es))
  | [] => fun _ _ alike => by
    rw [Entry.allUnsited, resolveEntries, resolveEntries]
    exact .pure rfl alike
  | e :: es => fun _ _ alike => by
    rw [Entry.allUnsited, resolveEntries, resolveEntries]
    refine .bind (runAlike_resolveEntry scope e _ _ alike) fun y z r₁ r₁' first alike₁ => ?_
    refine .bind (runAlike_resolveEntries scope es _ _ alike₁) fun ys zs r₂ r₂' rest alike₂ => ?_
    exact .pure (by rw [Entry.allUnsited, Entry.allUnsited, first, rest]) alike₂
termination_by structural es => es

theorem runAlike_resolveChildren (scope : ScopeId) : ∀ l : ChildList,
    RunAlike (fun y z => y.unsited = z.unsited) (resolveChildren location scope l)
      (resolveChildren location' scope l.unsited)
  | ⟨entries, keyed, resolved⟩ => fun r r' alike => by
    rw [ChildList.unsited, resolveChildren, resolveChildren]
    cases resolved with
    | true =>
      refine .get ?_
      rw [alike.findForeign?]
      cases r.findForeign? entries with
      | none => exact .pure (ChildList.unsited_unsited ⟨entries, keyed, true⟩).symm alike
      | some e =>
        simp only [Option.map_some, Entry.label_unsited]
        exact runAlike_illegalChild _ _ _ _ _ _ alike
    | false =>
      refine .bind (runAlike_resolveEntries scope entries _ _ alike)
        fun ys zs r₁ r₁' same alike₁ => ?_
      exact .pure (by rw [ChildList.unsited, ChildList.unsited, same]) alike₁
termination_by structural l => l

theorem runAlike_defineAnonymous (scope : ScopeId) : ∀ d : Definition,
    RunAlike Eq (defineAnonymous location scope d) (defineAnonymous location' scope d.unsited)
  | ⟨nodeClass, children, steps, record⟩ => fun _ _ alike => by
    rw [Definition.unsited, defineAnonymous, defineAnonymous]
    refine .bind (runAlike_resolveChildren scope children _ _ alike)
      fun y z r₁ r₁' same alike₁ => ?_
    obtain ⟨found, created⟩ := alike₁.anonymousNode scope nodeClass same location location'
    refine .bind (V := Eq) (.modifyGet found created) ?_
    rintro id _ r₂ r₂' rfl alike₂
    refine .bind (V := Eq) (RunAlike.recording (fun r r' alike => .get ?_) _ _ alike₂)
      fun _ _ _ _ _ alike₃ => .pure rfl alike₃
    rw [← alike.scopeOf]
    refine .bind (runAlike_resolveChildren _ steps _ _ alike) fun s t r₃ r₃' sameSteps alike₃ => ?_
    exact runAlike_attach id nodeClass _ same sameSteps location location' _ _ alike₃
termination_by structural d => d

end

/-! ## 3. Operations -/

theorem runAlike_tryBind (id : NodeId) (argument : Except BuildError Child) :
    RunAlike Eq (tryBind id argument location)
      (tryBind id (unsitedArgument argument) location') := by
  intro r r' alike
  rw [tryBind, tryBind]
  refine .get ?_
  dsimp only
  rw [← alike.nameInMessage]
  cases argument with
  | error e => exact .throw (.diagnostic (by simp [SameDiagnostic, Diagnostic.unsited])) alike
  | ok c =>
    dsimp only [unsitedArgument]
    rw [Child.definition?_unsited, Child.kind_unsited]
    cases c.definition? with
    | none => exact .throw (.diagnostic rfl) alike
    | some d =>
      dsimp only [Option.map_some]
      obtain ⟨gone, gone'⟩ | ⟨n, n', here, here', same⟩ := alike.node_cases id
      · rw [gone, gone']
        exact .throw (.diagnostic rfl) alike
      · have scope : n.scope = n'.scope := (congrArg Node.scope same :)
        rw [here, here', Definition.children_unsited, Definition.steps_unsited]
        dsimp only
        rw [← scope]
        refine .bind (runAlike_resolveChildren location location' _ _ _ _ alike)
          fun y z r₁ r₁' sameChildren alike₁ => ?_
        refine .bind (runAlike_resolveChildren location location' _ _ _ _ alike₁)
          fun s t r₂ r₂' sameSteps alike₂ => ?_
        rw [Definition.nodeClass_unsited, Definition.record_unsited]
        exact runAlike_attach id _ _ sameChildren sameSteps location location' _ _ alike₂

theorem runAlike_bind (id : NodeId) (argument : Except BuildError Child) :
    RunAlike Eq (bind id argument location) (bind id (unsitedArgument argument) location') :=
  RunAlike.recording (runAlike_tryBind location location' id argument)

theorem runAlike_bindAnonymous (scope : ScopeId) (c : Child) :
    RunAlike Eq (bindAnonymous scope c location) (bindAnonymous scope c.unsited location') := by
  intro r r' alike
  rw [bindAnonymous, bindAnonymous, Child.definition?_unsited, Child.kind_unsited]
  cases c.definition? with
  | none => exact .throw (.diagnostic rfl) alike
  | some d => exact runAlike_defineAnonymous location location' scope d r r' alike

theorem runAlike_adoptNode (ref : NodeRef) :
    RunAlike Eq (adoptNode ref location) (adoptNode ref location') := by
  intro r r' alike
  rw [adoptNode, adoptNode]
  refine .get ?_
  rw [← alike.id]
  split
  · exact .throw (.diagnostic rfl) alike
  · exact .pure rfl alike

theorem unsited_extendBinding (role : ChildRole) (cs : List Child) (b : Binding) :
    (extendBinding role cs b).unsited = extendBinding role (cs.map (·.unsited)) b.unsited := by
  cases role <;> simp [extendBinding, Binding.unsited, ChildList.unsited_push]

theorem runAlike_extendChildren (role : ChildRole) (id : NodeId) (cs : List Child) :
    RunAlike Eq (extendChildren role id cs location)
      (extendChildren role id (cs.map (·.unsited)) location') := by
  intro r r' alike
  rw [extendChildren, extendChildren]
  refine .get ?_
  rw [← alike.nameInMessage]
  have refused : Together Alike SameFailure Eq
      (throw (.diagnostic (.uninitializedNode (r.nameInMessage id) location)) : Action Unit)
      (throw (.diagnostic (.uninitializedNode (r.nameInMessage id) location')) : Action Unit)
      r r' := .throw (.diagnostic rfl) alike
  obtain ⟨gone, gone'⟩ | ⟨n, n', here, here', same⟩ := alike.node_cases id
  · rw [gone, gone']
    exact refused
  have bound : n.isBound = n'.isBound := by
    rw [← n.isBound_unsited, same, Node.isBound_unsited]
  have scope : n.scope = n'.scope := (congrArg Node.scope same :)
  rw [here, here', Option.filter_some, Option.filter_some, ← bound]
  by_cases isBound : n.isBound
  · rw [if_pos isBound, if_pos isBound]
    dsimp only
    rw [← scope, ← ChildList.unsited_positional]
    refine .bind (runAlike_resolveChildren location location' _ _ _ _ alike)
      fun y z r₁ r₁' same alike₁ => .modifyGet rfl ?_
    have nodeIds : y.nodeIds = z.nodeIds := by
      rw [← y.nodeIds_unsited, same, ChildList.nodeIds_unsited]
    have children : (y.entries.map (·.child)).map (·.unsited) =
        (z.entries.map (·.child)).map (·.unsited) := by
      have entries := congrArg ChildList.entries same
      rw [ChildList.entries_unsited, ChildList.entries_unsited] at entries
      have := congrArg (List.map (·.child)) entries
      simpa [List.map_map, Function.comp_def] using this
    rw [← nodeIds]
    refine alike₁.relink id _ fun _ _ => map_map_congr fun b b' same => ?_
    rw [unsited_extendBinding, unsited_extendBinding, same, children]
  · rw [if_neg isBound, if_neg isBound]
    exact refused

theorem runAlike_setOptions (id : NodeId) (options : List (String × Value)) :
    RunAlike Eq (setOptions id options location) (setOptions id options location') := by
  intro r r' alike
  rw [setOptions, setOptions]
  refine .get ?_
  rw [← alike.nameInMessage, ← alike.isBound]
  split
  · exact .throw (.diagnostic rfl) alike
  · refine .set rfl (alike.updateBinding id fun _ _ => map_map_congr fun b b' same => ?_)
    simp only [Binding.unsited, Binding.mk.injEq] at same ⊢
    simp_all

end

end Repository

/-- The operation without locations, and with no frames for a trail. -/
def Operation.unsited : Operation → Operation
  | .openScope parent name quals => .openScope parent name quals
  | .node scope name _ => .node scope name default
  | .qualify basename scope quals _ => .qualify basename scope quals default
  | .uniqueName scope name => .uniqueName scope name
  | .bind id argument _ => .bind id (unsitedArgument argument) default
  | .bindAnonymous scope argument _ => .bindAnonymous scope argument.unsited default
  | .makeConstant value _ => .makeConstant value default
  | .extend role id children _ => .extend role id (children.map (·.unsited)) default
  | .setOptions id options _ => .setOptions id options default
  | .addError d _ => .addError d.unsited []
  | .report d => .report d.unsited
  | .pin id => .pin id
  | .unpin id => .unpin id
  | .hold id => .hold id
  | .release id => .release id
  | .pushFrame _ => .pushFrame default
  | .popFrame => .popFrame

namespace Repository

/-- An operation comes to what the one without locations comes to. -/
theorem runAlike_operation (op : Operation) : RunAlike Eq op.run op.unsited.run := by
  intro r r' alike
  cases op with
  | openScope parent name quals =>
    exact .bind (V := fun _ _ => True) (.modifyGet trivial (alike.addScope parent name quals))
      fun _ _ _ _ _ alike => .pure rfl alike
  | node scope name location =>
    obtain ⟨found, created⟩ := alike.nodeInScope scope name location default
    exact .bind (V := Eq) (.modifyGet found created) fun _ _ _ _ _ alike => .pure rfl alike
  | qualify basename scope quals location =>
    obtain ⟨found, created⟩ := alike.qualify basename scope quals location default
    exact .bind (V := Eq) (.modifyGet found created) fun _ _ _ _ _ alike => .pure rfl alike
  | uniqueName scope name =>
    obtain ⟨named, counted⟩ := alike.uniqueName scope name
    exact .bind (V := Eq) (.modifyGet named counted) fun _ _ _ _ _ alike => .pure rfl alike
  | bind id argument location => exact runAlike_bind location default id argument _ _ alike
  | bindAnonymous scope argument location =>
    exact .bind (runAlike_bindAnonymous location default scope argument _ _ alike)
      fun _ _ _ _ _ alike => .pure rfl alike
  | makeConstant value location =>
    exact .bind (runAlike_makeConstant value location default _ _ alike)
      fun _ _ _ _ _ alike => .pure rfl alike
  | extend role id children location =>
    exact runAlike_extendChildren location default role id children _ _ alike
  | setOptions id options location =>
    exact runAlike_setOptions location default id options _ _ alike
  | addError d trail => exact runAlike_addError (sameDiagnostic_unsited d) trail [] _ _ alike
  | report d => exact runAlike_report (sameDiagnostic_unsited d) _ _ alike
  | pin id => exact .modifyGet rfl (alike.pin id)
  | unpin id => exact .modifyGet rfl (alike.unpin id)
  | hold id => exact .modifyGet rfl (alike.hold id)
  | release id => exact .modifyGet rfl (alike.release id)
  | pushFrame location => exact .modifyGet rfl (alike.frames _ _)
  | popFrame => exact .modifyGet rfl (alike.frames _ _)

end Repository

end NodeForest

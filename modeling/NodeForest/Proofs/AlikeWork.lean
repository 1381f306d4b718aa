import NodeForest.Proofs.AlikeBind
import NodeForest.Workspace.Handle

/-!
# Working alike

A workspace is worked in through handles and scopes, and factories are called on the way, which ask
about nodes and bind others. On workspaces whose repositories differ in call sites only, this comes
to the same, whatever the call sites.

Results:
1. `Workspace.Alike`: the relation; `WorkAlike`, `WorksAlike`: the comparison of what is done.
2. `Child.homes`, `workAlike_expandHere`: calling factories.
3. `worksAlike_bind` and the others beside it: work through handles and scopes.
-/

namespace NodeForest

open NodeForest.Action

/-! ## 1. Workspaces -/

namespace Workspace

variable {w w' : Workspace} {n : Nat}

theorem id_of_tree? {id : RepositoryId} {t : Tree} (found : w.tree? id = some t) :
    t.repository.id = id := by
  simpa using List.find?_some found

theorem id_repository (w : Workspace) (id : RepositoryId) : (w.repository id).id = id := by
  rw [repository]
  cases found : w.tree? id with
  | none => rfl
  | some t => exact id_of_tree? found

/-- A repository that keeps its number takes its own place. -/
theorem tree?_updateRepository (w : Workspace) {id : RepositoryId} {r : Repository}
    (same : r.id = id) (other : RepositoryId) :
    (w.updateRepository id fun _ => r).tree? other =
      (w.tree? other).map fun t => if other = id then { t with repository := r } else t := by
  have number : ((fun t : Tree => t.repository.id == other) ∘ fun t =>
      if t.repository.id == id then { t with repository := r } else t) =
        fun t => t.repository.id == other := by
    funext t
    rw [Function.comp_apply]
    split
    · rename_i here
      rw [same, ← eq_of_beq here]
    · rfl
  simp only [tree?, updateRepository, updateTree, List.find?_map, number]
  refine Option.map_congr fun t found => ?_
  rw [id_of_tree? found]
  simp only [beq_iff_eq]

theorem isSome_tree?_updateRepository (w : Workspace) {id : RepositoryId} {r : Repository}
    (same : r.id = id) (other : RepositoryId) :
    ((w.updateRepository id fun _ => r).tree? other).isSome = (w.tree? other).isSome := by
  rw [tree?_updateRepository w same, Option.isSome_map]

theorem repository_updateRepository (w : Workspace) {id : RepositoryId} {r : Repository}
    (same : r.id = id) (planted : (w.tree? id).isSome) (other : RepositoryId) :
    (w.updateRepository id fun _ => r).repository other =
      if other = id then r else w.repository other := by
  rw [repository, tree?_updateRepository w same, repository]
  split
  · rename_i here
    obtain ⟨t, found⟩ := Option.isSome_iff_exists.mp planted
    rw [here, found]
    rfl
  · rw [Option.map_id']

/-- The trees are the first `n`. -/
def Plants (n : Nat) (w : Workspace) : Prop :=
  ∀ id : RepositoryId, (w.tree? id).isSome ↔ id.index < n

theorem Plants.updateRepository (plants : Plants n w) {id : RepositoryId} {r : Repository}
    (same : r.id = id) : Plants n (w.updateRepository id fun _ => r) := fun other => by
  rw [isSome_tree?_updateRepository w same, plants]

/-- The trees of both are the first `n`, and their repositories differ in call sites only. -/
structure Alike (n : Nat) (w w' : Workspace) : Prop where
  left : Plants n w
  right : Plants n w'
  repository : ∀ {id : RepositoryId}, id.index < n → (w.repository id).Alike (w'.repository id)

namespace Alike

theorem symm (alike : Alike n w w') : Alike n w' w :=
  ⟨alike.right, alike.left, fun inside => (alike.repository inside).symm⟩

theorem trans {w₁ w₂ w₃ : Workspace} (alike : Alike n w₁ w₂) (alike' : Alike n w₂ w₃) :
    Alike n w₁ w₃ :=
  ⟨alike.left, alike'.right, fun inside =>
    (alike.repository inside).trans (alike'.repository inside)⟩

theorem self (alike : Alike n w w') : Alike n w' w' :=
  alike.symm.trans alike

theorem isBound (alike : Alike n w w') (node : NodeRef) :
    (w.repository node.repository).isBound node.id =
      (w'.repository node.repository).isBound node.id := by
  by_cases inside : node.repository.index < n
  · exact (alike.repository inside).isBound node.id
  · have gone : w.tree? node.repository = none := by
      simpa using mt (alike.left node.repository).mp inside
    have gone' : w'.tree? node.repository = none := by
      simpa using mt (alike.right node.repository).mp inside
    rw [Workspace.repository, gone, Workspace.repository, gone']

section

variable {id : RepositoryId} {r r' : Repository}

/-- One of the repositories is worked on in both. -/
theorem update (alike : Alike n w w') (inside : id.index < n) (same : r.id = id)
    (changed : r.Alike r') :
    Alike n (w.updateRepository id fun _ => r) (w'.updateRepository id fun _ => r') := by
  have same' : r'.id = id := changed.id.symm.trans same
  refine ⟨alike.left.updateRepository same, alike.right.updateRepository same',
    fun {other} inside' => ?_⟩
  rw [repository_updateRepository w same ((alike.left id).mpr inside),
    repository_updateRepository w' same' ((alike.right id).mpr inside)]
  split
  · exact changed
  · exact alike.repository inside'

/-- In one of them, a change of call sites is made. -/
theorem updateLeft (alike : Alike n w w') (inside : id.index < n) (same : r.id = id)
    (changed : r.Alike (w'.repository id)) :
    Alike n (w.updateRepository id fun _ => r) w' := by
  refine ⟨alike.left.updateRepository same, alike.right, fun {other} inside' => ?_⟩
  rw [repository_updateRepository w same ((alike.left id).mpr inside)]
  split
  · rename_i here
    rwa [here]
  · exact alike.repository inside'

end

end Alike

end Workspace

section

variable {α β γ δ : Type} {n : Nat} {V : α → β → Prop} {W : γ → δ → Prop}

/-- On workspaces that are alike, both give values related by `V`, and leave workspaces that are
alike. -/
def WorkAlike (n : Nat) (V : α → β → Prop) (a : StateM Workspace α) (b : StateM Workspace β) :
    Prop :=
  ∀ w w' : Workspace, w.Alike n w' →
    V (a.run w).1 (b.run w').1 ∧ Workspace.Alike n (a.run w).2 (b.run w').2

/-- The same for work that may fail. -/
abbrev WorksAlike (n : Nat) (V : α → β → Prop) (a : Work α) (b : Work β) : Prop :=
  WorkAlike n (Outcomes SameFailure V) a.run b.run

theorem WorkAlike.pure {y : α} {z : β} (values : V y z) :
    WorkAlike n V (Pure.pure y) (Pure.pure z) :=
  fun _ _ alike => ⟨values, alike⟩

theorem WorkAlike.bind {a : StateM Workspace α} {b : StateM Workspace β}
    {f : α → StateM Workspace γ} {g : β → StateM Workspace δ} (h : WorkAlike n V a b)
    (next : ∀ y z, V y z → WorkAlike n W (f y) (g z)) : WorkAlike n W (a >>= f) (b >>= g) := by
  intro w w' alike
  obtain ⟨values, states⟩ := h w w' alike
  exact next _ _ values _ _ states

/-- An action that leaves the number of the repository, and only adds to it. -/
def Repository.Extending (a : Action α) : Prop :=
  ∀ r : Repository, r.Extends (a.exec r).2

theorem WorkAlike.attemptIn {id : RepositoryId} {a : Action α} {b : Action β}
    (inside : id.index < n) (extending : Repository.Extending a)
    (h : Repository.RunAlike V a b) :
    WorkAlike n (Outcomes SameFailure V) (attemptIn id a) (attemptIn id b) := by
  intro w w' alike
  obtain ⟨outcomes, states⟩ := h _ _ (alike.repository inside)
  have same : (a.exec (w.repository id)).2.id = id :=
    (extending (w.repository id)).id.trans (w.id_repository id)
  exact ⟨outcomes, alike.update inside same states⟩

namespace WorksAlike

theorem pure {y : α} {z : β} (values : V y z) :
    WorksAlike n V (Pure.pure y : Work α) (Pure.pure z : Work β) :=
  WorkAlike.pure (.ok values)

theorem throw {e e' : Failure} (failures : SameFailure e e') :
    WorksAlike n V (MonadExcept.throw e : Work α) (MonadExcept.throw e' : Work β) :=
  WorkAlike.pure (.error failures)

theorem bind {a : Work α} {b : Work β} {f : α → Work γ} {g : β → Work δ}
    (h : WorksAlike n V a b) (next : ∀ y z, V y z → WorksAlike n W (f y) (g z)) :
    WorksAlike n W (a >>= f) (b >>= g) := by
  rw [WorksAlike, ExceptT.run_bind, ExceptT.run_bind]
  refine WorkAlike.bind h fun x x' outcomes => ?_
  cases outcomes with
  | ok values => exact next _ _ values
  | error failures => exact WorkAlike.pure (.error failures)

theorem lift {a : StateM Workspace α} {b : StateM Workspace β} (h : WorkAlike n V a b) :
    WorksAlike n V (ExceptT.lift a) (ExceptT.lift b) :=
  WorkAlike.bind h fun _ _ values => WorkAlike.pure (.ok values)

theorem act {id : RepositoryId} {a : Action α} {b : Action β} (inside : id.index < n)
    (extending : Repository.Extending a) (h : Repository.RunAlike V a b) :
    WorksAlike n V (actIn id a) (actIn id b) :=
  WorkAlike.attemptIn inside extending h

theorem read {id : RepositoryId} {f : Repository → α} {g : Repository → β} (inside : id.index < n)
    (h : ∀ r r' : Repository, r.Alike r' → V (f r) (g r')) :
    WorksAlike n V (readIn id f) (readIn id g) :=
  fun _ _ alike => ⟨.ok (h _ _ (alike.repository inside)), alike⟩

end WorksAlike

end

/-! ## 2. Factories -/

mutual

/-- The repositories that the factories inside bind in. -/
def Child.homes : Child → List RepositoryId
  | .factory _ body => body.homes
  | .pending d => d.homes
  | _ => []
termination_by structural c => c

def Factory.homes : Factory → List RepositoryId
  | .give c => c.homes
  | .ifBound _ yes no => yes.homes ++ no.homes
  | .bind scope argument _ => scope.repository :: argument.homes
termination_by structural f => f

def Entry.homes : Entry → List RepositoryId
  | ⟨_, child⟩ => child.homes
termination_by structural e => e

def Entry.allHomes : List Entry → List RepositoryId
  | [] => []
  | e :: rest => e.homes ++ Entry.allHomes rest
termination_by structural es => es

def ChildList.homes : ChildList → List RepositoryId
  | ⟨entries, _, _⟩ => Entry.allHomes entries
termination_by structural l => l

def Definition.homes : Definition → List RepositoryId
  | ⟨_, children, steps, _⟩ => children.homes ++ steps.homes
termination_by structural d => d

end

section

variable {n : Nat}

open Repository

theorem extending_bindAnonymous (scope : ScopeId) (c : Child) (location : Location) :
    Extending (bindAnonymous scope c location) := fun r =>
  Steps.extends (leads_bindAnonymous (p := .none) location scope c r nofun).1

theorem extending_adoptNode (node : NodeRef) (location : Location) :
    Extending (adoptNode node location) := by
  intro r
  rw [adoptNode, exec_bind_of_ok (exec_get r)]
  split
  · exact .refl r
  · exact .refl r

theorem workAlike_nodeOrEmpty {id : RepositoryId} {a b : Action NodeId} (inside : id.index < n)
    (extending : Extending a) (h : RunAlike Eq a b) :
    WorkAlike n (fun y z => y.unsited = z.unsited) (nodeOrEmpty id a) (nodeOrEmpty id b) := by
  refine WorkAlike.bind (WorkAlike.attemptIn inside extending h) fun x x' outcomes => ?_
  rcases outcomes with ⟨rfl⟩ | ⟨failures⟩
  · exact .pure rfl
  · exact .pure rfl

theorem runAlike_bindAnonymous_congr (scope : ScopeId) {c c' : Child}
    (same : c.unsited = c'.unsited) (location location' : Location) :
    RunAlike Eq (bindAnonymous scope c location) (bindAnonymous scope c' location') :=
  .through (runAlike_bindAnonymous location default scope c)
    (same ▸ runAlike_bindAnonymous location' default scope c')

mutual

theorem workAlike_child (calls : Nat) : ∀ c : Child, (∀ id ∈ c.homes, id.index < n) →
    WorkAlike n (fun y z => y.unsited = z.unsited) (c.expandWithin factoryHost calls)
      (c.unsited.expandWithin factoryHost calls)
  | .factory number body, inside => by
    rw [Child.homes] at inside
    rw [Child.unsited]
    cases calls with
    | zero =>
      rw [Child.expandWithin, Child.expandWithin]
      exact .pure (by rw [Child.unsited, Child.unsited, Factory.unsited_unsited])
    | succ calls =>
      rw [Child.expandWithin, Child.expandWithin]
      exact workAlike_factory calls body inside
  | .pending d, inside => by
    rw [Child.homes] at inside
    rw [Child.unsited, Child.expandWithin, Child.expandWithin]
    exact .bind (workAlike_definition d inside) fun y z same =>
      .pure (by rw [Child.unsited, Child.unsited, same])
  | .empty, _ | .name _, _ | .constant _, _ | .node _, _ => by
    simp only [Child.unsited, Child.expandWithin]
    exact .pure rfl
termination_by structural c => c

theorem workAlike_factory (calls : Nat) : ∀ f : Factory, (∀ id ∈ f.homes, id.index < n) →
    WorkAlike n (fun y z => y.unsited = z.unsited) (f.expandWithin factoryHost calls)
      (f.unsited.expandWithin factoryHost calls)
  | .give c, inside => by
    rw [Factory.homes] at inside
    rw [Factory.unsited, Factory.expandWithin, Factory.expandWithin]
    exact workAlike_child calls c inside
  | .ifBound node yes no, inside => by
    rw [Factory.homes, List.forall_mem_append] at inside
    rw [Factory.unsited, Factory.expandWithin, Factory.expandWithin]
    have asked : WorkAlike n Eq (factoryHost.bound node) (factoryHost.bound node) :=
      fun w w' alike => ⟨alike.isBound node, alike⟩
    refine .bind asked ?_
    rintro bound _ rfl
    split
    · exact workAlike_factory calls yes inside.1
    · exact workAlike_factory calls no inside.2
  | .bind scope argument location, inside => by
    rw [Factory.homes, List.forall_mem_cons] at inside
    rw [Factory.unsited, Factory.expandWithin, Factory.expandWithin, Child.node?_unsited]
    cases argument.node? with
    | some node =>
      exact workAlike_nodeOrEmpty inside.1 (extending_adoptNode node location)
        (runAlike_adoptNode location default node)
    | none =>
      exact .bind (workAlike_child callLimit argument inside.2) fun y z same =>
        workAlike_nodeOrEmpty inside.1 (extending_bindAnonymous scope.scope y location)
          (runAlike_bindAnonymous_congr scope.scope same location default)
termination_by structural f => f

theorem workAlike_entry : ∀ e : Entry, (∀ id ∈ e.homes, id.index < n) →
    WorkAlike n (fun y z => y.unsited = z.unsited) (e.expand factoryHost)
      (e.unsited.expand factoryHost)
  | ⟨label, child⟩, inside => by
    rw [Entry.homes] at inside
    rw [Entry.unsited, Entry.expand, Entry.expand]
    exact .bind (workAlike_child callLimit child inside) fun y z same =>
      .pure (by rw [Entry.unsited, Entry.unsited, same])
termination_by structural e => e

theorem workAlike_entries : ∀ es : List Entry, (∀ id ∈ Entry.allHomes es, id.index < n) →
    WorkAlike n (fun y z => Entry.allUnsited y = Entry.allUnsited z)
      (Entry.expandAll factoryHost es) (Entry.expandAll factoryHost (Entry.allUnsited es))
  | [], _ => by
    rw [Entry.allUnsited, Entry.expandAll]
    exact .pure rfl
  | e :: es, inside => by
    rw [Entry.allHomes, List.forall_mem_append] at inside
    rw [Entry.allUnsited, Entry.expandAll, Entry.expandAll]
    refine .bind (workAlike_entry e inside.1) fun y z first => ?_
    exact .bind (workAlike_entries es inside.2) fun ys zs rest =>
      .pure (by rw [Entry.allUnsited, Entry.allUnsited, first, rest])
termination_by structural es => es

theorem workAlike_list : ∀ l : ChildList, (∀ id ∈ l.homes, id.index < n) →
    WorkAlike n (fun y z => y.unsited = z.unsited) (l.expand factoryHost)
      (l.unsited.expand factoryHost)
  | ⟨entries, keyed, resolved⟩, inside => by
    rw [ChildList.homes] at inside
    rw [ChildList.unsited, ChildList.expand, ChildList.expand]
    cases resolved with
    | true => exact .pure (ChildList.unsited_unsited ⟨entries, keyed, true⟩).symm
    | false =>
      exact .bind (workAlike_entries entries inside) fun ys zs same =>
        .pure (by rw [ChildList.unsited, ChildList.unsited, same])
termination_by structural l => l

theorem workAlike_definition : ∀ d : Definition, (∀ id ∈ d.homes, id.index < n) →
    WorkAlike n (fun y z => y.unsited = z.unsited) (d.expand factoryHost)
      (d.unsited.expand factoryHost)
  | ⟨nodeClass, children, steps, record⟩, inside => by
    rw [Definition.homes, List.forall_mem_append] at inside
    rw [Definition.unsited, Definition.expand, Definition.expand]
    refine .bind (workAlike_list children inside.1) fun y z first => ?_
    exact .bind (workAlike_list steps inside.2) fun s t second =>
      .pure (by rw [Definition.unsited, Definition.unsited, first, second])
termination_by structural d => d

end

/-- Factories are called alike. -/
theorem worksAlike_expandHere (c : Child) (inside : ∀ id ∈ c.homes, id.index < n) :
    WorksAlike n (fun y z => y.unsited = z.unsited) c.expandHere c.unsited.expandHere :=
  .lift (workAlike_child callLimit c inside)

/-! ## 3. Handles and scopes -/

/-- Arguments are expanded alike, and failed constructions are handed on. -/
theorem worksAlike_bind (h : Handle) (argument : Except BuildError Child) (location : Location)
    (inside : h.node.repository.index < n)
    (homes : ∀ c, argument = .ok c → ∀ id ∈ c.homes, id.index < n) :
    WorksAlike n Eq (h.bind argument location) (h.bind (unsitedArgument argument) default) := by
  -- Expanded arguments may hold locations on both sides, so both binds are compared with a third.
  let Same (y z : Except BuildError Child) : Prop := unsitedArgument y = unsitedArgument z
  have acts (y z : Except BuildError Child) (same : Same y z) :
      WorksAlike n Eq (h.act (Repository.bind h.id y location))
        (h.act (Repository.bind h.id z default)) := by
    refine .act inside ?_ (.through (runAlike_bind location default h.id y) ?_)
    · exact Operation.extends_after (.bind h.id y location)
    · rw [same]
      exact runAlike_bind default default h.id z
  cases argument with
  | error e =>
    have failed : Same (.error e) (.error e.unsited) := by
      simp only [Same, unsitedArgument, BuildError.unsited_unsited]
    exact .bind (.pure failed) acts
  | ok c =>
    refine .bind (worksAlike_expandHere c (homes c rfl)) fun y z same => ?_
    have given : Same (.ok y) (.ok z) := by simp only [Same, unsitedArgument, same]
    exact .bind (.pure given) acts

theorem worksAlike_expandAll (cs : List Child) (homes : ∀ c ∈ cs, ∀ id ∈ c.homes, id.index < n) :
    WorksAlike n (fun ys zs => ys.map (·.unsited) = zs.map (·.unsited))
      (cs.mapM Child.expandHere) ((cs.map (·.unsited)).mapM Child.expandHere) := by
  induction cs with
  | nil => exact .pure rfl
  | cons c cs ih =>
    rw [List.forall_mem_cons] at homes
    rw [List.map_cons, List.mapM_cons, List.mapM_cons]
    refine .bind (worksAlike_expandHere c homes.1) fun y z first => ?_
    exact .bind (ih homes.2) fun ys zs rest =>
      .pure (by rw [List.map_cons, List.map_cons, first, rest])

theorem worksAlike_addChildren (h : Handle) (role : ChildRole) (cs : List Child)
    (location : Location) (inside : h.node.repository.index < n)
    (homes : ∀ c ∈ cs, ∀ id ∈ c.homes, id.index < n) :
    WorksAlike n Eq (h.addChildren role cs location)
      (h.addChildren role (cs.map (·.unsited)) default) := by
  rw [Handle.addChildren, Handle.addChildren]
  refine .bind (worksAlike_expandAll cs homes) fun ys zs same => .act inside ?_ ?_
  · exact Operation.extends_after (.extend role h.id ys location)
  · exact .through (runAlike_extendChildren location default role h.id ys)
      (same ▸ runAlike_extendChildren default default role h.id zs)

theorem Repository.Alike.handle? {r r' : Repository} (alike : r.Alike r') (id : NodeId) :
    r.handle? id = r'.handle? id := by
  rw [Repository.handle?, Repository.handle?, alike.id]
  exact alike.map_get? id _ fun _ => rfl

theorem Repository.Alike.handle {r r' : Repository} (alike : r.Alike r') (id : NodeId) :
    r.handle id = r'.handle id := by
  rw [Repository.handle, Repository.handle, alike.handle?, alike.id]

theorem worksAlike_handle (s : ScopeRef) (id : NodeId) (inside : s.repository.index < n) :
    WorksAlike n Eq (s.handle id) (s.handle id) :=
  .read inside fun _ _ alike => alike.handle id

/-- Anonymous binds give the same node. -/
theorem worksAlike_bindIn (s : ScopeRef) (argument : Except BuildError Child) (location : Location)
    (inside : s.repository.index < n)
    (homes : ∀ c, argument = .ok c → ∀ id ∈ c.homes, id.index < n) :
    WorksAlike n Eq (s.bind argument location) (s.bind (unsitedArgument argument) default) := by
  cases argument with
  | error e =>
    exact .throw (.diagnostic (by simp [SameDiagnostic, Diagnostic.unsited]))
  | ok c =>
    rw [unsitedArgument, ScopeRef.bind, ScopeRef.bind]
    dsimp only
    rw [Child.node?_unsited]
    have named (y z : NodeId) (same : y = z) : WorksAlike n Eq (s.handle y) (s.handle z) :=
      same ▸ worksAlike_handle s y inside
    cases c.node? with
    | some node =>
      exact .bind (.act inside (extending_adoptNode node location)
        (runAlike_adoptNode location default node)) named
    | none =>
      refine .bind (worksAlike_expandHere c (homes c rfl)) fun y z same => ?_
      exact .bind (.act inside (extending_bindAnonymous s.scope y location)
        (runAlike_bindAnonymous_congr s.scope same location default)) named

theorem mapError_bind {ε ε' α β : Type} (f : ε → ε') (x : Except ε α) (g : α → Except ε β) :
    (x >>= g).mapError f = x.mapError f >>= fun y => (g y).mapError f := by
  cases x <;> rfl

/-- Whether patterns can be read does not depend on where they are. -/
theorem unsited_ofCriteria (c : SearchCriteria) (location : Location) :
    (Matcher.ofCriteria c location).mapError Diagnostic.unsited = Matcher.ofCriteria c default := by
  have read (pattern anchored : String) :
      (Matcher.readAnchored pattern anchored location).mapError Diagnostic.unsited =
        Matcher.readAnchored pattern anchored default := by
    rw [Matcher.readAnchored, Matcher.readAnchored]
    cases Pattern.read anchored <;> rfl
  have whole (pattern : Option String) :
      (pattern.mapM (Matcher.readWhole location)).mapError Diagnostic.unsited =
        pattern.mapM (Matcher.readWhole default) := by
    cases pattern with
    | none => rfl
    | some pattern =>
      simp only [Option.mapM_some, map_eq_pure_bind, mapError_bind, Matcher.readWhole, read]
      rfl
  have all (patterns : List String) :
      (patterns.mapM (Matcher.readStart location)).mapError Diagnostic.unsited =
        patterns.mapM (Matcher.readStart default) := by
    induction patterns with
    | nil => rfl
    | cons pattern patterns ih =>
      simp only [List.mapM_cons, mapError_bind, Matcher.readStart, read] at ih ⊢
      rw [ih]
      rfl
  simp only [Matcher.ofCriteria, mapError_bind, whole, all]
  rfl

theorem accepts_unsited (m : Matcher) (node : Node) : m.accepts node.unsited = m.accepts node := by
  rw [Matcher.accepts, Node.unsited, Matcher.accepts]
  cases node.binding <;> rfl

/-- Searches find the same. -/
theorem Repository.Alike.search {r r' : Repository} (alike : r.Alike r') (c : SearchCriteria)
    (location : Location) :
    (r.search c location).mapError Diagnostic.unsited = r'.search c default := by
  have bound : r.boundIds = r'.boundIds := by
    refine alike.read_entries (fun entries => (entries.filter (·.2.isBound)).map Prod.fst)
      fun entries => ?_
    simp only [List.filter_map, List.map_map, Function.comp_def, Node.isBound_unsited]
  have children : r.childNodes = r'.childNodes := by
    funext id
    have same := alike.map_get? id (·.children.nodeIds) fun n => by simp
    exact congrArg (·.getD []) same
  have accepted (m : Matcher) (id : NodeId) :
      (r.get? id).any m.accepts = (r'.get? id).any m.accepts :=
    alike.any_get? id (accepts_unsited m)
  rw [Repository.search, mapError_bind, unsited_ofCriteria, Repository.search]
  simp only [Repository.subtree, bound, children, accepted]
  rfl

theorem worksAlike_search (s : ScopeRef) (c : SearchCriteria) (location : Location)
    (inside : s.repository.index < n) :
    WorksAlike n Eq (s.search c location) (s.search c default) := by
  refine .bind (V := Alike) (.read inside fun _ _ alike => alike) fun r r' alike => ?_
  have found := alike.search c location
  have handles : r.handles = r'.handles := by
    funext ids
    exact List.filterMap_congr fun id _ => alike.handle? id
  cases here : r.search c location with
  | error d =>
    rw [here] at found
    rw [← found]
    exact .throw (.diagnostic (sameDiagnostic_unsited d))
  | ok ids =>
    rw [here] at found
    rw [← found]
    exact .pure (by rw [handles])

end

end NodeForest

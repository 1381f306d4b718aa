import NodeForest.Proofs.Journal

/-!
# Journals of calls

A call of a script calls the factories of its arguments first, one after the other, and then asks
its repository for one thing. What the factories bind on the way is written down before that.

Results:
1. `journalHost`, `Journals`: work that keeps a journal beside.
2. `journals_child`, `journals_expandAll`: calling factories keeps one.
3. `Call.journal`, `Call.own?`: the journal of a call, and what is last in it.
4. `Call.own_spec`, `Call.runs`: a call comes to what its own entry comes to, and is a run.
-/

namespace NodeForest

open NodeForest.Action

/-! ## 1. Work with a journal -/

/-- Work in a workspace that keeps a journal. -/
abbrev Journaled := StateT (List Event) (StateM Workspace)

/-- Factories see and bind nodes as ever, and each bind is written down. Taking a node that is there
already changes nothing. -/
def journalHost : FactoryHost Journaled where
  bound node := StateT.lift (factoryHost.bound node)
  adopt scope node location := StateT.lift (factoryHost.adopt scope node location)
  bind scope argument location := do
    let w ← StateT.lift get
    modify fun log => log ++ [⟨.operation (.bindAnonymous scope.scope argument location),
      w.repository scope.repository⟩]
    StateT.lift (factoryHost.bind scope argument location)

variable {α β : Type}

/-- Where the repositories `homes` are planted, `b` does what `a` does, and writes down a run that
leads to where `a` leads. -/
def Journals (homes : RepositoryId → Prop) (a : StateM Workspace α) (b : Journaled α) : Prop :=
  ∀ (w : Workspace) (log : List Event), (∀ id, homes id → (w.tree? id).isSome) →
    ∃ inside, (b.run log).run w = (((a.run w).1, log ++ inside), (a.run w).2) ∧
      w.Runs inside (a.run w).2

theorem after_adoptNode (node : NodeRef) (location : Location) (r : Repository) :
    (exec (Repository.adoptNode node location) r).2 = r := by
  rw [Repository.adoptNode, exec_bind_of_ok (exec_get r)]
  split <;> rfl

theorem run_nodeOrEmpty (id : RepositoryId) (a : Action NodeId) (w : Workspace) :
    (nodeOrEmpty id a).run w =
      (match (exec a (w.repository id)).1 with
        | .ok node => .node ⟨id, node⟩
        | .error _ => .empty,
      w.updateRepository id fun _ => (exec a (w.repository id)).2) := by
  change (match (exec a (w.repository id)).1 with
    | .ok node => pure (Child.node ⟨id, node⟩)
    | .error _ => pure Child.empty : StateM Workspace Child).run _ = _
  cases (exec a (w.repository id)).1 <;> rfl

namespace Journals

variable {homes : RepositoryId → Prop}

theorem pure (y : α) : Journals homes (Pure.pure y) (Pure.pure y) := fun w log _ =>
  ⟨[], by rw [List.append_nil]; rfl, .refl w⟩

theorem bind {a : StateM Workspace α} {b : Journaled α} {f : α → StateM Workspace β}
    {g : α → Journaled β} (first : Journals homes a b)
    (next : ∀ y, Journals homes (f y) (g y)) : Journals homes (a >>= f) (b >>= g) := by
  intro w log planted
  obtain ⟨inside, ran, run⟩ := first w log planted
  obtain ⟨inside', ran', run'⟩ := next (a.run w).1 (a.run w).2 (log ++ inside)
    fun id home => run.planted (planted id home)
  refine ⟨inside ++ inside', ?_, run.trans run'⟩
  change (((b >>= g).run log).run w) = ((((f (a.run w).1).run (a.run w).2).1, _), _)
  rw [StateT.run_bind]
  change (let p := (b.run log).run w; ((g p.1.1).run p.1.2).run p.2) = _
  rw [ran, ← List.append_assoc]
  exact ran'

/-- Asking about a node is not written down. -/
theorem bound (node : NodeRef) : Journals homes (factoryHost.bound node) (journalHost.bound node) :=
  fun w log _ => ⟨[], by rw [List.append_nil]; rfl, .refl w⟩

theorem adopt {scope : ScopeRef} (home : homes scope.repository) (node : NodeRef)
    (location : Location) : Journals homes (factoryHost.adopt scope node location)
      (journalHost.adopt scope node location) := by
  intro w log planted
  refine ⟨[], by rw [List.append_nil]; rfl, ?_⟩
  change w.Runs ([] ++ []) ((nodeOrEmpty _ _).run w).2
  rw [run_nodeOrEmpty]
  refine .within _ (.refl w) (planted _ home) ?_
  rw [after_adoptNode]
  exact .refl _

/-- A bind of a factory is one operation. -/
theorem bindIn {scope : ScopeRef} (home : homes scope.repository) (argument : Child)
    (location : Location) : Journals homes (factoryHost.bind scope argument location)
      (journalHost.bind scope argument location) := by
  intro w log planted
  refine ⟨[⟨.operation (.bindAnonymous scope.scope argument location),
    w.repository scope.repository⟩], rfl, ?_⟩
  change w.Runs ([] ++ _) ((nodeOrEmpty _ _).run w).2
  rw [run_nodeOrEmpty]
  refine .within _ (.refl w) (planted _ home) ?_
  have last := Repository.Runs.single (.bindAnonymous scope.scope argument location)
    (w.repository scope.repository)
  rwa [Operation.after, Operation.run, exec_discard] at last

end Journals

/-! ## 2. Calling factories -/

mutual

theorem journals_child {homes : RepositoryId → Prop} (calls : Nat) : ∀ c : Child,
    (∀ id ∈ c.homes, homes id) →
      Journals homes (c.expandWithin factoryHost calls) (c.expandWithin journalHost calls)
  | .factory number body, inside => by
    rw [Child.homes] at inside
    cases calls with
    | zero =>
      rw [Child.expandWithin, Child.expandWithin]
      exact .pure _
    | succ calls =>
      rw [Child.expandWithin, Child.expandWithin]
      exact journals_factory calls body inside
  | .pending d, inside => by
    rw [Child.homes] at inside
    rw [Child.expandWithin, Child.expandWithin]
    exact .bind (journals_definition d inside) fun _ => .pure _
  | .empty, _ | .name _, _ | .constant _, _ | .node _, _ => by
    simp only [Child.expandWithin]
    exact .pure _
termination_by structural c => c

theorem journals_factory {homes : RepositoryId → Prop} (calls : Nat) : ∀ f : Factory,
    (∀ id ∈ f.homes, homes id) →
      Journals homes (f.expandWithin factoryHost calls) (f.expandWithin journalHost calls)
  | .give c, inside => by
    rw [Factory.homes] at inside
    rw [Factory.expandWithin, Factory.expandWithin]
    exact journals_child calls c inside
  | .ifBound node yes no, inside => by
    rw [Factory.homes, List.forall_mem_append] at inside
    rw [Factory.expandWithin, Factory.expandWithin]
    refine .bind (.bound node) fun bound => ?_
    cases bound with
    | true => exact journals_factory calls yes inside.1
    | false => exact journals_factory calls no inside.2
  | .bind scope argument location, inside => by
    rw [Factory.homes, List.forall_mem_cons] at inside
    rw [Factory.expandWithin, Factory.expandWithin]
    cases argument.node? with
    | some node => exact .adopt inside.1 node location
    | none =>
      exact .bind (journals_child callLimit argument inside.2) fun _ =>
        .bindIn inside.1 _ location
termination_by structural f => f

theorem journals_entry {homes : RepositoryId → Prop} : ∀ e : Entry, (∀ id ∈ e.homes, homes id) →
    Journals homes (e.expand factoryHost) (e.expand journalHost)
  | ⟨label, child⟩, inside => by
    rw [Entry.homes] at inside
    rw [Entry.expand, Entry.expand]
    exact .bind (journals_child callLimit child inside) fun _ => .pure _
termination_by structural e => e

theorem journals_entries {homes : RepositoryId → Prop} : ∀ es : List Entry,
    (∀ id ∈ Entry.allHomes es, homes id) →
      Journals homes (Entry.expandAll factoryHost es) (Entry.expandAll journalHost es)
  | [], _ => by
    rw [Entry.expandAll, Entry.expandAll]
    exact .pure _
  | e :: es, inside => by
    rw [Entry.allHomes, List.forall_mem_append] at inside
    rw [Entry.expandAll, Entry.expandAll]
    exact .bind (journals_entry e inside.1) fun _ =>
      .bind (journals_entries es inside.2) fun _ => .pure _
termination_by structural es => es

theorem journals_list {homes : RepositoryId → Prop} : ∀ l : ChildList,
    (∀ id ∈ l.homes, homes id) → Journals homes (l.expand factoryHost) (l.expand journalHost)
  | ⟨entries, keyed, resolved⟩, inside => by
    rw [ChildList.homes] at inside
    rw [ChildList.expand, ChildList.expand]
    cases resolved with
    | true => exact .pure _
    | false => exact .bind (journals_entries entries inside) fun _ => .pure _
termination_by structural l => l

theorem journals_definition {homes : RepositoryId → Prop} : ∀ d : Definition,
    (∀ id ∈ d.homes, homes id) → Journals homes (d.expand factoryHost) (d.expand journalHost)
  | ⟨nodeClass, children, steps, record⟩, inside => by
    rw [Definition.homes, List.forall_mem_append] at inside
    rw [Definition.expand, Definition.expand]
    exact .bind (journals_list children inside.1) fun _ =>
      .bind (journals_list steps inside.2) fun _ => .pure _
termination_by structural d => d

end

/-- The children with their factories called, in order. -/
def expandAll {m : Type → Type} [Monad m] (host : FactoryHost m) : List Child → m (List Child)
  | [] => return []
  | c :: cs => do
      let c ← c.expand host
      return c :: (← expandAll host cs)

theorem journals_expandAll {homes : RepositoryId → Prop} (cs : List Child)
    (inside : ∀ c ∈ cs, ∀ id ∈ c.homes, homes id) :
    Journals homes (expandAll factoryHost cs) (expandAll journalHost cs) := by
  induction cs with
  | nil => exact .pure []
  | cons c cs ih =>
    rw [List.forall_mem_cons] at inside
    exact .bind (journals_child callLimit c inside.1) fun _ =>
      .bind (ih inside.2) fun _ => .pure _

/-! ## 3. Calls -/

namespace Call

/-- The repository that the call asks last. -/
def home : Call → RepositoryId
  | operation id _ => id
  | bind h _ _ => h.node.repository
  | bindIn s _ _ => s.repository
  | extend h _ _ _ => h.node.repository
  | search s _ _ => s.repository

/-- The children whose factories are called. A node that is bound anonymously is taken before. -/
def given : Call → List Child
  | bind _ (.ok c) _ => [c]
  | bindIn _ (.ok c) _ => if c.node?.isSome then [] else [c]
  | extend _ _ children _ => children
  | _ => []

/-- What the call asks its repository last, its factories having been called. -/
def operation? : Call → List Child → Option Operation
  | operation _ op, _ => some op
  | bind h argument location, expanded =>
      some (.bind h.id (argument.map fun c => expanded.headD c) location)
  | bindIn s (.ok c) location, expanded =>
      if c.node?.isSome then none
      else some (.bindAnonymous s.scope (expanded.headD c) location)
  | bindIn _ (.error _) _, _ => none
  | extend h role _ location, expanded => some (.extend role h.id expanded location)
  | search _ _ _, _ => none

/-- The children that the call asks with, what its factories have written down, and the workspace
then. -/
def prepared (call : Call) (w : Workspace) : (List Child × List Event) × Workspace :=
  ((expandAll journalHost call.given).run []).run w

/-- The entry for what the call asks last. -/
def own? (call : Call) (w : Workspace) : Option Event :=
  (call.operation? (call.prepared w).1.1).map fun op =>
    ⟨.operation op, (call.prepared w).2.repository call.home⟩

/-- The journal of the call: what its factories bind, and then what it asks itself. -/
def journal (call : Call) (w : Workspace) : List Event :=
  (call.prepared w).1.2 ++ (call.own? w).toList

end Call

/-! ## 4. What a call comes to -/

/-- A failure shows even when the value is left out. -/
theorem error_of_map {x : Except Failure α} {e : Failure} (failed : x.map (fun _ => ()) = .error e) :
    x = .error e := by
  cases x <;> cases failed
  rfl

section

variable {w : Workspace}

/-- Calling factories does not fail. -/
theorem run_expandHere_bind (c : Child) (next : Child → Work α) (w : Workspace) :
    (c.expandHere >>= next).run.run w =
      (next ((c.expand factoryHost).run w).1).run.run ((c.expand factoryHost).run w).2 :=
  rfl

theorem run_expandAll_bind (cs : List Child) (next : List Child → Work α) (w : Workspace) :
    (cs.mapM Child.expandHere >>= next).run.run w =
      (next ((expandAll factoryHost cs).run w).1).run.run
        ((expandAll factoryHost cs).run w).2 := by
  induction cs generalizing w next with
  | nil => rfl
  | cons c cs ih =>
    simp only [List.mapM_cons, bind_assoc, pure_bind]
    rw [run_expandHere_bind, ih]
    rfl

/-- Work that does not fail and leaves the workspace alone. -/
def Reads (next : Work α) : Prop :=
  ∀ w : Workspace, ∃ y, next.run.run w = (.ok y, w)

/-- An action with something read off after it. -/
theorem run_actIn_bind {a : Action α} {next : α → Work β} (reads : ∀ y, Reads (next y))
    (id : RepositoryId) (w : Workspace) :
    ((actIn id a >>= next).run.run w).1.map (fun _ => ()) =
        (exec a (w.repository id)).1.map (fun _ => ()) ∧
      ((actIn id a >>= next).run.run w).2 =
        w.updateRepository id fun _ => (exec a (w.repository id)).2 := by
  have unfolded : (actIn id a >>= next).run.run w =
      (match (exec a (w.repository id)).1 with
        | .ok y => (next y).run.run
        | .error e => fun w => (.error e, w))
        (w.updateRepository id fun _ => (exec a (w.repository id)).2) := by
    change (ExceptT.bindCont next (exec a (w.repository id)).1).run _ = _
    cases (exec a (w.repository id)).1 <;> rfl
  rw [unfolded]
  cases (exec a (w.repository id)).1 with
  | error e => exact ⟨rfl, rfl⟩
  | ok y =>
    obtain ⟨z, ran⟩ := reads y (w.updateRepository id fun _ => (exec a (w.repository id)).2)
    dsimp only
    rw [ran]
    exact ⟨rfl, rfl⟩

/-- The factories of a call are called first; then it comes to its own operation. -/
theorem Call.run_operation (call : Call) {op : Operation} (w : Workspace)
    (asks : call.operation? ((expandAll factoryHost call.given).run w).1 = some op) :
    (call.run.run.run w).1.map (fun _ => ()) =
        (exec op.run (((expandAll factoryHost call.given).run w).2.repository call.home)).1 ∧
      (call.run.run.run w).2 =
        ((expandAll factoryHost call.given).run w).2.updateRepository call.home fun _ =>
          op.after (((expandAll factoryHost call.given).run w).2.repository call.home) := by
  have nothing (y : Unit) : Reads (pure [] : Work (List Handle)) := fun w => ⟨[], rfl⟩
  have unit (o : Except Failure Unit) : o.map (fun _ => ()) = o := by cases o <;> rfl
  have acts (id : RepositoryId) (a : Action Unit) (w : Workspace) :
      (((do actIn id a; return []) : Work (List Handle)).run.run w).1.map (fun _ => ()) =
          (exec a (w.repository id)).1 ∧
        (((do actIn id a; return []) : Work (List Handle)).run.run w).2 =
          w.updateRepository id fun _ => (exec a (w.repository id)).2 := by
    have := run_actIn_bind (a := a) nothing id w
    rwa [unit] at this
  cases call with
  | operation id op =>
    cases asks
    exact acts id op.run w
  | bind h argument location =>
    cases argument with
    | error e =>
      cases asks
      exact acts _ (Repository.bind h.id (.error e) location) w
    | ok c =>
      cases asks
      exact acts _ (Repository.bind h.id (.ok ((c.expand factoryHost).run w).1) location)
        ((c.expand factoryHost).run w).2
  | bindIn s argument location =>
    cases argument with
    | error e => cases asks
    | ok c =>
      rw [Call.operation?] at asks
      cases node : c.node? with
      | some ref => simp [node] at asks
      | none =>
        have given : (Call.bindIn s (.ok c) location).given = [c] := by simp [Call.given, node]
        have steps : (Call.bindIn s (.ok c) location).run = c.expandHere >>= fun c =>
            actIn s.repository (Repository.bindAnonymous s.scope c location) >>= fun id =>
              s.handle id >>= fun h => pure [h] := by
          simp only [Call.run, ScopeRef.bind, node, bind_assoc]
          rfl
        have reads (id : NodeId) : Reads (s.handle id >>= fun h => pure [h]) :=
          fun w => ⟨_, rfl⟩
        rw [node, given] at asks
        cases asks
        rw [given, steps, run_expandHere_bind]
        refine ⟨(run_actIn_bind reads _ _).1.trans ?_, (run_actIn_bind reads _ _).2.trans ?_⟩
        · exact (congrArg Prod.fst (exec_discard _ _)).symm
        · exact congrArg (Workspace.updateRepository _ _ fun _ => ·)
            (congrArg Prod.snd (exec_discard _ _)).symm
  | extend h role children location =>
    cases asks
    have steps : (Call.extend h role children location).run =
        children.mapM Child.expandHere >>= fun children =>
          actIn h.node.repository (Repository.extendChildren role h.id children location) >>=
            fun _ => pure [] := by
      simp only [Call.run, Handle.addChildren, bind_assoc]
      rfl
    rw [steps, run_expandAll_bind]
    exact acts _ _ _
  | search s criteria location => cases asks

/-- A node that is bound anonymously is adopted, which changes nothing. -/
theorem Call.run_adopt (s : ScopeRef) {c : Child} {ref : NodeRef} (node : c.node? = some ref)
    (location : Location) (w : Workspace) :
    ((Call.bindIn s (.ok c) location).run.run.run w).1.map (fun _ => ()) =
        (exec (Repository.adoptNode ref location) (w.repository s.repository)).1.map (fun _ => ()) ∧
      ((Call.bindIn s (.ok c) location).run.run.run w).2 =
        w.updateRepository s.repository fun _ => w.repository s.repository := by
  have steps : (Call.bindIn s (.ok c) location).run =
      actIn s.repository (Repository.adoptNode ref location) >>= fun id =>
        s.handle id >>= fun h => pure [h] := by
    simp only [Call.run, ScopeRef.bind, node, bind_assoc]
    rfl
  have reads (id : NodeId) : Reads (s.handle id >>= fun h => pure [h]) := fun w => ⟨_, rfl⟩
  have ran := run_actIn_bind (a := Repository.adoptNode ref location) reads s.repository w
  rw [after_adoptNode] at ran
  rw [steps]
  exact ran

/-- A call that has nothing to ask changes nothing. -/
theorem Call.run_quiet (call : Call) (w : Workspace)
    (quiet : call.operation? ((expandAll factoryHost call.given).run w).1 = none) :
    call.given = [] ∧ ((call.run.run.run w).2 = w ∨
      (call.run.run.run w).2 = w.updateRepository call.home fun _ => w.repository call.home) := by
  cases call with
  | operation id op => cases quiet
  | bind h argument location => cases quiet
  | bindIn s argument location =>
    cases argument with
    | error e => exact ⟨rfl, .inl rfl⟩
    | ok c =>
      rw [Call.operation?] at quiet
      cases node : c.node? with
      | none => simp [node] at quiet
      | some ref =>
        exact ⟨by simp [Call.given, node], .inr (Call.run_adopt s node location w).2⟩
  | extend h role children location => cases quiet
  | search s criteria location =>
    refine ⟨rfl, .inl ?_⟩
    rw [Call.run, ScopeRef.search, ScopeRef.read, run_readIn_bind]
    cases (w.repository s.repository).search criteria location <;> rfl

theorem Call.home_mem (call : Call) : call.home ∈ call.homes := by
  cases call <;> exact List.mem_cons_self

theorem Call.homes_given (call : Call) : ∀ c ∈ call.given, ∀ id ∈ c.homes, id ∈ call.homes := by
  have one (c₀ : Child) (home : RepositoryId) :
      ∀ c ∈ [c₀], ∀ id ∈ c.homes, id ∈ home :: c₀.homes :=
    List.forall_mem_singleton.mpr fun id member => List.mem_cons_of_mem _ member
  cases call with
  | operation | search => exact fun _ member => absurd member List.not_mem_nil
  | bind h argument location =>
    cases argument with
    | error e => exact fun _ member => absurd member List.not_mem_nil
    | ok c => exact one c h.node.repository
  | bindIn s argument location =>
    cases argument with
    | error e => exact fun _ member => absurd member List.not_mem_nil
    | ok c =>
      rw [Call.given]
      split
      · exact fun _ member => absurd member List.not_mem_nil
      · exact one c s.repository
  | extend h role children location =>
    exact fun c member id inside =>
      List.mem_cons_of_mem _ (List.mem_flatMap.mpr ⟨c, member, inside⟩)

variable {call : Call} (planted : ∀ id ∈ call.homes, (w.tree? id).isSome)

include planted

/-- Factories are called as ever, and what they bind is a run. -/
theorem Call.prepared_spec : (call.prepared w).1.1 = ((expandAll factoryHost call.given).run w).1 ∧
    (call.prepared w).2 = ((expandAll factoryHost call.given).run w).2 ∧
      w.Runs (call.prepared w).1.2 (call.prepared w).2 := by
  obtain ⟨inside, ran, run⟩ := journals_expandAll call.given call.homes_given w [] planted
  rw [Call.prepared, ran]
  exact ⟨rfl, rfl, run⟩

/-- A call fails or succeeds as its own entry does, and leaves its repository as that does. -/
theorem Call.own_spec {e : Event} (own : call.own? w = some e) :
    e.before = (call.prepared w).2.repository call.home ∧
      (call.run.run.run w).1.map (fun _ => ()) = e.outcome ∧
        (call.run.run.run w).2 = (call.prepared w).2.updateRepository call.home fun _ => e.after := by
  obtain ⟨children, state, _⟩ := Call.prepared_spec planted
  obtain ⟨op, asks, rfl⟩ := Option.map_eq_some_iff.mp own
  rw [children] at asks
  obtain ⟨outcome, after⟩ := call.run_operation w asks
  rw [state]
  exact ⟨rfl, outcome, after⟩

/-- The own entry of a call is about the repository that the call asks. -/
theorem Call.own_home {e : Event} (own : call.own? w = some e) :
    e.home = call.home ∧ (call.run.run.run w).2.repository call.home = e.after := by
  obtain ⟨_, _, run⟩ := Call.prepared_spec planted
  obtain ⟨before, _, after⟩ := Call.own_spec planted own
  have home : e.home = call.home := by rw [Event.home, before, Workspace.id_repository]
  have same : e.after.id = call.home := by
    obtain ⟨op, _, rfl⟩ := Option.map_eq_some_iff.mp own
    exact (op.extends_after _).id.trans home
  rw [after, Workspace.repository_updateRepository _ same
    (run.planted (planted call.home call.home_mem)), if_pos rfl]
  exact ⟨home, rfl⟩

/-- A call is a run with its journal. -/
theorem Call.runs : w.Runs (call.journal w) (call.run.run.run w).2 := by
  obtain ⟨children, state, run⟩ := Call.prepared_spec planted
  have there := planted call.home call.home_mem
  rw [Call.journal]
  cases own : call.own? w with
  | some e =>
    obtain ⟨before, _, after⟩ := Call.own_spec planted own
    obtain ⟨op, _, rfl⟩ := Option.map_eq_some_iff.mp own
    rw [after]
    exact .within call.home run (run.planted there) (.single op _)
  | none =>
    have quiet := Option.map_eq_none_iff.mp own
    rw [children] at quiet
    obtain ⟨none, same⟩ := call.run_quiet w quiet
    have empty : (call.prepared w).1.2 = [] := by
      rw [Call.prepared, none]
      rfl
    rw [empty]
    rcases same with same | same <;> rw [same]
    · exact .refl w
    · have nothing : w.Runs ([] ++ []) _ := .within call.home (.refl w) there (.refl _)
      exact nothing

end

end NodeForest

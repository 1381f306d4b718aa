import NodeForest.Proofs.AnonymousBind
import NodeForest.Proofs.AnonymousCalls
import NodeForest.Proofs.CallJournal
import NodeForest.Proofs.Family
import NodeForest.Proofs.NameCalls

/-!
# Generated names are unique

A generated name says for which text it was generated and with which number, whatever the text is:
it stands between the first parenthesis and the last closing one, and digits follow. A scope counts
its calls for each text. So it never gives a name twice, by whomever and in whatever order it is
called.

Results:
1. `Counted.nodup`: calls that are counted get distinct names.
2. `Runs.counted`: a run counts the calls that its journal comes to.
3. `Operation.mem_nameCalls`: calls are made by hand or by anonymous binds; `Runs.isOpen`: as long
   as operations are asked of open scopes, so are all of them.
4. `unique_names_distinct`: the names that a scope gives in a run.
-/

namespace NodeForest

open Relation NodeForest.Action

/-! ## 1. Distinct names -/

/-- The numbers that a scope gives for a text differ. -/
theorem Counted.nodup_numbers {r r' : Repository} {calls : List NameCall}
    (counted : Counted r calls r') (scope : ScopeId) (base : String) :
    (NameCall.numbers calls scope base).Nodup :=
  List.Nodup.of_append_right (counted scope base ▸ List.nodup_range)

/-- Calls that are counted get distinct names from each scope. -/
theorem Counted.nodup {r r' : Repository} {calls : List NameCall} (counted : Counted r calls r')
    (scope : ScopeId) : ((calls.filter (·.MadeTo scope)).map (·.name)).Nodup := by
  rw [List.Nodup, List.pairwise_map, List.pairwise_iff_forall_sublist]
  intro c c' within same
  have same' : "" ++ Repository.generatedName c.base c.number =
      "" ++ Repository.generatedName c'.base c'.number := by
    rw [← c.name_eq, ← c'.name_eq, same]
  obtain ⟨_, bases, counts⟩ := Repository.generatedName_injective (by decide) (by decide) same'
  -- Both are among the calls for one text, where numbers differ.
  have alike := within.filter (·.base = c.base)
  rw [show [c, c'].filter (·.base = c.base) = [c, c'] by simp [bases]] at alike
  have differ := List.Nodup.sublist (alike.map NameCall.number)
    (counted.nodup_numbers scope c.base)
  simp [counts] at differ

/-! ## 2. Runs -/

/-- The calls that an entry comes to. The hook of a resolve has entries of its own. -/
def Event.nameCalls (e : Event) : List NameCall :=
  match e.request with
  | .operation op => op.nameCalls e.before
  | .resolve _ _ => []

namespace Repository

variable {r r' : Repository}

theorem covers_counted (calls : List NameCall) :
    Covers fun r' r'' => Counted r calls r' → Counted r calls r'' :=
  covers_sameName.mono fun _ _ ⟨scopes, _⟩ counted => counted.congr (counterOf_congr scopes)

theorem CallsHook.counterOf (called : r.CallsHook r') : r'.counterOf = r.counterOf := by
  obtain ⟨ds, rfl⟩ := called.noting
  rfl

/-- A run counts the calls that its journal comes to. -/
theorem Runs.counted {log : List Event} (run : Runs r log r') :
    Counted r (log.flatMap Event.nameCalls) r' := by
  induction run with
  | refl => exact .idle rfl
  | operation op _ ih =>
    rw [List.flatMap_append, List.flatMap_singleton]
    exact ih.append (op.counted _)
  | inHook _ called ih => exact ih.congr called.counterOf
  | @resolve r r₁ log inside hook location _ hooked idle ih inner =>
    rw [Event.after_resolve, List.flatMap_append, List.flatMap_append, List.flatMap_singleton]
    refine ih.append ?_
    rw [show Event.nameCalls ⟨.resolve hook location, r₁⟩ = [] from rfl, List.append_nil]
    refine (covers_counted _).resolve_of_hook (fun r₂ called => ?_) fun uncalled => ?_
    · exact (Counted.idle called.counterOf).append (inner r₂ called)
    · rw [idle uncalled]
      exact .idle rfl

end Repository

/-! ## 3. Who calls -/

/-- The call for a name that an anonymous bind makes if its definition has no children. -/
def AnonymousCall.nameCall (call : AnonymousCall) : NameCall :=
  ⟨call.scope, Text.lowercase call.definition.nodeClass.name, call.before⟩

/-- What follows an action is called after it has given a value. -/
theorem Action.mem_callsAfter {α : Type} {a : Action α} {next : α → Repository → List NameCall}
    {r : Repository} {c : NameCall} (member : c ∈ a.callsAfter next r) :
    ∃ y r₁, exec a r = (.ok y, r₁) ∧ c ∈ next y r₁ := by
  rw [callsAfter] at member
  rcases run : exec a r with ⟨e | y, r₁⟩ <;> rw [run] at member
  · cases member
  · exact ⟨y, r₁, rfl, member⟩

namespace Repository

section

variable (location : Location)

/-- The call is that of an anonymous bind of a definition without children, which resolving the list
comes to. -/
def Nests (scope : ScopeId) (l : ChildList) (r : Repository) (c : NameCall) : Prop :=
  ∃ d r' call, ComesTo location scope r l d r' ∧ Makes location scope d r' call ∧
    call.definition.children.isEmpty ∧ call.nameCall = c

theorem exec_resolveEntries_concat {scope : ScopeId} {e e' : Entry} : ∀ {es es' : List Entry}
    {r r₁ r₂ : Repository}, (resolveEntries location scope es).exec r = (.ok es', r₁) →
      (resolveEntry location scope e).exec r₁ = (.ok e', r₂) →
        (resolveEntries location scope (es ++ [e])).exec r = (.ok (es' ++ [e']), r₂)
  | [], _, _, _, _, ran, last => by
    rw [resolveEntries] at ran
    cases ran
    rw [List.nil_append, resolveEntries, exec_bind_of_ok last, resolveEntries]
    rfl
  | first :: rest, _, _, _, _, ran, last => by
    rw [resolveEntries] at ran
    obtain ⟨first', r₃, head, ran⟩ := exec_bind_ok.mp ran
    obtain ⟨rest', r₄, tail, given⟩ := exec_bind_ok.mp ran
    cases given
    rw [List.cons_append, resolveEntries, exec_bind_of_ok head,
      exec_bind_of_ok (exec_resolveEntries_concat tail last)]
    rfl

mutual

theorem nests_entries (scope : ScopeId) (keyed : Bool) : ∀ (es front front' : List Entry)
    (r₀ r : Repository), (resolveEntries location scope front).exec r₀ = (.ok front', r) →
      ∀ c ∈ Entry.allNameCalls location scope es r,
        Nests location scope ⟨front ++ es, keyed, false⟩ r₀ c
  | [], _, _, _, _, _, c, member => by
    rw [Entry.allNameCalls] at member
    cases member
  | ⟨label, child⟩ :: rest, front, front', r₀, r, before, c, member => by
    rw [Entry.allNameCalls, List.mem_append, Entry.nameCalls] at member
    rcases member with own | later
    · cases child with
      | pending d =>
        rw [Child.nameCalls] at own
        obtain ⟨call, makes, empty, same⟩ := makes_definition scope d r c own
        exact ⟨d, r, call, .intro before, makes, empty, same⟩
      | _ => cases own
    · obtain ⟨e', r₁, ran, later⟩ := Action.mem_callsAfter later
      have nested := nests_entries scope keyed rest (front ++ [⟨label, child⟩]) (front' ++ [e'])
        r₀ r₁ (exec_resolveEntries_concat location before ran) c later
      rwa [List.append_assoc, List.singleton_append] at nested

theorem nests_list (scope : ScopeId) : ∀ (l : ChildList) (r : Repository),
    ∀ c ∈ l.nameCalls location scope r, Nests location scope l r c
  | ⟨entries, keyed, true⟩, r, c, member => by
    rw [ChildList.nameCalls, if_pos rfl] at member
    cases member
  | ⟨entries, keyed, false⟩, r, c, member => by
    rw [ChildList.nameCalls, if_neg Bool.false_ne_true] at member
    refine nests_entries scope keyed entries [] [] r r ?_ c member
    rw [resolveEntries]
    rfl

/-- The calls of an anonymous bind are those of the anonymous binds that it comes to. -/
theorem makes_definition (scope : ScopeId) : ∀ (d : Definition) (r : Repository),
    ∀ c ∈ d.nameCalls location scope r, ∃ call, Makes location scope d r call ∧
      call.definition.children.isEmpty ∧ call.nameCall = c
  | ⟨nodeClass, children, steps, record⟩, r, c, member => by
    rw [Definition.nameCalls, List.mem_append] at member
    rcases member with first | later
    · obtain ⟨d, r', call, comes, makes, rest⟩ := nests_list scope children r c first
      exact ⟨call, .child comes makes, rest⟩
    · obtain ⟨cs, r₁, resolved, later⟩ := Action.mem_callsAfter later
      rcases List.mem_append.mp later with own | later
      · split at own
        · rename_i empty
          rw [(sameForm_resolveChildren location resolved).isEmpty] at empty
          rw [exec_resolveChildren_empty location empty] at resolved
          cases resolved
          exact ⟨_, .own scope _ r, empty, (List.mem_singleton.mp own).symm⟩
        · cases own
      · obtain ⟨id, r₂, taken, later⟩ := Action.mem_callsAfter later
        rw [exec_modifyGet] at taken
        obtain ⟨d, r', call, comes, makes, rest⟩ := nests_list _ steps r₂ c later
        exact ⟨call, .step resolved (Prod.ext (by cases taken; rfl) (by cases taken; rfl)) comes
          makes, rest⟩

end

end

end Repository

open Repository in
/-- A call of an operation is made by hand, or by an anonymous bind of a definition without children
that the operation comes to. -/
theorem Operation.mem_nameCalls {op : Operation} {r : Repository} {c : NameCall}
    (member : c ∈ op.nameCalls r) : (op = .uniqueName c.scope c.base ∧ c.before = r) ∨
      ∃ call, op.Makes r call ∧ call.definition.children.isEmpty ∧ call.nameCall = c := by
  cases op with
  | uniqueName scope base =>
    obtain rfl := List.mem_singleton.mp member
    exact .inl ⟨rfl, rfl⟩
  | bind target argument location =>
    refine .inr ?_
    cases argument with
    | error e => cases member
    | ok argument =>
      rw [nameCalls] at member
      split at member
      · rename_i d n denoted here
        rcases List.mem_append.mp member with first | later
        · obtain ⟨_, _, call, comes, makes, rest⟩ := nests_list location n.scope _ r c first
          exact ⟨call, .child denoted here comes makes, rest⟩
        · obtain ⟨cs, r₁, resolved, later⟩ := Action.mem_callsAfter later
          obtain ⟨_, _, call, comes, makes, rest⟩ := nests_list location n.scope _ r₁ c later
          exact ⟨call, .step denoted here resolved comes makes, rest⟩
      · cases member
  | bindAnonymous scope argument location =>
    rw [nameCalls] at member
    split at member
    · rename_i d denoted
      obtain ⟨call, makes, rest⟩ := makes_definition location scope d r c member
      exact .inr ⟨call, .anonymous denoted makes, rest⟩
    · cases member
  | extend role target children location =>
    rw [nameCalls] at member
    split at member
    · rename_i n found
      obtain ⟨here, bound⟩ := Option.filter_eq_some_iff.mp found
      obtain ⟨_, _, call, comes, makes, rest⟩ := nests_list location n.scope _ r c member
      exact .inr ⟨call, .extended here bound comes makes, rest⟩
    · cases member
  | _ => cases member

/-- The scope that the entry asks for a generated name. -/
def Event.namingScope? (e : Event) : Option ScopeId :=
  match e.request with
  | .operation (.uniqueName scope _) => some scope
  | _ => none

/-- All scopes that are asked for anything are open. -/
def Event.AsksOpen (e : Event) : Prop :=
  e.Proper ∧ ∀ scope ∈ e.namingScope?, scope.index < e.before.scopes.size

instance (e : Event) : Decidable e.AsksOpen :=
  inferInstanceAs (Decidable (_ ∧ _))

namespace Repository

variable {r : Repository} {log : List Event} {c : NameCall}

/-- An entry that asks open scopes calls open scopes only. -/
theorem Rooted.isOpen {e : Event} (rooted : e.before.Rooted) (asks : e.AsksOpen)
    (member : c ∈ e.nameCalls) : c.MadeTo c.scope := by
  obtain ⟨op | ⟨hook, location⟩, r⟩ := e
  · obtain ⟨proper, named⟩ := asks
    rcases Operation.mem_nameCalls member with ⟨rfl, rfl⟩ | ⟨call, makes, _, rfl⟩
    · exact ⟨rfl, named c.scope rfl⟩
    · obtain ⟨deeds, _, within⟩ := makes.serves
      obtain ⟨proper, rooted⟩ := Deeds.rooted deeds proper rooted
      exact ⟨rfl, rooted.within proper within⟩
  · cases member

/-- In a run that asks open scopes, calls are made to open scopes only. -/
theorem Runs.isOpen {id : RepositoryId} {options : Options} (run : Runs (start id options) log r)
    (asks : ∀ e ∈ log, e.AsksOpen) {e : Event} (inside : e ∈ log) (member : c ∈ e.nameCalls) :
    c.MadeTo c.scope := by
  obtain ⟨earlier, begins, run'⟩ := run.before e inside
  have led : LeadsTo (fun r op => op.Proper r) (start id options) e.before :=
    run'.leadsTo.mono fun r op here => (asks ⟨.operation op, r⟩ (begins.subset here)).1
  exact (led.rooted (rooted_start id options)).isOpen (asks e inside) member

end Repository

/-! ## 4. The names of a scope -/

/-- The calls that are made to a scope of a repository, in order. -/
def callsTo (log : List Event) (id : RepositoryId) (scope : ScopeId) : List NameCall :=
  ((log.filter (·.home = id)).flatMap Event.nameCalls).filter (·.MadeTo scope)

namespace Repository

theorem counterOf_start (id : RepositoryId) (options : Options) (scope : ScopeId) (base : String) :
    (start id options).counterOf scope base = 0 := by
  obtain ⟨_ | i⟩ := scope <;> rfl

/-- The calls of a run that are made to a scope for a text get the numbers from zero on. -/
theorem Runs.numbers {id : RepositoryId} {options : Options} {r : Repository} {log : List Event}
    (run : Runs (start id options) log r) (scope : ScopeId) (base : String) :
    NameCall.numbers (log.flatMap Event.nameCalls) scope base =
      List.range (r.counterOf scope base) := by
  have counted := run.counted scope base
  rwa [counterOf_start, List.range_zero, List.nil_append] at counted

end Repository

/-- A script that asks for a name gets that of its call. -/
theorem ScopeRef.run_uniqueName (s : ScopeRef) (base : String) (w : Workspace) :
    (s.uniqueName base).run.run w =
      (.ok (NameCall.mk s.scope base (w.repository s.repository)).name,
        w.updateRepository s.repository fun _ =>
          (NameCall.mk s.scope base (w.repository s.repository)).after) :=
  rfl

/-- The names that a scope generates in a run differ from each other, for whatever texts they are
asked for, by scripts, factories, hooks and anonymous binds in any order. The counter for a text is
the number of its calls; with fewer than 2 ^ 32 of them it fits into 32 bits. As long as operations
are asked of scopes that are open, these are all calls for the scope. A call for a number that no
scope has yet is not counted, and gets the bare form each time. -/
theorem unique_names_distinct {log : List Event} {w : Workspace} {id : RepositoryId}
    (run : Workspace.Runs {} log w) (planted : (w.tree? id).isSome) (scope : ScopeId)
    (few : ∀ base, ((callsTo log id scope).filter (·.base = base)).length < 2 ^ 32) :
    ((callsTo log id scope).map (·.name)).Nodup ∧
      (∀ base, (w.repository id).counterOf scope base =
          ((callsTo log id scope).filter (·.base = base)).length ∧
        (w.repository id).counterOf scope base < 2 ^ 32) ∧
        ((∀ e ∈ log, e.home = id → e.AsksOpen) → callsTo log id scope =
          ((log.filter (·.home = id)).flatMap Event.nameCalls).filter (·.scope = scope)) ∧
        ∀ c ∈ (log.filter (·.home = id)).flatMap Event.nameCalls, c.scope = scope →
          ¬c.MadeTo scope → c.name = "(" ++ c.base ++ ")" ∧ c.after = c.before := by
  obtain ⟨options, follows⟩ := run.begun rfl planted
  refine ⟨follows.run.counted.nodup scope, fun base => ?_, fun asks => ?_, ?_⟩
  · have total := congrArg List.length (follows.run.numbers scope base)
    rw [NameCall.numbers, List.length_map, List.length_range] at total
    exact ⟨total.symm, total ▸ few base⟩
  · refine List.filter_congr fun c member => decide_eq_decide.mpr ⟨And.left, ?_⟩
    rintro rfl
    obtain ⟨e, inside, member⟩ := List.mem_flatMap.mp member
    refine follows.run.isOpen (fun e inside => ?_) inside member
    rw [List.mem_filter, decide_eq_true_iff] at inside
    exact asks e inside.1 inside.2
  · rintro c _ rfl closed
    exact NameCall.of_closed closed

/-- A leaf inside a definition. -/
def nestedLeaf : Child :=
  .pending (.ofParts (.standard "Negate")
    (.positional [.pending (.bare (.standard "Leaf"))]) .nil [])

/-- Names are asked for that look like generated ones, and one of them is for a leaf. -/
def askForLookalikes : List Operation :=
  [.openScope .root "sub" .empty, .uniqueName .root "leaf", .uniqueName ⟨1⟩ "leaf",
    .bindAnonymous .root nestedLeaf default, .uniqueName .root "(leaf)",
    .uniqueName .root "leaf)1", .uniqueName .root "leaf"]

theorem unique_names_distinct_lookalikes :
    ∃ log w, Workspace.Runs {} log w ∧ (w.tree? ⟨0⟩).isSome ∧
      (∀ base, ((callsTo log ⟨0⟩ .root).filter (·.base = base)).length < 2 ^ 32) ∧
      (∀ e ∈ log, e.home = ⟨0⟩ → e.AsksOpen) ∧
      (callsTo log ⟨0⟩ .root).map (·.name) =
        ["(leaf)", "(leaf)1", "((leaf))", "(leaf)1)", "(leaf)2"] ∧
      ((callsTo log ⟨0⟩ .root).map (·.name)).Nodup ∧
      (∀ base, (w.repository ⟨0⟩).counterOf .root base =
          ((callsTo log ⟨0⟩ .root).filter (·.base = base)).length ∧
        (w.repository ⟨0⟩).counterOf .root base < 2 ^ 32) ∧
      callsTo log ⟨0⟩ .root =
        ((log.filter (·.home = ⟨0⟩)).flatMap Event.nameCalls).filter (·.scope = .root) := by
  let log := (Repository.start ⟨0⟩ {}).journal askForLookalikes
  have names : (callsTo log ⟨0⟩ .root).map (·.name) =
      ["(leaf)", "(leaf)1", "((leaf))", "(leaf)1)", "(leaf)2"] := by decide +kernel
  have few : ∀ base, ((callsTo log ⟨0⟩ .root).filter (·.base = base)).length < 2 ^ 32 := by
    intro base
    have total := congrArg List.length names
    rw [List.length_map] at total
    exact Nat.lt_of_le_of_lt (List.length_filter_le _ _) (total ▸ by decide)
  have asks : ∀ e ∈ log, e.home = ⟨0⟩ → e.AsksOpen := by decide +kernel
  have run := Workspace.runs_single {} askForLookalikes
  have planted : ((Workspace.single {} ((Repository.start ⟨0⟩ {}).afterAll
      askForLookalikes)).tree? ⟨0⟩).isSome := by decide +kernel
  obtain ⟨distinct, counters, all, _⟩ := unique_names_distinct run planted .root few
  exact ⟨log, _, run, planted, few, asks, names, distinct, counters, all asks⟩

end NodeForest

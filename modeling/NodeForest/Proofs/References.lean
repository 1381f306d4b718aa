import NodeForest.Proofs.Children
import NodeForest.Proofs.ForestImage

/-!
# References of bound nodes

A bind looks up, shares or makes a node for every child, and what it stores is a node or an empty
place. The one exception is a list that counts as resolved, which it takes as it is. Such lists are
read from handles, where everything is resolved, but what is pushed onto one afterwards is stored
as it was pushed, and has no number in the forest.

Results:
1. `LeadsTo.stored`: what is stored is resolved, or came in a list that was taken as it was.
2. `Drawn`: the lists that are read and pushed onto; `Drawn.members`.
3. `resolved_of_reachable`: as long as nodes and empty places are pushed, these are all there is.
-/

namespace NodeForest

open Relation NodeForest.Action

/-- A child that a bind has nothing to look up for: a node, or an empty place. -/
def Child.IsResolved : Child → Prop
  | .empty | .node _ => True
  | _ => False

instance : DecidablePred Child.IsResolved
  | .empty | .node _ => isTrue trivial
  | .name _ | .constant _ | .pending _ | .factory _ _ => isFalse not_false

/-- The lists handed in that count as resolved have `A`. -/
def Operation.Takes (A : ChildList → Prop) (op : Operation) : Prop :=
  ∀ l ∈ op.takenLists, A l

theorem Operation.takes_of_nil {A : ChildList → Prop} {op : Operation}
    (none : op.takenLists = []) : op.Takes A := by
  rw [Takes, none]
  exact nofun

namespace Repository

/-! ## 1. What is stored -/

/-- Every child of a bound node has `P`. -/
def Stores (P : Child → Prop) (r : Repository) : Prop :=
  ∀ id b, r.bindingOf? id = some b → ∀ c ∈ b.members, P c

variable {r r' : Repository} {P : Child → Prop}

theorem stores_start (id : RepositoryId) (options : Options) : Stores P (start id options) :=
  fun _ _ here => by cases here

theorem Reduced.stores (reduced : Reduced r r') (stores : Stores P r) : Stores P r' := by
  intro id b' here c member
  obtain ⟨n', live, bound⟩ := Option.bind_eq_some_iff.mp here
  obtain ⟨n, there, resembles⟩ := reduced.node live
  obtain ⟨b, was, _, children, steps⟩ := resembles.binding bound
  refine stores id b (by rw [bindingOf?_of_get? there, was]) c ?_
  rwa [Binding.members, children, steps] at member

section

variable (settled : ∀ c : Child, c.IsResolved → P c)

include settled

/-- Whatever is looked up, shared or made is a node. -/
theorem givable_stored (cached : Cached r) :
    Givable r (fun r c => P c ∧ ∀ ref, c = .node ref → ref.repository = r.id) (fun _ => True)
      fun l => ∀ c ∈ l.members, P c where
  cached := cached
  own := fun given => given.2 _ rfl
  stable := fun _ step given =>
    ⟨given.1, fun ref same => (given.2 ref same).trans step.extends.id.symm⟩
  empty := fun _ => ⟨settled _ trivial, nofun⟩
  node := fun _ _ own => ⟨settled _ trivial, fun _ same => by cases same; exact own⟩
  made := fun _ _ => ⟨settled _ trivial, fun _ same => by cases same; rfl⟩
  taken := by
    intro r entries keyed _ _ stored own e member
    have fits : Promise.none.Fits r (entries.map (·.child)) :=
      @fits_of_findForeign? .none r entries keyed False.elim own
    have inside : e.child ∈ entries.map (·.child) := List.mem_map_of_mem member
    exact ⟨stored e.child inside, fun ref same => (fits ref (same ▸ inside)).1⟩

theorem stores_after (cached : Cached r) (stores : Stores P r) (op : Operation)
    (takes : op.Takes fun l => ∀ c ∈ l.members, P c) : Stores P (op.after r) := by
  have handed : ∀ c ∈ op.arguments,
      Handed (fun _ => True) (fun l => ∀ c ∈ l.members, P c) c.nodeRefs c.takenLists :=
    fun c member => ⟨fun _ _ => trivial,
      fun l inside => takes l (List.mem_flatMap.mpr ⟨c, member, inside⟩)⟩
  have gives := op.gives (givable_stored settled cached) handed
  generalize op.after r = r' at gives ⊢
  induction gives with
  | refl => exact stores
  | tail _ last ih =>
    intro id b' here c member
    rcases last.child here member with ⟨b, was, old⟩ | ⟨given, _⟩
    · exact ih id b was c old
    · exact given.1

/-- What a run stores is resolved, or was in a list that it took as it was. -/
theorem LeadsTo.stores {allowed : Repository → Operation → Prop} (h : LeadsTo allowed r r')
    (takes : ∀ r op, allowed r op → op.Takes fun l => ∀ c ∈ l.members, P c) (cached : Cached r)
    (stores : Stores P r) : Stores P r' := by
  refine (h.kept (I := fun r => Cached r ∧ Stores P r) ?_ ?_ ⟨cached, stores⟩).2
  -- Only operations give children; removing and numbering nodes leaves the lists of the others.
  · have kept {r r' : Repository} (change : Change .none r r')
        (same : Stores P r → Stores P r') (before : Cached r ∧ Stores P r) :
        Cached r' ∧ Stores P r' :=
      ⟨change.cached before.1, same before.2⟩
    exact {
      note := fun r ds => kept (.step (.note ds)) fun stores => stores
      settle := fun r => kept (.settle r) (thinned_settle r).reduced.stores
      place := fun r => kept (.place r) (reduced_place r).stores
      turn := fun r phase => kept (.turn r phase) fun stores => stores }
  · rintro r op allow ⟨cached, stores⟩
    have changes := Steps.changes (Operation.steps (Promise.allows_none r op))
    exact ⟨changes.cached cached, stores_after settled cached stores op (takes r op allow)⟩

end

/-! ## 2. Lists that are read from handles -/

/-- The lists that a user has which count as resolved.

* `read`: the children or step-children of a bound node, in a run that is handed only such lists.
* `push`: such a list with children of `pushed` at its end. -/
inductive Drawn (pushed : Child → Prop) : ChildList → Prop
  | read {id : RepositoryId} {options : Options} {r : Repository} {node : NodeId} {b : Binding}
      (role : ChildRole)
      (run : LeadsTo (fun _ op => ∀ l ∈ op.takenLists, Drawn pushed l) (start id options) r)
      (bound : r.bindingOf? node = some b) : Drawn pushed (b.list role)
  | push {l : ChildList} {cs : List Child} (drawn : Drawn pushed l) (all : ∀ c ∈ cs, pushed c) :
      Drawn pushed (l.push cs)

variable {pushed : Child → Prop}

/-- A predicate that reading and pushing keep holds of all lists that are drawn. -/
theorem Drawn.least {A : ChildList → Prop} {l : ChildList} (drawn : Drawn pushed l)
    (read : ∀ {id options r node b} role, LeadsTo (fun _ op => op.Takes A) (start id options) r →
      r.bindingOf? node = some b → A (b.list role))
    (push : ∀ {l cs}, A l → (∀ c ∈ cs, pushed c) → A (l.push cs)) : A l :=
  -- The recursion goes through the run, in which the lists that an operation takes are drawn, too.
  @Drawn.rec pushed (fun l _ => A l) (fun r r' _ => LeadsTo (fun _ op => op.Takes A) r r')
    (fun role _ bound run => read role run bound) (fun _ all drawn => push drawn all)
    .refl (fun op _ _ run takes => .operation op run takes)
    (fun _ building passed run => .inHook run building passed)
    (fun hook location _ _ run hooked => .resolve hook location run hooked) l drawn

/-- What is in a list that is drawn is resolved, or was pushed. -/
theorem Drawn.members {l : ChildList} (drawn : Drawn pushed l) :
    ∀ c ∈ l.members, c.IsResolved ∨ pushed c := by
  refine drawn.least (A := fun l => ∀ c ∈ l.members, c.IsResolved ∨ pushed c)
    (fun {id options r node b} role run bound => ?_) fun {l cs} inside all => ?_
  · have stores := LeadsTo.stores (P := fun c => c.IsResolved ∨ pushed c) (fun _ => .inl) run
      (fun _ _ takes => takes) (orderly_start id options).cached (stores_start id options)
    intro c member
    refine stores node b bound c ?_
    cases role with
    | child => exact List.mem_append_left _ member
    | step => exact List.mem_append_right _ member
  · intro c member
    rw [ChildList.members_push, List.mem_append] at member
    exact member.elim (inside c) fun new => .inr (all c new)

/-- Whatever is stored that is not resolved was pushed onto a list that a user had read. -/
theorem Reachable.stores {allowed : Repository → Operation → Prop} (h : Reachable allowed r)
    (takes : ∀ r op, allowed r op → op.Takes (Drawn pushed)) :
    Stores (fun c => c.IsResolved ∨ pushed c) r := by
  obtain ⟨id, options, led⟩ := h
  exact led.stores (fun _ => .inl) (fun r op allow l member => (takes r op allow l member).members)
    (orderly_start id options).cached (stores_start id options)

/-! ## 3. After a resolve -/

end Repository

/-- The entry of a list was left empty, if its number is `-1`. -/
def Entry.Accounts (e : Entry) (number : Int) : Prop :=
  number = -1 → e.child = .empty

/-- The numbers of the children and step-children of a node are `-1` for empty places only. -/
structure ForestNode.Accounts (e : ForestNode) (n : Node) : Prop where
  steps : List.Forall₂ Entry.Accounts n.steps.entries e.steps
  list : ∀ numbers, e.children = .list numbers →
    List.Forall₂ Entry.Accounts n.children.entries numbers
  keyed : ∀ numbers, e.children = .keyed numbers → ∀ label, (label, -1) ∈ numbers →
    ∃ entry ∈ n.children.entries, entry.label.render = label ∧ entry.child = .empty

namespace Repository

variable {r r' : Repository} {roots : OrderedMap String NodeId}

/-- A node among the children has a number, so what has none was left empty. -/
theorem Settling.accounts_entry {p : Promise} (settling : Settling r r' roots) (sound : Sound p r)
    (complete : r.Complete) (stores : Stores Child.IsResolved r) {id : NodeId} {b : Binding}
    (live : r'.isLive id) (bound : r.bindingOf? id = some b) {entry : Entry}
    (member : entry.child ∈ b.members) :
    entry.Accounts (indexIn r'.liveIds entry.child) := by
  intro none
  have denotes := settling.denotes sound complete live bound member
  have resolved := stores id b bound _ member
  rw [Denotes] at denotes
  cases child : entry.child with
  | empty => rfl
  | node ref =>
    rw [child] at none denotes
    obtain ⟨_, _, _, _, _, positive, _, same⟩ := denotes
    omega
  | name | constant | pending | factory => rw [child] at resolved; exact resolved.elim

theorem Settling.accounts {p : Promise} (settling : Settling r r' roots) (sound : Sound p r)
    (complete : r.Complete) (stores : Stores Child.IsResolved r) {id : NodeId} {n : Node}
    (here : (r'.numbered roots).get? id = some n) {e : ForestNode}
    (shown : forestNode? n = some e) : e.Accounts n := by
  obtain ⟨b, bound, binding⟩ := settling.placed here
  obtain ⟨n₀, there, _⟩ := get?_numbered.mp here
  have accounts (entry : Entry) (member : entry.child ∈ b.members) :
      entry.Accounts (indexIn r'.liveIds entry.child) :=
    settling.accounts_entry sound complete stores (isLive_iff.mpr ⟨n₀, there⟩) bound member
  have all (es : List Entry) (inside : ∀ entry ∈ es, entry.child ∈ b.members) :
      List.Forall₂ Entry.Accounts es (es.map fun entry => indexIn r'.liveIds entry.child) := by
    rw [List.forall₂_map_right_iff, List.forall₂_same]
    exact fun entry member => accounts entry (inside entry member)
  have children (entry : Entry) (member : entry ∈ b.children.entries) : entry.child ∈ b.members :=
    List.mem_append_left _ (List.mem_map_of_mem member)
  have steps (entry : Entry) (member : entry ∈ b.steps.entries) : entry.child ∈ b.members :=
    List.mem_append_right _ (List.mem_map_of_mem member)
  rw [forestNode?_placed binding] at shown
  cases shown
  refine ⟨?_, fun numbers same => ?_, fun numbers same label member => ?_⟩
  · rw [Node.steps, binding]
    exact all _ steps
  · rw [Node.children, binding]
    simp only [childIndices] at same
    split at same <;> cases same
    exact all _ children
  · rw [Node.children, binding]
    simp only [childIndices] at same
    split at same <;> cases same
    obtain ⟨entry, inside, same⟩ := List.mem_map.mp (OrderedMap.mem_ofList member)
    obtain ⟨rfl, none⟩ := Prod.mk.inj same
    exact ⟨entry, inside, rfl, accounts entry (children entry inside) none⟩

/-- As long as only nodes and empty places are pushed onto lists read from handles, the children of
bound nodes are nodes and empty places, and a resolve turns none of them but the empty ones into
`-1`. -/
theorem resolved_of_reachable
    (reached : Reachable (fun r op => op.NamesAllocated r ∧ op.Takes (Drawn Child.IsResolved)) r) :
    (∀ id b, r.bindingOf? id = some b → ∀ c ∈ b.members, c.IsResolved) ∧
      ∀ hook, (hook = Hook.idle ∨ hook = Hook.mux) → ∀ location given r', r.phase = .building →
        (resolve hook location).exec r = (.ok given, r') →
          ∃ f, r'.forest = .ok f ∧ ∀ e ∈ f.nodes, ∃ id n,
            r'.get? id = some n ∧ forestNode? n = some e ∧ e.Accounts n := by
  have stores {s : Repository} (reached :
      Reachable (fun r op => op.NamesAllocated r ∧ op.Takes (Drawn Child.IsResolved)) s) :
      Stores Child.IsResolved s := by
    intro id b bound c member
    exact or_self_iff.mp (reached.stores (fun _ _ allow => allow.2) id b bound c member)
  refine ⟨stores reached, fun hook either location given r' building resolved => ?_⟩
  have sound := reached.sound (fun _ _ allow => Promise.allows_allocating _ _ allow.1) building
  obtain ⟨r₂, hooked, _, sound₂, complete, rfl⟩ :=
    numbered_of_resolve either sound building resolved
  -- The hook is public operations that take no list as it is, so it has led to no other children.
  have reached₂ := reached.trans (leadsTo_hook
    (fun r op named none => ⟨named, op.takes_of_nil none⟩) either location r)
  rw [hooked] at reached₂
  have settling := settling (sound₂.linked trivial) sound₂.names
  refine ⟨_, forest_numbered, fun e member => ?_⟩
  obtain ⟨id, n, here, shown⟩ := (mem_nodes_numbered forest_numbered).mp member
  exact ⟨id, n, here, shown, settling.accounts sound₂ complete (stores reached₂) here shown⟩

/-- A run that binds one node to another, with orphans for roots. -/
def negated : Repository :=
  let negate : Definition :=
    .ofParts (.standard "Negate") (.positional [.node ⟨⟨0⟩, ⟨0⟩⟩]) .nil []
  Operation.after (.bind ⟨1⟩ (.ok (.pending negate)) default)
    (Operation.after (.node .root "b" default)
      (Operation.after (.bind ⟨0⟩ (.ok (.pending (.bare (.standard "Leaf")))) default)
        (Operation.after (.node .root "a" default) (start ⟨0⟩ { orphansAreRoots := true }))))

/-- The children of a node as its handle gives them. -/
def childrenOf (r : Repository) (id : NodeId) : ChildList :=
  ((r.get? id).map (·.children)).getD .nil

/-- The children that were read there, with one more. -/
def pushedList (c : Child) : ChildList :=
  (negated.childrenOf ⟨1⟩).push [c]

/-- A further node takes this list. -/
def takePushed (c : Child) : Operation :=
  .bind ⟨2⟩ (.ok (.pending (.ofParts (.standard "Add") (pushedList c) .nil []))) default

def summed (c : Child) : Repository :=
  (takePushed c).after (Operation.after (.node .root "c" default) negated)

theorem leadsTo_negated {allowed : Repository → Operation → Prop}
    (fine : ∀ r (op : Operation), op.NamesAllocated r → op.takenLists = [] → allowed r op) :
    LeadsTo allowed (start ⟨0⟩ { orphansAreRoots := true }) negated := by
  refine .operation _ (.operation _ (.operation _ (.operation _ (.refl _) ?_) ?_) ?_) ?_
  all_goals
    refine fine _ _ ?_ rfl
    rw [Operation.NamesAllocated]
    decide +kernel

theorem drawn_pushedList {c : Child} {pushed : Child → Prop} (allowed : pushed c) :
    Drawn pushed (pushedList c) := by
  have bound : negated.isBound ⟨1⟩ := by decide +kernel
  obtain ⟨b, here⟩ := isBound_iff.mp bound
  obtain ⟨n, live, binding⟩ := Option.bind_eq_some_iff.mp here
  have same : negated.childrenOf ⟨1⟩ = b.list .child := by
    rw [childrenOf, live, Option.map_some, Option.getD_some, Node.children, binding]
    rfl
  rw [pushedList, same]
  refine .push (.read .child (leadsTo_negated fun r op _ none => op.takes_of_nil none) here) ?_
  simpa using allowed

theorem reachable_summed {c : Child} {pushed : Child → Prop} (allowed : pushed c)
    (named : (takePushed c).NamesAllocated (Operation.after (.node .root "c" default) negated)) :
    Reachable (fun r op => op.NamesAllocated r ∧ op.Takes (Drawn pushed)) (summed c) := by
  have flag : (negated.childrenOf ⟨1⟩).resolved = true := by decide +kernel
  have taken : (takePushed c).takenLists = [pushedList c] := by
    simp [takePushed, Operation.takenLists, Operation.arguments, Child.takenLists,
      Definition.ofParts, Definition.takenLists, ChildList.nil, ChildList.takenLists,
      Entry.allTakenLists, pushedList, ChildList.push, flag]
  have fine (r : Repository) (op : Operation) (named : op.NamesAllocated r)
      (none : op.takenLists = []) : op.NamesAllocated r ∧ op.Takes (Drawn pushed) :=
    ⟨named, op.takes_of_nil none⟩
  have before := LeadsTo.operation (.node .root "c" default) (leadsTo_negated fine)
    (fine _ _ (fun _ member => by cases member) rfl)
  refine ⟨⟨0⟩, _, .operation (takePushed c) before ⟨named, ?_⟩⟩
  intro l member
  rw [taken] at member
  exact List.mem_singleton.mp member ▸ drawn_pushedList allowed

theorem resolved_of_reachable_summed :
    Reachable (fun r op => op.NamesAllocated r ∧ op.Takes (Drawn Child.IsResolved))
        (summed .empty) ∧
      (summed .empty).phase = .building ∧
        Stores Child.IsResolved (summed .empty) ∧
          ∃ given r' f, (resolve Hook.idle default).exec (summed .empty) = (.ok given, r') ∧
            r'.forest = .ok f ∧ ∀ e ∈ f.nodes, ∃ id n,
              r'.get? id = some n ∧ forestNode? n = some e ∧ e.Accounts n := by
  have reached := @reachable_summed .empty Child.IsResolved trivial (by
    rw [Operation.NamesAllocated]
    decide +kernel)
  have building : (summed .empty).phase = .building := by decide +kernel
  have succeeds : ((resolve Hook.idle default).exec (summed .empty)).1.isOk := by decide +kernel
  obtain ⟨stores, after⟩ := resolved_of_reachable reached
  obtain ⟨given, resolved⟩ := exec_of_isOk succeeds
  obtain ⟨f, shown, accounts⟩ := after Hook.idle (.inl rfl) default given _ building resolved
  exact ⟨reached, building, stores, given, _, f, resolved, shown, accounts⟩

/-- A name that is pushed onto a list read from a handle stays a name, although a node of that name
is bound, and gets the number `-1` in the forest. -/
theorem not_resolved_summed :
    Reachable (fun r op => op.NamesAllocated r ∧ op.Takes (Drawn fun _ => True))
        (summed (.name "a")) ∧
      (summed (.name "a")).lookupBound? "a" = some ⟨0⟩ ∧
        ¬Stores Child.IsResolved (summed (.name "a")) ∧
          ∃ given r' f, (resolve Hook.idle default).exec (summed (.name "a")) = (.ok given, r') ∧
            r'.forest = .ok f ∧
              f.nodes.map (·.children) = [.list [], .list [1], .list [1, -1]] := by
  have reached := @reachable_summed (.name "a") (fun _ => True) trivial (by
    rw [Operation.NamesAllocated]
    decide +kernel)
  have stored : ((summed (.name "a")).bindingOf? ⟨2⟩).map
      (fun b => decide (∀ c ∈ b.members, c.IsResolved)) = some false := by decide +kernel
  have succeeds : ((resolve Hook.idle default).exec (summed (.name "a"))).1.isOk := by
    decide +kernel
  have shown : ((resolve Hook.idle default).exec (summed (.name "a"))).2.forest.toOption.map
      (·.nodes.map (·.children)) = some [.list [], .list [1], .list [1, -1]] := by decide +kernel
  have unresolved : ¬Stores Child.IsResolved (summed (.name "a")) := by
    intro stores
    obtain ⟨b, bound, found⟩ := Option.map_eq_some_iff.mp stored
    exact of_decide_eq_false found (stores ⟨2⟩ b bound)
  obtain ⟨given, resolved⟩ := exec_of_isOk succeeds
  obtain ⟨f, image, same⟩ := forest_of_toOption shown
  exact ⟨reached, by decide +kernel, unresolved, given, _, f, resolved, image, same⟩

end Repository

end NodeForest

import NodeForest.Proofs.Consistency
import NodeForest.Proofs.StoreResolve

/-!
# The pieces of a store agree

The name map, the fields of the slots, the nodes of shared constants, sinks, spigots and the mux are
written one by one, and what removes a node drops it from them only later. After every operation and
every resolve, whether it fails or not, they agree with each other.

Results:
1. `LeadsTo`, `Reached`: the runs of a store.
2. `LeadsTo.shows`, `reachable_iff`: the runs of stores show those of repositories, and all of them.
3. `Consistent`: how the pieces agree; `Intact.consistent`.
4. `consistent_of_reached`: all states that are reached.
-/

namespace NodeForest

open Procedure

/-- What a procedure does to one store, as an action that does so to every repository. -/
def Procedure.shown {α : Type} (p : Procedure α) (s : Store) : Action α :=
  ExceptT.mk fun _ => ((p.exec s).1, (p.exec s).2.view)

namespace Store

/-! ## 1. Runs -/

/-- `LeadsTo allowed s s'`: public operations, each allowed by what is shown where it is called,
lead from `s` to `s'`. As for repositories, an operation may fail, a hook is called once the
children have been checked, and a resolve may be with any hook that does what public operations
do. -/
inductive LeadsTo (allowed : Repository → Operation → Prop) : Store → Store → Prop
  | refl (s : Store) : LeadsTo allowed s s
  | operation {s s₁ : Store} (op : Operation) :
      LeadsTo allowed s s₁ → allowed s₁.view op → LeadsTo allowed s (op.perform.exec s₁).2
  | inHook {s s₁ s₂ : Store} : LeadsTo allowed s s₁ → s₁.state = .building →
      checkChildren.exec s₁ = (.ok (), s₂) → LeadsTo allowed s s₂
  | resolve {α : Type} {s s₁ : Store} (hook : Store.Hook α) (location : Location) :
      LeadsTo allowed s s₁ →
      (∀ s₂, s₁.state = .building → checkChildren.exec s₁ = (.ok (), s₂) →
        LeadsTo allowed s₂ ((hook location).exec s₂).2) →
      LeadsTo allowed s ((resolve hook location).exec s₁).2

/-- The stores that allowed operations lead to from a new one. -/
def Reached (allowed : Repository → Operation → Prop) (s : Store) : Prop :=
  ∃ id options, LeadsTo allowed (start id options) s

variable {allowed : Repository → Operation → Prop} {s s' : Store}

/-! ## 2. What a run shows -/

theorem view_start (id : RepositoryId) (options : Options) :
    (start id options).view = Repository.start id options := by
  rw [view, start, Array.map_empty]
  rfl

theorem intact_start (id : RepositoryId) (options : Options) : (start id options).Intact where
  names := by rw [nameMap_view]; rfl
  whole := fun _ _ here => by cases here

theorem phase_eq_building : s.view.phase = .building ↔ s.state = .building := by
  change s.phase = _ ↔ _
  rw [phase]
  cases s.state <;> simp

/-- The check of the children passes alike. -/
theorem Intact.checked {s₁ : Store} (intact : s.Intact)
    (passed : checkChildren.exec s = (.ok (), s₁)) :
    s₁.Intact ∧ Repository.reportUninitialized.exec s.view = (.ok (), s₁.view) :=
  (implements_checkChildren intact).ran passed

theorem Intact.exists_checked {r₁ : Repository} (intact : s.Intact)
    (passed : Repository.reportUninitialized.exec s.view = (.ok (), r₁)) :
    ∃ s₁, checkChildren.exec s = (.ok (), s₁) ∧ s₁.view = r₁ := by
  obtain ⟨_, outcome, view⟩ := implements_checkChildren intact
  rw [passed] at outcome view
  exact ⟨_, Prod.ext outcome rfl, view⟩

/-- What a run of an intact store shows is a run of the repository that the store shows. -/
theorem LeadsTo.shows (led : LeadsTo allowed s s') (intact : s.Intact) :
    s'.Intact ∧ Repository.LeadsTo allowed s.view s'.view := by
  induction led with
  | refl => exact ⟨intact, .refl _⟩
  | operation op _ allow ih =>
    obtain ⟨intact₁, led₁⟩ := ih intact
    obtain ⟨intact₂, _, view⟩ := op.implements intact₁
    rw [view]
    exact ⟨intact₂, .operation op led₁ allow⟩
  | inHook _ building passed ih =>
    obtain ⟨intact₁, led₁⟩ := ih intact
    obtain ⟨intact₂, passed'⟩ := intact₁.checked passed
    exact ⟨intact₂, .inHook led₁ (phase_eq_building.mpr building) passed'⟩
  | @resolve α s s₁ hook location _ _ ih hooked =>
    obtain ⟨intact₁, led₁⟩ := ih intact
    -- The hook is called on one store, if at all, so what it shows there may stand for it.
    let hook' : NodeForest.Hook α := fun location => (hook location).shown (checkChildren.exec s₁).2
    have done : Implements (Store.resolve hook location)
        (Repository.resolve hook' location) s₁ := by
      refine implements_resolve _ _ _ intact₁ fun s₂ building passed intact₂ => ?_
      have same : hook' location = (hook location).shown s₂ := by
        dsimp only [hook']
        rw [passed]
      rw [same]
      exact ⟨(hooked s₂ building passed intact₂).1, rfl, rfl⟩
    rw [done.view]
    refine ⟨done.intact, .resolve hook' location led₁ fun r₂ building passed' => ?_⟩
    obtain ⟨s₂, passed, rfl⟩ := intact₁.exists_checked passed'
    have led₂ := (hooked s₂ (phase_eq_building.mp building) passed (intact₁.checked passed).1).2
    have shown : hook' location = (hook location).shown s₂ := by
      dsimp only [hook']
      rw [passed]
    rw [shown]
    exact led₂

/-- Every run of the repository that an intact store shows is shown by a run of the store. -/
theorem exists_of_leadsTo {r r' : Repository} (led : Repository.LeadsTo allowed r r') :
    ∀ {s : Store}, s.Intact → s.view = r → ∃ s', LeadsTo allowed s s' ∧ s'.view = r' := by
  induction led with
  | refl => exact fun {s} _ same => ⟨s, .refl s, same⟩
  | operation op _ allow ih =>
    intro s intact same
    obtain ⟨s₁, led, rfl⟩ := ih intact same
    exact ⟨_, .operation op led allow, (op.implements (led.shows intact).1).view⟩
  | inHook _ building passed ih =>
    intro s intact same
    obtain ⟨s₁, led, rfl⟩ := ih intact same
    obtain ⟨s₂, passed', view⟩ := (led.shows intact).1.exists_checked passed
    exact ⟨s₂, .inHook led (phase_eq_building.mp building) passed', view⟩
  | @resolve α r r₁ hook location _ _ ih hooked =>
    intro s intact same
    obtain ⟨s₁, led, rfl⟩ := ih intact same
    have intact₁ := (led.shows intact).1
    -- If the hook is called, it is on one store, and there is a store that shows what it leaves.
    obtain ⟨s₃, leads⟩ : ∃ s₃, ∀ s₂, s₁.state = .building → checkChildren.exec s₁ = (.ok (), s₂) →
        LeadsTo allowed s₂ s₃ ∧ s₃.view = ((hook location).exec s₂.view).2 := by
      by_cases called : s₁.state = .building ∧ ∃ s₂, checkChildren.exec s₁ = (.ok (), s₂)
      · obtain ⟨building, s₂, passed⟩ := called
        obtain ⟨intact₂, passed'⟩ := intact₁.checked passed
        obtain ⟨s₃, led₃, view⟩ :=
          hooked _ (phase_eq_building.mpr building) passed' intact₂ rfl
        refine ⟨s₃, fun s₂' _ passed₂ => ?_⟩
        rw [passed] at passed₂
        cases passed₂
        exact ⟨led₃, view⟩
      · exact ⟨s₁, fun s₂ building passed => absurd ⟨building, s₂, passed⟩ called⟩
    let hook' : Store.Hook α := fun location => ExceptT.mk fun s₂ =>
      (((hook location).exec s₂.view).1, s₃)
    have done : Implements (Store.resolve hook' location)
        (Repository.resolve hook location) s₁ := by
      refine implements_resolve _ _ _ intact₁ fun s₂ building passed intact₂ => ?_
      obtain ⟨led₃, view⟩ := leads s₂ building passed
      exact ⟨(led₃.shows intact₂).1, rfl, view⟩
    refine ⟨_, .resolve hook' location led fun s₂ building passed => ?_, done.view⟩
    exact (leads s₂ building passed).1

/-- What is reached by stores shows all that is reached by repositories, and nothing else. -/
theorem reachable_iff {r : Repository} :
    Repository.Reachable allowed r ↔ ∃ s, Reached allowed s ∧ s.view = r := by
  constructor
  · rintro ⟨id, options, led⟩
    obtain ⟨s, led', view⟩ :=
      exists_of_leadsTo led (intact_start id options) (view_start id options)
    exact ⟨s, ⟨id, options, led'⟩, view⟩
  · rintro ⟨s, ⟨id, options, led⟩, rfl⟩
    have shown := (led.shows (intact_start id options)).2
    rw [view_start] at shown
    exact ⟨id, options, shown⟩

theorem Reached.intact (reached : Reached allowed s) : s.Intact := by
  obtain ⟨id, options, led⟩ := reached
  exact (led.shows (intact_start id options)).1

theorem Reached.reachable (reached : Reached allowed s) : Repository.Reachable allowed s.view :=
  reachable_iff.mpr ⟨s, reached, rfl⟩

/-! ## 3. Consistency -/

/-- The class that is written in the slot of a node. -/
def classOf? (s : Store) (id : NodeId) : Option String :=
  (s.get? id).bind (·.className)

/-- The pieces agree. -/
structure Consistent (s : Store) : Prop where
  /-- The map sends a name to the live node that has it; its order is that of the numbers. -/
  names : ∀ name id,
    OrderedMap.get? s.names name = some id ↔ ∃ slot, s.get? id = some slot ∧ slot.name = name
  keys : (OrderedMap.keys s.names).Nodup
  increasing : (OrderedMap.values s.names).Pairwise fun id id' => id.index < id'.index
  qualified : ∀ id slot, s.get? id = some slot → slot.name = qualifyName slot.basename slot.quals
  /-- A slot has a record, a class and a place where it was bound, or none of them. -/
  bound : ∀ id slot, s.get? id = some slot →
    (slot.record.isSome ↔ slot.className.isSome) ∧
      (slot.className.isSome ↔ slot.boundAt.isSome) ∧
      (slot.record = none → slot.children.entries = [] ∧ slot.steps.entries = [])
  sinks : s.sinks.Nodup ∧ ∀ id, id ∈ s.sinks ↔ s.classOf? id = some Repository.sinkClass
  spigots : s.spigots.Nodup ∧ ∀ id, id ∈ s.spigots ↔ s.classOf? id = some Repository.spigotClass
  mux : ∀ id, s.mux = some id → s.classOf? id = some Repository.muxClass
  /-- The nodes of constants are constants, and each is that of one key. -/
  constants : ∀ entry ∈ s.constants, s.classOf? entry.2 = some Repository.constantClass
  shared : ∀ entry ∈ s.constants, ∀ entry' ∈ s.constants, entry.2 = entry'.2 ↔ entry.1 = entry'.1

theorem Intact.classOf?_view (intact : s.Intact) (id : NodeId) :
    s.view.classOf? id = s.classOf? id := by
  rw [Repository.classOf?, Repository.bindingOf?, get?_view, classOf?]
  cases here : s.get? id with
  | none => rfl
  | some slot => exact (intact.whole id slot here).className?_node

/-- An intact store is consistent if what it shows is. -/
theorem Intact.consistent (intact : s.Intact) (names : s.view.DistinctNames)
    (consistent : s.view.Consistent) : s.Consistent where
  names := by
    intro name id
    rw [intact.names, Repository.get?_nameMap, Repository.lookup?_iff names, get?_view]
    constructor
    · rintro ⟨_, here, rfl⟩
      obtain ⟨slot, there, rfl⟩ := Option.map_eq_some_iff.mp here
      exact ⟨slot, there, rfl⟩
    · rintro ⟨slot, here, rfl⟩
      exact ⟨slot.node, by rw [here]; rfl, rfl⟩
  keys := by
    rw [intact.names]
    exact Repository.nodup_keys_nameMap names
  increasing := by
    rw [intact.values_names]
    exact Repository.pairwise_liveIds s.view
  qualified := by
    intro id slot here
    exact consistent.qualified id slot.node (get?_view_of_get? here)
  bound := by
    intro id slot here
    have whole := intact.whole id slot here
    rw [whole.className, whole.boundAt]
    refine ⟨Iff.rfl, Iff.rfl, fun unbound => ?_⟩
    obtain ⟨children, steps, _⟩ := whole.unbound unbound
    rw [children, steps]
    exact ⟨rfl, rfl⟩
  sinks := by
    refine ⟨consistent.sinks.1, fun id => ?_⟩
    rw [← intact.classOf?_view]
    exact consistent.sinks.2 id
  spigots := by
    refine ⟨consistent.spigots.1, fun id => ?_⟩
    rw [← intact.classOf?_view]
    exact consistent.spigots.2 id
  mux := by
    intro id here
    rw [← intact.classOf?_view]
    exact consistent.mux id here
  constants := by
    intro entry member
    rw [← intact.classOf?_view]
    exact consistent.constants entry member
  shared := consistent.shared

theorem Reached.consistent (reached : Reached allowed s) : s.Consistent :=
  reached.intact.consistent reached.reachable.names reached.reachable.consistent

/-! ## 4. All states that are reached -/

theorem implements_hook {hook : Store.Hook Unit} (either : hook = Hook.idle ∨ hook = Hook.mux)
    (location : Location) :
    ∃ hook' : NodeForest.Hook Unit, (hook' = NodeForest.Hook.idle ∨ hook' = NodeForest.Hook.mux) ∧
      ∀ s : Store, s.Intact → Implements (hook location) (hook' location) s := by
  rcases either with rfl | rfl
  · exact ⟨_, .inl rfl, fun _ intact => .pure intact _⟩
  · exact ⟨_, .inr rfl, fun _ intact => implements_mux location intact⟩

/-- In every state that operations and resolves lead to, and after a further resolve, whether it
fails or not, the pieces of the store agree. A removed node is never live again. Sinks and spigots
are listed in the order in which they were bound: those that are bound from here on come after those
that are there, and however the changes so far are taken one by one, the nodes that they bind are
listed in their order. -/
theorem consistent_of_reached (reached : Reached (fun _ _ => True) s) :
    s.Consistent ∧
      (∀ hook, (hook = Hook.idle ∨ hook = Hook.mux) → ∀ location,
        ((resolve hook location).exec s).2.Consistent) ∧
      (∀ s', LeadsTo (fun _ _ => True) s s' →
        (∀ id : NodeId, id.index < s.slots.size → ¬s.isLive id → ¬s'.isLive id) ∧
          s'.sinks = s.sinks.filter s'.isLive ++ s'.sinks.filter (!s.isBound ·) ∧
          s'.spigots = s.spigots.filter s'.isLive ++ s'.spigots.filter (!s.isBound ·)) ∧
      (∃ order, Repository.Course s.view order) ∧
      ∀ order, Repository.Course s.view order →
        (s.sinks = order.filter fun id => s.classOf? id = some Repository.sinkClass) ∧
          s.spigots = order.filter fun id => s.classOf? id = some Repository.spigotClass := by
  have intact := reached.intact
  have reachable := reached.reachable
  refine ⟨reached.consistent, fun hook either location => ?_, fun s' led => ?_, reachable.course,
    fun order course => ?_⟩
  · obtain ⟨hook', either', same⟩ := implements_hook either location
    have done := implements_resolve hook hook' location intact fun s₁ _ _ => same s₁
    have reachable' := reachable.resolve (fun _ _ _ => trivial) either' location
    rw [← done.view] at reachable'
    exact done.intact.consistent reachable'.names reachable'.consistent
  · have led' := (led.shows intact).2
    have later := led'.listed reachable
    rw [funext s'.isLive_view, funext s.isBound_view] at later
    refine ⟨fun id given dead => ?_, later⟩
    rw [← isLive_view] at dead ⊢
    rw [← nodes_size_view] at given
    have changes := led'.changes fun r op _ => Promise.allows_none r op
    exact Repository.Changes.notLive changes given dead
  · have noted := course.orderly.noted
    simp only [← intact.classOf?_view]
    exact ⟨noted.sinks, noted.spigots⟩

/-- A new store after operations. -/
def afterAll (operations : List Operation) : Store :=
  operations.foldl (fun s op => (op.perform.exec s).2) (start ⟨0⟩ {})

theorem reached_afterAll (operations : List Operation) :
    Reached (fun _ _ => True) (afterAll operations) := by
  suffices runs : ∀ s, Reached (fun _ _ => True) s → Reached (fun _ _ => True)
      (operations.foldl (fun s op => (op.perform.exec s).2) s) from
    runs _ ⟨⟨0⟩, {}, .refl _⟩
  induction operations with
  | nil => exact fun _ reached => reached
  | cons op operations ih =>
    rintro s ⟨id, options, led⟩
    exact ih _ ⟨id, options, .operation op led trivial⟩

/-- A held sink with a constant, a spigot, and a sum that cannot be bound, as one of its terms is
missing: what was made for the other term is still there. -/
def torn : Store :=
  let sink : Definition :=
    .ofParts (.standard "Sink") (.positional [.constant (.real (.zero false))]) .nil []
  let sum : Definition := .ofParts (.standard "Add")
    (.positional [.constant (.complex (.zero false) (.zero false)), .name "missing"]) .nil []
  afterAll [.node .root "out" default, .bind ⟨0⟩ (.ok (.pending sink)) default, .hold ⟨0⟩,
    .bindAnonymous .root (.pending (.bare (.standard "Spigot"))) default,
    .node .root "sum" default, .bind ⟨3⟩ (.ok (.pending sum)) default]

/-- A resolve fails on it, after it has removed what nothing refers to. -/
theorem consistent_of_reached_torn :
    Reached (fun _ _ => True) torn ∧ torn.errors.length = 1 ∧
      torn.names = [("out", ⟨0⟩), ("c0.0", ⟨1⟩), ("(spigot)", ⟨2⟩), ("sum", ⟨3⟩),
        ("c(0.0+0.0j)", ⟨4⟩)] ∧
      torn.sinks = [⟨0⟩] ∧ torn.spigots = [⟨2⟩] ∧ torn.constants.length = 2 ∧ torn.Consistent ∧
      ∃ s, (resolve Hook.idle default).exec torn = (.error (.cumulative torn.errors), s) ∧
        s.names = [("out", ⟨0⟩), ("c0.0", ⟨1⟩)] ∧ s.sinks = [⟨0⟩] ∧ s.spigots = [] ∧
        s.constants = [(.real (.zero false), ⟨1⟩)] ∧ s.Consistent ∧ ¬s.isLive ⟨2⟩ ∧
        (∀ s', LeadsTo (fun _ _ => True) s s' → ¬s'.isLive ⟨2⟩) ∧
        ∃ order, Repository.Course torn.view order ∧
          torn.sinks = order.filter fun id => torn.classOf? id = some Repository.sinkClass := by
  have reached : Reached (fun _ _ => True) torn := reached_afterAll _
  have reached' : Reached (fun _ _ => True) ((resolve Hook.idle default).exec torn).2 := by
    obtain ⟨id, options, led⟩ := reached
    exact ⟨id, options, .resolve Hook.idle default led fun s₂ _ _ => .refl s₂⟩
  obtain ⟨consistent, resolved, _, ⟨order, course⟩, ordered⟩ := consistent_of_reached reached
  have later := fun s' led => ((consistent_of_reached reached').2.2.1 s' led).1 ⟨2⟩
  -- What the resolve comes to is computed on the repository that is shown.
  obtain ⟨intact, outcome, view⟩ := implements_resolve Hook.idle NodeForest.Hook.idle default
    reached.intact fun s₁ _ _ intact₁ => .pure intact₁ _
  replace resolved := resolved Hook.idle (.inl rfl) default
  generalize (resolve Hook.idle default).exec torn = ran at *
  have failed : ran.1 = .error (.cumulative torn.errors) := outcome.trans (by decide +kernel)
  have names : ran.2.names = [("out", ⟨0⟩), ("c0.0", ⟨1⟩)] := by
    rw [intact.names, view]
    decide +kernel
  have sinks : ran.2.sinks = [⟨0⟩] := (congrArg Repository.sinks view).trans (by decide +kernel)
  have spigots : ran.2.spigots = [] := (congrArg Repository.spigots view).trans (by decide +kernel)
  have constants : ran.2.constants = [(.real (.zero false), ⟨1⟩)] :=
    (congrArg Repository.constants view).trans (by decide +kernel)
  have size : ran.2.slots.size = 5 := by
    rw [← nodes_size_view, view]
    decide +kernel
  have dead : ¬ran.2.isLive ⟨2⟩ := by
    rw [← isLive_view, view]
    decide +kernel
  exact ⟨reached, by decide +kernel, by decide +kernel, by decide +kernel, by decide +kernel,
    by decide +kernel, consistent, ran.2, Prod.ext failed rfl, names, sinks, spigots, constants,
    resolved, dead, fun s' led => later s' led (by rw [size]; decide) dead, order, course,
    (ordered order course).1⟩

end Store

end NodeForest

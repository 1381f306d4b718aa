import NodeForest.Definition.Arithmetic
import NodeForest.Definition.Builder
import NodeForest.Proofs.Origin
import NodeForest.Proofs.Untouched

/-!
# Records tell the truth

Some fields of a record say what its node is: its class, its name, its number, and the numbers of
its children and step-children. A resolve writes the name and the number always, the children only
when there are any, and the class never. So the fields are right as long as they come from nowhere
else: definitions name their class and bring no lists of their own where they have no children,
which holds of all that a builder makes, and the fields that the repository owns are not set as
options.

Results:
1. `ForestNode.Truthful`: the fields say what the node is.
2. `Definition.Honest`, `honest_of_build`: definitions that can be trusted; `Operation.Honest`.
3. `honest_placeBinding`, `Deeds.honest`: numbering makes records tell the truth, and operations
   keep them so.
4. `records_truthful`: every forest; `not_records_truthful_renamed`: fields that are set as options
   stay as they are.
-/

namespace NodeForest

open Relation NodeForest.Action Repository

/-! ## 1. Truthful records -/

/-- The record says of the node its class, its name, its number, and the numbers of its children and
step-children, if it has any. -/
structure ForestNode.Truthful (e : ForestNode) : Prop where
  className : OrderedMap.get? e.record Record.classKey = some (.text e.className)
  name : OrderedMap.get? e.record nameKey = some (.text e.name)
  index : OrderedMap.get? e.record indexKey = some (.int e.index)
  children : OrderedMap.get? e.record childrenKey =
    if e.children.isEmpty then none else some (ChildIndices.toValue e.children)
  steps : OrderedMap.get? e.record stepsKey =
    if e.steps.isEmpty then none else some (indexList e.steps)

/-! ## 2. Trusted definitions -/

/-- The record names the class, and no children or step-children where there are none. -/
structure Definition.Honest (d : Definition) : Prop where
  classKey : OrderedMap.get? d.record Record.classKey = some (.text d.nodeClass.fullName)
  children : d.children.isEmpty → OrderedMap.get? d.record childrenKey = none
  steps : d.steps.isEmpty → OrderedMap.get? d.record stepsKey = none

theorem Definition.honest_ofParts (nodeClass : NodeClass) (children steps : ChildList)
    {record : Record} (hc : OrderedMap.get? record childrenKey = none)
    (hs : OrderedMap.get? record stepsKey = none) :
    (Definition.ofParts nodeClass children steps record).Honest where
  classKey := Definition.get?_classKey_ofParts nodeClass children steps record
  children := by
    intro _
    rw [Definition.ofParts, OrderedMap.get?_insert, if_neg (by decide), hc]
  steps := by
    intro _
    rw [Definition.ofParts, OrderedMap.get?_insert, if_neg (by decide), hs]

theorem Definition.honest_ofConstant (value : Constant) : (Definition.ofConstant value).Honest :=
  honest_ofParts _ _ _ rfl rfl

/-- No field that the repository owns has been set. -/
def Builder.SparesReserved (b : Builder) : Prop :=
  ∀ key ∈ reservedFields, OrderedMap.get? b.fields key = none

namespace Builder

theorem SparesReserved.setField {b : Builder} (spares : b.SparesReserved) {key : String}
    (free : key ∉ reservedFields) (value : Value) : (b.setField key value).SparesReserved := by
  intro reserved member
  have other : reserved ≠ key := fun same => free (same ▸ member)
  rw [Builder.setField, OrderedMap.get?_insert, if_neg (by simpa using other)]
  exact spares reserved member

theorem SparesReserved.setTags {b : Builder} (spares : b.SparesReserved) (value : Value) :
    (b.setTags value).SparesReserved := by
  unfold Builder.setTags
  dsimp only
  split
  · exact spares.setField (by decide) _
  · exact spares

theorem SparesReserved.setGroups {b : Builder} (spares : b.SparesReserved) (value : Value) :
    (b.setGroups value).SparesReserved := by
  unfold Builder.setGroups
  split
  · exact spares.setField (by decide) _
  · exact spares

theorem SparesReserved.apply {b : Builder} (spares : b.SparesReserved) (call : BuilderCall) :
    (b.apply call).SparesReserved := by
  cases call with
  | child c | keyedChild _ c | step c => cases c <;> exact spares
  | children l => exact spares
  | steps l =>
    rw [Builder.apply]
    split <;> exact spares
  | field key value =>
    rw [Builder.apply]
    split
    · exact spares.setTags value
    · split
      · exact spares.setGroups value
      · split
        · exact spares
        · rename_i free
          exact spares.setField free value
  | tags value => exact spares.setTags value
  | groups value => exact spares.setGroups value

theorem SparesReserved.foldl {b : Builder} (spares : b.SparesReserved) (calls : List BuilderCall) :
    (calls.foldl Builder.apply b).SparesReserved := by
  induction calls generalizing b with
  | nil => exact spares
  | cons call rest ih => exact ih (spares.apply call)

end Builder

/-- A builder refuses the fields that the repository owns, so what it makes can be trusted. -/
theorem Definition.honest_of_build {nodeClass : NodeClass} {location : Location}
    {calls : List BuilderCall} {d : Definition} (built : build nodeClass location calls = .ok d) :
    d.Honest := by
  have spares : (calls.foldl Builder.apply { nodeClass, location }).SparesReserved :=
    Builder.SparesReserved.foldl (fun _ _ => rfl) calls
  unfold Definition.build Builder.finish at built
  split at built
  · cases built
  · split at built
    · cases built
    · split at built
      · cases built
      · cases built
        exact honest_ofParts _ _ _ (spares _ (by decide)) (spares _ (by decide))

/-- The definitions handed in can be trusted, and no field that the repository owns is set. -/
structure Operation.Honest (op : Operation) : Prop where
  definitions : ∀ d ∈ op.definitions, d.Honest
  options : ∀ {id options location}, op = .setOptions id options location →
    ∀ field ∈ options, field.1 ∉ reservedFields

/-! ## 3. Truth is kept -/

/-- The entry of a node of this name with a number. -/
def Binding.shown (b : Binding) (name : String) (p : Placement) : ForestNode :=
  { index := p.index, name, className := b.className, record := b.record, children := p.children,
    steps := p.steps }

/-- The definition of a node of this name can be trusted, and its record tells the truth once it is
numbered. -/
structure Binding.Honest (b : Binding) (name : String) : Prop where
  classKey : OrderedMap.get? b.record Record.classKey = some (.text b.className)
  children : b.children.isEmpty → OrderedMap.get? b.record childrenKey = none
  steps : b.steps.isEmpty → OrderedMap.get? b.record stepsKey = none
  placed : ∀ p, b.placement = some p → (b.shown name p).Truthful

theorem Binding.Realizes.honest {b : Binding} {d : Definition} (realizes : b.Realizes d)
    (honest : d.Honest) (fresh : b.placement = none) (name : String) : b.Honest name := by
  have fields (key : String) (other : key ≠ Record.classKey) :
      OrderedMap.get? b.record key = OrderedMap.get? d.record key := by
    rcases realizes.record with same | same
    · rw [same]
    · rw [same, OrderedMap.get?_insert, if_neg (by simpa using other)]
  refine ⟨?_, fun empty => ?_, fun empty => ?_, fun p placed => ?_⟩
  · rcases realizes.record with same | same
    · rw [same, honest.classKey, realizes.className]
    · rw [same, OrderedMap.get?_insert, if_pos (beq_self_eq_true _), realizes.className]
  · rw [fields _ (by decide), honest.children (realizes.children.isEmpty ▸ empty)]
  · rw [fields _ (by decide), honest.steps (realizes.steps.isEmpty ▸ empty)]
  · rw [fresh] at placed
    cases placed

/-- Further children do not show in a record that has been written. -/
theorem Binding.Honest.extendBinding {b : Binding} {name : String} (honest : b.Honest name)
    (role : ChildRole) (cs : List Child) : (Repository.extendBinding role cs b).Honest name := by
  have shrinks {l : ChildList} (empty : (l.push cs).isEmpty) : l.isEmpty := by
    have none := List.append_eq_nil_iff.mp (List.isEmpty_iff.mp empty)
    exact List.isEmpty_iff.mpr none.1
  cases role with
  | child =>
    exact ⟨honest.classKey, fun empty => honest.children (shrinks empty), honest.steps,
      honest.placed⟩
  | step =>
    exact ⟨honest.classKey, honest.children, fun empty => honest.steps (shrinks empty),
      honest.placed⟩

theorem Binding.Honest.insertAll {b : Binding} {name : String} (honest : b.Honest name)
    {options : List (String × Value)} (free : ∀ field ∈ options, field.1 ∉ reservedFields) :
    ({ b with record := OrderedMap.insertAll b.record options } : Binding).Honest name := by
  have same (key : String) (reserved : key ∈ reservedFields) :
      OrderedMap.get? (OrderedMap.insertAll b.record options) key =
        OrderedMap.get? b.record key := by
    refine OrderedMap.get?_insertAll_of_not_mem b.record fun member => ?_
    obtain ⟨field, inside, rfl⟩ := List.mem_map.mp member
    exact free field inside reserved
  refine ⟨?_, fun empty => ?_, fun empty => ?_, fun p placed => ?_⟩
  · exact (same _ (by decide)).trans honest.classKey
  · exact (same _ (by decide)).trans (honest.children empty)
  · exact (same _ (by decide)).trans (honest.steps empty)
  · have truthful := honest.placed p placed
    exact {
      className := (same _ (by decide)).trans truthful.className
      name := (same _ (by decide)).trans truthful.name
      index := (same _ (by decide)).trans truthful.index
      children := (same _ (by decide)).trans truthful.children
      steps := (same _ (by decide)).trans truthful.steps }

namespace Repository

theorem isEmpty_childIndices_iff {ids : List NodeId} {l : ChildList} :
    (childIndices ids l).isEmpty ↔ l.isEmpty := by
  refine ⟨fun empty => ?_, isEmpty_childIndices⟩
  unfold childIndices at empty
  rw [ChildList.isEmpty]
  split at empty
  · rw [ChildIndices.isEmpty, ChildIndices.toList, OrderedMap.values, List.isEmpty_map,
      OrderedMap.isEmpty_ofList, List.isEmpty_map] at empty
    exact empty
  · rw [ChildIndices.isEmpty, ChildIndices.toList, indicesOf, List.isEmpty_map] at empty
    exact empty

theorem isEmpty_indicesOf_iff {ids : List NodeId} {l : ChildList} :
    (indicesOf ids l).isEmpty ↔ l.isEmpty := by
  rw [indicesOf, List.isEmpty_map, ChildList.isEmpty]

/-- The fields that a resolve writes, each under its own key. -/
theorem get?_placedFields (n : Node) (className : String) (p : Placement) :
    OrderedMap.get? (placedFields n className p).reverse indexKey = some (.int p.index) ∧
      OrderedMap.get? (placedFields n className p).reverse nameKey = some (.text n.name) ∧
      OrderedMap.get? (placedFields n className p).reverse Record.classKey = none ∧
      OrderedMap.get? (placedFields n className p).reverse childrenKey =
        (if p.children.isEmpty then none else some (ChildIndices.toValue p.children)) ∧
      OrderedMap.get? (placedFields n className p).reverse stepsKey =
        if p.steps.isEmpty then none else some (indexList p.steps) := by
  unfold placedFields
  cases p.children.isEmpty <;> cases p.steps.isEmpty <;> exact ⟨rfl, rfl, rfl, rfl, rfl⟩

theorem honest_placeBinding {b : Binding} {n : Node} (honest : b.Honest n.name)
    (ids : List NodeId) (i : Nat) : (placeBinding ids i n b).Honest n.name := by
  let p : Placement :=
    { index := i + 1, children := childIndices ids b.children, steps := indicesOf ids b.steps }
  obtain ⟨index, name, className, children, steps⟩ := get?_placedFields n b.className p
  have written (key : String) : OrderedMap.get? (placeBinding ids i n b).record key =
      (OrderedMap.get? (placedFields n b.className p).reverse key).or
        (OrderedMap.get? b.record key) :=
    OrderedMap.get?_insertAll b.record key
  have classKey : OrderedMap.get? (placeBinding ids i n b).record Record.classKey =
      some (.text b.className) := by
    rw [written, className, Option.none_or, honest.classKey]
  -- Where there are no children, nothing is written, and there was nothing before.
  have children' : OrderedMap.get? (placeBinding ids i n b).record childrenKey =
      if p.children.isEmpty then none else some (ChildIndices.toValue p.children) := by
    rw [written, children]
    split
    · rename_i empty
      rw [Option.none_or, honest.children (isEmpty_childIndices_iff.mp empty)]
    · rfl
  have steps' : OrderedMap.get? (placeBinding ids i n b).record stepsKey =
      if p.steps.isEmpty then none else some (indexList p.steps) := by
    rw [written, steps]
    split
    · rename_i empty
      rw [Option.none_or, honest.steps (isEmpty_indicesOf_iff.mp empty)]
    · rfl
  refine ⟨classKey, fun empty => ?_, fun empty => ?_, fun q placed => ?_⟩
  · exact children'.trans (if_pos (isEmpty_childIndices empty))
  · exact steps'.trans (if_pos (isEmpty_indicesOf empty))
  · obtain rfl : p = q := Option.some.inj placed
    exact ⟨classKey, by rw [Binding.shown, written, name]; rfl,
      by rw [Binding.shown, written, index]; rfl, children', steps'⟩

/-! ### Runs -/

/-- All definitions can be trusted. -/
def Honest (r : Repository) : Prop :=
  ∀ {id n b}, r.get? id = some n → n.binding = some b → b.Honest n.name

variable {r r' : Repository} {op : Operation}

theorem honest_start (id : RepositoryId) (options : Options) : (start id options).Honest := by
  intro node n b here
  cases here

theorem Deed.honest (h : Deed op r r') (allowed : op.Honest) (honest : r.Honest) : r'.Honest := by
  intro id n' b' here bound
  have old {b : Binding} (was : r.bindingOf? id = some b) : b.Honest n'.name := by
    obtain ⟨n, there, had⟩ := Option.bind_eq_some_iff.mp was
    obtain ⟨n'', here', grows⟩ := h.step.grows there
    obtain rfl : n'' = n' := Option.some.inj (here'.symm.trans here)
    exact grows.name ▸ honest there had
  cases h.bindingOrigin (by rw [bindingOf?_of_get? here, bound]) with
  | old was => exact old was
  | extended cs asked was => exact (old was).extendBinding _ cs
  | fields asked was => exact (old was).insertAll (allowed.options asked)
  | attached given realizes fresh =>
    rcases given with member | ⟨value, rfl⟩
    · exact realizes.honest (allowed.definitions _ member) fresh _
    · exact realizes.honest (Definition.honest_ofConstant value) fresh _

theorem Deeds.honest (h : Deeds op r r') (allowed : op.Honest) (honest : r.Honest) :
    r'.Honest := by
  induction h with
  | refl => exact honest
  | tail _ last ih => exact last.honest allowed ih

theorem covers_honest : Covers fun r r' => r.Honest → r'.Honest where
  note := fun _ _ honest => honest
  turn := fun _ _ honest => honest
  settle := by
    intro r honest id n' b here bound
    obtain ⟨n, there, same⟩ := (thinned_settle r).node here
    have had : n.binding = some b := by rw [same] at bound; exact bound
    have named : n'.name = n.name := by rw [same]
    exact named ▸ honest there had
  place := by
    intro r honest id n' b' here bound
    rw [get?_place] at here
    obtain ⟨n, there, rfl⟩ := Option.map_eq_some_iff.mp here
    obtain ⟨b, was, rfl⟩ := Option.map_eq_some_iff.mp bound
    exact honest_placeBinding (honest there was) _ _

theorem Reachable.honest (h : Reachable (fun _ op => op.Honest) r) : r.Honest := by
  obtain ⟨id, options, led⟩ := h
  exact led.kept covers_honest (fun _ op allowed honest => (op.deeds _).honest allowed honest)
    (honest_start id options)

/-! ## 4. Forests -/

theorem forest_of_isResolved (resolved : r.isResolved) : ∃ f, r.forest = .ok f ∧
    ∀ e ∈ f.nodes, ∃ id n, r.get? id = some n ∧ forestNode? n = some e := by
  unfold isResolved at resolved
  split at resolved
  · rename_i roots phase
    refine ⟨⟨r.entries.filterMap fun entry => forestNode? entry.2, OrderedMap.keys roots⟩, ?_, ?_⟩
    · rw [forest, roots?, phase]
      rfl
    · intro e member
      obtain ⟨⟨id, n⟩, here, shown⟩ := List.mem_filterMap.mp member
      exact ⟨id, n, mem_entries.mp here, shown⟩
  · cases resolved

/-- In a run in which definitions bring no fields of the repository's own but their class, and none
is set as an option, the record of every node of the forest tells the truth. -/
theorem records_truthful (reached : Reachable (fun _ op => op.Honest) r)
    (resolved : r.isResolved) : ∃ f, r.forest = .ok f ∧ ∀ e ∈ f.nodes, e.Truthful := by
  obtain ⟨f, image, nodes⟩ := forest_of_isResolved resolved
  refine ⟨f, image, fun e member => ?_⟩
  obtain ⟨id, n, here, shown⟩ := nodes e member
  obtain ⟨b, bound, shown⟩ := Option.bind_eq_some_iff.mp shown
  obtain ⟨p, placed, given⟩ := Option.bind_eq_some_iff.mp shown
  cases given
  exact (reached.honest here bound).placed p placed

/-- A keyed sum over a leaf and an empty place, with a nested definition as a step-child. -/
def keyedSum : Definition :=
  .ofParts (.standard "Compounder") (.ofKeyed [("first", .node ⟨⟨0⟩, ⟨0⟩⟩), ("rest", .empty)])
    (.positional [.pending (.unary .negate (.name "a"))]) []

/-- A resolved run that binds such a sum, gives it a further child, and sets an option. -/
def tagged : Repository :=
  ((resolve Hook.idle default).exec
    (Operation.after (.setOptions ⟨1⟩ [(Record.tagsKey, .text "x")] default)
      (Operation.after (.extend .child ⟨1⟩ [.name "a"] default)
        (Operation.after (.bind ⟨1⟩ (.ok (.pending keyedSum)) default)
          (Operation.after (.node .root "b" default) loneLeaf))))).2

theorem honest_of_none {op : Operation} (none : op.definitions = [])
    (other : ∀ {id options location}, op ≠ .setOptions id options location) : op.Honest where
  definitions := by
    intro d member
    rw [none] at member
    cases member
  options := fun same => absurd same other

theorem honest_bind {id : NodeId} {d : Definition} {location : Location}
    (honest : ∀ d' ∈ d :: d.inner, d'.Honest) :
    Operation.Honest (.bind id (.ok (.pending d)) location) where
  definitions := honest
  options := fun same => by cases same

theorem reachable_tagged : Reachable (fun _ op => op.Honest) tagged := by
  have leaf : Operation.Honest (.bind ⟨0⟩ (.ok (.pending (.bare (.standard "Leaf")))) default) :=
    honest_bind (List.forall_mem_singleton.mpr (Definition.honest_ofParts _ _ _ rfl rfl))
  have sum : Operation.Honest (.bind ⟨1⟩ (.ok (.pending keyedSum)) default) :=
    honest_bind (List.forall_mem_cons.mpr ⟨Definition.honest_ofParts _ _ _ rfl rfl,
      List.forall_mem_singleton.mpr (Definition.honest_ofParts _ _ _ rfl rfl)⟩)
  refine ⟨⟨0⟩, { orphansAreRoots := true }, .resolve Hook.idle default (.operation _ (.operation _
    (.operation _ (.operation _ (.operation _ (.operation _ (.refl _) ?_) leaf) ?_) sum) ?_) ?_)
      fun r _ _ => .refl r⟩
  · exact honest_of_none rfl (by simp)
  · exact honest_of_none rfl (by simp)
  · exact honest_of_none rfl (by simp)
  · refine ⟨fun d member => (by cases member), fun {id options location} same field member => ?_⟩
    cases same
    obtain rfl := List.mem_singleton.mp member
    decide

theorem records_truthful_tagged : Reachable (fun _ op => op.Honest) tagged ∧ tagged.isResolved ∧
    ∃ f, tagged.forest = .ok f ∧ f.nodes.map (·.name) = ["a", "b", "negate(a)"] ∧
      ∀ e ∈ f.nodes, e.Truthful := by
  have resolved : tagged.isResolved := by decide +kernel
  have shown : tagged.forest.toOption.map (·.nodes.map (·.name)) =
      some ["a", "b", "negate(a)"] := by decide +kernel
  obtain ⟨f, image, truthful⟩ := records_truthful reachable_tagged resolved
  obtain ⟨f', image', names⟩ := forest_of_toOption shown
  obtain rfl : f' = f := Except.ok.inj (image'.symm.trans image)
  exact ⟨reachable_tagged, resolved, f', image, names, truthful⟩

/-- A resolved run that sets the class and the children of a leaf as options. -/
def renamed : Repository :=
  ((resolve Hook.idle default).exec
    (Operation.after
      (.setOptions ⟨0⟩ [(Record.classKey, .text "MeqOther"), (childrenKey, .int 7)] default)
      loneLeaf)).2

/-- The record says of the leaf that it is of the other class and has children. -/
theorem not_records_truthful_renamed :
    Reachable Operation.NamesAllocated renamed ∧ renamed.isResolved ∧
      ∃ f e, renamed.forest = .ok f ∧ f.nodes = [e] ∧ e.className = "MeqLeaf" ∧
        (OrderedMap.get? e.record Record.classKey).bind Value.asText? = some "MeqOther" ∧
          e.children.isEmpty ∧
            (OrderedMap.get? e.record childrenKey).bind Value.asInt? = some 7 ∧ ¬e.Truthful := by
  have reached : Reachable Operation.NamesAllocated renamed := by
    obtain ⟨id, options, led⟩ := reachable_loneLeaf
    refine ⟨id, options, .resolve Hook.idle default (.operation _ led ?_) fun r _ _ => .refl r⟩
    exact fun c member => by cases member
  have resolved : renamed.isResolved := by decide +kernel
  have shown : renamed.forest.toOption.map (·.nodes.map fun e =>
      (e.className, (OrderedMap.get? e.record Record.classKey).bind Value.asText?,
        e.children.isEmpty, (OrderedMap.get? e.record childrenKey).bind Value.asInt?)) =
      some [("MeqLeaf", some "MeqOther", true, some 7)] := by decide +kernel
  obtain ⟨f, image, same⟩ := forest_of_toOption shown
  obtain ⟨e, nodes, same⟩ := List.map_eq_singleton_iff.mp same
  simp only [Prod.mk.injEq] at same
  obtain ⟨className, written, empty, children⟩ := same
  refine ⟨reached, resolved, f, e, image, nodes, className, written, empty, children, ?_⟩
  intro truthful
  rw [truthful.className, className] at written
  exact absurd written (by decide)

end Repository

end NodeForest

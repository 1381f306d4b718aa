import NodeForest.Proofs.Cycles
import NodeForest.Proofs.Punctuation
import NodeForest.Proofs.Untouched

/-!
# The labels of keyed children

A resolve flattens the labels of a keyed list to texts and makes a map of them, in which a text that
comes again overwrites what it stood for. So a node keeps an entry for each of its children exactly
when the texts of their labels are distinct. Keys are chosen by hand, and children that are added
later are labelled with the next positions, so the texts stay distinct when the keys do and none of
them is the text of a position that is still to come.

Results:
1. `ChildList.Shown`, `shown_childIndices`: the map shows every entry exactly when the texts are
   distinct.
2. `ChildList.LabelsFree`, `LabelsFree.push`: labels that stay distinct.
3. `Deeds.labelsFree`, `Reachable.labelsFree`: operations and resolves keep them so.
4. `keyed_children_shown`: every successful resolve; `not_keyed_children_shown_repeated`: a key that
   is given twice, and one that is a position.
-/

namespace NodeForest

open Relation NodeForest.Action Repository

/-! ## 1. Maps of labels -/

namespace ChildList

/-- The texts of the labels, in order. -/
def texts (l : ChildList) : List String :=
  l.labels.map Label.render

/-- The map has an entry for each child of the list, in the same order: under the text of its label,
the number that stands for it. -/
structure Shown (l : ChildList) (r : Repository) (m : OrderedMap String Int) : Prop where
  keys : OrderedMap.keys m = l.texts
  numbers : List.Forall₂ r.Denotes l.entries (OrderedMap.values m)

theorem length_texts (l : ChildList) : l.texts.length = l.length := by
  rw [texts, labels, List.length_map, List.length_map, length]

theorem SameForm.texts {l l' : ChildList} (h : l.SameForm l') : l'.texts = l.texts := by
  rw [ChildList.texts, ChildList.texts, h.labels]

end ChildList

namespace Repository

/-- The entries of the map that a resolve makes of a keyed list. -/
def labelled (ids : List NodeId) (l : ChildList) : List (String × Int) :=
  l.entries.map fun e => (e.label.render, indexIn ids e.child)

theorem keys_labelled (ids : List NodeId) (l : ChildList) :
    OrderedMap.keys (labelled ids l) = l.texts := by
  rw [OrderedMap.keys, labelled, ChildList.texts, ChildList.labels, List.map_map, List.map_map]
  rfl

theorem values_labelled (ids : List NodeId) (l : ChildList) :
    OrderedMap.values (labelled ids l) = indicesOf ids l := by
  rw [OrderedMap.values, labelled, List.map_map, indicesOf]
  rfl

theorem shown_labelled {r : Repository} {ids : List NodeId} {l : ChildList}
    (denote : ∀ e ∈ l.entries, r.Denotes e (indexIn ids e.child)) :
    l.Shown r (OrderedMap.ofList (labelled ids l)) ↔ l.texts.Nodup := by
  have distinct : OrderedMap.keys (OrderedMap.ofList (labelled ids l)) =
      OrderedMap.keys (labelled ids l) ↔ _ := OrderedMap.keys_ofList_eq_iff
  rw [keys_labelled] at distinct
  constructor
  · intro shown
    exact distinct.mp shown.keys
  · intro nodup
    refine ⟨distinct.mpr nodup, ?_⟩
    rw [OrderedMap.ofList_eq ((keys_labelled ids l).symm ▸ nodup), values_labelled, indicesOf,
      List.forall₂_map_right_iff, List.forall₂_same]
    exact denote

end Repository

/-! ## 2. Labels that stay distinct -/

/-- The texts of the labels are distinct, and none of them is the text of a position that a child
added later can get. -/
structure ChildList.LabelsFree (l : ChildList) : Prop where
  distinct : l.texts.Nodup
  free : ∀ k, l.length ≤ k → toString k ∉ l.texts

namespace ChildList

/-- Keys that are no numbers stay distinct. -/
theorem labelsFree_of_letters {l : ChildList} (distinct : l.texts.Nodup)
    (letters : l.texts.all fun text => text.toList.any fun c => !c.isDigit) : l.LabelsFree := by
  refine ⟨distinct, fun k _ member => ?_⟩
  obtain ⟨c, inside, letter⟩ := List.any_eq_true.mp (List.all_eq_true.mp letters _ member)
  rw [isDigit_of_mem_toString inside] at letter
  cases letter

theorem SameForm.labelsFree {l l' : ChildList} (h : l.SameForm l') (free : l.LabelsFree) :
    l'.LabelsFree where
  distinct := by
    rw [h.texts]
    exact free.distinct
  free := by
    rw [h.texts, h.length]
    exact free.free

theorem texts_numbered : ∀ (start : Nat) (cs : List Child),
    ((Entry.numbered start cs).map (·.label)).map Label.render =
      (List.range' start cs.length).map toString
  | _, [] => rfl
  | start, c :: cs => by
    rw [Entry.numbered, List.map_cons, List.map_cons, texts_numbered, List.length_cons,
      List.range'_succ, List.map_cons]
    rfl

theorem texts_push (l : ChildList) (cs : List Child) :
    (l.push cs).texts = l.texts ++ (List.range' l.length cs.length).map toString := by
  rw [texts, labels, push, List.map_append, List.map_append, texts_numbered]
  rfl

theorem toString_injective : Function.Injective (toString : Nat → String) := by
  intro m n same
  exact repr_injective (by simpa using same)

/-- Positions that are appended are new, and leave later positions free. -/
theorem LabelsFree.push {l : ChildList} (free : l.LabelsFree) (cs : List Child) :
    (l.push cs).LabelsFree where
  distinct := by
    rw [texts_push, List.nodup_append]
    refine ⟨free.distinct, List.Nodup.map toString_injective List.nodup_range', ?_⟩
    rintro text old _ new rfl
    obtain ⟨k, inside, rfl⟩ := List.mem_map.mp new
    exact free.free k (List.mem_range'_1.mp inside).1 old
  free := by
    intro k beyond member
    have length : (l.push cs).length = l.length + cs.length := by
      rw [← length_texts, texts_push, List.length_append, length_texts, List.length_map,
        List.length_range']
    rw [length] at beyond
    rw [texts_push, List.mem_append] at member
    rcases member with old | new
    · exact free.free k (by omega) old
    · obtain ⟨k', inside, same⟩ := List.mem_map.mp new
      obtain rfl := toString_injective same
      have := (List.mem_range'_1.mp inside).2
      omega

end ChildList

/-- Keyed children that are handed in have labels that stay distinct. -/
def Operation.LabelsFree (op : Operation) : Prop :=
  ∀ d ∈ op.definitions, d.children.keyed → d.children.LabelsFree

namespace Repository

/-! ## 3. Runs -/

/-- The labels of all keyed children stay distinct. -/
def LabelsFree (r : Repository) : Prop :=
  ∀ {id b}, r.bindingOf? id = some b → b.children.keyed → b.children.LabelsFree

variable {r r' : Repository} {op : Operation}

theorem Deed.labelsFree (h : Deed op r r') (allowed : op.LabelsFree) (free : r.LabelsFree) :
    r'.LabelsFree := by
  intro id b' here keyed
  cases h.bindingOrigin here with
  | old was => exact free was keyed
  | @extended b role _ _ cs _ was =>
    have before := free was
    cases role with
    | child => exact (before keyed).push cs
    | step => exact before keyed
  | fields _ was =>
    have before := free was
    exact before keyed
  | attached given realizes =>
    rw [realizes.children.keyed] at keyed
    rcases given with member | ⟨value, rfl⟩
    · exact realizes.children.labelsFree (allowed _ member keyed)
    · cases keyed

theorem Deeds.labelsFree (h : Deeds op r r') (allowed : op.LabelsFree) (free : r.LabelsFree) :
    r'.LabelsFree := by
  induction h with
  | refl => exact free
  | tail _ last ih => exact last.labelsFree allowed ih

theorem Reduced.labelsFree (reduced : Reduced r r') (free : r.LabelsFree) : r'.LabelsFree := by
  intro id b' here keyed
  obtain ⟨n', live, bound⟩ := Option.bind_eq_some_iff.mp here
  obtain ⟨n, there, resembles⟩ := reduced.node live
  obtain ⟨b, was, _, children, _⟩ := resembles.binding bound
  rw [children] at keyed ⊢
  exact free (by rw [bindingOf?_of_get? there, was]) keyed

theorem covers_labelsFree : Covers fun r r' => r.LabelsFree → r'.LabelsFree where
  note := fun _ _ free => free
  turn := fun _ _ free => free
  settle := fun r free => (thinned_settle r).reduced.labelsFree free
  place := fun r free => (reduced_place r).labelsFree free

theorem Reachable.labelsFree {allowed : Repository → Operation → Prop} (h : Reachable allowed r)
    (keeps : ∀ r op, allowed r op → op.LabelsFree) : r.LabelsFree := by
  obtain ⟨id, options, led⟩ := h
  refine led.kept covers_labelsFree (fun r op allow free => ?_) fun here => by cases here
  exact (op.deeds r).labelsFree (keeps r op allow) free

theorem labelsFree_of_fromHook (given : FromHook r op) : op.LabelsFree := by
  intro d member _
  obtain rfl := List.mem_singleton.mp (given.definitions member)
  exact ChildList.labelsFree_of_letters (by decide) (by decide)

/-! ## 4. Resolves -/

/-- A node that is left after a successful resolve, its list being keyed, has a map of labels, which
shows every child exactly when the texts of the labels are distinct; and they are, if keyed children
are handed in with labels that stay distinct. -/
theorem keyed_children_shown {hook : Hook Unit} (either : hook = Hook.idle ∨ hook = Hook.mux)
    {location : Location} (reached : Reachable Operation.NamesAllocated r)
    (building : r.phase = .building) {given : Option Unit}
    (resolved : (resolve hook location).exec r = (.ok given, r')) {id : NodeId} {n : Node}
    (here : r'.get? id = some n) (keyed : n.children.keyed) :
    ∃ p m, n.placement? = some p ∧ p.children = .keyed m ∧
      (n.children.Shown r' m ↔ n.children.texts.Nodup) ∧
      (Reachable (fun r op => op.NamesAllocated r ∧ op.LabelsFree) r → n.children.Shown r' m) := by
  obtain ⟨r₂, hooked, _, sound, complete, rfl⟩ := numbered_of_resolve either
    (reached.sound Promise.allows_allocating building) building resolved
  have settling := settling (sound.linked trivial) sound.names
  obtain ⟨b, bound, binding⟩ := settling.placed here
  have live : r₂.settle.1.isLive id := by
    obtain ⟨n₀, there, _⟩ := get?_numbered.mp here
    exact isLive_iff.mpr ⟨n₀, there⟩
  have children : n.children = b.children := by
    rw [Node.children, binding]
    rfl
  rw [children] at keyed ⊢
  have shows := shown_labelled (r := r₂.settle.1.numbered r₂.settle.2) fun e member =>
    settling.denotes sound complete live bound
      (List.mem_append_left _ (List.mem_map_of_mem member))
  have placed : n.placement? = some
      { index := r₂.settle.1.liveIds.idxOf id + 1
        children := childIndices r₂.settle.1.liveIds b.children
        steps := indicesOf r₂.settle.1.liveIds b.steps } := by
    rw [Node.placement?, binding]
    rfl
  refine ⟨_, OrderedMap.ofList (labelled r₂.settle.1.liveIds b.children), placed, if_pos keyed,
    shows, fun kept => shows.mpr ?_⟩
  have kept₂ := kept.trans (leadsTo_either
    (fun _ _ given => ⟨given.named, labelsFree_of_fromHook given⟩) either location r)
  rw [hooked] at kept₂
  exact (kept₂.labelsFree (fun _ _ allow => allow.2) bound keyed).distinct

/-- Two leaves, and a node that is not bound. -/
def twoLeaves : Repository :=
  Operation.after (.node .root "c" default)
    (Operation.after (.bind ⟨1⟩ (.ok (.pending (.bare (.standard "Leaf")))) default)
      (Operation.after (.node .root "b" default) loneLeaf))

theorem reachable_twoLeaves :
    Reachable (fun r op => op.NamesAllocated r ∧ op.LabelsFree) twoLeaves := by
  have leaf (id : NodeId) (d : Definition)
      (member : d ∈ Operation.definitions (.bind id (.ok (.pending (.bare (.standard "Leaf"))))
        default)) (keyed : d.children.keyed) : d.children.LabelsFree := by
    obtain rfl := List.mem_singleton.mp member
    cases keyed
  have none {op : Operation} (none : op.definitions = []) : op.LabelsFree := fun d member => by
    rw [none] at member
    cases member
  refine ⟨⟨0⟩, { orphansAreRoots := true }, .operation _ (.operation _ (.operation _
    (.operation _ (.operation _ (.refl _) ⟨?_, none rfl⟩) ⟨?_, leaf _⟩) ⟨?_, none rfl⟩)
      ⟨?_, leaf _⟩) ⟨?_, none rfl⟩⟩
  all_goals
    rw [Operation.NamesAllocated]
    decide +kernel

/-- The third node gets keyed children, and then further ones. -/
def compounded (keys : List (String × Child)) (more : List Child) : Repository :=
  Operation.after (.extend .child ⟨2⟩ more default)
    (Operation.after
      (.bind ⟨2⟩ (.ok (.pending (.ofParts (.standard "Compounder") (.ofKeyed keys) .nil [])))
        default) twoLeaves)

/-- A run whose list grows from two keys, one of an empty place, to three labels. -/
def labelledSum : Repository :=
  compounded [("x", .node ⟨⟨0⟩, ⟨0⟩⟩), ("y", .empty)] [.name "b"]

theorem reachable_labelledSum :
    Reachable (fun r op => op.NamesAllocated r ∧ op.LabelsFree) labelledSum := by
  obtain ⟨id, options, led⟩ := reachable_twoLeaves
  refine ⟨id, options, .operation _ (.operation _ led ⟨?_, ?keys⟩)
    ⟨?_, fun d none => by cases none⟩⟩
  case keys =>
    intro d member _
    obtain rfl := List.mem_singleton.mp member
    exact ChildList.labelsFree_of_letters (by decide) (by decide)
  all_goals
    rw [Operation.NamesAllocated]
    decide +kernel

theorem keyed_children_shown_labelledSum :
    Reachable (fun r op => op.NamesAllocated r ∧ op.LabelsFree) labelledSum ∧
      labelledSum.phase = .building ∧
      ∃ given r' n p m, (resolve Hook.idle default).exec labelledSum = (.ok given, r') ∧
        r'.get? ⟨2⟩ = some n ∧ n.children.keyed ∧ n.children.texts = ["x", "y", "2"] ∧
          n.placement? = some p ∧ p.children = .keyed m ∧ n.children.Shown r' m := by
  have building : labelledSum.phase = .building := by decide +kernel
  obtain ⟨given, resolved⟩ := exec_of_isOk (a := resolve Hook.idle default) (r := labelledSum)
    (by decide +kernel)
  have shape : (((resolve Hook.idle default).exec labelledSum).2.get? ⟨2⟩).map
      (fun n => (n.children.keyed, n.children.texts)) = some (true, ["x", "y", "2"]) := by
    decide +kernel
  obtain ⟨n, here, same⟩ := Option.map_eq_some_iff.mp shape
  obtain ⟨keyed, texts⟩ := Prod.mk.inj same
  obtain ⟨id, options, led⟩ := reachable_labelledSum
  obtain ⟨p, m, placed, map, _, shown⟩ := keyed_children_shown (.inl rfl)
    ⟨id, options, led.mono fun _ _ allow => allow.1⟩ building resolved here keyed
  exact ⟨reachable_labelledSum, building, given, _, n, p, m, resolved, here, keyed, texts, placed,
    map, shown reachable_labelledSum⟩

/-- A run that gives one key twice. -/
def repeatedKey : Repository :=
  compounded [("x", .node ⟨⟨0⟩, ⟨0⟩⟩), ("x", .node ⟨⟨0⟩, ⟨1⟩⟩)] []

/-- A run that adds a child to a list with the position of that child for a key. -/
def positionKey : Repository :=
  compounded [("1", .node ⟨⟨0⟩, ⟨0⟩⟩)] [.node ⟨⟨0⟩, ⟨1⟩⟩]

theorem exists_resolved {r : Repository} {m : OrderedMap String Int}
    (succeeds : ((resolve Hook.idle default).exec r).1.isOk)
    (shape : (((resolve Hook.idle default).exec r).2.get? ⟨2⟩).bind
      (fun n => n.placement?.map fun p => (n.children.keyed, n.children.length, p.children)) =
        some (true, 2, .keyed m)) :
    ∃ given r' n p, (resolve Hook.idle default).exec r = (.ok given, r') ∧
      r'.get? ⟨2⟩ = some n ∧ n.children.keyed ∧ n.children.length = 2 ∧
        n.placement? = some p ∧ p.children = .keyed m := by
  obtain ⟨given, resolved⟩ := exec_of_isOk succeeds
  obtain ⟨n, here, same⟩ := Option.bind_eq_some_iff.mp shape
  obtain ⟨p, placed, same⟩ := Option.map_eq_some_iff.mp same
  simp only [Prod.mk.injEq] at same
  exact ⟨given, _, n, p, resolved, here, same.1, same.2.1, placed, same.2.2⟩

/-- Both nodes have two children, and maps with the second one only. -/
theorem not_keyed_children_shown_repeated :
    (Reachable Operation.NamesAllocated repeatedKey ∧ repeatedKey.phase = .building ∧
      ∃ given r' n p, (resolve Hook.idle default).exec repeatedKey = (.ok given, r') ∧
        r'.get? ⟨2⟩ = some n ∧ n.children.keyed ∧ n.children.length = 2 ∧
          n.placement? = some p ∧ p.children = .keyed [("x", 2)]) ∧
    (Reachable Operation.NamesAllocated positionKey ∧ positionKey.phase = .building ∧
      ∃ given r' n p, (resolve Hook.idle default).exec positionKey = (.ok given, r') ∧
        r'.get? ⟨2⟩ = some n ∧ n.children.keyed ∧ n.children.length = 2 ∧
          n.placement? = some p ∧ p.children = .keyed [("1", 2)]) := by
  obtain ⟨id, options, led⟩ := reachable_twoLeaves
  have led := led.mono fun _ _ allow => allow.1
  refine ⟨⟨⟨id, options, .operation _ (.operation _ led ?_) ?_⟩, by decide +kernel,
    exists_resolved (by decide +kernel) (by decide +kernel)⟩,
    ⟨id, options, .operation _ (.operation _ led ?_) ?_⟩, by decide +kernel,
    exists_resolved (by decide +kernel) (by decide +kernel)⟩
  all_goals
    rw [Operation.NamesAllocated]
    decide +kernel

end Repository

end NodeForest

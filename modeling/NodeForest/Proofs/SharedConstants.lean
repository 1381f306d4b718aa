import NodeForest.Proofs.Consistency
import NodeForest.Proofs.ForestImage
import NodeForest.Proofs.Growth
import NodeForest.Proofs.Repetition

/-!
# Shared constants

The node of a constant is found by the key of its value, which is noted beside the nodes. As long as
no fields are set, a node that has been noted under a key holds a constant with that key until it is
removed, and its number is never given again. So equal keys share a node while it is there, and
different keys never do, whatever their nodes are named.

Results:
1. `Node.IsConstant`, `NotedRightly`: what a noted node is.
2. `Upholds`: changes under which it stays so; `upholds_attach`, `Step.upholds`,
   `Operation.upholds`, `LeadsTo.upholds`: every operation but the setting of fields is one.
3. `newConstantName_eq`: the first free name for a new node.
4. `makeConstant_shares_by_key`: which node a constant gets.
-/

namespace NodeForest

open Relation NodeForest.Action

/-! ## 1. Noted nodes -/

/-- The node is in the root scope and holds a constant with this key. -/
def Node.IsConstant (n : Node) (key : Constant) : Prop :=
  n.scope = .root ∧ ∃ b, n.binding = some b ∧ b.Holds key

theorem Constant.toValue_injective : Function.Injective Constant.toValue := by
  intro value value' same
  cases value <;> cases value' <;> cases same <;> rfl

/-- A node holds a constant with one key. -/
theorem Node.IsConstant.unique {n : Node} {key key' : Constant} (h : n.IsConstant key)
    (h' : n.IsConstant key') : key = key' := by
  obtain ⟨-, b, bound, -, value, rfl, here⟩ := h
  obtain ⟨-, b', bound', -, value', rfl, here'⟩ := h'
  cases bound.symm.trans bound'
  have same : value.toValue = value'.toValue := Option.some.inj (here.symm.trans here')
  rw [Constant.toValue_injective same]

theorem Node.Grows.isConstant {k : Kept} {n n' : Node} {key : Constant} (h : n.Grows k n')
    (kept : k.record) (constant : n.IsConstant key) : n'.IsConstant key := by
  obtain ⟨scope, b, bound, className, value, same, here⟩ := constant
  obtain ⟨b', bound', grows⟩ := h.binding b bound
  refine ⟨h.scope.trans scope, b', bound', grows.className.trans className, value, same, ?_⟩
  rw [grows.record kept]
  exact here

namespace Repository

variable {p : Promise} {r r' : Repository}

/-- The number has been given to a node that holds a constant with this key while it is live. -/
def NotedRightly (r : Repository) (id : NodeId) (key : Constant) : Prop :=
  id.index < r.nodes.size ∧ ∀ n, r.get? id = some n → n.IsConstant key

/-! ## 2. Changes -/

/-- Nodes that were noted rightly still are, and so are all that are noted since. -/
structure Upholds (r r' : Repository) : Prop where
  node : ∀ id key, r.NotedRightly id key → r'.NotedRightly id key
  all : (∀ entry ∈ r.constants, r.NotedRightly entry.2 entry.1) →
    ∀ entry ∈ r'.constants, r'.NotedRightly entry.2 entry.1

namespace Upholds

theorem refl (r : Repository) : Upholds r r :=
  ⟨fun _ _ h => h, fun h => h⟩

theorem trans {r₁ r₂ r₃ : Repository} (h : Upholds r₁ r₂) (h' : Upholds r₂ r₃) : Upholds r₁ r₃ :=
  ⟨fun id key noted => h'.node id key (h.node id key noted), fun all => h'.all (h.all all)⟩

theorem of_chain (h : ReflTransGen Upholds r r') : Upholds r r' := by
  induction h with
  | refl => exact .refl r
  | tail _ last ih => exact ih.trans last

/-- A change that notes nothing new. -/
theorem of_subset (fewer : r'.constants ⊆ r.constants)
    (node : ∀ id key, r.NotedRightly id key → r'.NotedRightly id key) : Upholds r r' :=
  ⟨node, fun all entry member => node _ _ (all entry (fewer member))⟩

end Upholds

/-- Nodes that grow or are removed stay what they are, and numbers are not given again. -/
theorem NotedRightly.mono {id : NodeId} {key : Constant} (noted : r.NotedRightly id key)
    (size : r.nodes.size ≤ r'.nodes.size)
    (old : ∀ n', r'.get? id = some n' → ∃ n, r.get? id = some n ∧
      (n.IsConstant key → n'.IsConstant key)) : r'.NotedRightly id key := by
  refine ⟨Nat.lt_of_lt_of_le noted.1 size, fun n' here' => ?_⟩
  obtain ⟨n, here, stays⟩ := old n' here'
  exact stays (noted.2 n here)

theorem isConstant_constantNode (r : Repository) (value : Constant) (location : Location) :
    (r.constantNode value location).IsConstant value.key :=
  ⟨rfl, _, rfl, holds_newBinding r value location⟩

theorem notedRightly_withConstant (r : Repository) (value : Constant) (location : Location) :
    (r.withConstant value location).NotedRightly ⟨r.nodes.size⟩ value.key := by
  refine ⟨by rw [nodes_size_withConstant]; exact Nat.lt_succ_self _, fun n here => ?_⟩
  rw [get?_withConstant, if_pos rfl] at here
  cases here
  exact isConstant_constantNode r value location

/-- A step that leaves the records alone upholds them. -/
theorem Step.upholds (h : Step p r r') (kept : p.records) : Upholds r r' := by
  have node (id : NodeId) (key : Constant) (noted : r.NotedRightly id key) :
      r'.NotedRightly id key := by
    refine noted.mono h.extends.size fun n' here' => ?_
    cases here : r.get? id with
    | none =>
      rw [h.gone noted.1 here] at here'
      cases here'
    | some n =>
      obtain ⟨n₁, there, grows⟩ := h.grows here
      rw [here'] at there
      cases there
      exact ⟨n, rfl, grows.isConstant kept⟩
  cases h with
  | share value location =>
    refine ⟨node, fun all entry member => ?_⟩
    rcases OrderedMap.mem_insert member with old | new
    · exact node _ _ (all entry old)
    · rw [new]
      exact notedRightly_withConstant r value location
  | @attach id _ b =>
    obtain ⟨_, _, _, _, same⟩ := attached_eq r id b.className b b.childIds
    exact .of_subset (by rw [same]; exact List.Subset.refl _) node
  | extend | setFields =>
    exact .of_subset (by rw [relink_eq]; exact List.Subset.refl _) node
  | register | note | count | openScope | keep => exact .of_subset (List.Subset.refl _) node

/-- Attaching any definition changes no node that has one. -/
theorem upholds_attach (id : NodeId) (d : Definition) (location : Location) (r : Repository) :
    Upholds r ((attach id d location).exec r).2 := by
  have grown := grown_attach (fun _ => ⟨True, fun _ => True⟩) id d location r
  cases here : r.get? id with
  | none => rw [exec_attach_gone d location here]; exact .refl r
  | some n =>
    cases bound : n.binding with
    | some b =>
      rw [exec_attach_bound d location here bound]
      split <;> exact .refl r
    | none =>
      rw [exec_attach_unbound d location here bound] at grown ⊢
      dsimp only at grown ⊢
      let b := r.newBinding d location
      change Grown _ r
        ((r.relink id (fun _ => some b) b.childIds).noteClass id b.className) at grown
      change Upholds r ((r.relink id (fun _ => some b) b.childIds).noteClass id b.className)
      refine .of_subset ?_ fun other key noted => noted.mono ?_ fun n' here' => ?_
      · obtain ⟨_, _, _, _, same⟩ := attached_eq r id b.className b b.childIds
        rw [same]
        exact List.Subset.refl _
      · obtain ⟨_, _, _, same⟩ :=
          noteClass_eq (r.relink id (fun _ => some b) b.childIds) id b.className
        rw [same]
        exact Nat.le_of_eq (nodes_size_relink ..).symm
      · cases there : r.get? other with
        | none =>
          rw [get?_noteClass, get?_relink, there] at here'
          cases here'
        | some n₀ =>
          obtain ⟨n₁, there', grows⟩ := grown.node there
          rw [here'] at there'
          cases there'
          exact ⟨n₀, rfl, grows.isConstant trivial⟩

end Repository

open Repository

theorem Operation.upholds (op : Operation) (leaves : op.LeavesRecords) (r : Repository) :
    Upholds r (op.after r) := by
  have steps {r r' : Repository} (h : Steps ⟨False, True, False⟩ r r') : Upholds r r' :=
    .of_chain (ReflTransGen.mono (fun _ _ step => step.upholds trivial) _ _ h)
  have plain (none : op.arguments = []) : Upholds r (op.after r) :=
    steps (Operation.steps ⟨False.elim, fun _ c member => (by rw [none] at member; cases member),
      fun _ => leaves, False.elim⟩)
  cases op with
  | bind id argument location =>
    exact .of_chain (leads_bind_of (fun _ _ step => step.upholds trivial) upholds_attach id argument
      location r).1
  | bindAnonymous scope argument location =>
    have binds := leads_bindAnonymous (p := ⟨False, True, False⟩) location scope argument r
      False.elim
    exact steps (Leads.bind binds fun _ _ _ _ => .pure (Q := fun _ _ => True) trivial).1
  | extend role id cs location =>
    exact steps (leads_extendChildren (p := ⟨False, True, False⟩) role id cs location r
      (fun _ _ given => given.elim) fun lists => lists).1
  | setOptions => exact leaves.elim
  | openScope | node | qualify | uniqueName | makeConstant | addError | report | pin | unpin | hold
    | release | pushFrame | popFrame => exact plain rfl

namespace Repository

/-- A resolve does not write to the field that holds the number of a constant. -/
theorem get?_valueKey_placedFields (n : Node) (className : String) (p : Placement) :
    OrderedMap.get? (placedFields n className p).reverse Definition.valueKey = none := by
  unfold placedFields
  cases p.children.isEmpty <;> cases p.steps.isEmpty <;> rfl

theorem isConstant_placeNode {n : Node} {key : Constant} (ids : List NodeId) (i : Nat)
    (constant : n.IsConstant key) : (placeNode ids i n).IsConstant key := by
  obtain ⟨scope, b, bound, className, value, same, here⟩ := constant
  have placed : (placeNode ids i n).binding = some (placeBinding ids i (placeNode ids i n) b) :=
    binding_placeNode bound
  refine ⟨scope, _, placed, className, value, same, ?_⟩
  show OrderedMap.get? (OrderedMap.insertAll b.record _) _ = _
  rw [OrderedMap.get?_insertAll, get?_valueKey_placedFields, Option.none_or]
  exact here

theorem covers_upholds : Covers Upholds where
  note := fun _ _ => .of_subset (List.Subset.refl _) fun _ _ noted => noted
  turn := fun _ _ => .of_subset (List.Subset.refl _) fun _ _ noted => noted
  settle := by
    intro r
    have thinned := thinned_settle r
    refine .of_subset ?_ fun id key noted => noted.mono (Nat.le_of_eq thinned.size.symm) ?_
    · rw [(lists_settle r).2.2]
      exact List.filter_subset_self _
    · intro n' here'
      obtain ⟨n, here, same⟩ := thinned.node here'
      refine ⟨n, here, fun constant => ?_⟩
      rw [same]
      exact constant
  place := by
    intro r
    refine .of_subset ?_ fun id key noted => noted.mono (Nat.le_of_eq (nodes_size_place r).symm) ?_
    · rw [place_eq]
      exact List.Subset.refl _
    · intro n' here'
      rw [get?_place] at here'
      obtain ⟨n, here, rfl⟩ := Option.map_eq_some_iff.mp here'
      exact ⟨n, here, isConstant_placeNode _ _⟩

theorem LeadsTo.upholds (h : LeadsTo (fun _ op => op.LeavesRecords) r r') : Upholds r r' :=
  .of_chain (covers_upholds.leadsTo h fun r _ leaves => .single (Operation.upholds _ leaves r))

/-- Whatever has been noted in a run without the setting of fields has been noted rightly. -/
theorem Reachable.notedRightly (h : Reachable (fun _ op => op.LeavesRecords) r) :
    ∀ entry ∈ r.constants, r.NotedRightly entry.2 entry.1 := by
  obtain ⟨id, options, led⟩ := h
  exact led.upholds.all fun entry member => by cases member

/-! ## 3. The name of a new node -/

/-- A new node for a constant has the first free one of the names that are tried. -/
theorem newConstantName_eq (r : Repository) (value : Constant) :
    ∃ k ≤ r.nodes.size, r.newConstantName value = constantName ("c" ++ value.render) k ∧
      r.lookup? (r.newConstantName value) = none ∧
        ∀ j < k, (r.lookup? (constantName ("c" ++ value.render) j)).isSome := by
  have free : r.lookup? (r.newConstantName value) = none := lookup?_freeConstantName r _
  cases found : (List.range (r.nodes.size + 1)).find? fun k =>
      (r.lookup? (constantName ("c" ++ value.render) k)).isNone with
  | none =>
    obtain ⟨k, inside, free⟩ := exists_free_constantName r ("c" ++ value.render)
    have taken := List.find?_eq_none.mp found k (List.mem_range.mpr inside)
    rw [free] at taken
    exact absurd rfl taken
  | some k =>
    obtain ⟨_, inside, taken⟩ := List.find?_range_eq_some.mp found
    have named : r.newConstantName value = constantName ("c" ++ value.render) k := by
      rw [newConstantName, freeConstantName, found]
    refine ⟨k, Nat.le_of_lt_succ (List.mem_range.mp inside), named, free, fun j before => ?_⟩
    have := taken j before
    rwa [Bool.not_eq_true', Option.isNone_eq_false_iff] at this

/-! ## 4. The node of a constant -/

/-- A constant gets the live node that is noted under its key, or else a new one that is noted from
then on. -/
theorem makeConstant_gives (value : Constant) (location : Location) (r : Repository) :
    ∃ id r', (makeConstant value location).exec r = (.ok id, r') ∧
      (OrderedMap.get? r'.constants value.key).filter r'.isLive = some id ∧
        (r' = r ∨ id = ⟨r.nodes.size⟩ ∧ r' = r.withConstant value location) := by
  cases known : (OrderedMap.get? r.constants value.key).filter r.isLive with
  | some id => exact ⟨id, r, exec_makeConstant_known location known, known, .inl rfl⟩
  | none =>
    refine ⟨_, _, exec_makeConstant_new location known, ?_, .inr ⟨rfl, rfl⟩⟩
    refine Option.filter_eq_some_iff.mpr ⟨?_, ?_⟩
    · show OrderedMap.get? (OrderedMap.insert r.constants value.key _) value.key = _
      rw [OrderedMap.get?_insert, if_pos (by simp)]
    · rw [isLive, get?_withConstant, if_pos rfl]
      rfl

theorem after_makeConstant {value : Constant} {location : Location} {id : NodeId}
    (ran : (makeConstant value location).exec r = (.ok id, r')) :
    r' = Operation.after (.makeConstant value location) r := by
  show r' = ((makeConstant value location >>= fun _ => pure ()).exec r).2
  rw [exec_bind_of_ok ran]
  rfl

/-- In a run without the setting of fields, a constant gets a live node that is rightly noted. -/
theorem Reachable.makeConstant_noted (h : Reachable (fun _ op => op.LeavesRecords) r)
    {value : Constant} {location : Location} {id : NodeId}
    (ran : (makeConstant value location).exec r = (.ok id, r')) :
    r'.NotedRightly id value.key ∧ r'.isLive id := by
  obtain ⟨id', r₁, ran', known, -⟩ := makeConstant_gives value location r
  cases ran.symm.trans ran'
  obtain ⟨cached, live⟩ := Option.filter_eq_some_iff.mp known
  have all := (Operation.upholds (.makeConstant value location) trivial r).all h.notedRightly
  rw [← after_makeConstant ran] at all
  exact ⟨all _ (OrderedMap.mem_of_get? cached), live⟩

/-- In a run without the setting of fields, every constant gets a live node that holds its key,
without an error, and nothing is done to the nodes that there are. Whatever operations follow, its
key keeps that node. No other key gets it, resolves or not. -/
theorem makeConstant_shares_by_key {r : Repository}
    (reached : Reachable (fun _ op => op.LeavesRecords) r) (value : Constant)
    (location : Location) :
    ∃ id r' n, (makeConstant value location).exec r = (.ok id, r') ∧
      r' = { r with nodes := r'.nodes, constants := r'.constants } ∧
      (∀ other : NodeId, other.index < r.nodes.size → r'.get? other = r.get? other) ∧
      r'.get? id = some n ∧ n.IsConstant value.key ∧
      (r' = r ∨ id = ⟨r.nodes.size⟩ ∧ ∃ k ≤ r.nodes.size,
        n.name = constantName ("c" ++ value.render) k ∧ r.lookup? n.name = none ∧
          ∀ j < k, (r.lookup? (constantName ("c" ++ value.render) j)).isSome) ∧
      (∀ r₂, ReflTransGen (Calls fun _ _ => True) r' r₂ → ∀ value' location',
        value'.key = value.key → (makeConstant value' location').exec r₂ = (.ok id, r₂)) ∧
      ∀ r₂, LeadsTo (fun _ op => op.LeavesRecords) r' r₂ → ∀ value' location',
        value'.key ≠ value.key →
          ∃ id' r₃, (makeConstant value' location').exec r₂ = (.ok id', r₃) ∧ id' ≠ id := by
  obtain ⟨id, r', ran, known, same⟩ := makeConstant_gives value location r
  obtain ⟨noted, live⟩ := reached.makeConstant_noted ran
  obtain ⟨n, here⟩ := isLive_iff.mp live
  refine ⟨id, r', n, ran, ?_, fun other old => ?_, here, noted.2 n here, ?_, ?_, ?_⟩
  · rcases same with rfl | ⟨-, rfl⟩
    · rfl
    · exact withConstant_eq r value location
  · rcases same with rfl | ⟨-, rfl⟩
    · rfl
    · exact get?_withConstant_of_ne _ _ _ (Nat.ne_of_lt old)
  · refine same.imp_right ?_
    rintro ⟨rfl, rfl⟩
    rw [get?_withConstant, if_pos rfl] at here
    cases here
    exact ⟨rfl, newConstantName_eq r value⟩
  · intro r₂ calls value' location' key
    have steps : Steps .none r' r₂ := by
      induction calls with
      | refl => exact .refl
      | tail _ last ih =>
        obtain ⟨op, -, rfl⟩ := last
        exact ih.trans (Operation.steps (Promise.allows_none _ op))
    exact exec_makeConstant_known location' (by rw [key]; exact steps.shared known)
  · intro r₂ led value' location' different
    have after : LeadsTo (fun _ op => op.LeavesRecords) r r' := by
      rw [after_makeConstant ran]
      exact .operation _ (.refl r) trivial
    obtain ⟨id', r₃, ran', -, -⟩ := makeConstant_gives value' location' r₂
    obtain ⟨noted', live'⟩ := ((Reachable.trans reached after).trans led).makeConstant_noted ran'
    refine ⟨id', r₃, ran', ?_⟩
    -- One live node would hold both keys.
    rintro rfl
    have later := led.upholds.node _ _ noted
    have last := (Operation.upholds (.makeConstant value' location') trivial r₂).node _ _ later
    rw [← after_makeConstant ran'] at last
    obtain ⟨n', there⟩ := isLive_iff.mp live'
    exact different ((noted'.2 n' there).unique (last.2 n' there))

/-- A run that takes the natural name of a constant for another node. -/
def namesake : Repository :=
  Operation.after (.bind ⟨0⟩ (.ok (.pending (.bare (.standard "Leaf")))) default)
    (Operation.after (.node .root "c0.0" default) (start ⟨0⟩ {}))

theorem reachable_namesake : Reachable (fun _ op => op.LeavesRecords) namesake :=
  ⟨⟨0⟩, {}, .operation _ (.operation _ (.refl _) trivial) trivial⟩

/-- Zero gets a node under the next name, which negative zero shares and complex zero does not. -/
theorem makeConstant_shares_by_key_namesake :
    Reachable (fun _ op => op.LeavesRecords) namesake ∧
      ∃ r' n, (makeConstant (.real (.zero false)) default).exec namesake = (.ok ⟨1⟩, r') ∧
        r'.get? ⟨1⟩ = some n ∧ n.name = "c0.01" ∧ n.IsConstant (.real (.zero false)) ∧
        (makeConstant (.real (.zero true)) default).exec r' = (.ok ⟨1⟩, r') ∧
        ∃ id' r₃, (makeConstant (.complex (.zero false) (.zero false)) default).exec r' =
          (.ok id', r₃) ∧ id' ≠ ⟨1⟩ := by
  obtain ⟨id, r', n, ran, -, -, here, constant, -, again, apart⟩ :=
    makeConstant_shares_by_key reachable_namesake (.real (.zero false)) default
  have given : ((makeConstant (.real (.zero false)) default).exec namesake).1.toOption =
      some ⟨1⟩ := by decide +kernel
  have named : ((((makeConstant (.real (.zero false)) default).exec namesake).2.get? ⟨1⟩).map
      (·.name)) = some "c0.01" := by decide +kernel
  rw [ran] at given named
  cases given
  rw [here] at named
  exact ⟨reachable_namesake, r', n, ran, here, Option.some.inj named, constant,
    again r' .refl (.real (.zero true)) default rfl,
    apart r' (.refl r') (.complex (.zero false) (.zero false)) default (by decide)⟩

end Repository

end NodeForest

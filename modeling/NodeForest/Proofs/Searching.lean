import Mathlib.Logic.Relation
import NodeForest.Proofs.Consistency
import NodeForest.Repository.Search

/-!
# Searching below nodes

A search below some nodes keeps the nodes that are still to be looked at in one list, puts the
children of a node in front of it, and looks whether a node has been met when its turn comes. A node
may stand in the list many times. The nodes are met in the order in which a recursion over the
children meets them, whatever the children are.

Results:
1. `Above`: children, not step-children; `preorder`: the recursion over them; `nodup_preorder`,
   `mem_preorder_iff`: it meets every bound node that chains of children lead to, once.
2. `walk_append`: the list and the recursion step by step; `subtree_eq_preorder`: the whole walk.
3. `searchBy`: a search whose patterns are read in any way; `search_eq_searchBy`: the search that
   there is.
4. `search_walks_in_preorder`: what a search finds.
-/

namespace NodeForest

open Relation

namespace Repository

variable {r : Repository}

/-! ## 1. The recursion -/

theorem mem_boundIds {id : NodeId} : id ∈ r.boundIds ↔ r.isBound id := by
  rw [boundIds, List.mem_map, isBound, Option.any_eq_true]
  constructor
  · rintro ⟨⟨_, n⟩, member, rfl⟩
    obtain ⟨listed, bound⟩ := List.mem_filter.mp member
    exact ⟨n, mem_entries.mp listed, bound⟩
  · rintro ⟨n, here, bound⟩
    exact ⟨(id, n), List.mem_filter.mpr ⟨mem_entries.mpr here, bound⟩, rfl⟩

/-- The bound nodes are listed in registration order. -/
theorem pairwise_boundIds (r : Repository) :
    r.boundIds.Pairwise fun id id' => id.index < id'.index :=
  r.pairwise_liveIds.sublist (List.filter_sublist.map Prod.fst)

theorem nodup_boundIds (r : Repository) : r.boundIds.Nodup := by
  refine r.pairwise_boundIds.imp ?_
  intro id id' before same
  exact Nat.lt_irrefl _ (same ▸ before)

/-- The bound nodes that are not among the ones met so far. -/
def unmet (r : Repository) (met : List NodeId) : List NodeId :=
  r.boundIds.filter (· ∉ met)

theorem mem_unmet {met : List NodeId} {id : NodeId} :
    id ∈ r.unmet met ↔ r.isBound id ∧ id ∉ met := by
  rw [unmet, List.mem_filter, mem_boundIds, decide_eq_true_iff]

/-- What has been met counts, in any order. -/
theorem unmet_congr {met met' : List NodeId} (same : ∀ id, id ∈ met ↔ id ∈ met') :
    r.unmet met = r.unmet met' :=
  List.filter_congr fun id _ => by simp only [same id]

theorem unmet_cons (met : List NodeId) (id : NodeId) :
    r.unmet (id :: met) = (r.unmet met).erase id := by
  unfold unmet
  rw [(r.nodup_boundIds.filter _).erase_eq_filter, List.filter_filter]
  refine List.filter_congr fun other _ => ?_
  by_cases same : other = id <;> simp [same]

theorem length_unmet_lt {met met' : List NodeId} {id : NodeId} (fresh : r.isBound id ∧ id ∉ met)
    (more : id ∈ met') (old : met ⊆ met') : (r.unmet met').length < (r.unmet met).length := by
  have fewer : r.unmet met' = (r.unmet met).filter (· ∉ met') := by
    unfold unmet
    rw [List.filter_filter]
    refine List.filter_congr fun other _ => ?_
    by_cases later : other ∈ met'
    · simp [later]
    · have before : other ∉ met := fun member => later (old member)
      simp [later, before]
  rw [fewer]
  exact List.length_filter_lt_length_iff_exists.mpr ⟨id, mem_unmet.mpr fresh, by simpa using more⟩

/-- The child is a node in the child list of the other one; step-children are in another list. -/
def Above (r : Repository) (parent child : NodeId) : Prop :=
  ∃ b e, r.bindingOf? parent = some b ∧ e ∈ b.children.entries ∧ e.child.nodeId? = some child

/-- The nodes in the child list of a node, in its order. -/
def properChildren (r : Repository) (id : NodeId) : List NodeId :=
  match r.bindingOf? id with
  | some b => b.children.entries.filterMap (·.child.nodeId?)
  | none => []

theorem mem_properChildren {parent child : NodeId} :
    child ∈ r.properChildren parent ↔ r.Above parent child := by
  rw [properChildren, Above]
  cases r.bindingOf? parent with
  | none => simp
  | some b => simp [List.mem_filterMap]

theorem isBound_of_above {parent child : NodeId} (edge : r.Above parent child) :
    r.isBound parent := by
  obtain ⟨b, _, bound, _⟩ := edge
  exact isBound_iff.mpr ⟨b, bound⟩

theorem childNodes_eq (r : Repository) : r.childNodes = r.properChildren := by
  funext id
  rw [childNodes, properChildren, bindingOf?]
  cases r.get? id with
  | none => rfl
  | some n =>
    rw [Option.map_some, Option.bind_some, Option.getD_some, Node.children]
    cases n.binding <;> rfl

/-- The nodes met by a recursion over the children, in the order in which it meets them: of each
node of a list first the node itself, then what is below its children, then what is left for the
rest of the list. Nodes that are not bound are passed over, and so are those met before. -/
def preorder (r : Repository) (met : List NodeId) : List NodeId → List NodeId
  | [] => []
  | id :: rest =>
      if r.isBound id ∧ id ∉ met then
        let below := r.preorder (id :: met) (r.properChildren id)
        id :: below ++ r.preorder (below ++ id :: met) rest
      else r.preorder met rest
termination_by ids => ((r.unmet met).length, ids.length)
decreasing_by
  · exact .left _ _ (length_unmet_lt ‹_› List.mem_cons_self (List.subset_cons_self _ _))
  · refine .left _ _ (length_unmet_lt ‹_› (List.mem_append_right _ List.mem_cons_self) ?_)
    exact fun other member => List.mem_append_right _ (List.mem_cons_of_mem _ member)
  · exact .right _ (Nat.lt_succ_self _)

/-- No node is met twice, or again. -/
theorem nodup_preorder (r : Repository) (met ids : List NodeId) :
    (r.preorder met ids).Nodup ∧ ∀ id ∈ r.preorder met ids, r.isBound id ∧ id ∉ met := by
  fun_induction preorder r met ids with
  | case1 met => exact ⟨List.nodup_nil, fun _ member => by cases member⟩
  | case2 met id rest fresh below ihBelow ihRest =>
    obtain ⟨once, new⟩ := ihBelow
    obtain ⟨once', new'⟩ := ihRest
    constructor
    · rw [List.cons_append, List.nodup_cons, List.mem_append, not_or]
      refine ⟨⟨fun member => (new id member).2 List.mem_cons_self, fun member => ?_⟩, ?_⟩
      · exact (new' id member).2 (List.mem_append_right _ List.mem_cons_self)
      · refine List.nodup_append.mpr ⟨once, once', ?_⟩
        rintro other member _ member' rfl
        exact (new' other member').2 (List.mem_append_left _ member)
    · intro other member
      rw [List.cons_append, List.mem_cons, List.mem_append] at member
      rcases member with rfl | member | member
      · exact fresh
      · obtain ⟨bound, unmet⟩ := new other member
        exact ⟨bound, fun old => unmet (List.mem_cons_of_mem _ old)⟩
      · obtain ⟨bound, unmet⟩ := new' other member
        exact ⟨bound, fun old =>
          unmet (List.mem_append_right _ (List.mem_cons_of_mem _ old))⟩
  | case3 met id rest old ih => exact ih

/-- The nodes of the list are met, unless they have been before. -/
theorem mem_preorder_of_mem {met ids : List NodeId} {id : NodeId} (listed : id ∈ ids)
    (bound : r.isBound id) : id ∈ met ∨ id ∈ r.preorder met ids := by
  fun_induction preorder r met ids with
  | case1 met => cases listed
  | case2 met first rest fresh below ihBelow ihRest =>
    rw [List.cons_append, List.mem_cons, List.mem_append]
    rcases List.mem_cons.mp listed with rfl | later
    · exact .inr (.inl rfl)
    · rcases ihRest later with old | new
      · rw [List.mem_append, List.mem_cons] at old
        tauto
      · exact .inr (.inr (.inr new))
  | case3 met first rest old ih =>
    rcases List.mem_cons.mp listed with rfl | later
    · exact .inl (by_contra fun new => old ⟨bound, new⟩)
    · exact ih later

/-- The children of a node that is met are met, too. -/
theorem mem_preorder_of_child {met ids : List NodeId} {id child : NodeId}
    (here : id ∈ r.preorder met ids) (edge : r.Above id child) (bound : r.isBound child) :
    child ∈ met ∨ child ∈ r.preorder met ids := by
  fun_induction preorder r met ids with
  | case1 met => cases here
  | case2 met first rest fresh below ihBelow ihRest =>
    -- What was met below the first node has all its children there, or met earlier.
    have ofBelow (either : child ∈ first :: met ∨ child ∈ below) :
        child ∈ met ∨ child ∈ first :: below ++ r.preorder (below ++ first :: met) rest := by
      rw [List.cons_append, List.mem_cons, List.mem_append]
      rw [List.mem_cons] at either
      tauto
    rw [List.cons_append, List.mem_cons, List.mem_append] at here
    rcases here with rfl | here | here
    · exact ofBelow (mem_preorder_of_mem (mem_properChildren.mpr edge) bound)
    · exact ofBelow (ihBelow here)
    · rcases ihRest here with old | new
      · rw [List.mem_append] at old
        exact ofBelow old.symm
      · exact .inr (List.mem_append_right _ new)
  | case3 met first rest old ih => exact ih here

/-- Chains of children lead from the list to every node that is met. -/
theorem reached_of_mem_preorder {met ids : List NodeId} {id : NodeId}
    (here : id ∈ r.preorder met ids) : ∃ first ∈ ids, ReflTransGen r.Above first id := by
  fun_induction preorder r met ids with
  | case1 met => cases here
  | case2 met first rest fresh below ihBelow ihRest =>
    rw [List.cons_append, List.mem_cons, List.mem_append] at here
    rcases here with rfl | here | here
    · exact ⟨id, List.mem_cons_self, .refl⟩
    · obtain ⟨child, edge, chain⟩ := ihBelow here
      exact ⟨first, List.mem_cons_self, .head (mem_properChildren.mp edge) chain⟩
    · obtain ⟨other, listed, chain⟩ := ihRest here
      exact ⟨other, List.mem_cons_of_mem _ listed, chain⟩
  | case3 met first rest old ih =>
    obtain ⟨other, listed, chain⟩ := ih here
    exact ⟨other, List.mem_cons_of_mem _ listed, chain⟩

/-- The recursion meets the bound nodes that chains of children lead to. -/
theorem mem_preorder_iff {ids : List NodeId} {id : NodeId} :
    id ∈ r.preorder [] ids ↔ r.isBound id ∧ ∃ first ∈ ids, ReflTransGen r.Above first id := by
  constructor
  · intro here
    exact ⟨((r.nodup_preorder [] ids).2 id here).1, reached_of_mem_preorder here⟩
  · rintro ⟨bound, first, listed, chain⟩
    have none {other : NodeId} (either : other ∈ [] ∨ other ∈ r.preorder [] ids) :
        other ∈ r.preorder [] ids := either.resolve_left List.not_mem_nil
    induction chain with
    | refl => exact none (mem_preorder_of_mem listed bound)
    | tail before edge ih =>
      exact none (mem_preorder_of_child (ih (isBound_of_above edge)) edge bound)

/-! ## 2. The list -/

section

variable (children : NodeId → List NodeId)

/-- The walk without what its termination rests on. -/
theorem walk_eq (unmet pending : List NodeId) :
    walk children unmet pending =
      match pending.dropWhile (· ∉ unmet) with
      | [] => []
      | id :: rest => id :: walk children (unmet.erase id) (children id ++ rest) := by
  rw [walk]
  split <;> rename_i found <;> rw [found]

theorem walk_nil (unmet : List NodeId) : walk children unmet [] = [] := by
  rw [walk_eq, List.dropWhile_nil]

/-- A node that has been met is passed over. -/
theorem walk_cons_of_not_mem {unmet : List NodeId} {id : NodeId} (met : id ∉ unmet)
    (rest : List NodeId) : walk children unmet (id :: rest) = walk children unmet rest := by
  rw [walk_eq, walk_eq _ unmet rest, List.dropWhile_cons_of_pos (by simpa using met)]

/-- A node that is met has its children looked at next. -/
theorem walk_cons_of_mem {unmet : List NodeId} {id : NodeId} (fresh : id ∈ unmet)
    (rest : List NodeId) :
    walk children unmet (id :: rest) =
      id :: walk children (unmet.erase id) (children id ++ rest) := by
  rw [walk_eq, List.dropWhile_cons_of_neg (by simpa using fresh)]

end

/-- The nodes in front of the list are met as by the recursion, before the rest of it. -/
theorem walk_append (met ids rest : List NodeId) :
    walk r.properChildren (r.unmet met) (ids ++ rest) =
      r.preorder met ids ++
        walk r.properChildren (r.unmet (r.preorder met ids ++ met)) rest := by
  fun_induction preorder r met ids generalizing rest with
  | case1 met => rfl
  | case2 met id ids fresh below ihBelow ihRest =>
    have later : r.unmet (id :: below ++ r.preorder (below ++ id :: met) ids ++ met) =
        r.unmet (r.preorder (below ++ id :: met) ids ++ (below ++ id :: met)) := by
      refine unmet_congr fun other => ?_
      simp only [List.mem_append, List.mem_cons]
      tauto
    rw [List.cons_append, walk_cons_of_mem _ (mem_unmet.mpr fresh), ← unmet_cons, ihBelow, ihRest,
      later, List.cons_append, List.cons_append, List.append_assoc]
  | case3 met id ids old ih =>
    rw [List.cons_append, walk_cons_of_not_mem _ (mt mem_unmet.mp old), ih]

/-- The walk below some nodes is the recursion. -/
theorem subtree_eq_preorder (r : Repository) (roots : List NodeId) :
    r.subtree roots = r.preorder [] roots := by
  have all : r.unmet [] = r.boundIds := List.filter_eq_self.mpr fun _ _ => by simp
  have walked := walk_append (r := r) [] roots []
  rwa [List.append_nil, all, walk_nil, List.append_nil, ← childNodes_eq] at walked

end Repository

/-! ## 3. Patterns that are read in any way -/

/-- A way to read patterns: a text is refused for a reason, or it tells in which texts it is
found. -/
abbrev Engine := String → Except String (String → Bool)

namespace Engine

/-- The patterns that there are. -/
def patterns : Engine :=
  fun s => (Pattern.read s).map Pattern.isMatch

/-- The pattern that is found in a text when `pattern` matches the whole of it. -/
def whole (pattern : String) : String :=
  "^(?:" ++ pattern ++ ")$"

/-- The pattern that is found in a text when `pattern` matches the start of it. -/
def start (pattern : String) : String :=
  "^(?:" ++ pattern ++ ")"

variable (engine : Engine)

/-- The text is a pattern that is found in another text. -/
def finds (pattern text : String) : Bool :=
  match engine pattern with
  | .ok found => found text
  | .error _ => false

/-- Reads a pattern in the surroundings that `anchor` puts it in. -/
def compile (anchor : String → String) (location : Location) (pattern : String) :
    Except Diagnostic (String → Bool) :=
  match engine (anchor pattern) with
  | .ok found => .ok found
  | .error reason => .error (.invalidPattern pattern reason location)

theorem compile_of_isOk {anchor : String → String} {pattern : String} (location : Location)
    (valid : (engine (anchor pattern)).isOk) :
    engine.compile anchor location pattern = .ok (engine.finds (anchor pattern)) := by
  unfold compile
  cases read : engine (anchor pattern) with
  | error reason =>
    rw [read] at valid
    cases valid
  | ok found =>
    refine congrArg Except.ok (funext fun text => ?_)
    rw [finds, read]

end Engine

namespace SearchCriteria

/-- All patterns of the criteria are patterns. -/
structure Valid (engine : Engine) (c : SearchCriteria) : Prop where
  name : ∀ pattern ∈ c.name, (engine (Engine.whole pattern)).isOk
  className : ∀ pattern ∈ c.className, (engine (Engine.whole pattern)).isOk
  tags : ∀ pattern ∈ c.tags, (engine (Engine.start pattern)).isOk

/-- The node is bound and is what the criteria ask for. -/
def meets (engine : Engine) (c : SearchCriteria) (n : Node) : Bool :=
  n.binding.any fun b =>
    c.name.all (fun pattern => engine.finds (Engine.whole pattern) n.name) &&
      c.className.all (fun pattern => engine.finds (Engine.whole pattern) b.className) &&
        c.tags.all fun pattern => b.record.tags.any (engine.finds (Engine.start pattern))

end SearchCriteria

namespace Repository

/-- A search whose patterns are read by an engine. -/
def searchBy (engine : Engine) (r : Repository) (c : SearchCriteria) (location : Location) :
    Except Diagnostic (List NodeId) := do
  let name ← c.name.mapM (engine.compile Engine.whole location)
  let className ← c.className.mapM (engine.compile Engine.whole location)
  let tags ← c.tags.mapM (engine.compile Engine.start location)
  let accepts (n : Node) : Bool := n.binding.any fun b =>
    name.all (· n.name) && className.all (· b.className) && tags.all fun p => b.record.tags.any p
  let searched := match c.subtree with
    | none => r.boundIds
    | some roots => r.subtree roots
  return searched.filter fun id => (r.get? id).any accepts

/-! ## 4. What a search finds -/

/-- Reading a pattern is what the engine of the patterns that there are does. -/
theorem readAnchored_map (anchor : String → String) (location : Location) (pattern : String) :
    Pattern.isMatch <$> Matcher.readAnchored pattern (anchor pattern) location =
      Engine.patterns.compile anchor location pattern := by
  unfold Matcher.readAnchored Engine.compile Engine.patterns
  cases Pattern.read (anchor pattern) <;> rfl

theorem map_mapM {α β γ : Type} {f : α → Except Diagnostic β} {g : β → γ}
    {f' : α → Except Diagnostic γ} (same : ∀ a, g <$> f a = f' a) (as : List α) :
    List.map g <$> as.mapM f = as.mapM f' := by
  induction as with
  | nil => rfl
  | cons a as ih =>
    rw [List.mapM_cons, List.mapM_cons, ← same, ← ih]
    cases f a with
    | error _ => rfl
    | ok _ => cases as.mapM f <;> rfl

theorem option_map_mapM {α β γ : Type} {f : α → Except Diagnostic β} {g : β → γ}
    {f' : α → Except Diagnostic γ} (same : ∀ a, g <$> f a = f' a) (a : Option α) :
    Option.map g <$> a.mapM f = a.mapM f' := by
  cases a with
  | none => rfl
  | some a =>
    show Option.map g <$> (some <$> f a) = some <$> f' a
    rw [← same]
    cases f a <;> rfl

/-- The search that there is reads the patterns that there are. -/
theorem search_eq_searchBy (r : Repository) (c : SearchCriteria) (location : Location) :
    r.search c location = r.searchBy .patterns c location := by
  unfold search searchBy Matcher.ofCriteria
  rw [← option_map_mapM (readAnchored_map Engine.whole location) c.name,
    ← option_map_mapM (readAnchored_map Engine.whole location) c.className,
    ← map_mapM (readAnchored_map Engine.start location) c.tags]
  show _ = Option.map Pattern.isMatch <$> c.name.mapM (Matcher.readWhole location) >>= _
  cases c.name.mapM (Matcher.readWhole location) with
  | error _ => rfl
  | ok name =>
    show _ = Option.map Pattern.isMatch <$> c.className.mapM (Matcher.readWhole location) >>= _
    cases c.className.mapM (Matcher.readWhole location) with
    | error _ => rfl
    | ok className =>
      show _ = List.map Pattern.isMatch <$> c.tags.mapM (Matcher.readStart location) >>= _
      cases c.tags.mapM (Matcher.readStart location) with
      | error _ => rfl
      | ok tags =>
        refine congrArg Except.ok (List.filter_congr fun id _ => ?_)
        cases r.get? id with
        | none => rfl
        | some n =>
          show Matcher.accepts _ n = _
          unfold Matcher.accepts
          cases binding : n.binding with
          | none => simp [binding]
          | some b => simp [binding, Option.all_map, List.all_map, Function.comp_def]

theorem option_mapM_of_forall {α β : Type} {f : α → Except Diagnostic β} {g : α → β} {a : Option α}
    (each : ∀ x ∈ a, f x = .ok (g x)) : a.mapM f = .ok (a.map g) := by
  cases a with
  | none => rfl
  | some a =>
    show some <$> f a = _
    rw [each a rfl]
    rfl

theorem mapM_of_forall {α β : Type} {f : α → Except Diagnostic β} {g : α → β} {as : List α}
    (each : ∀ x ∈ as, f x = .ok (g x)) : as.mapM f = .ok (as.map g) := by
  induction as with
  | nil => rfl
  | cons a as ih =>
    rw [List.mapM_cons, each a List.mem_cons_self,
      ih fun x member => each x (List.mem_cons_of_mem _ member)]
    rfl

/-- With patterns that are patterns a search finds what meets the criteria, among all bound nodes or
among those below the given ones. -/
theorem searchBy_of_valid {engine : Engine} {c : SearchCriteria} (valid : c.Valid engine)
    (r : Repository) (location : Location) :
    r.searchBy engine c location = .ok (((c.subtree.map (r.preorder [])).getD r.boundIds).filter
      fun id => (r.get? id).any (c.meets engine)) := by
  unfold searchBy
  rw [option_mapM_of_forall fun p member => engine.compile_of_isOk location (valid.name p member),
    option_mapM_of_forall fun p member =>
      engine.compile_of_isOk location (valid.className p member),
    mapM_of_forall fun p member => engine.compile_of_isOk location (valid.tags p member)]
  show Except.ok (List.filter _ _) = _
  have searched : (match c.subtree with
      | none => r.boundIds
      | some roots => r.subtree roots) = (c.subtree.map (r.preorder [])).getD r.boundIds := by
    cases c.subtree with
    | none => rfl
    | some roots => exact r.subtree_eq_preorder roots
  rw [searched]
  refine congrArg Except.ok (List.filter_congr fun id _ => ?_)
  unfold SearchCriteria.meets
  simp only [Option.all_map, List.all_map, Function.comp_def]

/-- Whichever engine reads the patterns, a search whose patterns are all valid ends with the nodes
that meet the criteria: among all bound nodes in registration order, or among those that a recursion
over the children meets from the given nodes, in its order. These are the nodes that chains of
children lead to; step-children are not followed. -/
theorem search_walks_in_preorder (r : Repository) (c : SearchCriteria) (location : Location) :
    r.search c location = r.searchBy .patterns c location ∧
      ∀ engine : Engine, c.Valid engine → ∃ found, r.searchBy engine c location = .ok found ∧
        match c.subtree with
        | none => found.Pairwise (fun id id' => id.index < id'.index) ∧
            ∀ id, id ∈ found ↔ (r.get? id).any (c.meets engine)
        | some roots =>
            (found = (r.preorder [] roots).filter fun id => (r.get? id).any (c.meets engine)) ∧
              found.Nodup ∧ ∀ id, id ∈ found ↔
                (∃ first ∈ roots, ReflTransGen r.Above first id) ∧
                  (r.get? id).any (c.meets engine) := by
  refine ⟨r.search_eq_searchBy c location, fun engine valid => ?_⟩
  refine ⟨_, searchBy_of_valid valid r location, ?_⟩
  have bound {id : NodeId} (meets : (r.get? id).any (c.meets engine)) : r.isBound id := by
    obtain ⟨n, here, asked⟩ := (Option.any_eq_true _ _).mp meets
    obtain ⟨b, binding, _⟩ := (Option.any_eq_true _ _).mp asked
    exact (Option.any_eq_true _ _).mpr ⟨n, here, Option.isSome_iff_exists.mpr ⟨b, binding⟩⟩
  cases c.subtree with
  | some roots =>
    refine ⟨rfl, (r.nodup_preorder [] roots).1.filter _, fun id => ?_⟩
    show id ∈ (r.preorder [] roots).filter _ ↔ _
    rw [List.mem_filter, mem_preorder_iff]
    exact ⟨fun ⟨⟨_, chain⟩, meets⟩ => ⟨chain, meets⟩,
      fun ⟨chain, meets⟩ => ⟨⟨bound meets, chain⟩, meets⟩⟩
  | none =>
    refine ⟨r.pairwise_boundIds.sublist List.filter_sublist, fun id => ?_⟩
    show id ∈ r.boundIds.filter _ ↔ _
    rw [List.mem_filter, mem_boundIds, and_iff_right_iff_imp]
    exact bound

/-- Two nodes that are children of each other with a leaf below both, a node that is not bound, the
place of a removed one, and a step-child of the first two. -/
def encircled : Repository :=
  let node (name : String) (lists : Option (List NodeId × List NodeId)) : Node :=
    let children (ids : List NodeId) : ChildList := .positional (ids.map fun id => .node ⟨⟨0⟩, id⟩)
    { name, basename := name, scope := .root, quals := default, definedAt := default, trail := []
      binding := lists.map fun (ids, steps) =>
        { className := "MeqNode", children := children ids, steps := children steps, record := [],
          boundAt := default, trail := [] } }
  { id := ⟨0⟩, options := {}
    nodes := #[some (node "a" (some ([⟨1⟩, ⟨2⟩], [⟨5⟩]))),
      some (node "b" (some ([⟨2⟩, ⟨0⟩], [⟨5⟩]))), some (node "c" (some ([], []))),
      some (node "d" none), none, some (node "e" (some ([], [])))] }

/-- The step-child is not found, unless the search starts with it. -/
theorem search_encircled :
    let c : SearchCriteria :=
      { name := some "a|c|e", subtree := some [⟨4⟩, ⟨3⟩, ⟨1⟩, ⟨0⟩, ⟨1⟩] }
    c.Valid .patterns ∧ encircled.search c default = .ok [⟨2⟩, ⟨0⟩] ∧
      encircled.search { c with subtree := some [⟨5⟩, ⟨2⟩] } default = .ok [⟨5⟩, ⟨2⟩] := by
  intro c
  have valid : c.Valid .patterns := ⟨by decide +kernel, by decide +kernel, by decide +kernel⟩
  have above : encircled.properChildren ⟨0⟩ = [⟨1⟩, ⟨2⟩] ∧
      encircled.properChildren ⟨1⟩ = [⟨2⟩, ⟨0⟩] ∧ encircled.properChildren ⟨2⟩ = [] ∧
        encircled.properChildren ⟨5⟩ = [] := by decide +kernel
  have bound : encircled.isBound ⟨0⟩ ∧ encircled.isBound ⟨1⟩ ∧ encircled.isBound ⟨2⟩ ∧
      ¬encircled.isBound ⟨3⟩ ∧ ¬encircled.isBound ⟨4⟩ ∧ encircled.isBound ⟨5⟩ := by decide +kernel
  have finds (roots : List NodeId) : encircled.search { c with subtree := some roots } default =
      .ok ((encircled.preorder [] roots).filter fun id =>
        (encircled.get? id).any (c.meets .patterns)) := by
    obtain ⟨same, finds⟩ :=
      search_walks_in_preorder encircled { c with subtree := some roots } default
    obtain ⟨found, searched, order⟩ := finds .patterns ⟨valid.1, valid.2, valid.3⟩
    rw [same, searched]
    exact congrArg Except.ok order.1
  refine ⟨valid, (finds _).trans ?_, (finds _).trans ?_⟩
  · have met : encircled.preorder [] [⟨4⟩, ⟨3⟩, ⟨1⟩, ⟨0⟩, ⟨1⟩] = [⟨1⟩, ⟨2⟩, ⟨0⟩] := by
      simp [preorder, above, bound]
    rw [met]
    decide +kernel
  · have met : encircled.preorder [] [⟨5⟩, ⟨2⟩] = [⟨5⟩, ⟨2⟩] := by
      simp [preorder, above, bound]
    rw [met]
    decide +kernel

end Repository

end NodeForest

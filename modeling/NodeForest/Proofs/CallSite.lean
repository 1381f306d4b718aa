import NodeForest.Proofs.AlikeResolve
import NodeForest.Proofs.AlikeWork

/-!
# Call sites

Call sites are in what a tree script reports and in the descriptions of nodes, and nowhere else. Two
scripts that make the same calls on new repositories, from other places and under other frames, come
to the same: the calls fail or succeed alike, and so do the resolves after them, whose forests
differ in the descriptions only.

Results:
1. `Call`, `runAll`: a script as a list of calls; `withoutSites`: what it is apart from call sites.
2. `workAlike_runAll`: a run comes to what one without call sites comes to.
3. `resolve_ignores_sites`: two runs of the same script, up to the first resolve.
-/

namespace NodeForest

/-! ## 1. Scripts -/

/-- A call of a tree script: an operation on a repository, or work through a handle or a scope, on
whose arguments the factories are called first. -/
inductive Call where
  | operation (id : RepositoryId) (op : Operation)
  | bind (h : Handle) (argument : Except BuildError Child) (location : Location)
  | bindIn (s : ScopeRef) (argument : Except BuildError Child) (location : Location)
  | extend (h : Handle) (role : Repository.ChildRole) (children : List Child) (location : Location)
  | search (s : ScopeRef) (criteria : SearchCriteria) (location : Location)

/-- The repositories that the factories of an argument bind in. -/
def argumentHomes : Except BuildError Child → List RepositoryId
  | .ok c => c.homes
  | .error _ => []

namespace Call

/-- What the call gives are the handles that it finds. -/
def run : Call → Work (List Handle)
  | operation id op => do
      actIn id op.run
      return []
  | bind h argument location => do
      h.bind argument location
      return []
  | bindIn s argument location => return [← s.bind argument location]
  | extend h role children location => do
      h.addChildren role children location
      return []
  | search s criteria location => s.search criteria location

/-- The call without its site. -/
def unsited : Call → Call
  | operation id op => operation id op.unsited
  | bind h argument _ => bind h (unsitedArgument argument) default
  | bindIn s argument _ => bindIn s (unsitedArgument argument) default
  | extend h role children _ => extend h role (children.map (·.unsited)) default
  | search s criteria _ => search s criteria default

/-- The call pushes a frame or pops one. -/
def isFrame : Call → Bool
  | operation _ (.pushFrame _) => true
  | operation _ .popFrame => true
  | _ => false

/-- The repositories that the call works in. -/
def homes : Call → List RepositoryId
  | operation id _ => [id]
  | bind h argument _ => h.node.repository :: argumentHomes argument
  | bindIn s argument _ => s.repository :: argumentHomes argument
  | extend h _ children _ => h.node.repository :: children.flatMap (·.homes)
  | search s _ _ => [s.repository]

end Call

/-- Makes the calls one after the other, whether they fail or not. The outcomes are those of the
calls that are not about frames. -/
def runAll : List Call → StateM Workspace (List (Except Failure (List Handle)))
  | [] => return []
  | call :: rest => do
      let outcome ← call.run.run
      let outcomes ← runAll rest
      return if call.isFrame then outcomes else outcome :: outcomes

/-- The script without its call sites: no locations, and no frames. -/
def withoutSites (calls : List Call) : List Call :=
  (calls.filter (!·.isFrame)).map (·.unsited)

/-- A workspace with new repositories. -/
def planted (options : List Options) : Workspace :=
  options.foldl (fun w o => (w.plant o).2) {}

/-! ## 2. Runs -/

section

variable {n : Nat}

theorem worksAlike_call (call : Call) (inside : ∀ id ∈ call.homes, id.index < n) :
    WorksAlike n Eq call.run call.unsited.run := by
  have nothing (_ _ : Unit) (_ : () = ()) :
      WorksAlike n Eq (pure [] : Work (List Handle)) (pure []) := .pure rfl
  have argument {given : Except BuildError Child}
      (inside : ∀ id ∈ argumentHomes given, id.index < n) :
      ∀ c, given = .ok c → ∀ id ∈ c.homes, id.index < n := by
    rintro c rfl
    exact inside
  cases call with
  | operation id op =>
    rw [Call.homes, List.forall_mem_singleton] at inside
    exact .bind (.act inside op.extends_after (Repository.runAlike_operation op)) nothing
  | bind h given location =>
    rw [Call.homes, List.forall_mem_cons] at inside
    exact .bind (worksAlike_bind h given location inside.1 (argument inside.2)) nothing
  | bindIn s given location =>
    rw [Call.homes, List.forall_mem_cons] at inside
    refine .bind (worksAlike_bindIn s given location inside.1 (argument inside.2)) ?_
    rintro h _ rfl
    exact .pure rfl
  | extend h role children location =>
    rw [Call.homes, List.forall_mem_cons] at inside
    refine .bind (worksAlike_addChildren h role children location inside.1 ?_) nothing
    exact fun c member id home => inside.2 id (List.mem_flatMap.mpr ⟨c, member, home⟩)
  | search s criteria location =>
    rw [Call.homes, List.forall_mem_singleton] at inside
    exact worksAlike_search s criteria location inside

/-- A call that is about frames changes nothing else. -/
theorem alike_frame {call : Call} (frame : call.isFrame)
    (inside : ∀ id ∈ call.homes, id.index < n) {w w' : Workspace} (alike : w.Alike n w') :
    Workspace.Alike n (call.run.run.run w).2 w' := by
  have reframed {id : RepositoryId} (inside : id.index < n) (frames : List Location) :
      Workspace.Alike n (w.updateRepository id fun _ => { w.repository id with frames }) w' :=
    alike.updateLeft inside (w.id_repository id) ((alike.repository inside).frames frames _)
  cases call with
  | operation id op =>
    rw [Call.homes, List.forall_mem_singleton] at inside
    cases op with
    | pushFrame location => exact reframed inside _
    | popFrame => exact reframed inside _
    | _ => cases frame
  | _ => cases frame

theorem run_runAll_cons (call : Call) (calls : List Call) (w : Workspace) :
    (runAll (call :: calls)).run w =
      (if call.isFrame then ((runAll calls).run (call.run.run.run w).2).1
        else (call.run.run.run w).1 :: ((runAll calls).run (call.run.run.run w).2).1,
      ((runAll calls).run (call.run.run.run w).2).2) :=
  rfl

theorem Call.isFrame_unsited (call : Call) : call.unsited.isFrame = call.isFrame := by
  cases call with
  | operation id op => cases op <;> rfl
  | _ => rfl

/-- A script comes to what it comes to without call sites. -/
theorem workAlike_runAll (calls : List Call)
    (inside : ∀ call ∈ calls, ∀ id ∈ call.homes, id.index < n) :
    WorkAlike n (List.Forall₂ (Outcomes SameFailure Eq)) (runAll calls)
      (runAll (withoutSites calls)) := by
  induction calls with
  | nil => exact .pure .nil
  | cons call calls ih =>
    rw [List.forall_mem_cons] at inside
    intro w w' alike
    cases frame : call.isFrame with
    | true =>
      -- A frame has no counterpart: the run without call sites stays where it is.
      have script : withoutSites (call :: calls) = withoutSites calls := by
        simp [withoutSites, frame]
      rw [script, run_runAll_cons, frame]
      exact ih inside.2 _ _ (alike_frame frame inside.1 alike)
    | false =>
      have script : withoutSites (call :: calls) = call.unsited :: withoutSites calls := by
        simp [withoutSites, frame]
      obtain ⟨outcome, states⟩ := worksAlike_call call inside.1 w w' alike
      obtain ⟨outcomes, states⟩ := ih inside.2 _ _ states
      rw [script, run_runAll_cons, run_runAll_cons, call.isFrame_unsited, frame]
      exact ⟨.cons outcome outcomes, states⟩

/-! ## 3. Two runs -/

theorem repositoryCount_planted (options : List Options) :
    (planted options).repositoryCount = options.length := by
  induction options using List.reverseRecOn with
  | nil => rfl
  | append_singleton options o ih =>
    rw [planted, List.foldl_append, List.length_append, ← ih]
    rfl

theorem tree?_plant (w : Workspace) (o : Options) (id : RepositoryId) :
    (w.plant o).2.tree? id = (w.tree? id).or (if w.repositoryCount = id.index then
      some { repository := Repository.start id o } else none) := by
  obtain ⟨i⟩ := id
  change (w.trees ++ [_]).find? _ = _
  rw [List.find?_append, List.find?_singleton, Workspace.tree?]
  congr 1
  by_cases here : w.repositoryCount = i
  · subst here
    simp [Repository.start]
  · simp [here]

/-- The repositories of a workspace that has been planted are new. -/
theorem tree?_planted (options : List Options) (id : RepositoryId) :
    (planted options).tree? id =
      options[id.index]?.map fun o => { repository := Repository.start id o } := by
  induction options using List.reverseRecOn with
  | nil => rfl
  | append_singleton options o ih =>
    have grown : planted (options ++ [o]) = ((planted options).plant o).2 := by
      rw [planted, List.foldl_append]
      rfl
    rw [grown, tree?_plant, ih, repositoryCount_planted]
    rcases Nat.lt_trichotomy id.index options.length with before | here | after
    · rw [List.getElem?_append_left before, if_neg (Nat.ne_of_gt before), Option.or_none]
    · simp [← here]
    · have outside : (options ++ [o]).length ≤ id.index := by
        rw [List.length_append, List.length_singleton]
        omega
      rw [List.getElem?_eq_none outside, List.getElem?_eq_none (Nat.le_of_lt after),
        if_neg (Nat.ne_of_lt after)]
      rfl

theorem alike_planted {options : List Options} (unlimited : ∀ o ∈ options, o.errorLimit = none) :
    (planted options).Alike options.length (planted options) := by
  have plants : Workspace.Plants options.length (planted options) := fun id => by
    rw [tree?_planted, Option.isSome_map, Option.isSome_iff_ne_none, ne_eq,
      List.getElem?_eq_none_iff, Nat.not_le]
  refine ⟨plants, plants, fun {id} inside => ?_⟩
  rw [Workspace.repository, tree?_planted, List.getElem?_eq_getElem inside]
  exact .sites rfl (.refl []) (unlimited _ (List.getElem_mem inside))

end

namespace Repository

/-- The repositories differ in call sites only, and so does what either resolve makes of them, at
whatever locations; the forests differ in descriptions only. -/
structure ResolvesAlike (r r' : Repository) : Prop where
  alike : r.Alike r'
  together : ∀ hook : Hook Unit, hook = Hook.idle ∨ hook = Hook.mux →
    ∀ location location' : Location,
      Together AlikeResolved SameFailure Eq (resolve hook location) (resolve hook location') r r'
  forests : ∀ hook : Hook Unit, hook = Hook.idle ∨ hook = Hook.mux →
    ∀ location location' : Location,
      ((resolve hook location).exec r).2.forest.map (·.undescribed) =
        ((resolve hook location').exec r').2.forest.map (·.undescribed)

theorem Alike.resolves {r r' : Repository} (alike : r.Alike r') : r.ResolvesAlike r' where
  alike := alike
  together := fun _ either location location' => together_resolve either location location' alike
  forests := fun _ either location location' =>
    AlikeResolved.forest (together_resolve either location location' alike).states

end Repository

/-- What a script comes to on new repositories. -/
def runOn (options : List Options) (calls : List Call) :
    List (Except Failure (List Handle)) × Workspace :=
  (runAll calls).run (planted options)

theorem forall₂_through {xs ys zs : List (Except Failure (List Handle))}
    (left : List.Forall₂ (Outcomes SameFailure Eq) xs zs)
    (right : List.Forall₂ (Outcomes SameFailure Eq) ys zs) :
    List.Forall₂ (Outcomes SameFailure Eq) xs ys := by
  induction left generalizing ys with
  | nil =>
    cases right
    exact .nil
  | cons first _ ih =>
    cases right with
    | cons second rest => exact .cons (first.through second) (ih rest)

/-- Two scripts that make the same calls from different sites: every call fails in both or in
neither, with the same failure apart from locations, or gives the same; the repositories then differ
in call sites only, and resolve alike. -/
theorem resolve_ignores_sites {options : List Options} {calls calls' : List Call}
    (unlimited : ∀ o ∈ options, o.errorLimit = none)
    (inside : ∀ call ∈ calls ++ calls', ∀ id ∈ call.homes, id.index < options.length)
    (same : withoutSites calls = withoutSites calls') :
    List.Forall₂ (Outcomes SameFailure Eq) (runOn options calls).1 (runOn options calls').1 ∧
      ∀ id : RepositoryId, id.index < options.length →
        ((runOn options calls).2.repository id).ResolvesAlike
          ((runOn options calls').2.repository id) := by
  rw [List.forall_mem_append] at inside
  -- The frames of one script need not be those of the other, so both are compared with a third.
  have start := alike_planted unlimited
  obtain ⟨outcomes, states⟩ := workAlike_runAll calls inside.1 _ _ start
  obtain ⟨outcomes', states'⟩ := workAlike_runAll calls' inside.2 _ _ start
  rw [same] at outcomes states
  have alike := states.trans states'.symm
  exact ⟨forall₂_through outcomes outcomes', fun id here => (alike.repository here).resolves⟩

/-- A leaf and a sum are named and bound, the sum over a nested negation and through factories. The
sum is kept and extended, a product is bound that nothing refers to, and the leaf is looked for. -/
def sumScript (location : Location) : List Call :=
  let handle (index : Nat) (name : String) : Handle :=
    ⟨⟨⟨0⟩, ⟨index⟩⟩, name, name, .empty, .root⟩
  let built (className : String) (children : List Child) : Child :=
    .pending (.ofParts (.standard className) (.positional children) .nil [])
  let negation := built "Negate" [.name "leaf"]
  [.operation ⟨0⟩ (.node .root "leaf" location),
    .bind (handle 0 "leaf") (.ok (.factory 0 (.give (built "Leaf" [])))) location,
    .operation ⟨0⟩ (.node .root "sum" location),
    .bind (handle 1 "sum")
      (.ok (built "Add" [negation, .factory 0 (.give (.name "leaf")), .empty])) location,
    .operation ⟨0⟩ (.hold ⟨1⟩),
    .extend (handle 1 "sum") .step [.constant (.real (.zero false))] location,
    .bindIn ⟨⟨0⟩, .root⟩ (.ok (built "Multiply" [.name "leaf"])) location,
    .search ⟨⟨0⟩, .root⟩ { name := some "leaf" } location]

/-- The descriptions that a forest shows. -/
def Forest.descriptions (f : Forest) : List String :=
  f.nodes.filterMap fun e => (OrderedMap.get? e.record Repository.descriptionKey).bind (·.asText?)

/-- The descriptions of what the script leaves, when it is run from one place. -/
def describedAt (site : String) : List String :=
  ["leaf:MeqLeaf:", "sum:MeqAdd:", "negate(leaf):MeqNegate:", "c0.0:MeqConstant:"].map (· ++ site)

open Repository in
/-- The same script from two files, under a frame and under none. -/
theorem resolve_ignores_sites_sumScript :
    ∃ (options : List Options) (calls calls' : List Call) (here there : Location),
      calls = .operation ⟨0⟩ (.pushFrame ⟨"main", 1, 1⟩) :: sumScript here ∧
      calls' = sumScript there ∧ (∀ o ∈ options, o.errorLimit = none) ∧
      (∀ call ∈ calls ++ calls', ∀ id ∈ call.homes, id.index < options.length) ∧
      withoutSites calls = withoutSites calls' ∧
      List.Forall₂ (Outcomes SameFailure Eq) (runOn options calls).1 (runOn options calls').1 ∧
      ∃ f f', ((resolve Hook.idle here).exec ((runOn options calls).2.repository ⟨0⟩)).2.forest =
          .ok f ∧
        ((resolve Hook.idle there).exec ((runOn options calls').2.repository ⟨0⟩)).2.forest =
          .ok f' ∧
        f.undescribed = f'.undescribed ∧ f.descriptions = describedAt "a:3" ∧
        f'.descriptions = describedAt "b:7" := by
  let options : List Options := [{ errorLimit := none }]
  let here : Location := ⟨"a", 3, 5⟩
  let there : Location := ⟨"b", 7, 9⟩
  let calls := .operation ⟨0⟩ (.pushFrame ⟨"main", 1, 1⟩) :: sumScript here
  have unlimited : ∀ o ∈ options, o.errorLimit = none := by decide
  have inside : ∀ call ∈ calls ++ sumScript there, ∀ id ∈ call.homes,
      id.index < options.length := by
    decide +kernel
  have same : withoutSites calls = withoutSites (sumScript there) := by rfl
  obtain ⟨outcomes, states⟩ := resolve_ignores_sites unlimited inside same
  refine ⟨options, calls, sumScript there, here, there, rfl, rfl, unlimited, inside, same,
    outcomes, ?_⟩
  have forests := (states ⟨0⟩ (by decide)).forests Hook.idle (.inl rfl) here there
  have shown : ((resolve Hook.idle here).exec
      ((runOn options calls).2.repository ⟨0⟩)).2.forest.toOption.map Forest.descriptions =
        some (describedAt "a:3") := by
    decide +kernel
  have shown' : ((resolve Hook.idle there).exec
      ((runOn options (sumScript there)).2.repository ⟨0⟩)).2.forest.toOption.map
        Forest.descriptions = some (describedAt "b:7") := by
    decide +kernel
  obtain ⟨f, image, described⟩ := forest_of_toOption shown
  obtain ⟨f', image', described'⟩ := forest_of_toOption shown'
  rw [image, image'] at forests
  exact ⟨f, f', image, image', Except.ok.inj forests, described, described'⟩

end NodeForest

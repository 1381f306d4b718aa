import NodeForest.Proofs.Journal

/-!
# Call frames

The guard of a call frame does not know its frame: whichever guard is dropped, the innermost frame
is popped. So there are always as many frames as guards alive, but a frame can outlive its guard, in
the place of another one whose guard is still alive. The frames are those of the guards alive if
each guard that is dropped is the youngest one, or its frame could as well be that of the youngest.
Nothing else that is done changes the frames; what is reported, registered or bound takes them down
as they are.

Results:
1. `Snapshots`, `Operation.snapshots`: what takes down frames, and leaves them.
2. `Operation.frames_after`, `Runs.frames`: what operations and whole runs make of frames.
3. `GuardEvent`: frames and guards over time; `length_trailAfter`, `trailAfter_eq_iff`: how the
   frames and those of the guards alive compare.
4. `frames_follow_guards`: frames in a run; `not_frames_follow_guards_older`: a guard that is
   dropped before a younger one.
-/

namespace NodeForest

open Relation NodeForest.Action

/-! ## 1. What takes down frames -/

/-- The operation is not about frames, and is not given any. -/
def Operation.Frameless : Operation → Prop
  | pushFrame _ | popFrame | addError _ _ => False
  | _ => True

theorem Operation.reframe_of_frameless (op : Operation) (frameless : op.Frameless)
    (frames : List Location) : op.reframe frames = frames := by
  cases op <;> first | rfl | cases frameless

namespace Repository

variable {op : Operation} {r r' r₁ : Repository} {trail : List Location}

/-- What is new in `r'` has taken down this trail: nodes, definitions of nodes, and diagnostics,
which are recorded with entries for it. -/
structure Snapshots (trail : List Location) (r r' : Repository) : Prop where
  frames : r'.frames = r.frames
  options : r'.options = r.options
  nodes : ∀ {id n'}, r'.get? id = some n' →
    n'.trail = trail ∨ ∃ n, r.get? id = some n ∧ n'.trail = n.trail
  bindings : ∀ {id b'}, r'.bindingOf? id = some b' →
    b'.trail = trail ∨ ∃ b, r.bindingOf? id = some b ∧ b'.trail = b.trail
  errors : ∃ ds : List Diagnostic,
    r'.errors = r.errors ++ ds.flatMap fun d => recorded r.options d trail

theorem Snapshots.trans (h : Snapshots trail r r₁) (h' : Snapshots trail r₁ r') :
    Snapshots trail r r' where
  frames := h'.frames.trans h.frames
  options := h'.options.trans h.options
  nodes := fun {id n'} here => by
    obtain new | ⟨n₁, here₁, same⟩ := h'.nodes here
    · exact .inl new
    · rw [same]
      exact h.nodes here₁
  bindings := fun {id b'} here => by
    obtain new | ⟨b₁, here₁, same⟩ := h'.bindings here
    · exact .inl new
    · rw [same]
      exact h.bindings here₁
  errors := by
    obtain ⟨ds, first⟩ := h.errors
    obtain ⟨ds', second⟩ := h'.errors
    exact ⟨ds ++ ds', by rw [second, first, h.options, List.flatMap_append, List.append_assoc]⟩

theorem Snapshots.of_same (frames : r'.frames = r.frames) (options : r'.options = r.options)
    (nodes : ∀ id, r'.get? id = r.get? id) (errors : r'.errors = r.errors) :
    Snapshots trail r r' :=
  ⟨frames, options, fun {id n'} here => .inr ⟨n', nodes id ▸ here, rfl⟩,
    fun {id b'} here => .inr ⟨b', by rwa [bindingOf?, nodes, ← bindingOf?] at here, rfl⟩,
    [], by rw [errors, List.flatMap_nil, List.append_nil]⟩

theorem trail_relink {id other : NodeId} {f : Option Binding → Option Binding}
    {children : List NodeId} {n' : Node} (here : (r.relink id f children).get? other = some n') :
    ∃ n, r.get? other = some n ∧ n'.trail = n.trail := by
  rw [get?_relink] at here
  obtain ⟨n, there, rfl⟩ := Option.map_eq_some_iff.mp here
  have parent (n : Node) : (n.withParent id).trail = n.trail := by
    simp only [Node.withParent]
    split <;> rfl
  refine ⟨n, there, ?_⟩
  dsimp only
  split <;> split <;> simp only [parent]

/-- A change of the definition of one node takes down nothing else. -/
theorem snapshots_relink (trail : List Location) {id : NodeId}
    {f : Option Binding → Option Binding} (children : List NodeId)
    (takes : ∀ n b', r.get? id = some n → f n.binding = some b' →
      b'.trail = trail ∨ ∃ b, n.binding = some b ∧ b'.trail = b.trail) :
    Snapshots trail r (r.relink id f children) where
  frames := by rw [relink_eq]
  options := by rw [relink_eq]
  nodes := fun here => .inr (trail_relink here)
  bindings := fun {other b'} here => by
    rw [bindingOf?_relink] at here
    split at here
    · rename_i same
      subst same
      obtain ⟨n, there, given⟩ := Option.bind_eq_some_iff.mp here
      rw [bindingOf?_of_get? there]
      exact takes n b' there given
    · exact .inr ⟨b', here, rfl⟩
  errors := ⟨[], by rw [relink_eq, List.flatMap_nil, List.append_nil]⟩

theorem Deed.snapshots (h : Deed op r r') (frameless : op.Frameless) : Snapshots r.frames r r' := by
  cases h with
  | register location free named =>
    refine ⟨rfl, rfl, fun {id n'} here => ?_, fun {id b'} here => ?_,
      [], (List.append_nil _).symm⟩
    · rw [get?_register] at here
      split at here
      · cases here
        exact .inl rfl
      · exact .inr ⟨n', here, rfl⟩
    · rw [bindingOf?_register] at here
      exact .inr ⟨b', here, rfl⟩
  | @attach id _ _ b here unbound fresh fits given realizes taken =>
    have relinked : Snapshots r.frames r (r.relink id (fun _ => some b) b.childIds) :=
      snapshots_relink _ _ fun _ b' _ attached => .inl (Option.some.inj attached ▸ taken)
    refine relinked.trans ?_
    obtain ⟨_, _, _, same⟩ := noteClass_eq (r.relink id (fun _ => some b) b.childIds) id b.className
    rw [same]
    exact .of_same rfl rfl (fun _ => rfl) rfl
  | @extend id role _ _ _ cs =>
    refine snapshots_relink _ _ fun n b' _ extended => .inr ?_
    obtain ⟨b, bound, rfl⟩ := Option.map_eq_some_iff.mp extended
    exact ⟨b, bound, by cases role <;> rfl⟩
  | setFields =>
    refine snapshots_relink _ _ fun n b' _ changed => .inr ?_
    obtain ⟨b, bound, rfl⟩ := Option.map_eq_some_iff.mp changed
    exact ⟨b, bound, rfl⟩
  | @note d trail given =>
    have current : trail = r.frames := given.resolve_right fun asked => by
      subst asked
      exact frameless
    subst current
    exact ⟨rfl, rfl, fun here => .inr ⟨_, here, rfl⟩, fun here => .inr ⟨_, here, rfl⟩,
      [d], by rw [List.flatMap_singleton]⟩
  | share value location =>
    refine ⟨by rw [withConstant_eq], by rw [withConstant_eq], fun {id n'} here => ?_,
      fun {id b'} here => ?_, [], by rw [withConstant_eq]; exact (List.append_nil _).symm⟩
    · rw [get?_withConstant] at here
      split at here
      · cases here
        exact .inl rfl
      · exact .inr ⟨n', here, rfl⟩
    · rw [bindingOf?_withConstant] at here
      split at here
      · cases here
        exact .inl rfl
      · exact .inr ⟨b', here, rfl⟩
  | count | openScope => exact .of_same rfl rfl (fun _ => rfl) rfl
  | keep held pinned =>
    have same : op.reframe r.frames = r.frames := op.reframe_of_frameless frameless _
    exact .of_same same rfl (fun _ => rfl) rfl

theorem Deeds.snapshots (h : Deeds op r r') (frameless : op.Frameless) :
    Snapshots r.frames r r' := by
  induction h with
  | refl => exact .of_same rfl rfl (fun _ => rfl) rfl
  | @tail r₁ r₂ _ last ih =>
    refine ih.trans ?_
    rw [← ih.frames]
    exact last.snapshots frameless

end Repository

/-! ## 2. What changes frames -/

open Repository in
/-- Only pushing and popping change the frames. -/
theorem Operation.frames_after (op : Operation) (r : Repository) :
    (op.after r).frames = op.reframe r.frames := by
  by_cases frameless : op.Frameless
  · rw [(Deeds.snapshots (op.deeds r) frameless).frames, op.reframe_of_frameless frameless]
  · cases op with
    | pushFrame | popFrame => rfl
    | addError d trail =>
      rw [after, run, exec_addError]
      split <;> rfl
    | _ => exact absurd trivial frameless

open Repository in
/-- What an operation records, registers or binds takes down the frames. -/
theorem Operation.snapshots (op : Operation) (frameless : op.Frameless) (r : Repository) :
    Snapshots r.frames r (op.after r) :=
  Deeds.snapshots (op.deeds r) frameless

/-- What the entry makes of the call frames. -/
def Event.reframe (frames : List Location) (e : Event) : List Location :=
  match e.request with
  | .operation op => op.reframe frames
  | .resolve _ _ => frames

namespace Repository

variable {r r' : Repository}

theorem CallsHook.frames (called : r.CallsHook r') : r'.frames = r.frames := by
  obtain ⟨ds, rfl⟩ := called.noting
  rfl

theorem covers_frames (trail : List Location) :
    Covers fun r r' => r.frames = trail → r'.frames = trail where
  note := fun _ _ same => same
  settle := fun r same => (thinned_settle r).frames.trans same
  place := fun r same => by rwa [place_eq]
  turn := fun _ _ same => same

/-- The frames after a run are what its journal makes of them. -/
theorem Runs.frames {log : List Event} (run : Runs r log r') :
    r'.frames = log.foldl Event.reframe r.frames := by
  induction run with
  | refl => rfl
  | @operation r r₁ log op _ ih =>
    rw [op.frames_after, ih, List.foldl_append]
    rfl
  | inHook _ called ih => exact called.frames.trans ih
  | @resolve r r₁ log inside hook location _ hooked idle ih inner =>
    rw [Event.after_resolve, List.foldl_append, List.foldl_append, ← ih]
    refine (covers_frames _).resolve_of_hook (fun r₂ called => ?_) fun uncalled => ?_
    · rw [inner r₂ called, called.frames]
      rfl
    · rw [idle uncalled]
      rfl

end Repository

/-! ## 3. Guards -/

/-- A frame is pushed, which gives a guard, or a guard is dropped. Of this, the number is the one
among the guards alive, oldest first. -/
inductive GuardEvent where
  | frame (location : Location)
  | drop (number : Nat)

namespace GuardEvent

/-- What the repository is asked for; it is not told which guard is dropped. -/
def operation : GuardEvent → Operation
  | frame location => .pushFrame location
  | drop _ => .popFrame

/-- What the event makes of the frames of the guards alive, oldest first. -/
def realive (alive : List Location) : GuardEvent → List Location
  | frame location => alive ++ [location]
  | drop number => alive.eraseIdx number

/-- The frames of the guards that are alive after the events. -/
def aliveAfter (alive : List Location) (events : List GuardEvent) : List Location :=
  events.foldl realive alive

/-- The frames after the events. -/
def trailAfter (frames : List Location) (events : List GuardEvent) : List Location :=
  events.foldl (fun frames e => e.operation.reframe frames) frames

/-- A guard is dropped while it is alive. -/
def Owned : List Location → List GuardEvent → Prop
  | _, [] => True
  | alive, frame location :: rest => Owned (alive ++ [location]) rest
  | alive, drop number :: rest => number < alive.length ∧ Owned (alive.eraseIdx number) rest

/-- Whenever a guard is dropped, the frames of the others are those that would be left if it were
the youngest one: it is, or its frame and those pushed after it are at one place. -/
def InTurn : List Location → List GuardEvent → Prop
  | _, [] => True
  | alive, frame location :: rest => InTurn (alive ++ [location]) rest
  | alive, drop number :: rest =>
      alive.eraseIdx number = alive.dropLast ∧ InTurn (alive.eraseIdx number) rest

/-- Whether guards are alive when they are dropped, event by event. -/
def decidableOwned : ∀ (alive : List Location) (events : List GuardEvent),
    Decidable (Owned alive events)
  | _, [] => .isTrue trivial
  | alive, frame location :: rest => decidableOwned (alive ++ [location]) rest
  | alive, drop number :: rest =>
      have := decidableOwned (alive.eraseIdx number) rest
      inferInstanceAs (Decidable (number < alive.length ∧ Owned (alive.eraseIdx number) rest))

instance (alive : List Location) (events : List GuardEvent) : Decidable (Owned alive events) :=
  decidableOwned alive events

/-- There are as many frames as guards alive, in whatever order guards are dropped. -/
theorem length_trailAfter {events : List GuardEvent} :
    ∀ {frames alive : List Location}, frames.length = alive.length → Owned alive events →
      (trailAfter frames events).length = (aliveAfter alive events).length := by
  induction events with
  | nil => exact fun same _ => same
  | cons e rest ih =>
    intro frames alive same owned
    cases e with
    | frame location =>
      have still : (frames ++ [location]).length = (alive ++ [location]).length := by
        rw [List.length_append, List.length_append, same]
      exact ih still owned
    | drop number =>
      obtain ⟨inside, owned⟩ := owned
      have still : frames.dropLast.length = (alive.eraseIdx number).length := by
        rw [List.length_dropLast, List.length_eraseIdx_of_lt inside, same]
      exact ih still owned

/-- The frames are those of the guards alive all the time exactly if guards are dropped in turn. -/
theorem trailAfter_eq_iff {events : List GuardEvent} : ∀ {alive : List Location},
    (∀ k, trailAfter alive (events.take k) = aliveAfter alive (events.take k)) ↔
      InTurn alive events := by
  induction events with
  | nil => exact fun {alive} => ⟨fun _ => trivial, fun _ k => by rw [List.take_nil]; rfl⟩
  | cons e rest ih =>
    intro alive
    cases e with
    | frame location =>
      rw [InTurn, ← ih]
      constructor
      · exact fun all k => all (k + 1)
      · rintro all (_ | k)
        · rfl
        · exact all k
    | drop number =>
      rw [InTurn, ← ih]
      constructor
      · intro all
        have first : alive.dropLast = alive.eraseIdx number := all 1
        refine ⟨first.symm, fun k => ?_⟩
        have later := all (k + 1)
        change trailAfter alive.dropLast (rest.take k) = _ at later
        rwa [first] at later
      · rintro ⟨first, all⟩ (_ | k)
        · rfl
        · change trailAfter alive.dropLast (rest.take k) = _
          rw [← first]
          exact all k

theorem trailAfter_of_inTurn {alive : List Location} {events : List GuardEvent}
    (inTurn : InTurn alive events) : trailAfter alive events = aliveAfter alive events := by
  have whole := trailAfter_eq_iff.mpr inTurn events.length
  rwa [List.take_length] at whole

end GuardEvent

/-- The operation of the entry, if it is about frames. -/
def Event.frameOperation? (e : Event) : Option Operation :=
  match e.request with
  | .operation (.pushFrame location) => some (.pushFrame location)
  | .operation .popFrame => some .popFrame
  | _ => none

/-- The other entries of a journal do not matter. -/
theorem foldl_reframe_frameOperation? (log : List Event) (frames : List Location) :
    log.foldl Event.reframe frames =
      (log.filterMap Event.frameOperation?).foldl (fun frames op => op.reframe frames) frames := by
  induction log generalizing frames with
  | nil => rfl
  | cons e log ih =>
    obtain ⟨request, before⟩ := e
    rw [List.foldl_cons, ih]
    cases request with
    | resolve hook location => rfl
    | operation op => cases op <;> rfl

/-! ## 4. Frames in a run -/

open Repository GuardEvent in
/-- The trail of a repository in a run in which frames are pushed and guards dropped, in any order
and with anything else in between. It is what pushing and popping make of it, whatever is recorded,
registered or bound next takes it down, and there are as many frames as guards alive. If guards are
dropped in turn, the frames are theirs, in the order in which they were made; and the frames are
theirs all the time only then. -/
theorem frames_follow_guards {w : Workspace} {log : List Event} {id : RepositoryId}
    {events : List GuardEvent} (run : Workspace.Runs {} log w) (planted : (w.tree? id).isSome)
    (asked : (log.filter (·.home = id)).filterMap Event.frameOperation? = events.map operation)
    (owned : Owned [] events) :
    ∃ r, r = w.repository id ∧ r.frames = trailAfter [] events ∧
      (∀ op : Operation, op.Frameless → Snapshots (trailAfter [] events) r (op.after r)) ∧
      r.frames.length = (aliveAfter [] events).length ∧
      (InTurn [] events → trailAfter [] events = aliveAfter [] events) ∧
      ((∀ k, trailAfter [] (events.take k) = aliveAfter [] (events.take k)) ↔
        InTurn [] events) := by
  obtain ⟨options, follows⟩ := run.begun rfl planted
  have frames : (w.repository id).frames = trailAfter [] events := by
    rw [follows.run.frames, foldl_reframe_frameOperation?, asked, List.foldl_map]
    rfl
  refine ⟨_, rfl, frames, fun op frameless => frames ▸ op.snapshots frameless _, ?_,
    trailAfter_of_inTurn, trailAfter_eq_iff⟩
  rw [frames]
  exact length_trailAfter rfl owned

section

open Workspace GuardEvent

def outerCall : Location := ⟨"trees.rs", 1, 5⟩
def innerCall : Location := ⟨"trees.rs", 2, 5⟩

/-- Two calls, of which the inner one ends first, and a node on the way. -/
def nestedCalls : List Operation :=
  [.pushFrame outerCall, .node .root "x" default, .pushFrame innerCall, .popFrame]

def insideNestedCalls : Repository :=
  (Repository.start ⟨0⟩ {}).afterAll nestedCalls

theorem frames_follow_guards_nestedCalls :
    ∃ events, Owned [] events ∧ InTurn [] events ∧
      Workspace.Runs {} ((Repository.start ⟨0⟩ {}).journal nestedCalls)
        (single {} insideNestedCalls) ∧
      aliveAfter [] events = [outerCall] ∧ insideNestedCalls.frames = [outerCall] ∧
      Repository.Snapshots [outerCall] insideNestedCalls
        (Operation.after (.node .root "y" default) insideNestedCalls) := by
  have run : Workspace.Runs {} _ (single {} insideNestedCalls) := runs_single {} nestedCalls
  have inside := Repository.runs_afterAll nestedCalls (Repository.start ⟨0⟩ {})
  have number : insideNestedCalls.id = ⟨0⟩ := inside.continues.id
  have planted : ((single {} insideNestedCalls).tree? ⟨0⟩).isSome :=
    isSome_tree?_updateRepository _ number _
  have home : ∀ e ∈ (Repository.start ⟨0⟩ {}).journal nestedCalls, e.home = ⟨0⟩ := inside.home
  have asked : (((Repository.start ⟨0⟩ {}).journal nestedCalls).filter (·.home = ⟨0⟩)).filterMap
      Event.frameOperation? =
        [GuardEvent.frame outerCall, .frame innerCall, .drop 1].map operation := by
    rw [List.filter_eq_self.mpr fun e member => decide_eq_true (home e member)]
    rfl
  have owned : Owned [] [.frame outerCall, .frame innerCall, .drop 1] := by decide
  have inTurn : InTurn [] [.frame outerCall, .frame innerCall, .drop 1] := ⟨rfl, trivial⟩
  obtain ⟨r, here, frames, snapshots, _, follow, _⟩ :=
    frames_follow_guards run planted asked owned
  obtain rfl := here.trans (repository_single {} number)
  exact ⟨_, owned, inTurn, run, rfl, frames, snapshots _ trivial⟩

/-- Two calls, of which the outer one ends first. -/
def crossedCalls : List Operation :=
  [.pushFrame outerCall, .pushFrame innerCall, .popFrame]

def insideCrossedCalls : Repository :=
  (Repository.start ⟨0⟩ {}).afterAll crossedCalls

/-- If the older one of two guards is dropped, the frame of the younger one is popped. What is
reported then is said to be called from a place that has no guard any more. -/
theorem not_frames_follow_guards_older :
    Workspace.Runs {} ((Repository.start ⟨0⟩ {}).journal crossedCalls)
        (single {} insideCrossedCalls) ∧
      (((Repository.start ⟨0⟩ {}).journal crossedCalls).filter (·.home = ⟨0⟩)).filterMap
          Event.frameOperation? =
        [GuardEvent.frame outerCall, .frame innerCall, .drop 0].map operation ∧
      Owned [] [.frame outerCall, .frame innerCall, .drop 0] ∧
      aliveAfter [] [.frame outerCall, .frame innerCall, .drop 0] = [innerCall] ∧
      insideCrossedCalls.frames = [outerCall] ∧
      (Operation.after (.report (.uninitializedNode "x" ⟨"trees.rs", 3, 5⟩))
          insideCrossedCalls).errors =
        [.uninitializedNode "x" ⟨"trees.rs", 3, 5⟩, .calledFrom "called from trees.rs" outerCall] :=
  ⟨runs_single {} crossedCalls, rfl, by decide, rfl, rfl, by decide⟩

end

end NodeForest

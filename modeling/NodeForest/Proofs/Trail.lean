import Mathlib.Data.List.DropRight
import NodeForest.Proofs.Check

/-!
# The trail of a diagnostic

A diagnostic can be recorded in single steps: itself, then the entries for its call frames one by
one from the innermost outwards until a frame is at the boundary, then the diagnostic that is
chained to it, as one that is recorded on its own without any frames and that may find the limit
reached. This comes to the same as recording all of it at once, wherever the limit is reached.

Results:
1. `exec_addFrames`: the entries for the frames, one by one.
2. `addErrorInSteps`: the single steps; `addError_eq_inSteps`: they are the recording that there is.
3. `addError_records_trail_and_chain`: what is recorded, and when the recording fails.
-/

namespace NodeForest

open NodeForest.Action

/-- The chain of a diagnostic ends with the one after it. -/
theorem Diagnostic.next?_next? {d next : Diagnostic} (chained : d.next? = some next) :
    next.next? = none := by
  cases d <;> cases chained
  rfl

namespace Repository

variable {r : Repository}

/-! ## 1. The frames -/

/-- Records the entries for some frames, given innermost first, up to one at the boundary. -/
def addFrames (location : Location) : List Location → Action Unit
  | [] => pure ()
  | frame :: outward => do
      if atBoundary (← get).options frame then return
      unless frame.sameLine location do
        modify (·.noting [.calledFrom ("called from " ++ frame.file) frame])
      addFrames location outward

/-- The entries for frames that are given innermost first. -/
def frameEntries (o : Options) (location : Location) (inward : List Location) : List Diagnostic :=
  ((inward.takeWhile (!atBoundary o ·)).filter (!·.sameLine location)).map fun frame =>
    .calledFrom ("called from " ++ frame.file) frame

theorem exec_addFrames (location : Location) (frames : List Location) (r : Repository) :
    (addFrames location frames).exec r =
      (.ok (), r.noting (frameEntries r.options location frames)) := by
  induction frames generalizing r with
  | nil =>
    rw [addFrames, exec_pure, frameEntries, List.takeWhile_nil, List.filter_nil, List.map_nil,
      noting_nil]
  | cons frame outward ih =>
    rw [addFrames, exec_bind_of_ok (exec_get r)]
    cases stops : atBoundary r.options frame with
    | true =>
      rw [if_pos rfl, frameEntries, List.takeWhile_cons_of_neg (by simp [stops]), List.filter_nil,
        List.map_nil, noting_nil]
      rfl
    | false =>
      rw [if_neg Bool.false_ne_true, frameEntries, List.takeWhile_cons_of_pos (by simp [stops])]
      cases same : frame.sameLine location with
      | true =>
        rw [List.filter_cons_of_neg (by simp [same]), ← frameEntries]
        exact ih r
      | false =>
        rw [List.filter_cons_of_pos (by simp [same]), List.map_cons, ← frameEntries]
        show (addFrames location outward).exec (r.noting _) = _
        rw [ih, noting_noting]
        rfl

/-! ## 2. The single steps -/

/-- Fails with everything recorded when that has reached the limit. -/
def testLimit : Action Unit := do
  let r ← get
  if r.limitReached then throw (.cumulative r.errors)

/-- Records a diagnostic in single steps. The one that is chained to it is recorded in the same way
without frames, and tests the limit on its own. -/
def addErrorInSteps (d : Diagnostic) (trail : List Location) : Action Unit := do
  if (← get).options.testing then throw (.diagnostic d)
  modify (·.noting [d])
  addFrames d.location trail.reverse
  match _chained : d.next? with
  | some next => addErrorInSteps next []
  | none => pure ()
  testLimit
termination_by d.next?.toList.length
decreasing_by simp [_chained, Diagnostic.next?_next? _chained]

theorem exec_testLimit (r : Repository) :
    testLimit.exec r = (if r.limitReached then .error (.cumulative r.errors) else .ok (), r) := by
  rw [testLimit, exec_bind_of_ok (exec_get r)]
  split <;> rfl

theorem exec_addErrorInSteps_of_testing (testing : r.options.testing) (d : Diagnostic)
    (trail : List Location) : (addErrorInSteps d trail).exec r = (.error (.diagnostic d), r) := by
  rw [addErrorInSteps, exec_bind_of_ok (exec_get r), if_pos testing]
  rfl

/-- In collecting mode the diagnostic and its frames are recorded before the chained one, and the
limit is tested after it. -/
theorem exec_addErrorInSteps_of_collecting (collecting : r.options.testing = false) (d : Diagnostic)
    (trail : List Location) :
    let noted := r.noting (d :: frameEntries r.options d.location trail.reverse)
    (addErrorInSteps d trail).exec r =
      match d.next? with
      | none => testLimit.exec noted
      | some next => (addErrorInSteps next [] >>= fun _ => testLimit).exec noted := by
  have framed : (addFrames d.location trail.reverse).exec (r.noting [d]) =
      (.ok (), r.noting (d :: frameEntries r.options d.location trail.reverse)) := by
    rw [exec_addFrames, noting_noting]
    rfl
  rw [addErrorInSteps, exec_bind_of_ok (exec_get r), if_neg (by simp [collecting])]
  show (addFrames d.location trail.reverse >>= _).exec (r.noting [d]) = _
  rw [exec_bind_of_ok framed]
  split <;> rename_i chained <;> rw [chained]

/-- The single steps are the recording of the whole. -/
theorem addError_eq_inSteps (d : Diagnostic) (trail : List Location) :
    addError d trail = addErrorInSteps d trail := by
  refine funext fun r => ?_
  show (addError d trail).exec r = (addErrorInSteps d trail).exec r
  rw [exec_addError]
  cases testing : r.options.testing with
  | true =>
    rw [if_pos rfl, exec_addErrorInSteps_of_testing testing]
  | false =>
    rw [if_neg Bool.false_ne_true, exec_addErrorInSteps_of_collecting testing]
    have whole : recorded r.options d trail =
        (d :: frameEntries r.options d.location trail.reverse) ++ d.next?.toList := rfl
    have collecting :
        (r.noting (d :: frameEntries r.options d.location trail.reverse)).options.testing = false :=
      testing
    rw [whole, ← noting_noting]
    generalize r.noting (d :: frameEntries r.options d.location trail.reverse) = noted at collecting
    cases chained : d.next? with
    | none =>
      show _ = testLimit.exec noted
      rw [exec_testLimit, Option.toList_none, noting_nil]
    | some next =>
      have last : next.next? = none := Diagnostic.next?_next? chained
      have alone : (addErrorInSteps next []).exec noted = testLimit.exec (noted.noting [next]) := by
        rw [exec_addErrorInSteps_of_collecting collecting, last]
        rfl
      show _ = (addErrorInSteps next [] >>= fun _ => testLimit).exec noted
      rw [Option.toList_some]
      -- The limit is tested twice, on the same list.
      have tested := exec_testLimit (noted.noting [next])
      rw [← alone] at tested
      dsimp only
      split at tested <;> rename_i reached
      · rw [exec_bind_of_error tested, if_pos reached]
      · rw [exec_bind_of_ok tested, exec_testLimit]

/-! ## 3. What is recorded -/

/-- Trails end before this frame: its file or the name of its file is the boundary. -/
def AtBoundary (o : Options) (frame : Location) : Prop :=
  ∃ boundary, o.trailBoundary = some boundary ∧ (frame.fileName = boundary ∨ frame.file = boundary)

theorem atBoundary_iff {o : Options} {frame : Location} :
    atBoundary o frame ↔ AtBoundary o frame := by
  unfold atBoundary AtBoundary
  cases o.trailBoundary with
  | none => simp
  | some boundary => simp

theorem sameLine_iff {frame location : Location} :
    frame.sameLine location ↔ frame.file = location.file ∧ frame.line = location.line := by
  rw [Location.sameLine, Bool.and_eq_true, beq_iff_eq, beq_iff_eq]

/-- The inner end of a trail: it goes outwards as far as the first frame at the boundary, which is
not part of it. -/
def InsideBoundary (o : Options) (trail inner : List Location) : Prop :=
  ∃ outer, trail = outer ++ inner ∧ (∀ frame ∈ inner, ¬AtBoundary o frame) ∧
    ∀ frame ∈ outer.getLast?, AtBoundary o frame

theorem insideBoundary_rtakeWhile (o : Options) (trail : List Location) :
    InsideBoundary o trail (trail.rtakeWhile (!atBoundary o ·)) := by
  refine ⟨trail.rdropWhile (!atBoundary o ·), List.rdropWhile_append_rtakeWhile.symm, ?_, ?_⟩
  · intro frame member stops
    have free := List.mem_rtakeWhile_imp member
    rw [atBoundary_iff.mpr stops] at free
    cases free
  · intro frame last
    obtain ⟨nonempty, rfl⟩ := List.mem_getLast?_eq_getLast last
    have stops := List.rdropWhile_last_not _ _ nonempty
    rw [Bool.not_eq_true', Bool.not_eq_false] at stops
    exact atBoundary_iff.mp stops

/-- The entries for the frames of a trail, innermost first, without those on one line with the
diagnostic. -/
def calledFromEach (location : Location) (inner : List Location) : List Diagnostic :=
  (inner.reverse.filter fun frame =>
    ¬(frame.file = location.file ∧ frame.line = location.line)).map fun frame =>
      .calledFrom ("called from " ++ frame.file) frame

theorem trailEntries_eq (o : Options) (location : Location) (trail : List Location) :
    trailEntries o location trail =
      calledFromEach location (trail.rtakeWhile (!atBoundary o ·)) := by
  rw [trailEntries, calledFromEach, List.rtakeWhile, List.reverse_reverse]
  refine congrArg _ (List.filter_congr fun frame _ => ?_)
  rw [Bool.eq_iff_iff, Bool.not_eq_true', decide_eq_true_iff, ← sameLine_iff, Bool.not_eq_true]

/-- The entry that a redefinition has after it. -/
def firstDefinition : Diagnostic → List Diagnostic
  | .nodeRedefined name _ firstDefined => [.firstDefinedHere name firstDefined]
  | _ => []

theorem toList_next? (d : Diagnostic) : d.next?.toList = firstDefinition d := by
  cases d <;> rfl

/-- Recording a diagnostic adds it with the entries for its frames inside the boundary and, for a
redefinition, the place of the first definition. It fails with the whole list exactly if that has
reached the limit. In testing mode nothing is recorded, and the diagnostic itself is returned. -/
theorem addError_records_trail_and_chain (d : Diagnostic) (trail : List Location)
    (r : Repository) :
    addError d trail = addErrorInSteps d trail ∧
      if r.options.testing then (addError d trail).exec r = (.error (.diagnostic d), r)
      else ∃ inner outcome, InsideBoundary r.options trail inner ∧
        let errors := r.errors ++ d :: calledFromEach d.location inner ++ firstDefinition d
        (addError d trail).exec r = (outcome, { r with errors }) ∧
          (outcome = .error (.cumulative errors) ↔
            ∃ limit, r.options.errorLimit = some limit ∧ limit ≤ errors.length) ∧
          (outcome = .ok () ↔
            ¬∃ limit, r.options.errorLimit = some limit ∧ limit ≤ errors.length) := by
  refine ⟨addError_eq_inSteps d trail, ?_⟩
  rw [exec_addError]
  split
  · rfl
  · rename_i collecting
    have noted : r.noting (recorded r.options d trail) =
        { r with errors := r.errors ++
            d :: calledFromEach d.location (trail.rtakeWhile (!atBoundary r.options ·)) ++
              firstDefinition d } := by
      rw [noting, recorded, trailEntries_eq, toList_next?, List.append_assoc]
    have within := limitReached_iff (r := r.noting (recorded r.options d trail))
    rw [noted] at within ⊢
    refine ⟨_, _, insideBoundary_rtakeWhile r.options trail, rfl, ?_, ?_⟩
    · rw [← within]
      split <;> rename_i reached
      · exact iff_of_true rfl reached
      · exact iff_of_false (by simp) reached
    · rw [← within]
      split <;> rename_i reached
      · exact iff_of_false (by simp) (not_not_intro reached)
      · exact iff_of_true rfl reached

/-- The limit of two is exceeded by a redefinition with one frame inside the boundary. -/
example :
    let options : Options := { trailBoundary := some "main.py", errorLimit := some 2 }
    let d : Diagnostic := .nodeRedefined "a" ⟨"lib/trees.py", 9, 1⟩ ⟨"lib/trees.py", 2, 1⟩
    let trail : List Location :=
      [⟨"run.py", 1, 1⟩, ⟨"bin/main.py", 5, 1⟩, ⟨"lib/forest.py", 3, 1⟩, ⟨"lib/trees.py", 9, 7⟩]
    ((addError d trail).exec { id := ⟨0⟩, options }).1 =
      .error (.cumulative [d, .calledFrom "called from lib/forest.py" ⟨"lib/forest.py", 3, 1⟩,
        .firstDefinedHere "a" ⟨"lib/trees.py", 2, 1⟩]) := by
  decide +kernel

end Repository

end NodeForest

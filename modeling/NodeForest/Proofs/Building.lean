import NodeForest.Definition.Builder
import NodeForest.Proofs.OrderedMap

/-!
# What a builder makes

A builder takes calls in any order and number. What comes of them can be read off the list of calls:
the first call that fails decides, whatever is called after it, and whether a call fails depends on
no other call. Without a failure the children must come from one kind of call. The record has the
fields that were set, each where it was set first and as it was set last, and then the class.

Results:
1. `BuilderCall.failure?`, `BuilderCall.written?` and the others beside them: what each call is for.
2. `Builder.apply_eq`, `Builder.foldl_apply`: one call, and all of them.
3. `BuilderCall.conflict?`, `Definition.Collects`: what is built from calls that do not fail.
4. `Definition.build_collects`: every sequence of calls.
-/

namespace NodeForest

/-! ## 1. Calls -/

namespace BuilderCall

def positional? : BuilderCall → Option Child
  | .child c => c.toOption
  | _ => none

def list? : BuilderCall → Option ChildList
  | .children l => some l
  | _ => none

def keyed? : BuilderCall → Option (String × Child)
  | .keyedChild key c => c.toOption.map (key, ·)
  | _ => none

def step? : BuilderCall → Option Child
  | .step c => c.toOption
  | _ => none

def stepList? : BuilderCall → Option ChildList
  | .steps l => if l.keyed then none else some l
  | _ => none

/-- The texts that are tags: those between blanks in a text, or those of a list of texts. -/
def tagTexts? : Value → Option (List String)
  | .text s => some (Text.splitBlank s)
  | .list items => (Value.list items).texts?
  | _ => none

/-- The field that tags are written to. -/
def writtenTags? (value : Value) : Option (String × Value) :=
  (tagTexts? value).map fun texts => (Record.tagsKey, .ofTexts texts)

/-- The field that groups are written to. -/
def writtenGroups? (value : Value) : Option (String × Value) :=
  value.texts?.map fun texts => (Record.groupsKey, .ofTexts texts)

/-- The field that the call sets, if it sets any, and its value then. -/
def written? : BuilderCall → Option (String × Value)
  | .field key value =>
      if key = Record.tagsKey then writtenTags? value
      else if key = Record.groupsKey then writtenGroups? value
      else if key ∈ reservedFields then none
      else some (key, value)
  | .tags value => writtenTags? value
  | .groups value => writtenGroups? value
  | _ => none

section

variable (className : String) (location : Location)

def tagsFailure? (value : Value) : Option BuildError :=
  if (writtenTags? value).isSome then none
  else some (.invalidTags className value.render location)

def groupsFailure? (value : Value) : Option BuildError :=
  if (writtenGroups? value).isSome then none
  else some (.invalidGroups className value.render location)

def argumentFailure? : Except BuildError Child → Option BuildError
  | .ok _ => none
  | .error e => some e

/-- The error that the call fails with, if it does, on a builder of this class. -/
def failure? : BuilderCall → Option BuildError
  | .child c => argumentFailure? c
  | .children _ => none
  | .keyedChild _ c => argumentFailure? c
  | .step c => argumentFailure? c
  | .steps l => if l.keyed then some (.keyedSteps className location) else none
  | .field key value =>
      if key = Record.tagsKey then tagsFailure? className location value
      else if key = Record.groupsKey then groupsFailure? className location value
      else if key ∈ reservedFields then some (.reservedField className key location)
      else none
  | .tags value => tagsFailure? className location value
  | .groups value => groupsFailure? className location value

end

/-- A field that is set is not one of the repository's, and tags and groups are lists of texts. -/
theorem written?_fits {call : BuilderCall} {key : String} {value : Value}
    (written : call.written? = some (key, value)) :
    key ∉ reservedFields ∧
      (key = Record.tagsKey ∨ key = Record.groupsKey → ∃ texts, value = .ofTexts texts) := by
  have tags {v : Value} (written : writtenTags? v = some (key, value)) :
      key ∉ reservedFields ∧
        (key = Record.tagsKey ∨ key = Record.groupsKey → ∃ texts, value = .ofTexts texts) := by
    obtain ⟨texts, _, same⟩ := Option.map_eq_some_iff.mp written
    cases same
    exact ⟨by decide, fun _ => ⟨texts, rfl⟩⟩
  have groups {v : Value} (written : writtenGroups? v = some (key, value)) :
      key ∉ reservedFields ∧
        (key = Record.tagsKey ∨ key = Record.groupsKey → ∃ texts, value = .ofTexts texts) := by
    obtain ⟨texts, _, same⟩ := Option.map_eq_some_iff.mp written
    cases same
    exact ⟨by decide, fun _ => ⟨texts, rfl⟩⟩
  cases call with
  | field key' value' =>
    rw [written?] at written
    split at written
    · exact tags written
    · rename_i notTags
      split at written
      · exact groups written
      · rename_i notGroups
        split at written
        · cases written
        · rename_i free
          cases written
          exact ⟨free, fun either => either.elim (absurd · notTags) (absurd · notGroups)⟩
  | tags value' => exact tags written
  | groups value' => exact groups written
  | child | children | keyedChild | step | steps => cases written

end BuilderCall

/-! ## 2. Applying calls -/

namespace Builder

open BuilderCall

theorem setTags_eq (b : Builder) (value : Value) :
    b.setTags value =
      { b with
        fields := OrderedMap.insertAll b.fields (writtenTags? value).toList
        error := b.error.or (tagsFailure? b.className b.location value) } := by
  unfold setTags writtenTags? tagsFailure? writtenTags?
  cases value with
  | text s => simp [tagTexts?, setField, OrderedMap.insertAll]
  | list items =>
    cases texts : (Value.list items).texts? with
    | none => simp [tagTexts?, texts, fail, OrderedMap.insertAll]
    | some texts' => simp [tagTexts?, texts, setField, OrderedMap.insertAll]
  | bool | int | float | complex | record => simp [tagTexts?, fail, OrderedMap.insertAll]

theorem setGroups_eq (b : Builder) (value : Value) :
    b.setGroups value =
      { b with
        fields := OrderedMap.insertAll b.fields (writtenGroups? value).toList
        error := b.error.or (groupsFailure? b.className b.location value) } := by
  unfold setGroups writtenGroups? groupsFailure? writtenGroups?
  cases value.texts? with
  | none => simp [fail, OrderedMap.insertAll]
  | some texts => simp [setField, OrderedMap.insertAll]

/-- A call adds what it is for, and its failure counts if none came before. -/
theorem apply_eq (b : Builder) (call : BuilderCall) :
    b.apply call =
      { b with
        positional := b.positional ++ call.positional?.toList
        list := call.list?.or b.list
        keyed := b.keyed ++ call.keyed?.toList
        steps := b.steps ++ call.step?.toList
        stepList := call.stepList?.or b.stepList
        fields := OrderedMap.insertAll b.fields call.written?.toList
        error := b.error.or (call.failure? b.className b.location) } := by
  cases call with
  | child c | keyedChild _ c | step c =>
    cases c <;> simp [apply, fail, positional?, list?, keyed?, step?, stepList?, written?, failure?,
      argumentFailure?, Except.toOption, OrderedMap.insertAll]
  | children l =>
    simp [apply, positional?, list?, keyed?, step?, stepList?, written?, failure?,
      OrderedMap.insertAll]
  | steps l =>
    cases keyed : l.keyed <;> simp [apply, keyed, fail, positional?, list?, keyed?, step?,
      stepList?, written?, failure?, OrderedMap.insertAll]
  | field key value =>
    rw [apply, written?, failure?]
    split
    · simp [setTags_eq, positional?, list?, keyed?, step?, stepList?]
    · split
      · simp [setGroups_eq, positional?, list?, keyed?, step?, stepList?]
      · split <;> simp [fail, setField, positional?, list?, keyed?, step?, stepList?,
          OrderedMap.insertAll]
  | tags value =>
    simp [apply, setTags_eq, positional?, list?, keyed?, step?, stepList?, written?, failure?]
  | groups value =>
    simp [apply, setGroups_eq, positional?, list?, keyed?, step?, stepList?, written?, failure?]

theorem filterMap_cons_toList {α β : Type} (f : α → Option β) (a : α) (as : List α) :
    (a :: as).filterMap f = (f a).toList ++ as.filterMap f := by
  rw [List.filterMap_cons]
  cases f a <;> rfl

theorem findSome?_cons_or {α β : Type} (f : α → Option β) (a : α) (as : List α) :
    (a :: as).findSome? f = (f a).or (as.findSome? f) := by
  rw [List.findSome?_cons]
  cases f a <;> rfl

/-- All calls add what they are for, in their order; of several lists the last one counts, and of
several failures the first. -/
theorem foldl_apply (calls : List BuilderCall) (b : Builder) :
    calls.foldl apply b =
      { b with
        positional := b.positional ++ calls.filterMap positional?
        list := (calls.filterMap list?).getLast?.or b.list
        keyed := b.keyed ++ calls.filterMap keyed?
        steps := b.steps ++ calls.filterMap step?
        stepList := (calls.filterMap stepList?).getLast?.or b.stepList
        fields := OrderedMap.insertAll b.fields (calls.filterMap written?)
        error := b.error.or (calls.findSome? (failure? b.className b.location)) } := by
  induction calls generalizing b with
  | nil => simp [OrderedMap.insertAll]
  | cons call calls ih =>
    have last {α : Type} (o : Option α) : o.toList.getLast? = o := by cases o <;> rfl
    rw [List.foldl_cons, ih, apply_eq]
    simp only [filterMap_cons_toList, findSome?_cons_or, last, List.append_assoc,
      List.getLast?_append, Option.or_assoc, OrderedMap.insertAll, List.foldl_append, className]

end Builder

/-! ## 3. What is built -/

namespace BuilderCall

/-- The kinds of calls that gave children. -/
def childSources (calls : List BuilderCall) : List String :=
  (if calls.filterMap positional? = [] then [] else ["arguments"]) ++
    (if calls.filterMap list? = [] then [] else ["'children'"]) ++
    (if calls.filterMap keyed? = [] then [] else ["keyword children"])

/-- The kinds of calls that are in each other's way, as the error names them: more than one that
gave children, or both that give step-children. -/
def conflict? (calls : List BuilderCall) : Option String :=
  if 1 < (childSources calls).length then some (" and ".intercalate (childSources calls))
  else if calls.filterMap step? = [] ∨ calls.filterMap stepList? = [] then none
  else some "step-child arguments and 'stepchildren'"

theorem written_fits {calls : List BuilderCall} {key : String} {value : Value}
    (member : (key, value) ∈ calls.filterMap written?) :
    key ∉ reservedFields ∧
      (key = Record.tagsKey ∨ key = Record.groupsKey → ∃ texts, value = .ofTexts texts) := by
  obtain ⟨call, _, written⟩ := List.mem_filterMap.mp member
  exact written?_fits written

end BuilderCall

open BuilderCall

/-- The record has the fields that the calls set, in the order in which they were first set, with
their last values, and then the class. -/
structure Record.Collects (className : String) (calls : List BuilderCall) (record : Record) :
    Prop where
  keys : OrderedMap.keys record =
    (OrderedMap.keys (calls.filterMap written?)).eraseDups ++ [classKey]
  classField : OrderedMap.get? record classKey = some (.text className)
  field : ∀ key, key ≠ classKey →
    OrderedMap.get? record key = OrderedMap.get? (calls.filterMap written?).reverse key
  texts : ∀ key, key = tagsKey ∨ key = groupsKey →
    ∀ value, OrderedMap.get? record key = some value → ∃ texts, value = .ofTexts texts
  reserved : ∀ key ∈ reservedFields, key ∈ OrderedMap.keys record → key = classKey

/-- The definition has the children and the step-children of the one kind of call that gave any, in
the order of the calls, or the list that was given last; and the record that the calls set. -/
structure Definition.Collects (named : NodeClass) (calls : List BuilderCall) (d : Definition) :
    Prop where
  nodeClass : d.nodeClass = named
  positional : calls.filterMap list? = [] → calls.filterMap keyed? = [] →
    d.children = .positional (calls.filterMap positional?)
  keyed : calls.filterMap keyed? ≠ [] → d.children = .ofKeyed (calls.filterMap keyed?)
  list : ∀ l, (calls.filterMap list?).getLast? = some l → d.children = l
  steps : calls.filterMap stepList? = [] → d.steps = .positional (calls.filterMap step?)
  stepList : ∀ l, (calls.filterMap stepList?).getLast? = some l → d.steps = l
  unkeyed : d.steps.keyed = false
  record : Record.Collects named.fullName calls d.record

theorem Record.collects_insert (className : String) (calls : List BuilderCall) :
    Record.Collects className calls
      (OrderedMap.insert (OrderedMap.ofList (calls.filterMap written?)) classKey
        (.text className)) := by
  have free {key : String} (member : key ∈ OrderedMap.keys (calls.filterMap written?)) :
      key ∉ reservedFields := by
    obtain ⟨⟨key', value⟩, written, rfl⟩ := List.mem_map.mp member
    exact (written_fits written).1
  have fresh : classKey ∉ OrderedMap.keys (OrderedMap.ofList (calls.filterMap written?)) :=
    fun member => free (OrderedMap.mem_keys_ofList.mp member) (by decide)
  have field (key : String) (other : key ≠ classKey) :
      OrderedMap.get? (OrderedMap.insert (OrderedMap.ofList (calls.filterMap written?)) classKey
        (.text className)) key = OrderedMap.get? (calls.filterMap written?).reverse key := by
    rw [OrderedMap.get?_insert, if_neg (by simpa using other), OrderedMap.ofList,
      OrderedMap.get?_insertAll, OrderedMap.get?_nil, Option.or_none]
  refine ⟨?_, ?_, field, ?_, ?_⟩
  · rw [OrderedMap.keys_insert, if_neg fresh, OrderedMap.keys_ofList]
  · rw [OrderedMap.get?_insert, if_pos (by simp)]
  · intro key either value found
    have other : key ≠ classKey := by rcases either with rfl | rfl <;> decide
    rw [field key other] at found
    have member := List.mem_reverse.mp (OrderedMap.mem_of_get? found)
    exact (written_fits member).2 either
  · intro key owned member
    rw [OrderedMap.keys_insert, if_neg fresh, List.mem_append, List.mem_singleton] at member
    exact member.resolve_left fun member => free (OrderedMap.mem_keys_ofList.mp member) owned

/-! ## 4. Every sequence of calls -/

namespace Builder

/-- What the calls leave of a new builder. -/
def collected (nodeClass : NodeClass) (location : Location) (calls : List BuilderCall) : Builder where
  nodeClass := nodeClass
  location := location
  positional := calls.filterMap positional?
  list := (calls.filterMap list?).getLast?
  keyed := calls.filterMap keyed?
  steps := calls.filterMap step?
  stepList := (calls.filterMap stepList?).getLast?
  fields := OrderedMap.ofList (calls.filterMap written?)
  error := calls.findSome? (failure? nodeClass.fullName location)

variable (nodeClass : NodeClass) (location : Location) (calls : List BuilderCall)

theorem foldl_new :
    calls.foldl apply { nodeClass, location } = collected nodeClass location calls := by
  rw [foldl_apply]
  simp [collected, OrderedMap.ofList, className]

theorem childSources_collected :
    (collected nodeClass location calls).childSources = BuilderCall.childSources calls := by
  simp only [Builder.childSources, BuilderCall.childSources, collected, List.isEmpty_iff,
    List.getLast?_isSome, ne_eq, ite_not]

/-- What is collected without a failure is put together, unless it is from several kinds of calls. -/
theorem finish_collected
    (quiet : calls.findSome? (failure? nodeClass.fullName location) = none) :
    (collected nodeClass location calls).finish =
      match conflict? calls with
      | some sources => .error (.conflictingChildren nodeClass.fullName sources location)
      | none => .ok (.ofParts nodeClass (collected nodeClass location calls).childList
          ((calls.filterMap stepList?).getLast?.getD (.positional (calls.filterMap step?)))
          (OrderedMap.ofList (calls.filterMap written?))) := by
  have error : (collected nodeClass location calls).error = none := quiet
  unfold finish conflict?
  rw [error, childSources_collected]
  dsimp only
  split
  · rfl
  · simp only [collected, List.getLast?_isSome, List.isEmpty_iff]
    by_cases single : calls.filterMap step? = [] <;>
      by_cases listed : calls.filterMap stepList? = [] <;> simp [single, listed, className]

theorem unkeyed_of_mem {calls : List BuilderCall} {l : ChildList}
    (member : l ∈ calls.filterMap stepList?) : l.keyed = false := by
  obtain ⟨call, _, given⟩ := List.mem_filterMap.mp member
  cases call with
  | steps l' =>
    cases keyed : l'.keyed <;> simp [stepList?, keyed] at given
    exact given ▸ keyed
  | _ => cases given

/-- Calls that are not in each other's way give the children and step-children. -/
theorem collects_ofParts {calls : List BuilderCall} (clear : conflict? calls = none) :
    (Definition.ofParts nodeClass (collected nodeClass location calls).childList
      ((calls.filterMap stepList?).getLast?.getD (.positional (calls.filterMap step?)))
      (OrderedMap.ofList (calls.filterMap written?))).Collects nodeClass calls where
  nodeClass := rfl
  positional := by
    intro noList noKeyed
    simp [Definition.ofParts, childList, collected, noList, noKeyed]
  keyed := by
    intro keyed
    -- A list beside keyed children would be a second source.
    have noList : calls.filterMap list? = [] := by
      by_contra listed
      have several : 1 < (BuilderCall.childSources calls).length := by
        rw [BuilderCall.childSources, if_neg listed, if_neg keyed]
        simp
      rw [conflict?, if_pos several] at clear
      cases clear
    simp [Definition.ofParts, childList, collected, noList, keyed]
  list := by
    intro l last
    simp [Definition.ofParts, childList, collected, last]
  steps := by
    intro noList
    simp [Definition.ofParts, noList]
  stepList := by
    intro l last
    simp [Definition.ofParts, last]
  unkeyed := by
    cases last : (calls.filterMap stepList?).getLast? with
    | none => rfl
    | some l => exact unkeyed_of_mem (List.mem_of_getLast? last)
  record := Record.collects_insert nodeClass.fullName calls

end Builder

/-- Whatever calls a builder gets, in whatever order: it fails with the error of the first that
fails. Without one, it names the kinds of calls that are in each other's way. Without those, it
builds the definition that the calls collect. -/
theorem Definition.build_collects (nodeClass : NodeClass) (location : Location)
    (calls : List BuilderCall) :
    match calls.findSome? (failure? nodeClass.fullName location) with
    | some e => build nodeClass location calls = .error e
    | none =>
      match conflict? calls with
      | some sources => build nodeClass location calls =
          .error (.conflictingChildren nodeClass.fullName sources location)
      | none => ∃ d, build nodeClass location calls = .ok d ∧ d.Collects nodeClass calls := by
  have built : build nodeClass location calls =
      (Builder.collected nodeClass location calls).finish :=
    congrArg Builder.finish (Builder.foldl_new nodeClass location calls)
  cases failed : calls.findSome? (failure? nodeClass.fullName location) with
  | some e =>
    have error : (Builder.collected nodeClass location calls).error = some e := failed
    show build nodeClass location calls = .error e
    rw [built, Builder.finish, error]
  | none =>
    rw [built, Builder.finish_collected nodeClass location calls failed]
    cases clear : conflict? calls with
    | some sources => rfl
    | none => exact ⟨_, rfl, Builder.collects_ofParts nodeClass location clear⟩

/-- A field keeps its place when it is set again. -/
example :
    (Definition.build (.standard "Leaf") default [.field "a" (.int 1), .field "tags" (.text "x y"),
      .field "a" (.int 2)]).toOption.map (fun d => OrderedMap.keys d.record) =
        some ["a", "tags", "class"] := by
  decide +kernel

end NodeForest

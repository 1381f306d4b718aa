import NodeForest.Proofs.Punctuation
import NodeForest.Repository.Outline

/-!
# Texts on one line

What is written for a value holds a line break only if a key or a text in it does: the marks around
them hold none, and neither do numbers. This is carried up to the line that an outline has for a
node.

Results:
1. `OneLine`: texts on one line; `splitOn_lines`: lines that are written one after the other.
2. `Value.Unbroken`: values whose keys and texts are on one line; `Value.oneLine_render`.
3. `Node.Unbroken`: nodes; `oneLine_headed`: their lines in an outline.
-/

namespace NodeForest

/-! ## 1. Texts -/

/-- The text holds no line break. -/
def OneLine (s : String) : Prop :=
  '\n' ∉ s.toList

instance : DecidablePred OneLine := fun s =>
  inferInstanceAs (Decidable ('\n' ∉ s.toList))

theorem oneLine_append {s t : String} : OneLine (s ++ t) ↔ OneLine s ∧ OneLine t := by
  rw [OneLine, String.toList_append, List.mem_append, not_or, OneLine, OneLine]

namespace OneLine

theorem append {s t : String} (hs : OneLine s) (ht : OneLine t) : OneLine (s ++ t) :=
  oneLine_append.mpr ⟨hs, ht⟩

theorem intercalate {sep : String} (h : OneLine sep) :
    ∀ {parts : List String}, (∀ s ∈ parts, OneLine s) → OneLine (sep.intercalate parts)
  | [], _ => by
    rw [String.intercalate_nil]
    decide
  | [s], all => by
    rw [String.intercalate_singleton]
    exact all s (List.mem_singleton_self s)
  | s :: t :: rest, all => by
    obtain ⟨first, others⟩ := List.forall_mem_cons.mp all
    rw [String.intercalate_cons_cons]
    exact (first.append h).append (h.intercalate others)

end OneLine

/-- Lines that are written one after the other are found again where the text is cut at its line
breaks. -/
theorem splitOn_lines : ∀ {lines : List String}, (∀ s ∈ lines, OneLine s) →
    (String.join (lines.map (· ++ "\n"))).toList.splitOn '\n' = lines.map String.toList ++ [[]]
  | [], _ => rfl
  | s :: rest, all => by
    obtain ⟨first, others⟩ := List.forall_mem_cons.mp all
    have ih := splitOn_lines others
    rw [List.splitOn] at ih ⊢
    rw [List.map_cons, String.join_cons, String.toList_append, String.toList_append,
      List.append_assoc, List.map_cons, List.cons_append, ← ih]
    refine List.splitOnP_append_cons_of_forall_mem (fun c member => ?_) '\n' rfl _
    exact beq_false_of_ne fun same => first (same ▸ member)

theorem Figures.oneLine {s : String} (h : Figures s) : OneLine s :=
  h.not_mem (by decide) (by decide)

/-! ## 2. Values -/

namespace Value

mutual

/-- All keys and texts in the value are on one line. -/
def Unbroken : Value → Prop
  | .text s => OneLine s
  | .list items => UnbrokenItems items
  | .record fields => UnbrokenFields fields
  | _ => True

def UnbrokenItems : List Value → Prop
  | [] => True
  | v :: rest => Unbroken v ∧ UnbrokenItems rest

def UnbrokenFields : List (String × Value) → Prop
  | [] => True
  | (k, v) :: rest => (OneLine k ∧ Unbroken v) ∧ UnbrokenFields rest

end

mutual

/-- Whether they are is decidable. -/
def decidableUnbroken : ∀ v : Value, Decidable v.Unbroken
  | .text s => inferInstanceAs (Decidable (OneLine s))
  | .list items => decidableUnbrokenItems items
  | .record fields => decidableUnbrokenFields fields
  | .bool _ | .int _ | .float _ | .complex _ _ => .isTrue trivial

def decidableUnbrokenItems : ∀ items : List Value, Decidable (UnbrokenItems items)
  | [] => .isTrue trivial
  | v :: rest =>
      have := decidableUnbroken v
      have := decidableUnbrokenItems rest
      inferInstanceAs (Decidable (Unbroken v ∧ UnbrokenItems rest))

def decidableUnbrokenFields :
    ∀ fields : List (String × Value), Decidable (UnbrokenFields fields)
  | [] => .isTrue trivial
  | (k, v) :: rest =>
      have := decidableUnbroken v
      have := decidableUnbrokenFields rest
      inferInstanceAs (Decidable ((OneLine k ∧ Unbroken v) ∧ UnbrokenFields rest))

end

instance : DecidablePred Unbroken := decidableUnbroken

mutual

/-- The text of a value whose keys and texts are on one line is on one line. -/
theorem oneLine_render : ∀ v : Value, v.Unbroken → OneLine v.render
  | .bool b, _ => by
    rw [render]
    cases b <;> decide
  | .int i, _ => by
    rw [render]
    exact (figures_toString_int i).oneLine
  | .float x, _ => by
    rw [render]
    exact (x.figures_text .message).oneLine
  | .complex re im, _ => by
    rw [render, complexText]
    have parts := ((re.figures_text .message).append (im.figures_signedText .message)).oneLine
    rw [oneLine_append] at parts
    exact ((OneLine.append (by decide) parts.1).append parts.2).append (by decide)
  | .text s, h => by
    rw [Unbroken] at h
    rw [render]
    exact (OneLine.append (by decide) h).append (by decide)
  | .list items, h => by
    rw [Unbroken] at h
    rw [render]
    exact (OneLine.append (by decide)
      (.intercalate (by decide) (oneLine_renderItems items h))).append (by decide)
  | .record fields, h => by
    rw [Unbroken] at h
    rw [render]
    exact (OneLine.append (by decide)
      (.intercalate (by decide) (oneLine_renderFields fields h))).append (by decide)

theorem oneLine_renderItems : ∀ items : List Value, UnbrokenItems items →
    ∀ s ∈ renderItems items, OneLine s
  | [], _ => by simp [renderItems]
  | v :: rest, h => by
    rw [UnbrokenItems] at h
    rw [renderItems]
    exact List.forall_mem_cons.mpr ⟨oneLine_render v h.1, oneLine_renderItems rest h.2⟩

theorem oneLine_renderFields : ∀ fields : List (String × Value), UnbrokenFields fields →
    ∀ s ∈ renderFields fields, OneLine s
  | [], _ => by simp [renderFields]
  | (k, v) :: rest, h => by
    rw [UnbrokenFields] at h
    rw [renderFields]
    exact List.forall_mem_cons.mpr
      ⟨(h.1.1.append (by decide)).append (oneLine_render v h.1.2), oneLine_renderFields rest h.2⟩

end

end Value

/-! ## 3. Nodes -/

/-- The texts of the node are on one line: its name and class, the labels of what is below it, and
what is in its record. -/
structure Node.Unbroken (n : Node) : Prop where
  name : OneLine n.name
  className : ∀ c ∈ n.className?, OneLine c
  labels : ∀ e ∈ n.children.entries ++ n.steps.entries, OneLine e.label.render
  record : ∀ record ∈ n.record?, Value.Unbroken (.record record)

instance : DecidablePred Node.Unbroken := fun n =>
  decidable_of_iff
    (OneLine n.name ∧ (∀ c ∈ n.className?, OneLine c) ∧
      (∀ e ∈ n.children.entries ++ n.steps.entries, OneLine e.label.render) ∧
      ∀ record ∈ n.record?, Value.Unbroken (.record record))
    ⟨fun ⟨name, className, labels, record⟩ => ⟨name, className, labels, record⟩,
      fun h => ⟨h.name, h.className, h.labels, h.record⟩⟩

namespace Repository

/-- The texts of all live nodes are on one line. -/
def Unbroken (r : Repository) : Prop :=
  ∀ entry ∈ r.entries, entry.2.Unbroken

instance : DecidablePred Unbroken := fun r =>
  inferInstanceAs (Decidable (∀ entry ∈ r.entries, entry.2.Unbroken))

theorem oneLine_lineStart (depth : Nat) {label : String} (h : OneLine label) :
    OneLine (lineStart depth label) := by
  refine .append ?_ ?_
  · rw [OneLine, String.toList_ofList]
    intro member
    cases List.eq_of_mem_replicate member
  · split
    · decide
    · exact h.append (by decide)

/-- A record stays on one line when it is cut. -/
theorem oneLine_cutRecord (header : String) {record : String} (h : OneLine record) :
    OneLine (cutRecord header record) := by
  unfold cutRecord
  dsimp only
  split
  · rw [OneLine, String.toList_ofList]
    exact fun member => h (List.mem_of_mem_take member)
  · exact h

/-- What an outline shows of a node, up to the record. -/
def heading (depth : Nat) (label : String) (n : Node) : String :=
  lineStart depth label ++ n.name ++ "(" ++ n.className?.getD nothing ++ ")"

/-- What an outline shows of a node. -/
def headed (depth : Nat) (label : String) (n : Node) : String :=
  heading depth label n ++ ": " ++
    cutRecord (heading depth label n) ((n.record?.map Record.render).getD nothing)

theorem nodeLine_eq (depth : Nat) (label : String) (n : Node) :
    nodeLine depth label n = headed depth label n ++ "\n" := rfl

/-- The name comes first after the label. -/
theorem exists_headed (depth : Nat) (label : String) (n : Node) :
    ∃ rest, headed depth label n = lineStart depth label ++ (n.name ++ "(" ++ rest) :=
  ⟨n.className?.getD nothing ++ ")" ++ ": " ++
    cutRecord (heading depth label n) ((n.record?.map Record.render).getD nothing), by
    simp only [headed, heading, String.append_assoc]⟩

theorem oneLine_headed (depth : Nat) {label : String} (h : OneLine label) {n : Node}
    (node : n.Unbroken) : OneLine (headed depth label n) := by
  have className : OneLine (n.className?.getD nothing) := by
    cases given : n.className? with
    | none => decide
    | some c => exact node.className c given
  have record : OneLine ((n.record?.map Record.render).getD nothing) := by
    cases given : n.record? with
    | none => decide
    | some record => exact Value.oneLine_render _ (node.record record given)
  have heading : OneLine (heading depth label n) :=
    ((((oneLine_lineStart depth h).append node.name).append (by decide)).append className).append
      (by decide)
  exact (heading.append (by decide)).append (oneLine_cutRecord _ record)

theorem oneLine_below {n : Node} (node : n.Unbroken) {entry : String × Option NodeId}
    (member : entry ∈ below n) : OneLine entry.1 := by
  rcases List.mem_append.mp member with child | step
  · obtain ⟨e, inside, rfl⟩ := List.mem_map.mp child
    exact node.labels e (List.mem_append_left _ inside)
  · obtain ⟨e, inside, rfl⟩ := List.mem_map.mp step
    exact (OneLine.append (by decide) (node.labels e (List.mem_append_right _ inside))).append
      (by decide)

end Repository

end NodeForest

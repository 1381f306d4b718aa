import NodeForest.Proofs.AnonymousBind
import NodeForest.Proofs.AnonymousCalls
import NodeForest.Proofs.Naming

/-!
# Nodes of their own

A definition without children gets the next name that its scope generates, and so the node of that
name if there is one. Nobody looks whether there is. There is none as long as no node is named by
hand as a scope will come to name one, and no two scopes have the same name: then whatever else is
done, each anonymous bind of a definition without children registers a node.

Results:
1. `Awaits`, `Apart`: names that are still to be generated; that no node has one.
2. `Operation.Sparing`: the operations that leave such names alone.
3. `Deed.apart`, `Operation.apart`, `Reachable.apart`: they keep names apart.
4. `childless_calls_fresh`: a node of its own for each definition without children;
   `not_childless_calls_fresh_twins`: two scopes of the same name.
-/

namespace NodeForest

open Relation NodeForest.Action

namespace Repository

/-! ## 1. Names that are to be generated -/

/-- A scope that is open will come to generate the name. -/
def Awaits (r : Repository) (name : String) : Prop :=
  ∃ scope base n, scope.index < r.scopes.size ∧ r.counterOf scope base ≤ n ∧
    name = r.scopedName scope (generatedName base n)

/-- No node has a name that a scope will come to generate, and no two scopes generate the same. -/
structure Apart (r : Repository) : Prop where
  nodes : ∀ {id n}, r.get? id = some n → ¬r.Awaits n.name
  located : ∀ {id n}, r.get? id = some n → n.scope.index < r.scopes.size
  root : 0 < r.scopes.size
  distinct : r.scopeNames.Nodup
  plain : ∀ name, some name ∈ r.scopeNames → '(' ∉ name.toList

/-- A scope of this name would generate names that no other scope generates and no node has. -/
structure Opens (r : Repository) (name : String) : Prop where
  plain : '(' ∉ name.toList
  new : some name ∉ r.scopeNames
  free : ∀ base n, r.lookup? (name ++ "::" ++ generatedName base n) = none

end Repository

/-- The class has a name that does not end like the name of a scope. -/
structure NodeClass.Proper (c : NodeClass) : Prop where
  plain : Plain (Text.lowercase c.name)
  filled : Text.lowercase c.name ≠ ""

namespace Operation

open Repository

/-- The scope that the operation is given. -/
def scope? : Operation → Option ScopeId
  | node scope _ _ => some scope
  | qualify _ scope _ _ => some scope
  | bindAnonymous scope _ _ => some scope
  | _ => none

/-- The name that the operation gives by hand. -/
def givenName? (r : Repository) : Operation → Option String
  | node scope name _ => some (r.scopedName scope name)
  | qualify basename _ quals _ => some (qualifyName basename quals)
  | _ => none

/-- The operation leaves the names alone that scopes will come to generate. -/
structure Sparing (r : Repository) (op : Operation) : Prop where
  inside : ∀ scope, op.scope? = some scope → scope.index < r.scopes.size
  names : ∀ name, op.givenName? r = some name → ¬r.Awaits name
  opens : ∀ parent name quals, op = .openScope parent name quals →
    r.Opens (qualifyName (r.scopedName parent name) quals)
  classes : ∀ d ∈ op.definitions, d.children.isEmpty = false → d.nodeClass.Proper

end Operation

namespace Repository

variable {op : Operation} {r r' : Repository}

theorem paren_mem_generatedName (base : String) (n : Nat) :
    '(' ∈ (generatedName base n).toList := by
  simp [generatedName]

/-- A name without a parenthesis is never generated. -/
theorem not_awaits_of_plain {name : String} (plain : '(' ∉ name.toList) : ¬r.Awaits name := by
  rintro ⟨scope, base, n, _, _, rfl⟩
  rw [scopedName_eq, String.toList_append, List.mem_append, not_or] at plain
  exact plain.2 (paren_mem_generatedName base n)

/-! ## 2. Names that are not generated -/

namespace Apart

theorem scopePrefix_plain (apart : r.Apart) (scope : ScopeId) :
    '(' ∉ (r.scopePrefix scope).toList := by
  unfold scopePrefix
  cases named : r.scopeName? scope with
  | none => simp
  | some name => simpa using apart.plain name (mem_scopeNames named)

/-- Scopes are told apart by their names. -/
theorem scope_eq (apart : r.Apart) {scope scope' : ScopeId} (inside : scope.index < r.scopes.size)
    (inside' : scope'.index < r.scopes.size) (same : r.scopeName? scope = r.scopeName? scope') :
    scope = scope' := by
  rw [← length_scopeNames] at inside inside'
  rw [scopeName?_eq, scopeName?_eq, List.getElem?_eq_getElem inside,
    List.getElem?_eq_getElem inside', Option.join_some, Option.join_some] at same
  exact congrArg ScopeId.mk ((apart.distinct.getElem_inj_iff).mp same)

/-- A generated name says by which scope it is, for what, and which one it is. -/
theorem generated_eq (apart : r.Apart) {scope scope' : ScopeId} {base base' : String} {n n' : Nat}
    (inside : scope.index < r.scopes.size) (inside' : scope'.index < r.scopes.size)
    (same : r.scopedName scope (generatedName base n) =
      r.scopedName scope' (generatedName base' n')) :
    scope = scope' ∧ base = base' ∧ n = n' := by
  rw [scopedName_eq, scopedName_eq] at same
  obtain ⟨prefixes, bases, counts⟩ := generatedName_injective (apart.scopePrefix_plain scope)
    (apart.scopePrefix_plain scope') same
  exact ⟨apart.scope_eq inside inside' (scopePrefix_injective prefixes), bases, counts⟩

/-- What stands in front of the first parenthesis of a generated name is the prefix of a scope. -/
theorem not_awaits_of_prefix (apart : r.Apart) {outer rest : String} (plain : '(' ∉ outer.toList)
    (other : ∀ scope, outer ≠ r.scopePrefix scope) : ¬r.Awaits (outer ++ ("(" ++ rest)) := by
  rintro ⟨scope, base, n, _, _, same⟩
  obtain ⟨digits, generated, _⟩ := toList_generatedName base n
  have cut := congrArg String.toList same
  rw [scopedName_eq, String.toList_append, String.toList_append, String.toList_append,
    generated] at cut
  obtain ⟨first, _⟩ := cut_first plain (apart.scopePrefix_plain scope) cut
  exact other scope (String.toList_inj.mp first)

end Apart

/-- A prefix ends in a colon if there is one. -/
theorem ne_scopePrefix (outer last : String) (filled : last ≠ "") (plain : ':' ∉ last.toList)
    (scope : ScopeId) : outer ++ last ≠ r.scopePrefix scope := by
  intro same
  unfold scopePrefix at same
  cases named : r.scopeName? scope with
  | none =>
    rw [named] at same
    exact filled (String.append_eq_empty_iff.mp same).2
  | some name =>
    rw [named] at same
    have ends := congrArg (fun s => s.toList.getLast?) same
    obtain ⟨c, final⟩ : ∃ c, last.toList.getLast? = some c := by
      rw [← Option.ne_none_iff_exists', Ne, List.getLast?_eq_none_iff]
      exact fun none => filled (String.toList_inj.mp none)
    simp only [String.toList_append, List.getLast?_append, final, Option.some_or] at ends
    obtain rfl : c = ':' := by simpa using ends
    exact plain (List.mem_of_getLast? final)

namespace Apart

/-- The name of a node for a definition with children starts with its class. -/
theorem not_awaits_composed (apart : r.Apart) {c : NodeClass} (proper : c.Proper) (scope : ScopeId)
    (inner : String) (quals : Qualifiers) :
    ¬r.Awaits (qualifyName
      (r.scopedName scope (Text.lowercase c.name ++ "(" ++ inner ++ ")")) quals) := by
  obtain ⟨rest, same⟩ : ∃ rest,
      qualifyName (r.scopedName scope (Text.lowercase c.name ++ "(" ++ inner ++ ")")) quals =
        (r.scopePrefix scope ++ Text.lowercase c.name) ++ ("(" ++ rest) := by
    rw [qualifyName, scopedName_eq]
    split
    · exact ⟨inner ++ ")", by simp only [String.append_assoc]⟩
    · exact ⟨inner ++ ")" ++ ":" ++ quals.render, by simp only [String.append_assoc]⟩
  rw [same]
  have lacks {mark : Char} (mark' : mark ∈ marks) : mark ∉ (Text.lowercase c.name).toList :=
    fun member => proper.plain mark member mark'
  refine apart.not_awaits_of_prefix ?_ (ne_scopePrefix _ _ proper.filled (lacks (by decide)))
  rw [String.toList_append, List.mem_append, not_or]
  exact ⟨apart.scopePrefix_plain scope, lacks (by decide)⟩

/-- The name of a constant starts with a letter. -/
theorem not_awaits_constant (apart : r.Apart) (value : Constant) :
    ¬r.Awaits (r.newConstantName value) := by
  obtain ⟨n, same⟩ : ∃ n, r.newConstantName value = constantName ("c" ++ value.render) n := by
    rw [newConstantName, freeConstantName]
    split
    · exact ⟨_, rfl⟩
    · exact ⟨0, rfl⟩
  obtain ⟨digits, tail, plain⟩ : ∃ digits,
      constantName ("c" ++ value.render) n = "c" ++ value.render ++ digits ∧ Plain digits := by
    rw [constantName]
    split
    · exact ⟨"", by simp, by decide⟩
    · exact ⟨toString n, rfl, plain_toString n⟩
  rw [same, tail]
  cases value with
  | real x =>
    refine not_awaits_of_plain fun member => ?_
    have all : Plain ("c" ++ Constant.render (.real x) ++ digits) :=
      (Plain.append (by decide) (x.figures_text .message).plain).append plain
    exact all '(' member (by decide)
  | complex re im =>
    have shape : "c" ++ Constant.render (.complex re im) ++ digits =
        "c" ++ ("(" ++ (re.text .message ++ im.signedText .message ++ "j)" ++ digits)) := by
      simp only [Constant.render, complexText, String.append_assoc]
    rw [shape]
    refine apart.not_awaits_of_prefix (by decide) fun scope => ?_
    exact ne_scopePrefix "" "c" (by decide) (by decide) scope

end Apart

/-! ## 3. What keeps names apart -/

/-- Without a new scope no name is awaited that was not awaited before. -/
theorem Deed.awaits (h : Deed op r r')
    (closed : ∀ parent name quals, op ≠ .openScope parent name quals) {name : String}
    (awaited : r'.Awaits name) : r.Awaits name := by
  obtain ⟨scope, base, n, inside, counted, rfl⟩ := awaited
  have same := h.scopeNames closed
  refine ⟨scope, base, n, ?_, Nat.le_trans (h.step.counters scope base) counted, ?_⟩
  · rwa [← length_scopeNames, same, length_scopeNames] at inside
  · rw [scopedName_congr same]

theorem Within.inside (apart : r.Apart) (sparing : op.Sparing r) {scope : ScopeId}
    (within : Within op r scope) : scope.index < r.scopes.size := by
  rcases within with ⟨argument, location, rfl⟩ | rfl | ⟨id, n, here, rfl⟩
  · exact sparing.inside scope rfl
  · exact apart.root
  · exact apart.located here

/-- No name that an operation asks for is awaited. -/
theorem Names.not_awaits (apart : r.Apart) (sparing : op.Sparing r) {basename : String}
    {scope : ScopeId} {quals : Qualifiers} (named : Names op r basename scope quals) :
    ¬r.Awaits (qualifyName basename quals) := by
  cases named with
  | node asked =>
    subst asked
    exact sparing.names _ rfl
  | qualify asked =>
    subst asked
    exact sparing.names _ rfl
  | generated _ within _ drawn =>
    rintro ⟨scope', base', n', inside', counted, same⟩
    have inside := within.inside apart sparing
    obtain ⟨rfl, rfl, rfl⟩ := apart.generated_eq inside inside' same
    exact absurd (drawn inside) (Nat.not_lt.mpr counted)
  | composed cs member _ filled =>
    exact apart.not_awaits_composed (sparing.classes _ member filled) scope _ _

theorem Names.inside (apart : r.Apart) (sparing : op.Sparing r) {basename : String}
    {scope : ScopeId} {quals : Qualifiers} (named : Names op r basename scope quals) :
    scope.index < r.scopes.size := by
  cases named with
  | node asked =>
    subst asked
    exact sparing.inside scope rfl
  | qualify asked =>
    subst asked
    exact sparing.inside scope rfl
  | generated _ within | composed _ _ within => exact within.inside apart sparing

theorem Deed.sparing (h : Deed op r r')
    (closed : ∀ parent name quals, op ≠ .openScope parent name quals) (sparing : op.Sparing r) :
    op.Sparing r' where
  inside := fun scope given => by
    rw [← length_scopeNames, h.scopeNames closed, length_scopeNames]
    exact sparing.inside scope given
  names := fun name given awaited => by
    have same : op.givenName? r' = op.givenName? r := by
      cases op with
      | node => rw [Operation.givenName?, Operation.givenName?,
          scopedName_congr (h.scopeNames closed)]
      | _ => rfl
    rw [same] at given
    exact sparing.names name given (h.awaits closed awaited)
  opens := fun parent name quals asked => absurd asked (closed parent name quals)
  classes := sparing.classes

theorem Deed.apart (h : Deed op r r')
    (closed : ∀ parent name quals, op ≠ .openScope parent name quals) (sparing : op.Sparing r)
    (apart : r.Apart) : r'.Apart where
  nodes := fun {id n} here awaited => by
    have awaited := h.awaits closed awaited
    cases h.nameOrigin here with
    | old there same =>
      rw [same.name] at awaited
      exact apart.nodes there awaited
    | asked named same =>
      rw [same] at awaited
      exact named.not_awaits apart sparing awaited
    | constant value location new =>
      subst new
      exact apart.not_awaits_constant value awaited
  located := fun {id n} here => by
    rw [← length_scopeNames, h.scopeNames closed, length_scopeNames]
    cases h.nameOrigin here with
    | old there same =>
      rw [same.scope]
      exact apart.located there
    | asked named => exact named.inside apart sparing
    | constant value location new =>
      subst new
      exact apart.root
  root := by
    rw [← length_scopeNames, h.scopeNames closed, length_scopeNames]
    exact apart.root
  distinct := h.scopeNames closed ▸ apart.distinct
  plain := h.scopeNames closed ▸ apart.plain

theorem Deeds.apart (h : Deeds op r r')
    (closed : ∀ parent name quals, op ≠ .openScope parent name quals) (sparing : op.Sparing r)
    (apart : r.Apart) : op.Sparing r' ∧ r'.Apart := by
  induction h with
  | refl => exact ⟨sparing, apart⟩
  | tail _ last ih => exact ⟨last.sparing closed ih.1, last.apart closed ih.1 ih.2⟩

/-- A new scope awaits names that no node has. -/
theorem Apart.addScope (apart : r.Apart) {parent : ScopeId} {name : String} {quals : Qualifiers}
    (opens : r.Opens (qualifyName (r.scopedName parent name) quals)) :
    (r.addScope parent name quals).2.Apart where
  nodes := fun {id n} here awaited => by
    obtain ⟨scope, base, k, inside, counted, same⟩ := awaited
    rw [← length_scopeNames, scopeNames_addScope, List.length_append, List.length_singleton,
      Nat.lt_succ_iff_lt_or_eq, length_scopeNames] at inside
    rw [scopedName, scopeName?_eq, scopeNames_addScope] at same
    rcases inside with inside | last
    · rw [List.getElem?_append_left (by rwa [length_scopeNames]), ← scopeName?_eq] at same
      have counts : r.counterOf scope base ≤ k :=
        Nat.le_trans ((Step.openScope (p := .none) _ not_false).counters scope base) counted
      exact apart.nodes here ⟨scope, base, k, inside, counts, same⟩
    · rw [last, ← length_scopeNames, List.getElem?_concat_length] at same
      exact lookup?_eq_none.mp (opens.free base k) id n here same
  located := fun {id n} here => by
    have := apart.located here
    rw [← length_scopeNames] at this ⊢
    rw [scopeNames_addScope, List.length_append]
    omega
  root := by
    have := apart.root
    rw [← length_scopeNames] at this ⊢
    rw [scopeNames_addScope, List.length_append]
    omega
  distinct := by
    rw [scopeNames_addScope]
    exact List.nodup_append.mpr ⟨apart.distinct, List.nodup_singleton _, fun _ old _ new same =>
      opens.new (List.mem_singleton.mp new ▸ same ▸ old)⟩
  plain := by
    intro other member
    rw [scopeNames_addScope, List.mem_append, List.mem_singleton, Option.some.injEq] at member
    rcases member with old | rfl
    · exact apart.plain other old
    · exact opens.plain

/-- Whatever a resolve does besides calling its hook keeps names apart. -/
theorem covers_apart : Covers fun r r' => r.Apart → r'.Apart := by
  refine covers_sameName.mono fun r r' ⟨scopes, nodes⟩ apart => ?_
  have names : r'.scopeNames = r.scopeNames := by rw [scopeNames, scopeNames, scopes]
  refine ⟨fun {id n'} here awaited => ?_, fun {id n'} here => ?_, scopes ▸ apart.root,
    names ▸ apart.distinct, names ▸ apart.plain⟩
  · obtain ⟨n, there, same⟩ := nodes here
    obtain ⟨scope, base, k, inside, counted, awaited⟩ := awaited
    refine apart.nodes there ⟨scope, base, k, scopes ▸ inside, ?_, ?_⟩
    · rwa [counterOf, scopes] at counted
    · rw [← same.name, awaited, scopedName_congr names]
  · obtain ⟨n, there, same⟩ := nodes here
    rw [same.scope, scopes]
    exact apart.located there

end Repository

open Repository in
/-- A sparing operation keeps names apart, whether it fails or not. -/
theorem Operation.apart {op : Operation} {r : Repository} (sparing : op.Sparing r)
    (apart : r.Apart) : (op.after r).Apart := by
  by_cases opening : ∃ parent name quals, op = .openScope parent name quals
  · obtain ⟨parent, name, quals, rfl⟩ := opening
    exact apart.addScope (sparing.opens parent name quals rfl)
  · push Not at opening
    exact (Deeds.apart (op.deeds r) opening sparing apart).2

namespace Repository

variable {op : Operation} {r r' : Repository}

theorem Reachable.apart (h : Reachable (fun r op => op.Sparing r) r) : r.Apart := by
  obtain ⟨id, options, led⟩ := h
  refine led.kept covers_apart (fun r op sparing apart => Operation.apart sparing apart) ?_
  refine ⟨fun here => (by cases here), fun here => (by cases here), Nat.one_pos, ?_,
    fun name member => ?_⟩
  · exact List.nodup_singleton _
  · cases List.mem_singleton.mp member

/-! ## 4. Definitions without children -/

/-- A scope generates the name that its counter says, and goes on counting. -/
theorem uniqueName_inside {scope : ScopeId} (inside : scope.index < r.scopes.size) (base : String) :
    ∃ r₁, r.uniqueName scope base = (generatedName base (r.counterOf scope base), r₁) ∧
      r₁.nodes = r.nodes ∧ r₁.scopeNames = r.scopeNames := by
  have here := Array.getElem?_eq_getElem inside
  let counted := r.scopes.setIfInBounds scope.index (r.scopes[scope.index].counted base)
  refine ⟨{ r with scopes := counted }, ?_, rfl, scopeNames_count base here⟩
  rw [uniqueName, counterOf, here]
  rfl

theorem getOrCreate_of_free {name : String} (basename : String) (scope : ScopeId)
    (quals : Qualifiers) (location : Location) (free : r.lookup? name = none) :
    r.getOrCreate name basename scope quals location =
      (⟨r.nodes.size⟩, r.register name basename scope quals location) := by
  rw [getOrCreate, free]

/-- The next generated name is that of no node, so one is registered under it. -/
theorem Apart.anonymousNode (apart : r.Apart) {scope : ScopeId}
    (inside : scope.index < r.scopes.size) (c : NodeClass) (cs : ChildList) (empty : cs.isEmpty)
    (location : Location) :
    ∃ id r' n, r.anonymousNode scope c cs location = (id, r') ∧ id.index = r.nodes.size ∧
      r'.get? id = some n ∧ n.binding = none ∧
      n.name = r.scopedName scope (generatedName (Text.lowercase c.name)
        (r.counterOf scope (Text.lowercase c.name))) := by
  obtain ⟨r₁, drawn, nodes, names⟩ := uniqueName_inside inside (Text.lowercase c.name)
  have free : r.lookup? (r.scopedName scope (generatedName (Text.lowercase c.name)
      (r.counterOf scope (Text.lowercase c.name)))) = none :=
    lookup?_eq_none.mpr fun id n live same => apart.nodes live (same ▸
      ⟨scope, Text.lowercase c.name, _, inside, Nat.le_refl _, rfl⟩)
  rw [lookup?, ← nodes, ← lookup?] at free
  rw [Repository.anonymousNode, if_pos empty, drawn, ← nodes]
  dsimp only
  rw [nodeInScope, scopedName_congr names, getOrCreate_of_free _ _ _ _ free]
  exact ⟨_, _, _, rfl, rfl, by rw [get?_register, if_pos rfl], rfl, rfl⟩

/-- Without step-children, a definition is attached to a node that has none. -/
theorem bound_anonymousBind {id : NodeId} {n : Node} {cs steps : ChildList}
    (here : r.get? id = some n) (unbound : n.binding = none) (stepless : steps.isEmpty)
    (location : Location) (c : NodeClass) (record : Record) :
    ∃ r', (anonymousBind location id c cs steps record).exec r = (.ok (), r') ∧ r'.isBound id := by
  rw [exec_anonymousBind_stepless location stepless]
  rcases exec_attach_cases (.ofParts c cs ⟨[], steps.keyed, true⟩ record) location
    (isLive_iff.mpr ⟨n, here⟩) with attached | ⟨_, _, bound⟩
  · exact attached
  · rw [isBound_eq, bindingOf?_of_get? here, unbound] at bound
    cases bound

/-- A definition without children gets a new node, under the next name that its scope generates. -/
theorem Apart.defineAnonymous (apart : r.Apart) {d : Definition} (childless : d.children.isEmpty)
    {scope : ScopeId} (inside : scope.index < r.scopes.size) {location : Location}
    {outcome : Except Failure NodeId}
    (ran : (defineAnonymous location scope d).exec r = (outcome, r')) :
    ∃ id n, id.index = r.nodes.size ∧ r.get? id = none ∧ r'.get? id = some n ∧
      n.name = r.scopedName scope (generatedName (Text.lowercase d.nodeClass.name)
        (r.counterOf scope (Text.lowercase d.nodeClass.name))) ∧
      (∀ given, outcome = .ok given → given = id) ∧
      (d.steps.isEmpty → outcome = .ok id ∧ r'.isBound id) := by
  obtain ⟨id, r₂, n, taken, index, here, unbound, named⟩ := apart.anonymousNode inside d.nodeClass
    ⟨[], d.children.keyed, true⟩ rfl location
  rw [exec_defineAnonymous location scope
    (exec_resolveChildren_empty location childless scope r) taken] at ran
  have fits : Promise.none.Fits r₂ (ChildList.members ⟨[], d.children.keyed, true⟩) := nofun
  have rest := leads_anonymousRest location fits id d.nodeClass d.steps d.record
  obtain ⟨n', here', grows⟩ := Steps.grows (rest.steps ran) here
  refine ⟨id, n', index, get?_eq_none (Nat.le_of_eq index.symm), here',
    grows.name.trans named, fun given ok => rest.value (ok ▸ ran), fun stepless => ?_⟩
  obtain ⟨r₃, attached, bound⟩ := bound_anonymousBind here unbound stepless location d.nodeClass
    d.record
  rw [exec_bind_of_ok (exec_recording_of_ok attached)] at ran
  cases ran
  exact ⟨rfl, bound⟩

end Repository

end NodeForest

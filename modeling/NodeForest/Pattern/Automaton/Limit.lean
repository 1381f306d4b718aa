import NodeForest.Pattern.Automaton.CharacterSet
import NodeForest.Pattern.Automaton.Literals
import NodeForest.Pattern.Build

/-!
# The automata of patterns

Two automata are made of a pattern, one that reads forwards and marks the groups that are counted,
and one that reads backwards. The pattern is within the limit when both are.
-/

namespace NodeForest.Pattern

/-- Where a pattern stands in a choice. -/
inductive Standing where
  | alone
  /-- After the first choice, which ends in `stop`. -/
  | second (stop : Branches)
  | later

/-- Joins a choice that has been added to those before it. -/
def Standing.join (s : Standing) (stop : Branches) : Growing Branches :=
  match s with
  | alone => return stop
  | second first => do
      let _ ← addState 0
      let _ ← addState 0
      addBranches 2
      link first
      link stop
      return false
  | later => do
      addBranches 1
      link stop
      return false

/-- The literals of a choice between literals only. -/
def literals? (p : Pattern) : Option (List (List Char)) :=
  p.choices.mapM fun
    | literal cs => some cs
    | _ => none

/-- Adds the states of a pattern. -/
def grow (backwards : Bool) : Pattern → Standing → Growing Branches
  | empty, s => do
      let _ ← addState 0
      s.join false
  | literal cs, s => do s.join (← addBytes (literalBytes backwards cs).length)
  | chars set, s => do s.join (← addSet backwards set)
  | assertion _, s => do
      let _ ← addState 0
      s.join false
  | seq p q, s => do
      let (before, after) ←
        if backwards then
          let before ← grow backwards q .alone
          pure (before, ← grow backwards p .alone)
        else
          let before ← grow backwards p .alone
          pure (before, ← grow backwards q .alone)
      link before
      s.join after
  | alt p q, .alone =>
      match literals? (alt p q) with
      | some literals => addLiterals (literals.map (literalBytes backwards))
      | none => do
          let stop ← grow backwards p .alone
          grow backwards q (.second stop)
  | alt p q, s => do
      let _ ← s.join (← grow backwards p .alone)
      grow backwards q .later
  | repeated least most _ p, s => do
      let mayBeEmpty := !p.minLength?.any (0 < ·)
      s.join (← addRepeated (grow backwards p .alone) mayBeEmpty least most)
  | capture _ p, s =>
      if backwards then do s.join (← grow backwards p .alone)
      else do
        let _ ← addState 0
        let stop ← grow backwards p .alone
        let _ ← addState 0
        link stop
        s.join false

/-- Every match of the pattern begins at the start of the text. -/
def startsText : Pattern → Bool
  | assertion a => a == .textStart
  | seq p q => p.startsText || (p.isZeroWidth && q.startsText)
  | alt p q => p.startsText && q.startsText
  | repeated least _ _ p => 0 < least && p.startsText
  | capture _ p => p.startsText
  | _ => false

/-- Every match of the pattern ends at the end of the text. -/
def endsText : Pattern → Bool
  | assertion a => a == .textEnd
  | seq p q => q.endsText || (q.isZeroWidth && p.endsText)
  | alt p q => p.endsText && q.endsText
  | repeated least _ _ p => 0 < least && p.endsText
  | capture _ p => p.endsText
  | _ => false

/-- Adds what comes before a pattern: where it is not bound to an end of the text, a loop that skips
any bytes. -/
def growStart (bound : Bool) : Growing Branches := do
  let _ ← addState 0
  if bound then return false
  let _ ← addState 0
  let _ ← addState transitionSize
  addBranches 1
  return true

/-- Adds the whole automaton of a pattern. The match of the whole pattern is a counted group. -/
def growWhole (backwards : Bool) (p : Pattern) : Growing Unit := do
  let start ← growStart (if backwards then p.endsText else p.startsText)
  let stop ← grow backwards (capture 0 p) .alone
  let _ ← addState 0
  link stop
  link start

/-- Both automata of the pattern are within the limit. -/
def isWithinLimit (p : Pattern) : Bool :=
  (growWhole false p {}).isSome && (growWhole true p {}).isSome

end NodeForest.Pattern

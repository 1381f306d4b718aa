import NodeForest.Text.AsciiClass
import NodeForest.Text.Property.Binary

/-!
# Patterns

A pattern is a regular expression with assertions about the place it stands at. `ends` gives, for
some places in a text, the places at which a match that begins at one of them may end; a text matches
when a match begins anywhere in it.
-/

namespace NodeForest

/-- What is asserted about a place in the text. -/
inductive Assertion where
  | textStart
  | textEnd
  /-- With `crlf`, a carriage return ends a line too, and the two together end one line. -/
  | lineStart (crlf : Bool)
  | lineEnd (crlf : Bool)
  /-- Assertions about words, of the letters of all scripts or of ASCII ones. -/
  | wordBoundary (allScripts : Bool)
  | notWordBoundary (allScripts : Bool)
  | wordStart (allScripts : Bool)
  | wordEnd (allScripts : Bool)
  | wordStartHalf (allScripts : Bool)
  | wordEndHalf (allScripts : Bool)
deriving DecidableEq, Repr, Inhabited

inductive Pattern where
  | empty
  /-- These characters, of which there is at least one. -/
  | literal (cs : List Char)
  | chars (s : Text.CodeRanges)
  | assertion (a : Assertion)
  | seq (p q : Pattern)
  | alt (p q : Pattern)
  /-- At least `least` times, and at most `most` times where that is given. -/
  | repeated (least : Nat) (most : Option Nat) (greedy : Bool) (p : Pattern)
  /-- A group that is counted. -/
  | capture (index : Nat) (p : Pattern)
deriving DecidableEq, Repr, Inhabited

namespace Assertion

/-- The characters of words. -/
def wordSet (allScripts : Bool) : Text.CodeRanges :=
  if allScripts then Text.wordCharacters else Text.AsciiClass.word

def holds (text : Array Char) (place : Nat) (a : Assertion) : Bool :=
  let before? := if place = 0 then none else text[place - 1]?
  let after? := text[place]?
  let wordBefore (allScripts : Bool) := before?.any (wordSet allScripts).holds
  let wordAfter (allScripts : Bool) := after?.any (wordSet allScripts).holds
  match a with
  | textStart => place == 0
  | textEnd => place == text.size
  | lineStart false => before?.all (· == '\n')
  | lineStart true => before?.all fun c => c == '\n' || (c == '\r' && after? != some '\n')
  | lineEnd false => after?.all (· == '\n')
  | lineEnd true => after?.all fun c => c == '\r' || (c == '\n' && before? != some '\r')
  | wordBoundary all => wordBefore all != wordAfter all
  | notWordBoundary all => wordBefore all == wordAfter all
  | wordStart all => !wordBefore all && wordAfter all
  | wordEnd all => wordBefore all && !wordAfter all
  | wordStartHalf all => !wordBefore all
  | wordEndHalf all => !wordAfter all

end Assertion

/-- Of the places of `more` those that `places` lacks, each once. -/
def newPlaces (places more : List Nat) : List Nat :=
  more.foldl (fun new i => if places.contains i || new.contains i then new else i :: new) []

/-- The places reached by at most `n` more steps from `frontier`, besides those of `reached`. No step
is taken twice from one of the places `left`. -/
def spread (step : List Nat → List Nat) : Nat → (left reached frontier : List Nat) → List Nat
  | 0, _, reached, _ => reached
  | n + 1, left, reached, frontier =>
      if frontier.isEmpty then reached
      else
        let new := newPlaces reached (step frontier)
        let next := newPlaces left new
        spread step n (next ++ left) (new ++ reached) next

namespace Pattern

/-- The places after a character that passes the test. -/
def after (text : Array Char) (test : Char → Bool) (places : List Nat) : List Nat :=
  (places.filter fun i => text[i]?.any test).map (· + 1)

/-- The places at which matches that begin at one of `places` may end. -/
def ends (text : Array Char) : Pattern → List Nat → List Nat
  | empty, places => places
  | literal cs, places => cs.foldl (fun places c => after text (· == c) places) places
  | chars s, places => after text s.holds places
  | assertion a, places => places.filter fun i => a.holds text i
  | seq p q, places => q.ends text (p.ends text places)
  | alt p q, places =>
      let first := p.ends text places
      first ++ newPlaces first (q.ends text places)
  | repeated least most _ p, places =>
      -- In a text of `n` characters a path of more than `n` steps stays in place once, where it may
      -- stay any number of times: more than `n + 1` steps reach what `n + 1` steps reach.
      let limit := text.size + 1
      let step := p.ends text
      match least, most with
      | 0, none => spread step limit places places places
      | least + 1, none =>
          let before := Nat.repeat step (min least limit) places
          spread step limit before [] before
      | least, some most =>
          let exactly := Nat.repeat step (min least limit) places
          spread step (min (most - least) limit) exactly exactly exactly
  | capture _ p, places => p.ends text places

/-- Some part of the text matches. -/
def isMatch (p : Pattern) (s : String) : Bool :=
  let text := s.toList.toArray
  !(p.ends text (List.range (text.size + 1))).isEmpty

end Pattern

end NodeForest

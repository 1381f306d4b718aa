import NodeForest.Pattern.Automaton.Limit
import NodeForest.Pattern.Meaning
import NodeForest.Pattern.Phrase.Reader

/-!
# Reading patterns

A text is a pattern when it says a phrase, the phrase has a meaning, and the automaton of that
meaning is within the limit.
-/

namespace NodeForest.Pattern

def read (s : String) : Read Pattern := do
  let (p, _) ← (← Phrase.read s).meaning {}
  if p.isWithinLimit then .ok p else .error "pattern too large"

end NodeForest.Pattern

/-!
# Pattern engines

A configuration picks operations by regular expressions. What an expression means is a matter of the
engine that reads it: `PatternEngine` is all that is asked of one. Nothing is assumed about an
engine, so what follows for the generator follows for every engine.
-/

namespace ResourceGen

/-- An engine for regular expressions. -/
class PatternEngine where
  /-- The patterns that the engine has read. -/
  Compiled : Type
  /-- The matches it has found. -/
  Match : Type
  /-- The pattern that a text writes, if it writes one. -/
  compile? : String → Option Compiled
  /-- The first match of a pattern in a text. -/
  find? : Compiled → String → Option Match
  /-- Fills in a template with the groups of a match. -/
  expand : Match → String → String

end ResourceGen

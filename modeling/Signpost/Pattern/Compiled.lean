import Signpost.Pattern.Source
import Signpost.Regex.Reading

/-!
# Compiled patterns

A compiled pattern is a pattern with the regular expression that its source denotes.  Compiling
fails with a fault that names the pattern, except that a number of rounds which cannot be counted
is reported without it.  `CompiledPattern.match?` gives the named parameters of a path.
-/

namespace Signpost

/-- The parameters of a path: names with their values. -/
abbrev Params := List (Text × Text)

/-- A pattern with its regular expression. -/
structure CompiledPattern where
  pattern : Text
  /-- The text of the regular expression. -/
  source : Text
  expression : Regex.Expression
  deriving DecidableEq, Repr

namespace CompiledPattern

/-- The names of the groups, in the order of the groups. -/
def names (compiled : CompiledPattern) : List Text :=
  compiled.expression.names.map Prod.fst

/-- The parameters of a path, or nothing if the path does not match.  Groups without a name and
groups that took no part are left out. -/
def match? (compiled : CompiledPattern) (path : Text) : Option Params :=
  compiled.expression.captures? path

end CompiledPattern

/-- The fault that a flaw of the regular expression of a pattern is reported as. -/
def faultOf (pattern : Text) : Regex.Flaw → Fault
  | .malformed => .invalidPattern pattern .badRegex
  | .countTooLarge => .countTooLarge
  | .countTooLong => .countTooLong

variable [Unicode.Names]

/-- The compiled form of a pattern with a given source. -/
def compileSource (pattern source : Text) : Except Fault CompiledPattern :=
  match Regex.read source with
  | .error flaw => .error (faultOf pattern flaw)
  | .ok expression => .ok ⟨pattern, source, expression⟩

/-- The compiled form of a placeholder pattern. -/
def compilePlaceholders (resolver : Resolver) (pattern : Text) : Except Fault CompiledPattern :=
  (sourceOf resolver pattern).bind (compileSource pattern)

/-- The compiled form of a pattern that is a regular expression itself. -/
def compileRaw (pattern : Text) : Except Fault CompiledPattern :=
  compileSource pattern (rawSource pattern)

/-- The compiled form of a pattern. -/
def compilePattern (resolver : Resolver) (pattern : Text) : Except Fault CompiledPattern :=
  if isRaw pattern then compileRaw pattern else compilePlaceholders resolver pattern

end Signpost

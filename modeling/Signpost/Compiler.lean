import Signpost.Pattern.Compiled

/-!
# A compiler that remembers

A compiler resolves types by one table and keeps every pattern that it has compiled.  Compiling a
pattern a second time gives the kept form.  A pattern that cannot be compiled is not kept.
-/

namespace Signpost

/-- A table of types with the patterns compiled so far. -/
structure Compiler where
  /-- How types are resolved. -/
  resolver : Resolver
  /-- The kept patterns, in the order in which they were compiled. -/
  kept : List (Text × CompiledPattern) := []
  deriving DecidableEq, Repr

namespace Compiler

/-- The compiler for the built-in types and others entered over them. -/
def new (extra : MatchTypes) (strict : Bool) : Compiler :=
  { resolver := ⟨MatchTypes.withExtra extra, strict⟩ }

/-- The kept form of a pattern. -/
def find? (compiler : Compiler) (pattern : Text) : Option CompiledPattern :=
  compiler.kept.lookup pattern

/-- The compiler with a pattern kept. -/
def keep (compiler : Compiler) (pattern : Text) (compiled : CompiledPattern) : Compiler :=
  { compiler with kept := compiler.kept ++ [(pattern, compiled)] }

variable [Unicode.Names]

/-- The compiled form of a pattern, and the compiler afterwards. -/
def compile (compiler : Compiler) (pattern : Text) : Except Fault CompiledPattern × Compiler :=
  match compiler.find? pattern with
  | some compiled => (.ok compiled, compiler)
  | none =>
      match compilePattern compiler.resolver pattern with
      | .error fault => (.error fault, compiler)
      | .ok compiled => (.ok compiled, compiler.keep pattern compiled)

/-- The parameters of a path under a pattern, and the compiler afterwards. -/
def match? (compiler : Compiler) (pattern path : Text) :
    Except Fault (Option Params) × Compiler :=
  match compiler.compile pattern with
  | (.error fault, after) => (.error fault, after)
  | (.ok compiled, after) => (.ok (compiled.match? path), after)

end Compiler

end Signpost

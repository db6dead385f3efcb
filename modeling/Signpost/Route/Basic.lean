import Signpost.Compiler
import Signpost.Request

/-!
# Routes

A route is a method filter and a pattern with a target that the application gets back.  Routes are
tried in order and the first one that accepts the request is hit.  A route decides by the cheapest
means that it has: the method filter, the pattern that matches everything, a regular expression,
equality with a literal pattern, and for a pattern with placeholders first its literal beginning
and then its regular expression.
-/

namespace Signpost

/-- A route with a target of any kind. -/
structure Route (τ : Type) where
  methods : Text
  pattern : Text
  /-- What the application gets back. -/
  target : τ
  /-- The name by which a URL can be asked for. -/
  name : Option Text
  deriving DecidableEq, Repr

/-- A route that accepts a request, with the parameters of the path. -/
structure Hit (τ : Type) where
  route : Route τ
  params : Params
  deriving DecidableEq, Repr

/-- The literal text before the first bracket of a pattern. -/
def literalLead (pattern : Text) : Text :=
  Text.before '[' pattern

/-- Whether a path can be ruled out by the literal text before the first bracket.  A separator at
its end may belong to an absent segment, and then only the text before it counts. -/
def leadRejects (lead path : Text) : Bool :=
  if lead.isPrefixOf path then false
  else if (lead.getLast?.bind Separator.ofChar?).isSome then !lead.dropLast.isPrefixOf path
  else true

variable [Unicode.Names]

/-- The parameters of a path under a pattern, and the compiler afterwards. -/
def matchPattern? (pattern path : Text) (compiler : Compiler) :
    Except Fault (Option Params) × Compiler :=
  if pattern = catchAll then (.ok (some []), compiler)
  else if isRaw pattern then compiler.match? pattern path
  else if !hasPlaceholders pattern then
    (.ok (if path = pattern then some [] else none), compiler)
  else if leadRejects (literalLead pattern) path then (.ok none, compiler)
  else compiler.match? pattern path

namespace Route

variable {τ : Type}

/-- The parameters of a request that a route accepts, and the compiler afterwards. -/
def match? (route : Route τ) (exact : Bool) (method path : Text) (compiler : Compiler) :
    Except Fault (Option Params) × Compiler :=
  if admits exact route.methods method then matchPattern? route.pattern path compiler
  else (.ok none, compiler)

/-- Whether matching a route may need its regular expression. -/
def needsRegex (route : Route τ) : Bool :=
  route.pattern != catchAll && (isRaw route.pattern || hasPlaceholders route.pattern)

/-- The first of several routes that accepts a request, and the compiler afterwards.  A fault on
the way ends the search. -/
def firstHit (exact : Bool) (method path : Text) :
    List (Route τ) → Compiler → Except Fault (Option (Hit τ)) × Compiler
  | [], compiler => (.ok none, compiler)
  | route :: others, compiler =>
      match route.match? exact method path compiler with
      | (.error fault, after) => (.error fault, after)
      | (.ok (some params), after) => (.ok (some ⟨route, params⟩), after)
      | (.ok none, after) => firstHit exact method path others after

/-- Compiles the patterns of routes, in order, up to the first fault. -/
def compileAll : List (Route τ) → Compiler → Except Fault Unit × Compiler
  | [], compiler => (.ok (), compiler)
  | route :: others, compiler =>
      if route.needsRegex then
        match compiler.compile route.pattern with
        | (.error fault, after) => (.error fault, after)
        | (.ok _, after) => compileAll others after
      else compileAll others compiler

end Route

end Signpost

import Signpost.Config
import Signpost.Route.Basic
import Signpost.Route.Url

/-!
# Routers

A router is an ordered table of routes with a configuration, an index of the named routes, and a
compiler that remembers the patterns it has compiled.  Every operation gives its result together
with the router afterwards, also when it fails: a failing operation keeps what it has done up to
the fault.
-/

namespace Signpost

/-- A route table with everything that belongs to it. -/
structure Router (τ : Type) where
  config : Config
  /-- The routes, in the order in which they are tried. -/
  routes : List (Route τ) := []
  /-- The patterns of the named routes, by name, in the order of the routes. -/
  named : List (Text × Text) := []
  /-- The compiler for the types of the configuration. -/
  compiler : Compiler
  deriving DecidableEq, Repr

/-- What a request takes from its surroundings when it does not say it itself. -/
structure Surroundings where
  method : Option Text := none
  url : Option Text := none
  deriving DecidableEq, Repr

/-- The fresh compiler of a configuration. -/
def Config.compiler (config : Config) : Compiler :=
  Compiler.new config.matchTypes config.strictMatchTypes

namespace Router

variable {τ : Type}

/-- The router without routes. -/
def ofConfig (config : Config) : Router τ :=
  { config := config, compiler := config.compiler }

/-- The router with another base path. -/
def setBasePath (router : Router τ) (basePath : Text) : Router τ :=
  { router with config := router.config.withBasePath basePath }

/-- The router with more types.  Nothing that has been compiled is kept. -/
def addMatchTypes (router : Router τ) (types : MatchTypes) : Router τ :=
  let config := router.config.withMatchTypes types
  { router with config := config, compiler := config.compiler }

/-- The name that a route is registered under: an empty one counts as none. -/
def givenName (name : Option Text) : Option Text :=
  name.filter fun text => !text.isEmpty

/-- Whether a pattern can be registered: it is a regular expression itself, or it has no stray
bracket. -/
def checkPattern (pattern : Text) : Except Fault Unit :=
  if isRaw pattern then .ok () else (tokensOrFault pattern).map fun _ => ()

/-- The router with a route at the end of its table. -/
def append (router : Router τ) (route : Route τ) : Router τ :=
  { router with
    routes := router.routes ++ [route]
    named := router.named ++ (route.name.map fun name => (name, route.pattern)).toList }

/-- Adds a route at the end of the table. -/
def addRoute (router : Router τ) (route : Route τ) : Except Fault (Route τ) × Router τ :=
  let added := { route with name := givenName route.name }
  match checkPattern route.pattern with
  | .error fault => (.error fault, router)
  | .ok () =>
      match added.name with
      | some name =>
          if (router.named.lookup name).isSome then (.error (.duplicateName name), router)
          else (.ok added, router.append added)
      | none => (.ok added, router.append added)

variable [Unicode.Names]

/-- Compiles every pattern that needs a regular expression, up to the first fault. -/
def compile (router : Router τ) : Except Fault Unit × Router τ :=
  let (result, compiler) := Route.compileAll router.routes router.compiler
  (result, { router with compiler := compiler })

/-- The first route that accepts a request.  A URL outside the base path hits none. -/
def request (router : Router τ) (method url : Text) :
    Except Fault (Option (Hit τ)) × Router τ :=
  match pathOf? router.config.basePath url with
  | none => (.ok none, router)
  | some path =>
      let (result, compiler) :=
        Route.firstHit router.config.exactMethods method path router.routes router.compiler
      (result, { router with compiler := compiler })

/-- The method of a request: its own, or that of its surroundings, or `GET`. -/
def methodOf (around : Surroundings) (method : Option Text) : Text :=
  (method.or around.method).getD "GET".toList

/-- The URL of a request: its own, or that of its surroundings, or a slash. -/
def urlOf (around : Surroundings) (url : Option Text) : Text :=
  (url.or around.url).getD ['/']

/-- The URL of a named route. -/
def generate (router : Router τ) (name : Text) (values : Text → Option Text) :
    Except Fault Text :=
  match router.named.lookup name with
  | none => .error (.unknownRoute name)
  | some pattern =>
      if isRaw pattern then .error (.invalidPattern pattern .irreversible)
      else buildUrl router.config.basePath pattern values

/-- A line that describes a router. -/
def summary (router : Router τ) : Text :=
  "<Router ".toList ++ Nat.toDigits 10 router.routes.length ++ " routes, base_path=".toList ++
    Text.quoted router.config.basePath ++ ['>']

end Router

end Signpost

import Signpost.Router.Basic
import Signpost.Route.Entry

/-!
# Operations on a router

Everything that an application can do to a router, as data.  `Router.perform` does one operation
and `Router.run` does several, each on the router that the one before has left, whether that one
has failed or not.  `Router.build` makes a router from an application's settings.
-/

namespace Signpost

/-- Something to be done to a router. -/
inductive Operation (τ : Type) where
  | add (entry : Entry τ)
  | addAll (batch : Batch τ)
  | setBasePath (basePath : Text)
  | addMatchTypes (types : MatchTypes)
  | compile
  | request (method url : Option Text)
  | generate (name : Text) (values : Text → Option Text)

/-- What an operation answers. -/
inductive Answer (τ : Type) where
  | done
  | added (route : Route τ)
  /-- The route that was found, or none. -/
  | found (hit : Option (Hit τ))
  | url (text : Text)
  deriving DecidableEq, Repr

namespace Router

variable {τ : Type}

/-- Adds an item of a route list. -/
def addEntry (router : Router τ) : Entry τ → Except Fault (Route τ) × Router τ
  | .route route => router.addRoute route
  | .misfit flaw => (.error (.badEntry flaw), router)

/-- Adds the items of a route list, in order, up to the first fault. -/
def addEntries (router : Router τ) : List (Entry τ) → Except Fault Unit × Router τ
  | [] => (.ok (), router)
  | entry :: others =>
      match router.addEntry entry with
      | (.error fault, after) => (.error fault, after)
      | (.ok _, after) => after.addEntries others

/-- Adds several routes. -/
def addBatch (router : Router τ) : Batch τ → Except Fault Unit × Router τ
  | .entries items => router.addEntries items
  | .other typeName => (.error (.notRoutes typeName), router)

variable [Unicode.Names]

/-- Does an operation: its answer or fault, and the router afterwards. -/
def perform (around : Surroundings) (router : Router τ) :
    Operation τ → Except Fault (Answer τ) × Router τ
  | .add entry =>
      let (result, after) := router.addEntry entry
      (result.map .added, after)
  | .addAll batch =>
      let (result, after) := router.addBatch batch
      (result.map fun _ => .done, after)
  | .setBasePath basePath => (.ok .done, router.setBasePath basePath)
  | .addMatchTypes types => (.ok .done, router.addMatchTypes types)
  | .compile =>
      let (result, after) := router.compile
      (result.map fun _ => .done, after)
  | .request method url =>
      let (result, after) := router.request (methodOf around method) (urlOf around url)
      (result.map .found, after)
  | .generate name values => ((router.generate name values).map .url, router)

/-- Does operations one after the other: all their answers, and the router at the end. -/
def run (around : Surroundings) (router : Router τ) :
    List (Operation τ) → List (Except Fault (Answer τ)) × Router τ
  | [] => ([], router)
  | operation :: others =>
      let (answer, after) := router.perform around operation
      let (answers, last) := after.run around others
      (answer :: answers, last)

end Router

/-- What an application gives for a new router. -/
structure Settings (τ : Type) where
  config : Config := {}
  /-- A base path that replaces the one of the configuration, unless it is empty. -/
  basePath : Text := []
  /-- Types that are entered over those of the configuration. -/
  matchTypes : MatchTypes := []
  routes : Batch τ := .entries []

/-- The configuration that settings amount to. -/
def Settings.effective {τ : Type} (settings : Settings τ) : Config :=
  let based := if settings.basePath.isEmpty then settings.config
    else settings.config.withBasePath settings.basePath
  based.withMatchTypes settings.matchTypes

/-- The router that settings describe. -/
def Router.build {τ : Type} (settings : Settings τ) : Except Fault (Router τ) :=
  match (Router.ofConfig settings.effective).addBatch settings.routes with
  | (.error fault, _) => .error fault
  | (.ok (), router) => .ok router

end Signpost

import Signpost.Router.Operation

/-!
# The journal

What a router writes down while it works: routes that it has registered, patterns that it has
compiled, URLs outside its base path, and how many patterns a full compilation went through.
Within one operation routes and compiled patterns are only ever added at the end, so the entries
can be read off the routers before and after it.
-/

namespace Signpost

/-- Something worth writing down. -/
inductive Event where
  | registered (methods pattern : Text) (name : Option Text)
  | compiled (pattern source : Text)
  | compiledAll (count : Nat)
  /-- A request lies outside the base path. -/
  | outside (path basePath : Text)
  deriving DecidableEq, Repr

/-- The wording of an event. -/
def Event.message : Event → Text
  | registered methods pattern name =>
      "Registered route ".toList ++ methods ++ [' '] ++ Text.quoted pattern ++ " (name=".toList ++
        (match name with
          | none => "None".toList
          | some text => Text.quoted text) ++ [')']
  | compiled pattern source =>
      "Compiled route pattern ".toList ++ Text.quoted pattern ++ " -> ".toList ++ source
  | compiledAll count => "Compiled ".toList ++ Nat.toDigits 10 count ++ " route patterns".toList
  | outside path basePath =>
      "Request path ".toList ++ Text.quoted path ++ " is outside base path ".toList ++
        Text.quoted basePath

namespace Router

variable {τ : Type}

/-- The routes and compiled patterns that the second router has and the first one has not. -/
def additions (before after : Router τ) : List Event :=
  ((after.routes.drop before.routes.length).map fun route =>
    .registered route.methods route.pattern route.name) ++
  ((after.compiler.kept.drop before.compiler.kept.length).map fun entry =>
    .compiled entry.1 entry.2.source)

/-- The journal of an operation, from the routers before and after it. -/
def journal (around : Surroundings) (before after : Router τ) (succeeded : Bool) :
    Operation τ → List Event
  | .compile =>
      additions before after ++
        if succeeded then [.compiledAll (before.routes.countP Route.needsRegex)] else []
  | .request _ url =>
      let base := before.config.basePath
      let full := urlOf around url
      match pathOf? base full with
      | some _ => additions before after
      | none => [.outside (Text.before '?' full) base]
  | _ => additions before after

end Router

end Signpost

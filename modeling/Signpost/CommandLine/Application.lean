import Signpost.Router.Operation

/-!
# Applications

A command names a route table as `module:attribute`.  An application is a module with attributes;
an attribute is a router, or a factory that makes one, or something else.  `Application.router?`
finds the router, and `ImportFault.message` says what went wrong otherwise.
-/

namespace Signpost.CommandLine

/-- An attribute of a module. -/
inductive Attribute where
  | router (r : Router Value)
  /-- A function that gives an attribute. -/
  | factory (result : Attribute)
  /-- A function that fails with a message. -/
  | failing (message : Text)
  | value (v : Value)

/-- The name of an attribute's type. -/
def Attribute.typeName : Attribute → Text
  | router _ => "Router".toList
  | factory _ | failing _ => "function".toList
  | value v => v.typeName

/-- A module with its attributes. -/
structure Application where
  name : Text
  attributes : List (Text × Attribute)

/-- Why no router was found. -/
inductive ImportFault where
  /-- No module has the name. -/
  | noModule (name : Text)
  /-- A module was looked for inside one that holds no others. -/
  | notPackage (name parent : Text)
  /-- The name of the module is empty. -/
  | emptyName
  /-- The name of the module is relative. -/
  | relativeName (name : Text)
  /-- The module has no such attribute. -/
  | noAttribute (name key : Text)
  /-- The factory has failed. -/
  | factoryFailed (place message : Text)
  /-- There is something else than a router. -/
  | notRouter (place typeName : Text)
  deriving DecidableEq, Repr

/-- The wording of an import fault. -/
def ImportFault.message : ImportFault → Text
  | noModule name => "No module named ".toList ++ Text.quoted name
  | notPackage name parent =>
      "No module named ".toList ++ Text.quoted name ++ "; ".toList ++ Text.quoted parent ++
        " is not a package".toList
  | emptyName => "Empty module name".toList
  | relativeName name =>
      "the 'package' argument is required to perform a relative import for ".toList ++
        Text.quoted name
  | noAttribute name key =>
      "module '".toList ++ name ++ "' has no attribute '".toList ++ key ++ ['\'']
  | factoryFailed place message =>
      "Router factory ".toList ++ Text.quoted place ++ " failed: ".toList ++ message
  | notRouter place typeName =>
      Text.quoted place ++ " is a ".toList ++ typeName ++ ", not a wren.Router instance".toList

namespace Application

/-- What every module has besides its own attributes. -/
def common (app : Application) : List (Text × Attribute) :=
  [("__name__".toList, .value (.text app.name)), ("__doc__".toList, .value .null),
    ("__package__".toList, .value .null), ("__loader__".toList, .value .null),
    ("__spec__".toList, .value .null)]

/-- Checks that a dotted name is the name of the module. -/
def find (app : Application) (path : Text) : Except ImportFault Unit :=
  if path.head? = some '.' then .error (.relativeName path)
  else if path.isEmpty then .error .emptyName
  else match Text.pieces '.' path with
    | first :: second :: _ =>
        if first = app.name then .error (.notPackage (first ++ ['.'] ++ second) first)
        else .error (.noModule first)
    | _ => if path = app.name then .ok () else .error (.noModule path)

/-- The router that an attribute gives.  A factory is called once. -/
def routerOf (place : Text) : Attribute → Except ImportFault (Router Value)
  | .router r => .ok r
  | .failing message => .error (.factoryFailed place message)
  | .factory (.router r) => .ok r
  | .factory other => .error (.notRouter place other.typeName)
  | .value v => .error (.notRouter place v.typeName)

/-- The router at a place `module:attribute`.  The attribute is `router` unless it is given. -/
def router? (app : Application) (place : Text) : Except ImportFault (Router Value) := do
  app.find (Text.before ':' place)
  let given := (Text.after? ':' place).getD []
  let key := if given.isEmpty then "router".toList else given
  match (app.attributes ++ app.common).lookup key with
  | none => .error (.noAttribute app.name key)
  | some found => routerOf place found

end Application

end Signpost.CommandLine

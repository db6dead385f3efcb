import Signpost.Text.Quoted

/-!
# Public names

The names under which the package offers its parts, with the module that defines each.  A part is
looked up when it is first asked for, and a name that is not listed is refused.
-/

namespace Signpost

/-- The public names with their modules, in alphabetical order. -/
def publicNames : List (Text × Text) :=
  [("ConfigurationError".toList, "wren.errors".toList),
    ("DuplicateRouteNameError".toList, "wren.errors".toList),
    ("InvalidPatternError".toList, "wren.errors".toList),
    ("Route".toList, "wren.routing.route".toList),
    ("RouteMatch".toList, "wren.routing.route".toList),
    ("Router".toList, "wren.routing.router".toList),
    ("RouterConfig".toList, "wren.config".toList),
    ("UnknownMatchTypeError".toList, "wren.errors".toList),
    ("UnknownRouteNameError".toList, "wren.errors".toList),
    ("WrenError".toList, "wren.errors".toList)]

/-- The module that defines a public name. -/
def moduleOf? (name : Text) : Option Text :=
  publicNames.lookup name

/-- The complaint about a name that is not public. -/
def notPublic (name : Text) : Text :=
  "module 'wren' has no attribute ".toList ++ Text.quoted name

end Signpost

import Signpost.Router.Basic
import Signpost.Value

/-!
# Listings

A route table as lines of text: a heading, a rule, and a line for each route, in columns as wide as
their widest entry.  The last column, with the targets, is not padded.
-/

namespace Signpost.CommandLine

/-- The entries of a line. -/
structure Row where
  methods : Text
  pattern : Text
  /-- The name, empty if there is none. -/
  name : Text
  target : Text
  deriving DecidableEq, Repr

/-- The line of a route. -/
def Row.ofRoute (route : Route Value) : Row :=
  ⟨route.methods, route.pattern, route.name.getD [], route.target.described⟩

/-- The heading. -/
def heading : Row :=
  ⟨"METHOD".toList, "PATTERN".toList, "NAME".toList, "TARGET".toList⟩

/-- The width of a column, at least that of its heading. -/
def columnWidth (column : Row → Text) (rows : List Row) : Nat :=
  (rows.map fun row => (column row).length).foldl max (column heading).length

/-- The greatest length of the rule under the heading. -/
def longestRule : Nat := 80

/-- Text as a line. -/
def line (text : Text) : Text :=
  text ++ ['\n']

/-- The listing of a router's routes. -/
def listing (router : Router Value) : Text :=
  if router.routes.isEmpty then line "No routes registered.".toList
  else
    let rows := router.routes.map Row.ofRoute
    let methods := columnWidth Row.methods rows
    let pattern := columnWidth Row.pattern rows
    let name := columnWidth Row.name rows
    let target := (rows.map fun row => row.target.length).foldl max 0
    let write := fun row : Row =>
      line (Text.padTo methods row.methods ++ [' ', ' '] ++ Text.padTo pattern row.pattern ++
        [' ', ' '] ++ Text.padTo name row.name ++ [' ', ' '] ++ row.target)
    let rule := List.replicate (min (methods + pattern + name + 6 + target) longestRule) '-'
    write heading ++ line rule ++ (rows.map write).flatten ++
      if router.config.basePath.isEmpty then []
      else line ("\nBase path: ".toList ++ router.config.basePath)

end Signpost.CommandLine

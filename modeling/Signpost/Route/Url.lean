import Signpost.Pattern.Source

/-!
# URLs from patterns

A URL is built from a pattern by putting values in the place of the placeholders.  A value keeps
every separator of its segment.  Where no value is given, a segment that must be there leaves the
separator before its bracket, and one that may be absent leaves nothing; only at the first
placeholder the separator always stays, so that `/[:lang]?` gives `/` and not an empty path.
-/

namespace Signpost

/-- What a placeholder contributes to a URL. -/
def Placeholder.fill (p : Placeholder) (values : Text → Option Text) (isFirst : Bool) : Text :=
  match if p.name.isEmpty then none else values p.name with
  | some value => p.separator ++ value
  | none => if p.optional && !isFirst then [] else Separator.textOf p.lead

/-- The text of tokens with the placeholders filled in. -/
def fillTokens (values : Text → Option Text) : Bool → List Token → Text
  | _, [] => []
  | isFirst, .literal text :: others => text ++ fillTokens values isFirst others
  | isFirst, .placeholder p :: others =>
      p.fill values isFirst ++ fillTokens values false others

/-- The URL of a pattern under a base path. -/
def buildUrl (base pattern : Text) (values : Text → Option Text) : Except Fault Text :=
  (tokensOrFault pattern).map fun parts => base ++ fillTokens values true parts

end Signpost

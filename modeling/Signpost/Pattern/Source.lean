import Signpost.Pattern.Token
import Signpost.MatchTypes
import Signpost.Fault

/-!
# The regular expression of a pattern

`sourceOf` writes the anchored regular expression of a placeholder pattern by putting the tokens'
renderings one after the other.  Literal text is escaped.  A placeholder becomes
`(?:SEPARATOR(?P<name>FRAGMENT))`, without a name `(?:SEPARATOR(FRAGMENT))`; if it is optional, a
question mark follows the group and the whole, so that an absent segment takes its separator with
it.  A pattern that starts with an at sign is a regular expression itself, and `rawSource` anchors
it.
-/

namespace Signpost

/-- The characters that are escaped in literal text. -/
def specialCharacters : List Char :=
  ['(', ')', '[', ']', '{', '}', '?', '*', '+', '-', '|', '^', '$', '\\', '.', '&', '~', '#', ' ',
    '\t', '\n', '\r', '\x0b', '\x0c']

/-- Literal text as a regular expression. -/
def escapeText (text : Text) : Text :=
  text.flatMap fun c => if specialCharacters.contains c then ['\\', c] else [c]

/-- The group that keeps the value of a placeholder. -/
def Placeholder.group (p : Placeholder) (fragment : Text) : Text :=
  if p.name.isEmpty then ['('] ++ fragment ++ [')']
  else "(?P<".toList ++ p.name ++ ['>'] ++ fragment ++ [')']

/-- The regular expression of a placeholder. -/
def Placeholder.source (p : Placeholder) (fragment : Text) : Text :=
  let mark : Text := if p.optional then ['?'] else []
  "(?:".toList ++ escapeText p.separator ++ p.group fragment ++ mark ++ [')'] ++ mark

/-- How the types of placeholders are resolved. -/
structure Resolver where
  types : MatchTypes
  /-- Whether an unknown key is refused.  Otherwise the key itself is the fragment. -/
  strict : Bool
  deriving DecidableEq, Repr

/-- The fragment for a type key. -/
def Resolver.fragment? (resolver : Resolver) (key : Text) : Option Text :=
  match resolver.types.fragment? key with
  | some fragment => some fragment
  | none => if resolver.strict then none else some key

/-- The rendering of tokens, or the first type key that is not known. -/
def Resolver.render (resolver : Resolver) : List Token → Except Text Text
  | [] => .ok []
  | .literal text :: others => (resolver.render others).map (escapeText text ++ ·)
  | .placeholder p :: others =>
      match resolver.fragment? p.typeKey with
      | none => .error p.typeKey
      | some fragment => (resolver.render others).map (p.source fragment ++ ·)

/-- The tokens of a pattern, a stray bracket being a fault. -/
def tokensOrFault (pattern : Text) : Except Fault (List Token) :=
  (tokens pattern).mapError fun offset => .invalidPattern pattern (.strayBracket offset)

/-- The anchored regular expression of a placeholder pattern. -/
def sourceOf (resolver : Resolver) (pattern : Text) : Except Fault Text := do
  let parts ← tokensOrFault pattern
  let body ← (resolver.render parts).mapError (.unknownMatchType pattern)
  return "\\A".toList ++ body ++ "\\Z".toList

/-- Whether a character may start a group name after `(?<`. -/
def startsGroupName (c : Char) : Bool :=
  c = '_' || ('a' ≤ c && c ≤ 'z') || ('A' ≤ c && c ≤ 'Z')

/-- The text with `(?P<` for `(?<` where a group name follows. -/
def normalizeGroups : Text → Text
  | '(' :: '?' :: '<' :: c :: rest =>
      if startsGroupName c then '(' :: '?' :: 'P' :: '<' :: normalizeGroups (c :: rest)
      else '(' :: normalizeGroups ('?' :: '<' :: c :: rest)
  | c :: rest => c :: normalizeGroups rest
  | [] => []

/-- The pattern without the sign that makes it a regular expression. -/
def rawBody : Text → Text
  | '@' :: body => body
  | pattern => pattern

/-- The anchored regular expression of a pattern that is a regular expression itself. -/
def rawSource (pattern : Text) : Text :=
  "\\A(?:".toList ++ normalizeGroups (rawBody pattern) ++ ")\\Z".toList

end Signpost

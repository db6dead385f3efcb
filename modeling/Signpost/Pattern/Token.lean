import Signpost.Text.Basic

/-!
# Tokens of a route pattern

A route pattern is literal text interleaved with placeholder blocks: `/users/[i:id]`,
`/feed[.:format]`, `/files/[**:path]`, `/archive/[i]`.  A block is `[type]` or `[type:name]`, where
neither part holds a colon or a closing bracket.  It may be preceded by a separator, a slash or a
point, and followed by a question mark; a separator written first inside the bracket belongs to the
segment as well and makes it optional.

`tokens` reads a pattern from left to right.  It fails at the first opening bracket that does not
start a block, and says where that is.  The other direction is `Token.text`, the pattern text of a
token.
-/

namespace Signpost

/-- What may stand between a segment and the text before it. -/
inductive Separator where
  | slash
  | point
  deriving DecidableEq, Repr

namespace Separator

/-- The separator that a character is. -/
def ofChar? : Char → Option Separator
  | '/' => some slash
  | '.' => some point
  | _ => none

/-- The character of a separator. -/
def char : Separator → Char
  | slash => '/'
  | point => '.'

/-- The text of a separator that may be absent. -/
def textOf : Option Separator → Text
  | none => []
  | some separator => [separator.char]

end Separator

/-- A placeholder block. -/
structure Placeholder where
  /-- The separator before the bracket. -/
  lead : Option Separator
  /-- The separator written first inside the bracket. -/
  inner : Option Separator
  /-- The key of the match type. -/
  typeKey : Text
  /-- The text after the colon, if there is a colon. -/
  label : Option Text
  /-- Whether a question mark follows the bracket. -/
  marked : Bool
  deriving DecidableEq, Repr

namespace Placeholder

/-- The name of the parameter, empty for a placeholder that reports none. -/
def name (p : Placeholder) : Text :=
  p.label.getD []

/-- Whether the segment may be absent. -/
def optional (p : Placeholder) : Bool :=
  p.marked || p.inner.isSome

/-- Everything that stands between the text before the segment and the value. -/
def separator (p : Placeholder) : Text :=
  Separator.textOf p.lead ++ Separator.textOf p.inner

/-- The text of the block in a pattern. -/
def block (p : Placeholder) : Text :=
  Separator.textOf p.lead ++ ['['] ++ Separator.textOf p.inner ++ p.typeKey ++
    (match p.label with
      | none => []
      | some label => ':' :: label) ++
    [']'] ++ if p.marked then ['?'] else []

/-- The characters that may stand in a type or a name. -/
def isKeyChar (c : Char) : Bool :=
  c != ':' && c != ']'

/-- The placeholder with the given texts before and after the colon, where `rest` follows the
closing bracket. -/
def ofParts (lead : Option Separator) (key : Text) (label : Option Text) (rest : Text) :
    Placeholder :=
  let inner := key.head?.bind Separator.ofChar?
  { lead := lead
    inner := inner
    typeKey := if inner.isSome then key.drop 1 else key
    label := label
    marked := rest.head? == some '?' }

/-- The placeholder whose opening bracket stands before the text, if it is well formed. -/
def ofBracket? (lead : Option Separator) (text : Text) : Option Placeholder :=
  let key := text.takeWhile isKeyChar
  match text.dropWhile isKeyChar with
  | ']' :: rest => some (ofParts lead key none rest)
  | ':' :: more =>
      match more.dropWhile isKeyChar with
      | ']' :: rest => some (ofParts lead key (some (more.takeWhile isKeyChar)) rest)
      | _ => none
  | _ => none

/-- The placeholder at the start of a text. -/
def atStart? : Text → Option Placeholder
  | '[' :: rest => ofBracket? none rest
  | c :: '[' :: rest => (Separator.ofChar? c).bind fun lead => ofBracket? (some lead) rest
  | _ => none

end Placeholder

/-- A piece of a pattern. -/
inductive Token where
  | literal (text : Text)
  | placeholder (p : Placeholder)
  deriving DecidableEq, Repr

namespace Token

/-- The text of a token in a pattern. -/
def text : Token → Text
  | literal t => t
  | placeholder p => p.block

/-- The placeholder that a token is. -/
def placeholder? : Token → Option Placeholder
  | literal _ => none
  | placeholder p => some p

/-- Tokens with one more literal character before them. -/
def prepend (c : Char) : List Token → List Token
  | literal t :: others => literal (c :: t) :: others
  | others => literal [c] :: others

/-- The tokens of a text that starts at an offset and whose first characters have been used
already, or the offset of a stray bracket. -/
def scan (offset : Nat) : Nat → Text → Except Nat (List Token)
  | _, [] => .ok []
  | used + 1, _ :: rest => scan (offset + 1) used rest
  | 0, c :: rest =>
      match Placeholder.atStart? (c :: rest) with
      | some p =>
          (scan (offset + 1) (p.block.length - 1) rest).map (placeholder p :: ·)
      | none =>
          if c = '[' then .error offset
          else (scan (offset + 1) 0 rest).map (prepend c)

end Token

/-- The tokens of a pattern, or the offset of the first bracket that starts no block. -/
def tokens (pattern : Text) : Except Nat (List Token) :=
  Token.scan 0 0 pattern

/-- The placeholders among tokens, in order. -/
def placeholdersOf (parts : List Token) : List Placeholder :=
  parts.filterMap Token.placeholder?

/-- The pattern that matches every path, and the filter that admits every method. -/
def catchAll : Text := ['*']

/-- The first character of a pattern that is a regular expression itself. -/
def regexSigil : Char := '@'

/-- Whether a pattern is a regular expression itself. -/
def isRaw (pattern : Text) : Bool :=
  pattern.head? == some regexSigil

/-- Whether a pattern has a bracket at all. -/
def hasPlaceholders (pattern : Text) : Bool :=
  pattern.contains '['

end Signpost

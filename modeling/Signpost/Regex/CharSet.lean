import Signpost.Unicode.Alphanumeric
import Signpost.Unicode.Digit
import Signpost.Unicode.Space
import Signpost.Unicode.Case

/-!
# Character sets

A character set is what one position of a regular expression accepts: any character, one given
character, or the members of a bracket expression.  Letters are compared as they are or without
regard to case; the rule is part of the set, so that membership needs nothing else.  Codes rather
than characters are stored, since an expression may name codes that no text holds.
-/

namespace Signpost.Regex

/-- How letters are compared. -/
inductive Letters where
  /-- Every character counts as itself. -/
  | exact
  /-- The two cases of the letters A to Z count as the same. -/
  | ascii
  /-- The cases of all letters count as the same. -/
  | unicode
  deriving DecidableEq, Repr

/-- The code by which a code is compared. -/
def Letters.fold : Letters → Nat → Nat
  | exact, code => code
  | ascii, code => if 0x41 ≤ code && code ≤ 0x5A then code + 0x20 else code
  | unicode, code => Unicode.lowerCode code

/-- Other lower-case codes that count as the same as a lower-case code. -/
def Letters.twins : Letters → Nat → List Nat
  | unicode, code => Unicode.caseTwins code
  | _, _ => []

/-- Whether the rule identifies a code with others. -/
def Letters.moves : Letters → Nat → Bool
  | exact, _ => false
  | ascii, code => (0x41 ≤ code && code ≤ 0x5A) || (0x61 ≤ code && code ≤ 0x7A)
  | unicode, code => Unicode.hasCase code

/-- A named family of characters. -/
inductive Family where
  | digit
  | space
  /-- Letters, numbers and the underscore. -/
  | word
  deriving DecidableEq, Repr

/-- Whether a code belongs to a family, of ASCII only or of every script. -/
def Family.contains (ascii : Bool) (code : Nat) : Family → Bool
  | digit => if ascii then 0x30 ≤ code && code ≤ 0x39 else Unicode.isDigit code
  | space =>
      if ascii then (0x09 ≤ code && code ≤ 0x0D) || code == 0x20 else Unicode.isSpace code
  | word => code == 0x5F || (!ascii || code < 0x80) && Unicode.isAlphanumeric code

/-- A member of a bracket expression. -/
inductive Member where
  | one (code : Nat)
  /-- All codes from the first to the second. -/
  | span (low high : Nat)
  /-- A family, or everything outside it. -/
  | family (kind : Family) (ascii negated : Bool)
  deriving DecidableEq, Repr

/-- The last code of the basic plane. -/
def lastBasic : Nat := 0xFFFF

/-- The codes of a span that lie in the basic plane. -/
def basicCodes (low high : Nat) : List Nat :=
  List.range' low (min high lastBasic + 1 - low)

/-- Whether a member takes in a code when letters are compared as they are. -/
def Member.contains (code : Nat) : Member → Bool
  | one c => c == code
  | span low high => low ≤ code && code ≤ high
  | family kind ascii negated => kind.contains ascii code != negated

/-- Whether a member names a code that the rule identifies with others.  Unless every character
counts as itself, codes beyond the basic plane always count as such. -/
def Member.moves (letters : Letters) : Member → Bool
  | one c => letters != .exact && (letters.moves c || c > lastBasic)
  | span low high =>
      letters != .exact && (high > lastBasic || (basicCodes low high).any letters.moves)
  | family _ _ _ => false

/-- Whether a member takes in a folded code.  In the basic plane the member's codes are folded as
well; beyond it a single code is compared as it stands and a span with either case. -/
def Member.containsFolded (letters : Letters) (code : Nat) : Member → Bool
  | one c =>
      if c > lastBasic then c == code
      else letters.fold c == code || (letters.twins (letters.fold c)).contains code
  | span low high =>
      ((basicCodes low high).any fun c =>
        letters.fold c == code || (letters.twins (letters.fold c)).contains code) ||
      high > lastBasic &&
        ((low ≤ code && code ≤ high) ||
          (low ≤ Unicode.upperCode code && Unicode.upperCode code ≤ high))
  | family kind ascii negated => kind.contains ascii code != negated

/-- What one position accepts. -/
inductive CharSet where
  /-- Any character, the line feed only if the flag is set. -/
  | any (lineFeed : Bool)
  /-- One code, or every code but that one. -/
  | only (code : Nat) (negated : Bool) (letters : Letters)
  /-- The members of a bracket expression, or everything outside it. -/
  | members (items : List Member) (negated : Bool) (letters : Letters)
  deriving DecidableEq, Repr

/-- Whether a set accepts a character. -/
def CharSet.contains : CharSet → Char → Bool
  | any lineFeed, c => lineFeed || c != '\n'
  | only code negated letters, c =>
      (if letters.moves code then
        let home := letters.fold code
        let folded := letters.fold c.toNat
        home == folded || (letters.twins home).contains folded
      else code == c.toNat) != negated
  | members items negated letters, c =>
      (if items.any (Member.moves letters) then
        items.any (Member.containsFolded letters (letters.fold c.toNat))
      else items.any (Member.contains c.toNat)) != negated

end Signpost.Regex

import Signpost.Text.Basic

/-!
# Names of characters

The notation of expressions can call a character by its name.  Which names there are is data of a
standard that grows with each of its versions, so it is a database that whatever reads expressions
is given (`Names`).  All that is relied on is how names are spelled.

A program that brings no database of its own knows the printable characters of ASCII.
-/

namespace Signpost.Unicode

/-- The characters that names are spelled with: Latin letters, digits, the space and the hyphen. -/
def isNameCharacter (c : Char) : Bool :=
  ('A' ≤ c && c ≤ 'Z') || ('a' ≤ c && c ≤ 'z') || ('0' ≤ c && c ≤ '9') || c = ' ' || c = '-'

/-- A database of names of characters. -/
class Names where
  /-- The character of a name, if one has it. -/
  named? : Text → Option Char
  /-- Names are spelled with letters, digits, spaces and hyphens. -/
  spelled : ∀ name c, named? name = some c → ∀ d ∈ name, isNameCharacter d = true

/-- A name has no other characters. -/
theorem Names.not_mem [Names] {name : Text} {c d : Char} (named : named? name = some c)
    (odd : isNameCharacter d = false) : d ∉ name := by
  intro inside
  rw [spelled name c named d inside] at odd
  cases odd

/-- The printable characters of ASCII other than letters, by name. -/
def asciiSigns : List (String × Char) :=
  [("SPACE", ' '), ("EXCLAMATION MARK", '!'), ("QUOTATION MARK", '\x22'), ("NUMBER SIGN", '#'),
    ("DOLLAR SIGN", '$'), ("PERCENT SIGN", '%'), ("AMPERSAND", '&'), ("APOSTROPHE", '\x27'),
    ("LEFT PARENTHESIS", '('), ("RIGHT PARENTHESIS", ')'), ("ASTERISK", '*'), ("PLUS SIGN", '+'),
    ("COMMA", ','), ("HYPHEN-MINUS", '-'), ("FULL STOP", '.'), ("SOLIDUS", '/'),
    ("DIGIT ZERO", '0'), ("DIGIT ONE", '1'), ("DIGIT TWO", '2'), ("DIGIT THREE", '3'),
    ("DIGIT FOUR", '4'), ("DIGIT FIVE", '5'), ("DIGIT SIX", '6'), ("DIGIT SEVEN", '7'),
    ("DIGIT EIGHT", '8'), ("DIGIT NINE", '9'), ("COLON", ':'), ("SEMICOLON", ';'),
    ("LESS-THAN SIGN", '<'), ("EQUALS SIGN", '='), ("GREATER-THAN SIGN", '>'),
    ("QUESTION MARK", '?'), ("COMMERCIAL AT", '@'), ("LEFT SQUARE BRACKET", '['),
    ("REVERSE SOLIDUS", '\\'), ("RIGHT SQUARE BRACKET", ']'), ("CIRCUMFLEX ACCENT", '^'),
    ("LOW LINE", '_'), ("GRAVE ACCENT", '\x60'), ("LEFT CURLY BRACKET", '{'),
    ("VERTICAL LINE", '|'), ("RIGHT CURLY BRACKET", '}'), ("TILDE", '~')]

/-- The printable characters of ASCII by name. -/
def asciiNames : List (Text × Char) :=
  (asciiSigns.map fun (name, c) => (name.toList, c)) ++
    "ABCDEFGHIJKLMNOPQRSTUVWXYZ".toList.flatMap fun c =>
      [("LATIN CAPITAL LETTER ".toList ++ [c], c), ("LATIN SMALL LETTER ".toList ++ [c], c.toLower)]

theorem spelled_asciiNames : asciiNames.all (fun entry => entry.1.all isNameCharacter) = true := by
  decide +kernel

theorem isNameCharacter_of_toUpper {c : Char} (upper : isNameCharacter c.toUpper = true) :
    isNameCharacter c = true := by
  by_cases small : 'a' ≤ c ∧ c ≤ 'z'
  · simp [isNameCharacter, small.1, small.2]
  · have same : c.toUpper = c := by
      unfold Char.toUpper
      rw [dif_neg]
      exact small
    rwa [same] at upper

/-- The case of letters in a name makes no difference. -/
instance (priority := low) ascii : Names where
  named? name := asciiNames.lookup (name.map Char.toUpper)
  spelled name c found d inside := by
    obtain ⟨front, back, whole, _⟩ := List.lookup_eq_some_iff.mp found
    have listed : (name.map Char.toUpper, c) ∈ asciiNames := by simp [whole]
    have spelled := List.all_eq_true.mp spelled_asciiNames _ listed
    exact isNameCharacter_of_toUpper
      (List.all_eq_true.mp spelled d.toUpper (List.mem_map_of_mem inside))

example : Names.named? "digit one".toList = some '1' := by decide +kernel

end Signpost.Unicode

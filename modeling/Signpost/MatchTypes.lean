import Signpost.Text.Basic

/-!
# Match types

A match type is a fragment of a regular expression under a key, such as `i` for digits.  A table
keeps its keys in the order in which they were first entered; entering a key again replaces its
fragment.  A key may be entered without a fragment, and then counts as missing.
-/

namespace Signpost

/-- Fragments of regular expressions by key. -/
abbrev MatchTypes := List (Text × Option Text)

namespace MatchTypes

/-- The table with a fragment entered under a key. -/
def insert : MatchTypes → Text → Option Text → MatchTypes
  | [], key, fragment => [(key, fragment)]
  | (other, old) :: rest, key, fragment =>
      if other = key then (other, fragment) :: rest else (other, old) :: insert rest key fragment

/-- The first table with all entries of the second one entered. -/
def overlay (table extra : MatchTypes) : MatchTypes :=
  extra.foldl (fun merged entry => merged.insert entry.1 entry.2) table

/-- The fragment under a key. -/
def fragment? (table : MatchTypes) (key : Text) : Option Text :=
  (table.lookup key).join

/-- The types that every router knows: digits, letters and digits, hexadecimal digits, anything as
short or as long as possible, and a segment, which stops at a slash and at a point. -/
def builtin : MatchTypes :=
  [("i".toList, some "[0-9]++".toList),
    ("a".toList, some "[0-9A-Za-z]++".toList),
    ("h".toList, some "[0-9A-Fa-f]++".toList),
    ("*".toList, some ".+?".toList),
    ("**".toList, some ".++".toList),
    ([], some "[^/\\.]++".toList)]

/-- The built-in types with others entered over them. -/
def withExtra (extra : MatchTypes) : MatchTypes :=
  builtin.overlay extra

end MatchTypes

end Signpost

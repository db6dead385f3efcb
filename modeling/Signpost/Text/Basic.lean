import Signpost.Unicode.Space

/-!
# Texts

A text is a list of characters.  Patterns, paths and messages are read from left to right, so a
list is the form in which every definition of this library recurses on them.  This module has the
cuts that several of them share: at the first occurrence of a character, at every occurrence, and
at the blank margins.
-/

namespace Signpost

/-- A sequence of characters. -/
abbrev Text := List Char

namespace Text

/-- What stands before the first occurrence of a character. -/
def before (mark : Char) (text : Text) : Text :=
  text.takeWhile (· != mark)

/-- What stands after the first occurrence of a character, if it occurs. -/
def after? (mark : Char) (text : Text) : Option Text :=
  match text.dropWhile (· != mark) with
  | [] => none
  | _ :: rest => some rest

/-- The pieces between the occurrences of a character.  There is always at least one. -/
def pieces (mark : Char) : Text → List Text
  | [] => [[]]
  | c :: rest =>
      if c = mark then [] :: pieces mark rest
      else match pieces mark rest with
        | [] => [[c]]
        | piece :: others => (c :: piece) :: others

/-- The text without blank characters at either end. -/
def trim (text : Text) : Text :=
  let blank := fun c : Char => Unicode.isSpace c.toNat
  ((text.dropWhile blank).reverse.dropWhile blank).reverse

/-- Whether the first text occurs in the second one, without gaps. -/
def occursIn (part : Text) : Text → Bool
  | [] => part.isEmpty
  | c :: rest => part.isPrefixOf (c :: rest) || occursIn part rest

/-- The text followed by spaces, up to the given width. -/
def padTo (width : Nat) (text : Text) : Text :=
  text ++ List.replicate (width - text.length) ' '

/-- Whether the first text comes before the second one in the order by code points. -/
def precedes : Text → Text → Bool
  | [], _ => true
  | _ :: _, [] => false
  | a :: left, b :: right => a.toNat < b.toNat || (a = b && precedes left right)

/-- Decimal notation of an integer. -/
def ofInt (n : Int) : Text :=
  (if n < 0 then ['-'] else []) ++ Nat.toDigits 10 n.natAbs

end Text

end Signpost

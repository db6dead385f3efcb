import Signpost.Text.Basic
import Signpost.Regex.CharSet

/-!
# Regular expressions

The expressions of this module are already free of flags: how letters compare, whether a line feed
is any character and where a line starts are settled in each leaf.  Groups are known by number.
-/

namespace Signpost

namespace Regex

/-- A condition on the place between two characters. -/
inductive Anchor where
  | start
  | finish
  /-- The end of the text, or the place before a line feed that ends it. -/
  | lastLine
  | lineStart
  | lineEnd
  /-- A border between a word character and another character or an end of the text. -/
  | border (ascii : Bool)
  /-- Any other place of a text that is not empty. -/
  | inside (ascii : Bool)
  deriving DecidableEq, Repr

/-- In which order a repetition tries its numbers of rounds. -/
inductive Greed where
  /-- The most rounds first. -/
  | greedy
  /-- The fewest rounds first. -/
  | lazy
  /-- As many rounds as can be had, and no other number. -/
  | possessive
  deriving DecidableEq, Repr

end Regex

/-- A regular expression. -/
inductive Regex where
  /-- Nothing, everywhere. -/
  | empty
  /-- One character of a set. -/
  | chars (set : Regex.CharSet)
  /-- Nothing, at a place that meets a condition. -/
  | anchor (condition : Regex.Anchor)
  /-- One expression, then another. -/
  | seq (first second : Regex)
  /-- One expression or else another. -/
  | alt (first second : Regex)
  /-- An expression several times over. -/
  | repeated (body : Regex) (least : Nat) (most : Option Nat) (greed : Regex.Greed)
  /-- An expression whose text is kept under a number. -/
  | capture (number : Nat) (body : Regex)
  /-- An expression that is not tried in another way once it has matched. -/
  | atomic (body : Regex)
  /-- Nothing, at a place that the expression does, or does not, match from. -/
  | ahead (negated : Bool) (body : Regex)
  /-- Nothing, at a place that the expression, of the given width, does or does not match up to. -/
  | behind (negated : Bool) (width : Nat) (body : Regex)
  /-- The text that a group has kept. -/
  | reference (number : Nat) (letters : Regex.Letters)
  /-- One expression or another, as a group has kept a text or not. -/
  | choice (number : Nat) (present absent : Regex)
  deriving DecidableEq, Repr

end Signpost

import Signpost.Text.Quoted
import Signpost.Regex.Escape

/-!
# Faults

Everything that a router can refuse to do, by cause.  `Fault.message` is the wording.  Most faults
are faults of the configuration: they come from the route table and show when the application
starts.  The exceptions are a request for an unknown route, and values that are no routes or no
regular expressions in so crude a way that nothing can be said about the pattern.
-/

namespace Signpost

/-- What is wrong with a pattern. -/
inductive PatternFlaw where
  /-- An opening bracket starts no block. -/
  | strayBracket (offset : Nat)
  /-- The regular expression that the pattern stands for is malformed. -/
  | badRegex
  /-- No URL can be built from a pattern that is a regular expression itself. -/
  | irreversible
  /-- Something that the application says in its own words. -/
  | stated (reason : Text)
  deriving DecidableEq, Repr, Inhabited

/-- The wording of a flaw. -/
def PatternFlaw.message : PatternFlaw → Text
  | strayBracket offset => "unbalanced '[' at offset ".toList ++ Nat.toDigits 10 offset
  | badRegex => "<regex error>".toList
  | irreversible => "raw regex routes cannot be reversed".toList
  | stated reason => reason

/-- Why an item of a route list is no route. -/
inductive EntryFlaw where
  /-- It is no list of three or four parts. -/
  | wrongShape
  /-- Its pattern is no text. -/
  | patternNotText
  deriving DecidableEq, Repr

/-- Why an operation is refused. -/
inductive Fault where
  | duplicateName (name : Text)
  | invalidPattern (pattern : Text) (flaw : PatternFlaw)
  /-- A placeholder has a type that the table does not know. -/
  | unknownMatchType (pattern key : Text)
  | unknownRoute (name : Text)
  /-- Something that is no list of routes was given for one. -/
  | notRoutes (typeName : Text)
  /-- An item of a route list is no route. -/
  | badEntry (flaw : EntryFlaw)
  /-- A regular expression has a number of rounds beyond what can be counted. -/
  | countTooLarge
  /-- A regular expression has a number of rounds with too many digits. -/
  | countTooLong
  deriving DecidableEq, Repr, Inhabited

namespace Fault

/-- The wording of a fault. -/
def message : Fault → Text
  | duplicateName name => "Cannot redeclare route ".toList ++ Text.quoted name
  | invalidPattern pattern flaw =>
      "Invalid route pattern ".toList ++ Text.quoted pattern ++ ": ".toList ++ flaw.message
  | unknownMatchType pattern key =>
      "Unknown match type ".toList ++ Text.quoted key ++ " in route pattern ".toList ++
        Text.quoted pattern ++ ". Register it with Router.add_match_types().".toList
  | unknownRoute name => "Route ".toList ++ Text.quoted name ++ " does not exist.".toList
  | notRoutes typeName =>
      "Routes should be an iterable of (methods, pattern, target[, name]) tuples, got ".toList ++
        typeName
  | badEntry .wrongShape => "a route has three or four parts".toList
  | badEntry .patternNotText => "a route pattern is a text".toList
  | countTooLarge => "the repetition number is too large".toList
  | countTooLong => "the repetition number has too many digits".toList

/-- Whether a fault lies in the route table or the configuration. -/
def isConfiguration : Fault → Bool
  | duplicateName _ | invalidPattern _ _ | unknownMatchType _ _ | notRoutes _ => true
  | _ => false

/-- Whether a fault is one that the router itself reports. -/
def isReported : Fault → Bool
  | unknownRoute _ => true
  | fault => fault.isConfiguration

end Fault

end Signpost

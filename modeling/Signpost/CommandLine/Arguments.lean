import Signpost.Text.Basic
import Signpost.Unicode.Digit

/-!
# Arguments

The command line has four commands: `routes`, `check`, `match` and `url`.  The only option is the
one that asks for help, `-h` or `--help`, which may be shortened.  Words are looked at from left to
right and the first one that asks for help, or gives the help option a value, decides.  Numbers
with a minus sign, and anything with a space in it, are arguments and not options.  Two dashes
alone end the options; they are dropped where they stand, once for each argument of a command.
-/

namespace Signpost.CommandLine

/-- A command with its arguments. -/
inductive Command where
  | routes (table : Text)
  | check (table : Text)
  | request (table method url : Text)
  | url (table name : Text) (values : List Text)
  deriving DecidableEq, Repr

/-- What the arguments amount to. -/
inductive Wish where
  /-- The user asks for help, or for nothing. -/
  | help
  | misuse
  | command (c : Command)
  deriving DecidableEq, Repr

/-- What a word is. -/
inductive Word where
  | help
  /-- A request for help with a value. -/
  | helpWithValue
  /-- An option that does not exist. -/
  | unknown
  | argument
  deriving DecidableEq, Repr

/-- Two dashes. -/
def divider : Text := ['-', '-']

/-- The long form of the help option. -/
def longHelp : Text := "--help".toList

/-- A non-empty run of digits. -/
def isDigits (text : Text) : Bool :=
  !text.isEmpty && text.all fun c => Unicode.isDigit c.toNat

/-- A number after its minus sign: digits, or digits around a point of which the first may be
missing.  A line feed may end it. -/
def isUnsigned (text : Text) : Bool :=
  let body := if text.getLast? = some '\n' then text.dropLast else text
  isDigits body || match Text.after? '.' body with
    | none => false
    | some fraction =>
        isDigits fraction && (Text.before '.' body).all fun c => Unicode.isDigit c.toNat

/-- The letters after `-h` in one word: more of them, or the start of a value. -/
def afterShortHelp : Text → Word
  | [] => .help
  | 'h' :: '=' :: _ => .helpWithValue
  | 'h' :: rest => afterShortHelp rest
  | '-' :: _ => .helpWithValue
  | _ => .help

/-- What a word other than two dashes is. -/
def Word.of (word : Text) : Word :=
  let stem := Text.before '=' word
  let valued := (Text.after? '=' word).isSome
  match word with
  | '-' :: second :: rest =>
      if second = '-' then
        if stem.isPrefixOf longHelp then if valued then .helpWithValue else .help
        else if word.contains ' ' then .argument else .unknown
      else if second = 'h' then
        if stem = ['-', 'h'] && valued then .helpWithValue else afterShortHelp rest
      else if isUnsigned (second :: rest) || word.contains ' ' then .argument
      else .unknown
  | _ => .argument

/-- What the options among the words of a command say, if they decide: help or misuse. -/
def optionsDecide : List Text → Bool → Option Wish
  | [], unknown => if unknown then some .misuse else none
  | word :: rest, unknown =>
      if word = divider then if unknown then some .misuse else none
      else match Word.of word with
        | .help => some .help
        | .helpWithValue => some .misuse
        | .unknown => optionsDecide rest true
        | .argument => optionsDecide rest unknown

/-- Words with the first divider marked as such. -/
def markDivider : List Text → List (Option Text)
  | [] => []
  | word :: rest => if word = divider then none :: rest.map some else some word :: markDivider rest

/-- One argument and what is left.  A divider on either side is dropped. -/
def takeOne (words : List (Option Text)) : Option (Text × List (Option Text)) :=
  match words.dropWhile Option.isNone with
  | some word :: rest => some (word, rest.dropWhile Option.isNone)
  | _ => none

/-- All that is left, without the first divider. -/
def takeAll (words : List (Option Text)) : List Text :=
  (words.map (·.getD divider)).erase divider

/-- The command with a name and its words. -/
def commandOf (name : Text) (words : List (Option Text)) : Option Command := do
  if name = "routes".toList || name = "check".toList then
    let (table, rest) ← takeOne words
    guard rest.isEmpty
    return if name = "routes".toList then .routes table else .check table
  else if name = "match".toList then
    let (table, rest) ← takeOne words
    let (method, rest) ← takeOne rest
    let (url, rest) ← takeOne rest
    guard rest.isEmpty
    return .request table method url
  else
    let (table, rest) ← takeOne words
    let (name, rest) ← takeOne rest
    return .url table name (takeAll rest)

/-- The names of the commands. -/
def commandNames : List Text :=
  ["routes".toList, "check".toList, "match".toList, "url".toList]

/-- What the words after the name of a command amount to, when an unknown option stood before it
or not. -/
def wishOf (name : Text) (words : List Text) (unknown : Bool) : Wish :=
  if !commandNames.contains name then .misuse
  else match optionsDecide words false with
    | some wish => wish
    | none =>
        match commandOf name (markDivider words) with
        | none => .misuse
        | some command => if unknown then .misuse else .command command

/-- What the words before a command amount to, given whether an unknown option has been seen. -/
def Wish.ofWords : List Text → Bool → Wish
  | [], unknown => if unknown then .misuse else .help
  | word :: rest, unknown =>
      if word = divider then .misuse
      else match Word.of word with
        | .help => .help
        | .helpWithValue => .misuse
        | .unknown => ofWords rest true
        | .argument => wishOf word rest unknown

/-- What the arguments amount to. -/
def Wish.ofArguments (arguments : List Text) : Wish :=
  Wish.ofWords arguments false

end Signpost.CommandLine

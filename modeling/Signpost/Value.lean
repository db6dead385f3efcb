import Signpost.Text.Quoted
import Signpost.Decimal.Shortest

/-!
# Values

Route targets and URL parameters come from the application, and the router only hands them on or
writes them out.  `Value.text` is a value as it goes into a URL and `Value.shown` as it is shown in
a listing: they differ on texts, which a listing quotes.
-/

namespace Signpost

/-- Something that an application attaches to a route or puts into a URL. -/
inductive Value where
  /-- The absent value. -/
  | null
  | bool (b : Bool)
  | int (n : Int)
  | float (x : Float)
  | text (t : Text)
  | list (items : List Value)
  /-- Keys and values, in the order in which they were written. -/
  | dict (entries : List (Text × Value))
  /-- A function of the application, known by its qualified name. -/
  | callable (name : Text)
  deriving Inhabited

namespace Value

mutual

/-- A value as a listing shows it. -/
def shown : Value → Text
  | null => "None".toList
  | bool true => "True".toList
  | bool false => "False".toList
  | int n => Text.ofInt n
  | float x => Decimal.ofFloat x
  | text t => Text.quoted t
  | list items => ['['] ++ (", ".toList).intercalate (shownAll items) ++ [']']
  | dict entries => ['{'] ++ (", ".toList).intercalate (shownEntries entries) ++ ['}']
  | callable _ => "<callable>".toList

/-- The values of a list as a listing shows them. -/
def shownAll : List Value → List Text
  | [] => []
  | item :: others => shown item :: shownAll others

/-- Keys and values as a listing shows them. -/
def shownEntries : List (Text × Value) → List Text
  | [] => []
  | (key, value) :: others => (Text.quoted key ++ [':', ' '] ++ shown value) :: shownEntries others

end

/-- A value as it goes into a URL. -/
def asText : Value → Text
  | text t => t
  | value => shown value

/-- The name of a value's type. -/
def typeName : Value → Text
  | null => "NoneType".toList
  | bool _ => "bool".toList
  | int _ => "int".toList
  | float _ => "float".toList
  | text _ => "str".toList
  | list _ => "list".toList
  | dict _ => "dict".toList
  | callable _ => "function".toList

/-- How a listing describes a route's target: a function by its name, anything else as shown. -/
def described : Value → Text
  | callable [] => shown (callable [])
  | callable name => name
  | value => shown value

/-- The text that a list of named values has for a name.  An absent value counts as missing. -/
def lookup (entries : List (Text × Value)) (name : Text) : Option Text :=
  match entries.lookup name with
  | none => none
  | some null => none
  | some value => some value.asText

end Value

end Signpost

import Signpost.CommandLine.Arguments
import Signpost.CommandLine.Application
import Signpost.CommandLine.Listing

/-!
# Running a command

A command ends with a status, a text on the standard output and a text on the error output.  The
status is 0 for success and for help, 1 for what the router reports, and 2 for arguments that make
no sense.  A few faults are not caught by a command, and end the program.
-/

namespace Signpost.CommandLine

/-- How a command ends. -/
structure Report where
  status : Nat
  /-- The text on the standard output. -/
  output : Text := []
  /-- The text on the error output. -/
  complaint : Text := []
  deriving DecidableEq, Repr

/-- A fault that no command catches. -/
inductive Crash where
  | importing (fault : ImportFault)
  | routing (fault : Fault)
  deriving DecidableEq, Repr

/-- A report of failure. -/
def Report.failure (complaint : Text) : Report :=
  { status := 1, complaint := line complaint }

/-- A report of failure with the message of an error. -/
def Report.ofError (message : Text) : Report :=
  .failure ("Error: ".toList ++ message)

/-- A value given as `key=value`. -/
def pairOf? (text : Text) : Option (Text × Text) :=
  match Text.before '=' text, Text.after? '=' text with
  | [], _ => none
  | key, some value => some (key, value)
  | _, none => none

/-- The complaint about a text that gives no value. -/
def noPair (text : Text) : Text :=
  "Expected KEY=VALUE, got ".toList ++ Text.quoted text

/-- The pairs with a value entered under a key, which keeps its position if it is there. -/
def setValue (pairs : List (Text × Text)) (key value : Text) : List (Text × Text) :=
  if (pairs.lookup key).isSome then
    pairs.map fun pair => if pair.1 = key then (key, value) else pair
  else pairs ++ [(key, value)]

/-- The values given on the command line, the last one for each key, or the first text that gives
none. -/
def valuesOf (texts : List Text) : Except Text (List (Text × Text)) :=
  texts.foldlM (fun pairs text =>
    match pairOf? text with
    | some (key, value) => .ok (setValue pairs key value)
    | none => .error text) []

/-- The end of a command after a fault of the router: a report, if the command catches it. -/
def afterFault (caught : Fault → Bool) (fault : Fault) : Except Crash Report :=
  if caught fault then .ok (.ofError fault.message) else .error (.routing fault)

variable [Unicode.Names]

/-- Compiles every pattern. -/
def runCheck (router : Router Value) : Except Crash Report :=
  match router.compile with
  | (.error fault, _) => afterFault Fault.isConfiguration fault
  | (.ok (), after) =>
      .ok { status := 0
            output := line ("OK: ".toList ++ Nat.toDigits 10 after.routes.length ++
              " routes, ".toList ++ Nat.toDigits 10 after.named.length ++ " named".toList) }

/-- The lines about a route that was found. -/
def describeHit (hit : Hit Value) : Text :=
  let name := match hit.route.name with
    | some text => text
    | none => ['-']
  let params := hit.params.mergeSort fun a b => Text.precedes a.1 b.1
  line ("route:   ".toList ++ hit.route.methods ++ [' '] ++ hit.route.pattern) ++
    line ("name:    ".toList ++ name) ++
    line ("target:  ".toList ++ hit.route.target.shown) ++
    (params.map fun pair => line ("param:   ".toList ++ pair.1 ++ ['='] ++ pair.2)).flatten

/-- Finds the route of a request. -/
def runRequest (router : Router Value) (method url : Text) : Except Crash Report :=
  match router.request method url with
  | (.error fault, _) => afterFault Fault.isReported fault
  | (.ok none, _) =>
      .ok (.failure ("No route matches ".toList ++ method ++ [' '] ++ Text.quoted url))
  | (.ok (some hit), _) => .ok { status := 0, output := describeHit hit }

/-- Builds the URL of a named route. -/
def runUrl (router : Router Value) (name : Text) (texts : List Text) : Except Crash Report :=
  match valuesOf texts with
  | .error text => .ok (.ofError (noPair text))
  | .ok pairs =>
      match router.generate name (fun key => pairs.lookup key) with
      | .error fault => afterFault Fault.isReported fault
      | .ok url => .ok { status := 0, output := line url }

/-- Finds the router of a command and goes on with it.  Only an empty module name is not caught. -/
def withRouter (app : Application) (place : Text)
    (next : Router Value → Except Crash Report) : Except Crash Report :=
  match app.router? place with
  | .ok router => next router
  | .error .emptyName => .error (.importing .emptyName)
  | .error fault => .ok (.ofError fault.message)

/-- Runs a command. -/
def runCommand (app : Application) : Command → Except Crash Report
  | .routes table =>
      withRouter app table fun router => .ok { status := 0, output := listing router }
  | .check table => withRouter app table runCheck
  | .request table method url => withRouter app table fun router => runRequest router method url
  | .url table name values => withRouter app table fun router => runUrl router name values

/-- Runs the command that the arguments give.  Help and complaints about the arguments themselves
are left to the program. -/
def runArguments (app : Application) (arguments : List Text) : Except Crash Report :=
  match Wish.ofArguments arguments with
  | .help => .ok { status := 0 }
  | .misuse => .ok { status := 2 }
  | .command command => runCommand app command

end Signpost.CommandLine

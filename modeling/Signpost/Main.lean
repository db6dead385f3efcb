import Signpost.CommandLine.Run

/-!
# The command line program

The program knows one route table, that of a small site, under the name `site`.  It prints what a
command reports and ends with its status.
-/

namespace Signpost

/-- A route of the site. -/
def siteRoute (methods pattern target name : String) : Entry Value :=
  .route ⟨methods.toList, pattern.toList, .text target.toList, some name.toList⟩

/-- The settings of the site. -/
def siteSettings : Settings Value :=
  { routes := .entries
      [siteRoute "GET" "/" "home" "home",
        siteRoute "GET" "/users/[i:id]" "user" "user",
        siteRoute "GET|POST" "/feed[.:format]?" "feed" "feed",
        siteRoute "GET" "/files/[**:path]" "file" "file"] }

/-- The site as an application. -/
def site : CommandLine.Application :=
  { name := "site".toList
    attributes := match Router.build siteSettings with
      | .ok router => [("router".toList, .router router)]
      | .error _ => [] }

/-- How the program is used. -/
def usage : String :=
  "usage: signpost routes TABLE | check TABLE | match TABLE METHOD URL | " ++
    "url TABLE NAME [KEY=VALUE ...]\n"

/-- The wording of a fault that ends the program. -/
def crashMessage : CommandLine.Crash → Text
  | .importing fault => fault.message
  | .routing fault => fault.message

end Signpost

/-- Runs the command that the arguments give. -/
def main (arguments : List String) : IO UInt32 := do
  let out ← IO.getStdout
  let err ← IO.getStderr
  let words := arguments.map String.toList
  match Signpost.CommandLine.Wish.ofArguments words with
  | .help =>
      out.putStr Signpost.usage
      return 0
  | .misuse =>
      err.putStr Signpost.usage
      return 2
  | .command command =>
      match Signpost.CommandLine.runCommand Signpost.site command with
      | .ok report =>
          out.putStr (String.ofList report.output)
          err.putStr (String.ofList report.complaint)
          return UInt32.ofNat report.status
      | .error crash =>
          err.putStr (String.ofList (Signpost.crashMessage crash) ++ "\n")
          return 1

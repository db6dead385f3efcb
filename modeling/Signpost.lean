import Signpost.Unicode.Alphanumeric
import Signpost.Unicode.Digit
import Signpost.Unicode.Space
import Signpost.Unicode.Printable
import Signpost.Unicode.Identifier
import Signpost.Unicode.Case
import Signpost.Text.Quoted
import Signpost.Decimal.Shortest
import Signpost.Decimal.Numeral
import Signpost.Value
import Signpost.Regex.Match
import Signpost.Regex.Reading
import Signpost.Compiler
import Signpost.Router.Journal
import Signpost.Exports
import Signpost.Main
import Signpost.Proofs.Router.RoundTrip
import Signpost.Proofs.Router.Rebuilding
import Signpost.Proofs.Route.Compiling
import Signpost.Proofs.Router.Precompiling
import Signpost.Proofs.Pattern.Names
import Signpost.Proofs.Pattern.Omission
import Signpost.Proofs.Route.Omission
import Signpost.Proofs.Router.Naming
import Signpost.Proofs.Router.Parameters
import Signpost.Proofs.Pattern.Anchoring
import Signpost.Proofs.Pattern.Verbatim
import Signpost.Proofs.Router.Precedence
import Signpost.Proofs.Router.Interleaving
import Signpost.Proofs.Pattern.Matchable
import Signpost.Proofs.Regex.Counting
import Signpost.Proofs.Pattern.Refusal
import Signpost.Proofs.Router.Reporting
import Signpost.Proofs.Router.BasePath
import Signpost.Proofs.Router.Failing
import Signpost.Proofs.Pattern.Grammar
import Signpost.Proofs.Pattern.Canonical
import Signpost.Proofs.Pattern.Searching
import Signpost.Proofs.Route.Literal
import Signpost.Proofs.Pattern.Spelling
import Signpost.Proofs.Pattern.Absence
import Signpost.Proofs.Route.Footprint
import Signpost.Proofs.Route.Loosening
import Signpost.Proofs.Pattern.Lenience
import Signpost.Proofs.Router.Lenience

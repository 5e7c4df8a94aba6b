import DesktopRefresh.CommandLine.Message
import DesktopRefresh.Hook
import DesktopRefresh.Log.Filter

/-!
# The program

One run of the program: it sets up its log, reads its arguments, runs the hook and logs how that went. It is
called by installers, and is not to fail: a command line that cannot be read is logged and then ignored. It
does not end like this if its log cannot be set up or if a run of a tool never comes back.
-/

namespace DesktopRefresh

structure Environment where
  /-- The name that the program was started under. -/
  invokedAs : Bytes
  stagingRoot : Option Bytes
  logFilter : Option Bytes
  deriving DecidableEq, Repr

/-- How the program ends, if it does. -/
inductive Exit where
  | code (n : Nat)
  | signal (n : Nat)
  | never
  deriving DecidableEq, Repr

def Interruption.exit : Interruption → Exit
  | endless => .never
  | killed signal => .signal signal

/-- What can be seen of a run from outside. -/
structure Transcript where
  exit : Exit
  stdout : String
  /-- What was logged. The message of a panic is not part of it. -/
  stderr : String
  deriving DecidableEq, Repr

/-- How a run went: the text it was asked for, or everything else it did. -/
inductive Session where
  | informed (text : String)
  | rejected (cause : CommandLine.Rejection)
  | ran (report : Report) (trace : Trace)
  /-- It got no further than the run of a tool. -/
  | interrupted (cause : Interruption) (trace : Trace)
  /-- It panicked over its log. -/
  | panicked
  deriving DecidableEq, Repr

namespace Report

def closing : Report → String
  | skipped reason => "Nothing to do: " ++ reason.message
  | refreshed r =>
    "Triggers: " ++ toString r.succeeded ++ " succeeded, " ++ toString r.failed ++ " failed, " ++
      toString r.skipped ++ " skipped"

end Report

namespace Session

def ignoring (message : String) : String := "Ignoring invalid arguments: " ++ message

/-- The trace of a run that did not get as far as the hook is empty. -/
def trace : Session → Trace
  | ran _ t | interrupted _ t => t
  | _ => .empty

def panicCode : Nat := 101

def exit : Session → Exit
  | interrupted cause _ => cause.exit
  | panicked => .code panicCode
  | _ => .code 0

def stdout : Session → String
  | informed text => text
  | s => s.trace.stdout

def records (invokedAs : Bytes) : Session → List Record
  | informed _ | panicked => []
  | rejected cause => [⟨.warn, .program, ignoring (cause.message (CommandLine.usageName invokedAs))⟩]
  | ran report t => t.log ++ [⟨.info, .program, report.closing⟩]
  | interrupted _ t => t.log

def transcript (env : Environment) (s : Session) : Transcript where
  exit := s.exit
  stdout := s.stdout
  stderr :=
    match Log.Filter.ofVariable? env.logFilter with
    | some filter => Log.render filter (s.records env.invokedAs)
    | none => ""

end Session

namespace Program

section
variable {σ : Type} (boundary : Boundary σ) (env : Environment) (args : List Bytes) (s : σ)

/-- A run with its log set up. -/
def runAt : Session × σ :=
  match CommandLine.parse args with
  | .error cause =>
    (if cause.isInfo then .informed (cause.message (CommandLine.usageName env.invokedAs)) else .rejected cause, s)
  | .ok parsed =>
    let config := parsed.toConfig (env.stagingRoot.map Utf8.lossy)
    match Hook.runAt boundary config s with
    | (trace, none, s) => (.ran (Hook.report config trace) trace, s)
    | (trace, some cause, s) => (.interrupted cause trace, s)

/-- The log comes first: without it, not even the arguments are read. -/
def main : Session × σ :=
  match Log.Filter.ofVariable? env.logFilter with
  | none => (.panicked, s)
  | some _ => runAt boundary env args s

end

/-- A run with its log set up and with a runner, which nothing interrupts. -/
def run {σ : Type} (runner : Runner σ) (env : Environment) (args : List Bytes) (s : σ) : Session × σ :=
  runAt runner.boundary env args s

end Program

end DesktopRefresh

import DesktopRefresh.SystemError

/-!
# What a tool answers

A tool that runs to its end leaves a status and what it printed. Everything else is a failure, and a
failure never reaches the installer: it is logged and counted.
-/

namespace DesktopRefresh

/-- A finished tool; it has no status if a signal ended it. -/
structure Output where
  status : Option Int
  stdout : String
  stderr : String
  deriving DecidableEq, Repr

namespace Output

/-- What is assumed of a tool before anything is known of it. -/
def none : Output := ⟨.none, "", ""⟩

def isSuccess (o : Output) : Bool := o.status == some 0

end Output

inductive Failure where
  /-- Waiting for the tool failed. -/
  | io (cause : SystemError)
  /-- The tool could not be started. -/
  | spawn (program : String) (cause : SystemError)
  /-- The tool was killed when its time was over. -/
  | timedOut (program : String) (seconds : Nat)
  /-- The tool ended without success. -/
  | failed (program : String) (code : Int) (stderr : String)
  deriving DecidableEq, Repr

namespace Failure

def message : Failure → String
  | io cause => "IO error: " ++ cause.message
  | spawn program cause => "failed to spawn '" ++ program ++ "': " ++ cause.message
  | timedOut program seconds =>
    "handler '" ++ program ++ "' timed out after " ++ toString seconds ++ " seconds"
  | failed program code stderr =>
    "handler '" ++ program ++ "' failed with exit code " ++ toString code ++ ": " ++ stderr

/-- The error of the system behind a failure. -/
def cause? : Failure → Option SystemError
  | io cause => some cause
  | spawn _ cause => some cause
  | timedOut _ _ => none
  | failed _ _ _ => none

end Failure

abbrev Answer := Except Failure Output

end DesktopRefresh

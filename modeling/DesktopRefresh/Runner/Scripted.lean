import DesktopRefresh.Runner

/-!
# Scripted runners

A scripted runner plays a fixed list of answers, whatever it is asked to run, and goes on with a
default answer when the list is used up. It finds every program that is not named as missing.
-/

namespace DesktopRefresh.Runner

/-- An answer that may leave open what depends on the call: a failure can name a program other than
the one that was run, and a time other than the timeout. -/
inductive ScriptedAnswer where
  | finished (output : Output)
  | io (cause : SystemError)
  | spawn (program : Option String) (cause : SystemError)
  | timedOut (program : Option String) (seconds : Option Nat)
  | failed (program : Option String) (code : Int) (stderr : String)
  deriving DecidableEq, Repr

namespace ScriptedAnswer

/-- The answer to a call of `program` with a timeout of some seconds. -/
def toAnswer (program : String) (seconds : Nat) : ScriptedAnswer → Answer
  | finished output => .ok output
  | io cause => .error (.io cause)
  | spawn other cause => .error (.spawn (other.getD program) cause)
  | timedOut other n => .error (.timedOut (other.getD program) (n.getD seconds))
  | failed other code stderr => .error (.failed (other.getD program) code stderr)

end ScriptedAnswer

structure Script where
  missing : List String
  answers : List ScriptedAnswer
  default : ScriptedAnswer
  deriving Repr

/-- Its state is the script that is still to be played. -/
def scripted : Runner Script where
  lookup s program := (!s.missing.contains program, s)
  run s command timeout :=
    match s.answers with
    | [] => (s.default.toAnswer command.program timeout.seconds, s)
    | a :: rest => (a.toAnswer command.program timeout.seconds, { s with answers := rest })

end DesktopRefresh.Runner

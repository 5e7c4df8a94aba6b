import DesktopRefresh.Supervision
import DesktopRefresh.Text.Quoted

/-!
# Systems

A system is where tools are found and where they run. All that is asked of it is whether a program can be
found, and for a command either the error that keeps it from starting or how its child behaves. What a
child does, and what it does it with, is up to the system.
-/

namespace DesktopRefresh

structure System (σ : Type) where
  finds : σ → String → Bool
  /-- Starts a command. The child need not be followed beyond its time. -/
  start : σ → Invocation → Duration → Except SystemError Started × σ

namespace System

/-- Announces a command with its arguments quoted, so that it can be told apart from any other. -/
def executing (command : Invocation) : String :=
  "Executing: " ++ command.program ++ " " ++ Text.quoteList command.args

def runner {σ : Type} (system : System σ) : Boundary σ where
  lookup s program := (system.finds s program, s)
  run s command timeout :=
    match system.start s command timeout with
    | (.error cause, s) => (.ok (.error (.spawn command.program cause)), s)
    | (.ok started, s) => (started.await command.program timeout, s)
  announce command := [executing command]

end System

end DesktopRefresh

import DesktopRefresh.Runner

/-!
# The boundary to other processes

Where the program waits for another process, it depends on that process whether it ever gets any further. A
run comes back with an answer, or not at all: the wait for it does not end, or a signal ends the program
while it waits. A runner is a boundary at which every run comes back.
-/

namespace DesktopRefresh

/-- How a run can fail to come back. -/
inductive Interruption where
  /-- The wait never ends. -/
  | endless
  /-- The program is ended by a signal. -/
  | killed (signal : Nat)
  deriving DecidableEq, Repr

structure Boundary (σ : Type) where
  /-- Whether a program can be found. -/
  lookup : σ → String → Bool × σ
  run : σ → Invocation → Duration → Except Interruption Answer × σ
  /-- The messages that are logged when a command is about to be run. -/
  announce : Invocation → List String

def Runner.boundary {σ : Type} (runner : Runner σ) : Boundary σ where
  lookup := runner.lookup
  run s command timeout :=
    match runner.run s command timeout with
    | (answer, s) => (.ok answer, s)
  announce := runner.announce

end DesktopRefresh

import DesktopRefresh.Duration
import DesktopRefresh.Invocation
import DesktopRefresh.Tool

/-!
# Runners

A runner finds tools and runs them. It has a state, and every answer may depend on all that it was
asked before; what it announces of a run depends on the invocation alone.
-/

namespace DesktopRefresh

structure Runner (σ : Type) where
  /-- Whether a program can be found. -/
  lookup : σ → String → Bool × σ
  /-- Runs a command to its end, or kills it when the time is over. -/
  run : σ → Invocation → Duration → Answer × σ
  /-- The messages that the runner logs when it is about to run a command. -/
  announce : Invocation → List String := fun _ => []

end DesktopRefresh

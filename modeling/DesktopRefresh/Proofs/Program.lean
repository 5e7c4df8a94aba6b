import DesktopRefresh.Program
import DesktopRefresh.Proofs.Decoding
import DesktopRefresh.Proofs.Hook

/-!
# One run of the program

A command line that could be read becomes a hook, with the staging root of the environment. Any other one is
answered without a hook.
-/

namespace DesktopRefresh

/-! ## The decision -/

/-- The variable that announces a staging root is set, and not to nothing. -/
def Environment.IsStaged (env : Environment) : Prop := ∃ root, env.stagingRoot = some root ∧ root ≠ []

theorem Environment.decide_eq_refresh_iff (env : Environment) (datadir : Option Bytes) (d : Bytes) :
    Decision.decide (env.stagingRoot.map Utf8.lossy) datadir = .refresh d ↔
      ¬ env.IsStaged ∧ datadir = some d := by
  rw [Decision.decide_eq_refresh_iff]
  refine and_congr_left fun _ => ?_
  unfold IsStaged
  cases env.stagingRoot with
  | none => simp
  | some root => simp [Utf8.lossy_eq_empty_iff]

theorem Environment.exists_skip (env : Environment) {datadir : Option Bytes}
    (h : env.IsStaged ∨ datadir = none) :
    ∃ reason, Decision.decide (env.stagingRoot.map Utf8.lossy) datadir = .skip reason := by
  cases hd : Decision.decide (env.stagingRoot.map Utf8.lossy) datadir with
  | skip reason => exact ⟨reason, rfl⟩
  | refresh d =>
    obtain ⟨hs, rfl⟩ := (env.decide_eq_refresh_iff datadir d).mp hd
    rcases h with h | h
    · exact absurd h hs
    · cases h

/-! ## One run -/

namespace Hook

theorem runAt_boundary {σ : Type} (runner : Runner σ) (c : Config) (s : σ) :
    runAt runner.boundary c s = ((run runner c s).2.1, none, (run runner c s).2.2) := by
  cases h : Decision.decide c.stagingRoot c.datadir with
  | skip reason => rw [run_of_skip runner h, runAt_of_skip runner.boundary h]
  | refresh d => rw [run_of_refresh runner h, runAt_of_refresh runner.boundary h, Execution.executeAt_boundary]

end Hook

namespace Program

/-- No tool was looked up or started, and the tools are as they were. -/
def Idle {σ : Type} (s : σ) (outcome : Session × σ) : Prop :=
  outcome.1.trace.lookups = [] ∧ outcome.1.trace.calls = [] ∧ outcome.2 = s

section
variable {σ : Type} (boundary : Boundary σ) (env : Environment) {args : List Bytes} (s : σ)

theorem runAt_of_error {cause : CommandLine.Rejection} (h : CommandLine.parse args = .error cause) :
    runAt boundary env args s =
      (if cause.isInfo then .informed (cause.message (CommandLine.usageName env.invokedAs))
        else .rejected cause, s) := by
  unfold runAt
  rw [h]

section
variable {boundary env} {p : CommandLine.Parsed} (h : CommandLine.parse args = .ok p) {s s' : σ} {trace : Trace}
include h

theorem runAt_of_ended
    (hr : Hook.runAt boundary (p.toConfig (env.stagingRoot.map Utf8.lossy)) s = (trace, none, s')) :
    runAt boundary env args s =
      (.ran (Hook.report (p.toConfig (env.stagingRoot.map Utf8.lossy)) trace) trace, s') := by
  unfold runAt
  rw [h]
  dsimp only
  rw [hr]

theorem runAt_of_interrupted {cause : Interruption}
    (hr : Hook.runAt boundary (p.toConfig (env.stagingRoot.map Utf8.lossy)) s = (trace, some cause, s')) :
    runAt boundary env args s = (.interrupted cause trace, s') := by
  unfold runAt
  rw [h]
  dsimp only
  rw [hr]

end

end

section
variable {σ : Type} (runner : Runner σ) (env : Environment) {args : List Bytes} (s : σ)

theorem run_of_error {cause : CommandLine.Rejection} (h : CommandLine.parse args = .error cause) :
    run runner env args s =
      (if cause.isInfo then .informed (cause.message (CommandLine.usageName env.invokedAs))
        else .rejected cause, s) :=
  runAt_of_error runner.boundary env s h

theorem run_of_ok {p : CommandLine.Parsed} (h : CommandLine.parse args = .ok p) :
    run runner env args s =
      (.ran (Hook.run runner (p.toConfig (env.stagingRoot.map Utf8.lossy)) s).1
          (Hook.run runner (p.toConfig (env.stagingRoot.map Utf8.lossy)) s).2.1,
        (Hook.run runner (p.toConfig (env.stagingRoot.map Utf8.lossy)) s).2.2) :=
  runAt_of_ended h (Hook.runAt_boundary runner _ s)

end

end Program

end DesktopRefresh

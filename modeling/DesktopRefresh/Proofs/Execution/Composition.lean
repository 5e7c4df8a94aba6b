import DesktopRefresh.Hook
import DesktopRefresh.Proofs.Execution
import DesktopRefresh.Proofs.Trace

/-!
# Executions that follow each other

Executing two lists of triggers one after the other, the second from the state in which the first left the
runner, is executing them as one list (`execute_append`). Nothing else is carried from a trigger to the next
one, whatever the runner makes its answers depend on. As the runner may be a watched one, this goes for the
order of lookups and runs as well.
-/

namespace DesktopRefresh

/-- The trace `both` shows what `first` shows and then what `second` shows. Each log begins with a record
that opens it, and is joined without this record. -/
structure Trace.Joins (first second both : Trace) : Prop where
  lookups : both.lookups = first.lookups ++ second.lookups
  calls : both.calls = first.calls ++ second.calls
  stdout : both.stdout = first.stdout ++ second.stdout
  succeeded : both.results.succeeded = first.results.succeeded + second.results.succeeded
  failed : both.results.failed = first.results.failed + second.results.failed
  skipped : both.results.skipped = first.results.skipped + second.results.skipped
  errors : both.results.errors = first.results.errors ++ second.results.errors
  log : both.log.tail = first.log.tail ++ second.log.tail

/-- The configuration of a hook that is to refresh a data directory. -/
def Config.live (mode : ExecutionMode) (datadir : Bytes) (iconCacheTool desktopDatabaseTool : String) :
    Config where
  datadir := some datadir
  stagingRoot := none
  dryRun := mode.dryRun
  timeout := mode.timeout
  iconCacheTool := iconCacheTool
  desktopDatabaseTool := desktopDatabaseTool

section
variable {σ : Type} (runner : Runner σ) (mode : ExecutionMode) (datadir : Bytes)

theorem Hook.run_live (iconCacheTool desktopDatabaseTool : String) (s : σ) :
    (run runner (.live mode datadir iconCacheTool desktopDatabaseTool) s).2 =
      Execution.execute runner mode datadir s (Trigger.builtin iconCacheTool desktopDatabaseTool) := rfl

namespace Execution

theorem steps_append (s : σ) (ts us : List Trigger) :
    steps runner mode datadir s (ts ++ us) =
      ((steps runner mode datadir s ts).1 ++
          (steps runner mode datadir (steps runner mode datadir s ts).2 us).1,
        (steps runner mode datadir (steps runner mode datadir s ts).2 us).2) := by
  have h := stepsAt_append (stepsAt_boundary runner mode datadir s ts) us
  rw [steps, h]
  rfl

theorem execute_append_eq (s : σ) (ts us : List Trigger) :
    (execute runner mode datadir s (ts ++ us)).2 =
        (execute runner mode datadir (execute runner mode datadir s ts).2 us).2 ∧
      Trace.Joins (execute runner mode datadir s ts).1
        (execute runner mode datadir (execute runner mode datadir s ts).2 us).1
        (execute runner mode datadir s (ts ++ us)).1 := by
  rw [execute_eq, execute_eq, execute_eq, steps_append]
  -- the tails of the logs are the logs of the steps
  refine ⟨rfl, rfl, rfl, ?_, rfl, rfl, rfl, rfl, rfl⟩
  exact Trace.stdout_append (steps runner mode datadir s ts).1 _

/-- Two executions in a row are one execution of both lists, and two hooks that refresh the same directory in
the same way are one execution of the triggers of both. -/
theorem execute_append (s : σ) (ts us : List Trigger) :
    let first := execute runner mode datadir s ts
    let second := execute runner mode datadir first.2 us
    let both := execute runner mode datadir s (ts ++ us)
    both.2 = second.2 ∧ Trace.Joins first.1 second.1 both.1 ∧
    first.1.log.head? = some (record .info (opening ts.length datadir)) ∧
    second.1.log.head? = some (record .info (opening us.length datadir)) ∧
    both.1.log.head? = some (record .info (opening (ts.length + us.length) datadir)) ∧
    ∀ icon desktop icon' desktop' : String,
      let hook := Hook.run runner (.live mode datadir icon desktop) s
      let hook' := Hook.run runner (.live mode datadir icon' desktop') hook.2.2
      let hooks := execute runner mode datadir s
        (Trigger.builtin icon desktop ++ Trigger.builtin icon' desktop')
      hooks.2 = hook'.2.2 ∧ Trace.Joins hook.2.1 hook'.2.1 hooks.1 := by
  intro first second both
  obtain ⟨state, joins⟩ := execute_append_eq runner mode datadir s ts us
  refine ⟨state, joins, rfl, rfl, ?_, ?_⟩
  · rw [← List.length_append]
    rfl
  · intro icon desktop icon' desktop' hook hook' hooks
    have := execute_append_eq runner mode datadir s (Trigger.builtin icon desktop)
      (Trigger.builtin icon' desktop')
    rwa [← Hook.run_live runner mode datadir icon desktop,
      ← Hook.run_live runner mode datadir icon' desktop'] at this

end Execution

end

end DesktopRefresh

import DesktopRefresh.Proofs.Execution
import DesktopRefresh.Proofs.Supervision
import DesktopRefresh.System

/-!
# Running commands on a system

A command whose start fails is answered with the error. The answer for any other one is what the wait for
its child comes to, so that whether a run comes back is up to the child alone (`consult_eq_some_iff`).
-/

namespace DesktopRefresh.System

section
variable {σ : Type} {system : System σ} {s s' : σ} {command : Invocation} {timeout : Duration}

theorem run_of_error {cause : SystemError} (h : system.start s command timeout = (.error cause, s')) :
    system.runner.run s command timeout = (.ok (.error (.spawn command.program cause)), s') := by
  simp only [runner, h]

theorem run_of_started {started : Started} (h : system.start s command timeout = (.ok started, s')) :
    system.runner.run s command timeout = (started.await command.program timeout, s') := by
  simp only [runner, h]

variable (system s command timeout)

theorem run_eq_error_iff (cause : Interruption) :
    (system.runner.run s command timeout).1 = .error cause ↔
      ∃ started, (system.start s command timeout).1 = .ok started ∧
        started.Interrupts command.program timeout cause := by
  cases h : system.start s command timeout with
  | mk outcome s' =>
    cases outcome with
    | error e =>
      rw [run_of_error h]
      simp
    | ok started =>
      rw [run_of_started h]
      simp [Started.await_eq_error_iff]

/-- What is asked about a tool is interrupted just if the tool is there and started, and the wait for its child
is interrupted. -/
theorem consult_eq_some_iff (cause : Interruption) :
    (system.runner.consult s command timeout).1 = some cause ↔
      system.finds s command.program = true ∧ ∃ started, (system.start s command timeout).1 = .ok started ∧
        started.Interrupts command.program timeout cause := by
  rw [← run_eq_error_iff]
  have hl : system.runner.lookup s command.program = (system.finds s command.program, s) := rfl
  unfold Boundary.consult
  rw [hl]
  cases system.finds s command.program with
  | false => simp
  | true =>
    dsimp only
    cases system.runner.run s command timeout with
    | mk outcome s' => cases outcome <;> simp

end

end DesktopRefresh.System

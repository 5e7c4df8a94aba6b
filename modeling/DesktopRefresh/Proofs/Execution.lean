import DesktopRefresh.Execution
import DesktopRefresh.Proofs.Trace

/-!
# Executions

An execution is its steps one after the other, up to the first one that is interrupted, and with a runner
none is (`executeAt_boundary`). What a trigger prints is decided before its tool is looked up, so that it does
not depend on the runner (`progress_execute`).
-/

namespace DesktopRefresh

namespace Boundary

/-- Looks a tool up and runs it if it is there: what interrupts this, if anything does, and what is left. -/
def consult {σ : Type} (boundary : Boundary σ) (s : σ) (command : Invocation) (timeout : Duration) :
    Option Interruption × σ :=
  match boundary.lookup s command.program with
  | (false, s) => (none, s)
  | (true, s) =>
    match boundary.run s command timeout with
    | (.error cause, s) => (some cause, s)
    | (.ok _, s) => (none, s)

end Boundary

namespace Runner

section
variable {σ : Type} (runner : Runner σ)

theorem announce_boundary : runner.boundary.announce = runner.announce := rfl

variable {runner} in
theorem boundary_lookup {s s' : σ} {program : String} {found : Bool}
    (h : runner.lookup s program = (found, s')) : runner.boundary.lookup s program = (found, s') := h

variable {runner} in
theorem boundary_run {s s' : σ} {command : Invocation} {timeout : Duration} {answer : Answer}
    (h : runner.run s command timeout = (answer, s')) :
    runner.boundary.run s command timeout = (.ok answer, s') := by
  simp only [boundary, h]

theorem consult_boundary (s : σ) (command : Invocation) (timeout : Duration) :
    (runner.boundary.consult s command timeout).1 = none := by
  unfold Boundary.consult
  cases runner.boundary.lookup s command.program with
  | mk found s' => cases found <;> rfl

end

end Runner

namespace Execution

def announcement (dryRun : Bool) (datadir : Bytes) (t : Trigger) : List Progress :=
  .notice t.notice :: if dryRun then [.wouldRun (t.command datadir)] else []

section
variable {σ : Type} (boundary : Boundary σ) (mode : ExecutionMode) (datadir : Bytes)

section
variable {boundary mode datadir} {s s' s'' : σ} {t : Trigger}

theorem stepAt_of_dryRun (h : mode.dryRun = true) :
    stepAt boundary mode datadir s t = (announceOnly datadir t, none, s) := by
  rw [stepAt, if_pos h]

section
variable (h : mode.dryRun = false)
include h

theorem stepAt_of_missing (hl : boundary.lookup s t.program = (false, s')) :
    stepAt boundary mode datadir s t = (missingTrace t, none, s') := by
  rw [stepAt, h, if_neg Bool.false_ne_true, attemptAt, hl]

theorem stepAt_of_interrupted {cause : Interruption} (hl : boundary.lookup s t.program = (true, s'))
    (hr : boundary.run s' (t.command datadir) mode.timeout = (.error cause, s'')) :
    stepAt boundary mode datadir s t = (interruptedTrace boundary mode datadir t, some cause, s'') := by
  rw [stepAt, h, if_neg Bool.false_ne_true, attemptAt, hl]
  dsimp only
  rw [hr]

theorem stepAt_of_answered {answer : Answer} (hl : boundary.lookup s t.program = (true, s'))
    (hr : boundary.run s' (t.command datadir) mode.timeout = (.ok answer, s'')) :
    stepAt boundary mode datadir s t = (answeredTrace boundary mode datadir t answer, none, s'') := by
  rw [stepAt, h, if_neg Bool.false_ne_true, attemptAt, hl]
  dsimp only
  rw [hr]

end

end

/-- What a step prints is settled beforehand, and the boundary is only asked about its tool. -/
theorem stepAt_parts (s : σ) (t : Trigger) :
    (stepAt boundary mode datadir s t).1.progress = announcement mode.dryRun datadir t ∧
      (stepAt boundary mode datadir s t).2 =
        if mode.dryRun then (none, s) else boundary.consult s (t.command datadir) mode.timeout := by
  have hp : (t.command datadir).program = t.program := rfl
  cases hd : mode.dryRun with
  | true =>
    rw [stepAt_of_dryRun hd]
    exact ⟨rfl, rfl⟩
  | false =>
    rw [if_neg Bool.false_ne_true, Boundary.consult, hp]
    cases hl : boundary.lookup s t.program with
    | mk found s' =>
      cases found with
      | false =>
        rw [stepAt_of_missing hd hl]
        exact ⟨rfl, rfl⟩
      | true =>
        dsimp only
        cases hr : boundary.run s' (t.command datadir) mode.timeout with
        | mk outcome s'' =>
          cases outcome with
          | error cause =>
            rw [stepAt_of_interrupted hd hl hr]
            exact ⟨rfl, rfl⟩
          | ok answer =>
            rw [stepAt_of_answered hd hl hr]
            exact ⟨rfl, rfl⟩

/-! ## The steps of an execution -/

section
variable {boundary mode datadir} {s s' : σ} {t : Trigger} {first : Trace}

theorem stepsAt_cons_of_none (h : stepAt boundary mode datadir s t = (first, none, s')) (ts : List Trigger) :
    stepsAt boundary mode datadir s (t :: ts) =
      (first ++ (stepsAt boundary mode datadir s' ts).1, (stepsAt boundary mode datadir s' ts).2) := by
  rw [stepsAt, h]

theorem stepsAt_cons_of_some {cause : Interruption}
    (h : stepAt boundary mode datadir s t = (first, some cause, s')) (ts : List Trigger) :
    stepsAt boundary mode datadir s (t :: ts) = (first, some cause, s') := by
  rw [stepsAt, h]

theorem stepsAt_append {before : Trace} {now : σ} {ts : List Trigger}
    (h : stepsAt boundary mode datadir s ts = (before, none, now)) (us : List Trigger) :
    stepsAt boundary mode datadir s (ts ++ us) =
      (before ++ (stepsAt boundary mode datadir now us).1, (stepsAt boundary mode datadir now us).2) := by
  induction ts generalizing s before with
  | nil =>
    cases h
    rw [List.nil_append, Trace.empty_append]
  | cons t ts ih =>
    match hs : stepAt boundary mode datadir s t with
    | (first, some cause, s') =>
      rw [stepsAt_cons_of_some hs] at h
      cases h
    | (first, none, s') =>
      rw [stepsAt_cons_of_none hs, Prod.mk.injEq] at h
      have hr : stepsAt boundary mode datadir s' ts = (_, none, now) := Prod.ext rfl h.2
      rw [List.cons_append, stepsAt_cons_of_none hs, ih hr, ← h.1, Trace.append_assoc]

theorem stepsAt_of_dryRun (h : mode.dryRun = true) (s : σ) (ts : List Trigger) :
    stepsAt boundary mode datadir s ts =
      (⟨[], [], ts.flatMap (announcement true datadir), [], ⟨0, 0, ts.length, []⟩⟩, none, s) := by
  induction ts with
  | nil => rfl
  | cons t ts ih =>
    rw [stepsAt_cons_of_none (stepAt_of_dryRun h), ih, List.length_cons, Nat.add_comm]
    rfl

end

end

/-! ## With a runner -/

section
variable {σ : Type} (runner : Runner σ) (mode : ExecutionMode) (datadir : Bytes)

theorem stepAt_boundary (s : σ) (t : Trigger) :
    stepAt runner.boundary mode datadir s t =
      ((step runner mode datadir s t).1, none, (step runner mode datadir s t).2) := by
  have hn : (stepAt runner.boundary mode datadir s t).2.1 = none := by
    rw [(stepAt_parts runner.boundary mode datadir s t).2]
    split
    · rfl
    · exact runner.consult_boundary s (t.command datadir) mode.timeout
  rw [← hn]
  rfl

theorem stepsAt_boundary (s : σ) (ts : List Trigger) :
    stepsAt runner.boundary mode datadir s ts =
      ((steps runner mode datadir s ts).1, none, (steps runner mode datadir s ts).2) := by
  have hn : (stepsAt runner.boundary mode datadir s ts).2.1 = none := by
    induction ts generalizing s with
    | nil => rfl
    | cons t ts ih =>
      rw [stepsAt_cons_of_none (stepAt_boundary runner mode datadir s t)]
      exact ih _
  rw [← hn]
  rfl

theorem execute_eq (s : σ) (ts : List Trigger) :
    execute runner mode datadir s ts =
      ({ (steps runner mode datadir s ts).1 with
          log := record .info (opening ts.length datadir) :: (steps runner mode datadir s ts).1.log },
        (steps runner mode datadir s ts).2) := rfl

theorem executeAt_boundary (s : σ) (ts : List Trigger) :
    executeAt runner.boundary mode datadir s ts =
      ((execute runner mode datadir s ts).1, none, (execute runner mode datadir s ts).2) := by
  unfold execute executeAt
  rw [stepsAt_boundary]

theorem steps_cons (s : σ) (t : Trigger) (ts : List Trigger) :
    steps runner mode datadir s (t :: ts) =
      ((step runner mode datadir s t).1 ++ (steps runner mode datadir (step runner mode datadir s t).2 ts).1,
        (steps runner mode datadir (step runner mode datadir s t).2 ts).2) := by
  have h := stepsAt_cons_of_none (stepAt_boundary runner mode datadir s t) ts
  unfold steps
  rw [h]

theorem progress_step (s : σ) (t : Trigger) :
    (step runner mode datadir s t).1.progress = announcement mode.dryRun datadir t :=
  (stepAt_parts runner.boundary mode datadir s t).1

theorem progress_steps (s : σ) (ts : List Trigger) :
    (steps runner mode datadir s ts).1.progress = ts.flatMap (announcement mode.dryRun datadir) := by
  induction ts generalizing s with
  | nil => rfl
  | cons t ts ih =>
    rw [List.flatMap_cons, ← progress_step runner mode datadir s t, ← ih, steps_cons, Trace.progress_append]

theorem progress_execute (s : σ) (ts : List Trigger) :
    (execute runner mode datadir s ts).1.progress = ts.flatMap (announcement mode.dryRun datadir) :=
  progress_steps runner mode datadir s ts

end

/-! ## As text -/

def wouldRunLine (dryRun : Bool) (command : Invocation) : String :=
  if dryRun then "  [DRY-RUN] Would run: " ++ command.display ++ "\n" else ""

theorem join_announcement (dryRun : Bool) (datadir : Bytes) (t : Trigger) :
    String.join ((announcement dryRun datadir t).map fun p => p.line ++ "\n") =
      t.notice ++ "\n" ++ wouldRunLine dryRun (t.command datadir) := by
  cases dryRun with
  | false =>
    rw [announcement, if_neg Bool.false_ne_true, List.map_singleton, String.join_cons, String.join_nil]
    rfl
  | true =>
    rw [announcement, if_pos rfl, List.map_cons, List.map_singleton, String.join_cons, String.join_cons,
      String.join_nil, String.append_empty]
    rfl

theorem stdout_stepAt {σ : Type} (boundary : Boundary σ) (mode : ExecutionMode) (datadir : Bytes) (s : σ)
    (t : Trigger) :
    (stepAt boundary mode datadir s t).1.stdout =
      t.notice ++ "\n" ++ wouldRunLine mode.dryRun (t.command datadir) := by
  rw [Trace.stdout, (stepAt_parts boundary mode datadir s t).1, join_announcement]

theorem stdout_execute {σ : Type} (runner : Runner σ) (mode : ExecutionMode) (datadir : Bytes) (s : σ)
    (ts : List Trigger) :
    (execute runner mode datadir s ts).1.stdout =
      String.join (ts.map fun t => t.notice ++ "\n" ++ wouldRunLine mode.dryRun (t.command datadir)) := by
  rw [Trace.stdout, progress_execute]
  induction ts with
  | nil => rfl
  | cons t ts ih =>
    rw [List.flatMap_cons, List.map_append, String.join_append, join_announcement, ih, List.map_cons,
      String.join_cons]

end Execution

end DesktopRefresh

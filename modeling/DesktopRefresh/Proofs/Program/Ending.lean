import DesktopRefresh.Proofs.Log
import DesktopRefresh.Proofs.Program
import DesktopRefresh.Proofs.System

/-!
# How a run ends

A run ends with exit code zero and prints what its command line asks for, whatever its tools answer, but not
under all circumstances (`main_transcript`). A log that cannot be set up makes it panic before anything else.
And if it asks for its tools, it does not get beyond one whose run does not come back: it ends by the signal
that a process of the tool sends it, or never.
-/

namespace DesktopRefresh

open Execution (announcement executeAt stepAt stepsAt wouldRunLine)
open Log (Filter)

/-! ## The log -/

namespace Environment

/-- The variable that changes the filter asks for a directive that cannot be cut. -/
def LogPanics (env : Environment) : Prop :=
  ∃ value text, env.logFilter = some value ∧ Utf8.decode? value = some text ∧ Filter.read text = .error .split

variable {env : Environment}

theorem logPanics_iff : env.LogPanics ↔ Filter.ofVariable? env.logFilter = none := by
  unfold LogPanics Filter.ofVariable?
  cases env.logFilter with
  | none => simp
  | some value =>
    rw [Option.bind_some]
    cases ht : Utf8.decode? value with
    | none => simp [ht]
    | some text =>
      cases hr : Filter.read text with
      | ok filter => simp [ht, hr]
      | error fault => cases fault <;> simp [ht, hr]

/-- A variable does no harm if each directive in it is all ASCII, or at least begins with no blank. -/
theorem not_logPanics {value : Bytes} {text : String} (hv : env.logFilter = some value)
    (ht : Utf8.decode? value = some text) (h : ∀ part ∈ Filter.splitAtCommas text.toList,
      (∀ c ∈ part, c.toNat < 0x80) ∨ ∀ c, part.head? = some c → Text.isBlank c = false) : ¬ env.LogPanics := by
  rintro ⟨value', text', hv', ht', hr⟩
  obtain rfl := Option.some.inj (hv.symm.trans hv')
  obtain rfl := Option.some.inj (ht.symm.trans ht')
  obtain ⟨part, hp, ⟨b, hb, hblank⟩, c, hc, hwide⟩ := Filter.exists_of_read_eq_split hr
  obtain ha | hn := h part hp
  · exact absurd (ha c hc) (Nat.not_lt.mpr hwide)
  · rw [hn b hb] at hblank
    cases hblank

end Environment

/-! ## Two triggers -/

section
variable {σ : Type} {boundary : Boundary σ} {mode : ExecutionMode} {datadir : Bytes}

namespace Execution

theorem stepsAt_singleton (s : σ) (t : Trigger) :
    (stepsAt boundary mode datadir s [t]).1.stdout = (stepAt boundary mode datadir s t).1.stdout ∧
      (stepsAt boundary mode datadir s [t]).2 = (stepAt boundary mode datadir s t).2 := by
  match h : stepAt boundary mode datadir s t with
  | (trace, some cause, s') =>
    rw [stepsAt_cons_of_some h]
    exact ⟨rfl, rfl⟩
  | (trace, none, s') =>
    rw [stepsAt_cons_of_none h, Trace.stdout_append]
    exact ⟨String.append_empty, rfl⟩

section
variable {s s' : σ} {t : Trigger} (u : Trigger)

theorem stepsAt_pair_of_some {cause : Interruption}
    (h : (stepAt boundary mode datadir s t).2 = (some cause, s')) :
    (stepsAt boundary mode datadir s [t, u]).1.stdout =
        t.notice ++ "\n" ++ wouldRunLine mode.dryRun (t.command datadir) ∧
      (stepsAt boundary mode datadir s [t, u]).2 = (some cause, s') := by
  have ht : stepAt boundary mode datadir s t = (_, some cause, s') := Prod.ext rfl h
  rw [stepsAt_cons_of_some ht, ← stdout_stepAt boundary mode datadir s t]
  exact ⟨rfl, rfl⟩

theorem stepsAt_pair_of_none (h : (stepAt boundary mode datadir s t).2 = (none, s')) :
    (stepsAt boundary mode datadir s [t, u]).1.stdout =
        t.notice ++ "\n" ++ wouldRunLine mode.dryRun (t.command datadir) ++
          (u.notice ++ "\n" ++ wouldRunLine mode.dryRun (u.command datadir)) ∧
      (stepsAt boundary mode datadir s [t, u]).2 = (stepAt boundary mode datadir s' u).2 := by
  have ht : stepAt boundary mode datadir s t = (_, none, s') := Prod.ext rfl h
  rw [stepsAt_cons_of_none ht, Trace.stdout_append, (stepsAt_singleton s' u).1, stdout_stepAt, stdout_stepAt]
  exact ⟨rfl, (stepsAt_singleton s' u).2⟩

end

end Execution

end

/-! ## The end of a run -/

def Config.notices (c : Config) (datadir : Bytes) : String :=
  "Updating icon cache..." ++ "\n" ++
      wouldRunLine c.dryRun ((Trigger.iconCache c.iconCacheTool).command datadir) ++
    ("Updating desktop database..." ++ "\n" ++
      wouldRunLine c.dryRun ((Trigger.desktopDatabase c.desktopDatabaseTool).command datadir))

/-- The exit of a run with a hook that was interrupted or not. -/
def Exit.after : Option Interruption → Exit
  | none => .code 0
  | some cause => cause.exit

namespace Program

section
variable {σ : Type} (boundary : Boundary σ) {env : Environment} {args : List Bytes} (s : σ)

theorem main_of_logPanics (h : env.LogPanics) : main boundary env args s = (.panicked, s) := by
  rw [main, Environment.logPanics_iff.mp h]

theorem main_of_not_logPanics (h : ¬ env.LogPanics) : main boundary env args s = runAt boundary env args s := by
  rw [Environment.logPanics_iff] at h
  obtain ⟨filter, hf⟩ := Option.ne_none_iff_exists'.mp h
  rw [main, hf]

section
variable {p : CommandLine.Parsed} (hp : CommandLine.parse args = .ok p)
include hp

theorem runAt_of_skip (hs : env.IsStaged ∨ p.datadir = none) :
    (runAt boundary env args s).1.exit = .code 0 ∧ (runAt boundary env args s).1.stdout = "" ∧
      Idle s (runAt boundary env args s) := by
  obtain ⟨reason, hr⟩ := env.exists_skip hs
  rw [runAt_of_ended hp (Hook.runAt_of_skip boundary hr s)]
  exact ⟨rfl, rfl, rfl, rfl, rfl⟩

/-- A run that refreshes ends and prints like the steps for its two triggers. -/
theorem runAt_of_refresh (hs : ¬ env.IsStaged) {d : Bytes} (hd : p.datadir = some d) :
    let c := p.toConfig none
    let outcome := stepsAt boundary ⟨c.timeout, c.dryRun⟩ d s
      (Trigger.builtin c.iconCacheTool c.desktopDatabaseTool)
    let session := runAt boundary env args s
    session.1.exit = .after outcome.2.1 ∧ session.1.stdout = outcome.1.stdout ∧
      session.1.trace.lookups = outcome.1.lookups ∧ session.1.trace.calls = outcome.1.calls ∧
      session.2 = outcome.2.2 := by
  intro c outcome session
  -- an execution adds a record to its steps, which is not looked at here
  have hr : Hook.runAt boundary (p.toConfig (env.stagingRoot.map Utf8.lossy)) s =
      ({ outcome.1 with log := Execution.record .info (Execution.opening 2 d) :: outcome.1.log }, outcome.2) :=
    Hook.runAt_of_refresh boundary ((env.decide_eq_refresh_iff p.datadir d).mpr ⟨hs, hd⟩) s
  cases hc : outcome.2.1 with
  | none =>
    have he : session = _ := runAt_of_ended hp (hr.trans (Prod.ext rfl (Prod.ext hc rfl)))
    rw [he]
    exact ⟨rfl, rfl, rfl, rfl, rfl⟩
  | some cause =>
    have he : session = _ := runAt_of_interrupted hp (hr.trans (Prod.ext rfl (Prod.ext hc rfl)))
    rw [he]
    exact ⟨rfl, rfl, rfl, rfl, rfl⟩

theorem runAt_of_dryRun (hs : ¬ env.IsStaged) {d : Bytes} (hd : p.datadir = some d)
    (hdry : (p.toConfig none).dryRun = true) :
    (runAt boundary env args s).1.exit = .code 0 ∧
      (runAt boundary env args s).1.stdout = (p.toConfig none).notices d ∧ Idle s (runAt boundary env args s) := by
  obtain ⟨hexit, hout, hlookups, hcalls, hstate⟩ := runAt_of_refresh boundary s hp hs hd
  have hstep (t : Trigger) : (stepAt boundary ⟨(p.toConfig none).timeout, (p.toConfig none).dryRun⟩ d s t).2 =
      (none, s) := by
    rw [Execution.stepAt_of_dryRun hdry]
  rw [Execution.stepsAt_of_dryRun hdry] at hexit hlookups hcalls hstate
  refine ⟨hexit, hout.trans ?_, hlookups, hcalls, hstate⟩
  exact (Execution.stepsAt_pair_of_none _ (hstep _)).1

/-- A run that refreshes gets to its second tool just if the first one does not interrupt it, and ends with exit
code zero just if none does. -/
theorem runAt_of_live (hs : ¬ env.IsStaged) {d : Bytes} (hd : p.datadir = some d)
    (hdry : (p.toConfig none).dryRun = false) :
    let c := p.toConfig none
    let icon := boundary.consult s ((Trigger.iconCache c.iconCacheTool).command d) c.timeout
    let desktop := boundary.consult icon.2 ((Trigger.desktopDatabase c.desktopDatabaseTool).command d) c.timeout
    let session := (runAt boundary env args s).1
    (∀ cause, icon.1 = some cause → session.exit = cause.exit ∧ session.stdout = "Updating icon cache...\n") ∧
    (icon.1 = none → session.stdout = c.notices d ∧ session.exit = .after desktop.1) := by
  intro c icon desktop session
  obtain ⟨hexit, hout, -⟩ := runAt_of_refresh boundary s hp hs hd
  have hstep (s : σ) (t : Trigger) : (stepAt boundary ⟨c.timeout, c.dryRun⟩ d s t).2 =
      boundary.consult s (t.command d) c.timeout := by
    rw [(Execution.stepAt_parts ..).2, hdry, if_neg Bool.false_ne_true]
  constructor
  · intro cause hi
    obtain ⟨hprint, hend⟩ := Execution.stepsAt_pair_of_some _ ((hstep s _).trans (Prod.ext hi rfl))
    have hend : Exit.after _ = cause.exit := congrArg (fun outcome => Exit.after outcome.1) hend
    refine ⟨hexit.trans hend, (hout.trans hprint).trans ?_⟩
    rw [hdry]
    rfl
  · intro hi
    obtain ⟨hprint, hend⟩ := Execution.stepsAt_pair_of_none _ ((hstep s _).trans (Prod.ext hi rfl))
    have hend : Exit.after _ = Exit.after desktop.1 :=
      congrArg (fun outcome => Exit.after outcome.1) (hend.trans (hstep _ _))
    exact ⟨hout.trans hprint, hexit.trans hend⟩

end

/-- A run panics if its log cannot be set up, and has done nothing then. Otherwise it ends with exit code zero if
its command line asks for a text, which is printed, if it is rejected, if the install is staged, without a data
directory, and in a dry run, and asks for no tool. It asks for its two tools in all other cases, and gets no
further than one that interrupts it. If the first one does, only its notice is printed, else both notices are,
whatever the tools answer. On a system a tool interrupts the run just if it is found and started and the wait
for its child is interrupted. -/
theorem main_transcript (env : Environment) (args : List Bytes) :
    let outcome := main boundary env args s
    let transcript := outcome.1.transcript env
    (env.LogPanics → transcript = ⟨.code 101, "", ""⟩ ∧ Idle s outcome) ∧
    (¬ env.LogPanics →
      (∀ cause, CommandLine.parse args = .error cause → cause.isInfo = true → transcript.exit = .code 0 ∧
        transcript.stdout = cause.message (CommandLine.usageName env.invokedAs) ∧ Idle s outcome) ∧
      (∀ cause, CommandLine.parse args = .error cause → cause.isInfo = false →
        transcript.exit = .code 0 ∧ transcript.stdout = "" ∧ Idle s outcome) ∧
      (∀ p, CommandLine.parse args = .ok p → env.IsStaged ∨ p.datadir = none →
        transcript.exit = .code 0 ∧ transcript.stdout = "" ∧ Idle s outcome) ∧
      ∀ p d, CommandLine.parse args = .ok p → ¬ env.IsStaged → p.datadir = some d →
        let c := p.toConfig none
        let icon := boundary.consult s ((Trigger.iconCache c.iconCacheTool).command d) c.timeout
        let desktop := boundary.consult icon.2 ((Trigger.desktopDatabase c.desktopDatabaseTool).command d) c.timeout
        (c.dryRun = true → transcript.exit = .code 0 ∧ transcript.stdout = c.notices d ∧ Idle s outcome) ∧
        (c.dryRun = false →
          (∀ cause, icon.1 = some cause →
            transcript.exit = cause.exit ∧ transcript.stdout = "Updating icon cache...\n") ∧
          (icon.1 = none → transcript.stdout = c.notices d ∧
            (∀ cause, desktop.1 = some cause → transcript.exit = cause.exit) ∧
            (desktop.1 = none → transcript.exit = .code 0)))) ∧
    ∀ (system : System σ) (now : σ) command timeout cause,
      (system.runner.consult now command timeout).1 = some cause ↔
        system.finds now command.program = true ∧ ∃ started, (system.start now command timeout).1 = .ok started ∧
          started.Interrupts command.program timeout cause := by
  intro outcome transcript
  refine ⟨fun h => ?_, fun h => ?_, System.consult_eq_some_iff⟩
  · have ho : outcome = (.panicked, s) := main_of_logPanics boundary s h
    refine ⟨?_, by rw [ho]; exact ⟨rfl, rfl, rfl⟩⟩
    change outcome.1.transcript env = _
    rw [ho, Session.transcript, Environment.logPanics_iff.mp h]
    rfl
  have ho : outcome = runAt boundary env args s := main_of_not_logPanics boundary s h
  have hexit : transcript.exit = outcome.1.exit := rfl
  have hout : transcript.stdout = outcome.1.stdout := rfl
  rw [hexit, hout, ho]
  refine ⟨fun cause hp hi => ?_, fun cause hp hi => ?_, fun p hp hs => runAt_of_skip boundary s hp hs, ?_⟩
  · rw [runAt_of_error boundary env s hp, if_pos hi]
    exact ⟨rfl, rfl, rfl, rfl, rfl⟩
  · rw [runAt_of_error boundary env s hp, hi]
    exact ⟨rfl, rfl, rfl, rfl, rfl⟩
  · intro p d hp hs hd c icon desktop
    refine ⟨fun hdry => runAt_of_dryRun boundary s hp hs hd hdry, fun hdry => ?_⟩
    obtain ⟨hsome, hnone⟩ := runAt_of_live boundary s hp hs hd hdry
    refine ⟨hsome, fun hi => ⟨(hnone hi).1, fun cause hc => ?_, fun hc => ?_⟩⟩
    · rw [(hnone hi).2, hc]
      rfl
    · rw [(hnone hi).2, hc]
      rfl

end

/-- A system in which only the first tool is there. It ends at once, and a process that it leaves behind holds its
pipes for ever. -/
def leaving (strike : Option Strike) : System Unit where
  finds _ program := program == Trigger.iconCacheTool
  start _ _ _ := (.ok ⟨⟨some ⟨0, some 0⟩, ⟨[], none⟩, ⟨[], none⟩⟩, strike⟩, ())

/-- The exit code is not always zero: the wait for such a tool does not end, though it is given a second, unless
the process ends it after two. And there is a variable that makes every run panic. -/
theorem not_forall_exit_zero :
    (¬ ∀ (system : System Unit) (env : Environment) (args : List Bytes),
      ((main system.runner env args ()).1.transcript env).exit = .code 0) ∧
    let env : Environment := ⟨Bytes.ofString "desktop-postinstall", none, none⟩
    let args := [Bytes.ofString "--timeout=1", Bytes.ofString "/usr/share"]
    let transcript (env : Environment) (strike : Option Strike) : Transcript :=
      (main (leaving strike).runner env args ()).1.transcript env
    transcript env none = ⟨.never, "Updating icon cache...\n", ""⟩ ∧
    transcript env (some ⟨2 * 10 ^ 9, 9⟩) = ⟨.signal 9, "Updating icon cache...\n", ""⟩ ∧
    transcript { env with logFilter := some (Bytes.ofString "\u00A0a=info") } none = ⟨.code 101, "", ""⟩ := by
  refine ⟨fun h => ?_, by decide +kernel, by decide +kernel, by decide +kernel⟩
  have := h (leaving none) ⟨[], none, none⟩ [Bytes.ofString "/usr/share"]
  revert this
  decide +kernel

end Program

end DesktopRefresh

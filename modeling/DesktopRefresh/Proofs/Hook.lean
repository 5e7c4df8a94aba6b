import DesktopRefresh.Hook
import DesktopRefresh.Proofs.Execution.Turn
import DesktopRefresh.Proofs.Trigger
import DesktopRefresh.Runner.Scripted

/-!
# What a hook asks of its runner

A hook that is staged, has no data directory or only previews asks nothing. Any other looks up its two tools
in their order and runs each right after it was found, whatever became of the one before (`run_contacts`).
-/

namespace DesktopRefresh

/-! ## The decision -/

theorem Decision.decide_eq_refresh_iff (root : Option String) (datadir : Option Bytes) (d : Bytes) :
    decide root datadir = .refresh d ↔ (∀ r, root = some r → r = "") ∧ datadir = some d := by
  unfold decide
  cases root with
  | none => cases datadir <;> simp [ofDataDir]
  | some r =>
    by_cases hr : r = ""
    · cases datadir <;> simp [ofDataDir, hr]
    · have : r.isEmpty = false := by simpa using hr
      simp [this, hr]

theorem Decision.decide_of_staged {root : String} (h : root ≠ "") (datadir : Option Bytes) :
    decide (some root) datadir = .skip (.stagedInstall root) := by
  have : ¬ root.isEmpty = true := by simpa using h
  exact if_neg this

/-- The install is not staged: an empty staging root counts as none. -/
def Config.IsLive (c : Config) : Prop := ∀ root, c.stagingRoot = some root → root = ""

theorem Config.IsLive.decide_eq {c : Config} (h : c.IsLive) :
    Decision.decide c.stagingRoot c.datadir = Decision.ofDataDir c.datadir := by
  unfold Decision.decide
  cases hr : c.stagingRoot with
  | none => rfl
  | some root =>
    rw [h root hr]
    rfl

/-! ## The contacts of a turn -/

/-- What is asked about one tool: whether it is there, and if so, to be run. -/
def consultation (command : Invocation) (timeout : Duration) (found : Bool) (answer : Answer) :
    List Contact :=
  .lookup command.program found :: if found then [.run ⟨command, timeout⟩ answer] else []

namespace Execution

section
variable {σ : Type} (runner : Runner σ) (mode : ExecutionMode) (h : mode.dryRun = false) (datadir : Bytes)
include h

theorem contacts_turn (s : σ) (t : Trigger) :
    ∃ found answer, (turn runner mode datadir s t).1.contacts =
      consultation (t.command datadir) mode.timeout found answer := by
  obtain ⟨taken, s', ht⟩ := exists_takes runner mode datadir s t
  rw [ht.turn_eq]
  cases ht with
  | preview hd =>
    rw [h] at hd
    cases hd
  | missing _ _ => exact ⟨false, .ok .none, rfl⟩
  | @answered _ _ answer _ _ _ => exact ⟨true, answer, rfl⟩

theorem contacts_turns (s : σ) (t u : Trigger) :
    ∃ found answer found' answer', (turns runner mode datadir s [t, u]).flatMap Turn.contacts =
      consultation (t.command datadir) mode.timeout found answer ++
        consultation (u.command datadir) mode.timeout found' answer' := by
  obtain ⟨found, answer, ht⟩ := contacts_turn runner mode h datadir s t
  -- the second turn starts where the first one left the runner, whatever came of the first
  obtain ⟨found', answer', hu⟩ := contacts_turn runner mode h datadir (turn runner mode datadir s t).2 u
  refine ⟨found, answer, found', answer', ?_⟩
  rw [turns, turns, turns, List.flatMap_cons, List.flatMap_cons, List.flatMap_nil, List.append_nil, ht, hu]

end

end Execution

namespace Hook

section
variable {σ : Type} (boundary : Boundary σ)

theorem runAt_of_skip {c : Config} {reason : SkipReason}
    (h : Decision.decide c.stagingRoot c.datadir = .skip reason) (s : σ) :
    runAt boundary c s = ({ Trace.empty with log := [⟨.info, .hook, skipping reason⟩] }, none, s) := by
  rw [runAt, h]

theorem runAt_of_refresh {c : Config} {d : Bytes} (h : Decision.decide c.stagingRoot c.datadir = .refresh d)
    (s : σ) : runAt boundary c s = Execution.executeAt boundary ⟨c.timeout, c.dryRun⟩ d s
      (Trigger.builtin c.iconCacheTool c.desktopDatabaseTool) := by
  rw [runAt, h]

end

section
variable {σ : Type} (runner : Runner σ)

/-- What passes between a hook and its runner. -/
def contacts (c : Config) (s : σ) : List Contact := (run runner.watched c (s, [])).2.2.2

theorem run_of_skip {c : Config} {reason : SkipReason}
    (h : Decision.decide c.stagingRoot c.datadir = .skip reason) (s : σ) :
    run runner c s =
      (.skipped reason, { Trace.empty with log := [⟨.info, .hook, skipping reason⟩] }, s) := by
  unfold run report
  rw [runAt_of_skip runner.boundary h, h]

theorem run_of_refresh {c : Config} {d : Bytes}
    (h : Decision.decide c.stagingRoot c.datadir = .refresh d) (s : σ) :
    run runner c s =
      let outcome := Execution.execute runner ⟨c.timeout, c.dryRun⟩ d s
        (Trigger.builtin c.iconCacheTool c.desktopDatabaseTool)
      (.refreshed outcome.1.results, outcome) := by
  unfold run report
  rw [runAt_of_refresh runner.boundary h, Execution.executeAt_boundary, h]

/-- A hook does not notice that its runner is watched. -/
theorem run_watched (c : Config) (s : σ) :
    run runner.watched c (s, []) =
      ((run runner c s).1, (run runner c s).2.1, (run runner c s).2.2, contacts runner c s) := by
  unfold contacts
  cases h : Decision.decide c.stagingRoot c.datadir with
  | skip reason => rw [run_of_skip runner h, run_of_skip runner.watched h]
  | refresh d => rw [run_of_refresh runner h, run_of_refresh runner.watched h, Execution.execute_watched]

theorem contacts_of_skip {c : Config} {reason : SkipReason}
    (h : Decision.decide c.stagingRoot c.datadir = .skip reason) (s : σ) : contacts runner c s = [] := by
  rw [contacts, run_of_skip runner.watched h]

theorem contacts_of_refresh {c : Config} {d : Bytes}
    (h : Decision.decide c.stagingRoot c.datadir = .refresh d) (s : σ) :
    contacts runner c s = (Execution.turns runner ⟨c.timeout, c.dryRun⟩ d s
      (Trigger.builtin c.iconCacheTool c.desktopDatabaseTool)).flatMap fun turn => turn.contacts := by
  rw [contacts, run_of_refresh runner.watched h, Execution.execute_watched]

theorem timeout_of_mem_contacts {c : Config} {s : σ} {call : Call} {answer : Answer}
    (h : .run call answer ∈ contacts runner c s) : call.timeout = c.timeout := by
  cases hd : Decision.decide c.stagingRoot c.datadir with
  | skip reason =>
    rw [contacts_of_skip runner hd] at h
    cases h
  | refresh d =>
    rw [contacts_of_refresh runner hd] at h
    exact Execution.timeout_of_mem_turns runner _ d h

/-- A hook leaves its tools alone if the install is staged, if there is no data directory and in a dry run.
Otherwise it looks each of its two tools up and, if it is there, runs it next, whatever the answers are. -/
theorem run_contacts (c : Config) (s : σ) :
    run runner.watched c (s, []) =
      ((run runner c s).1, (run runner c s).2.1, (run runner c s).2.2, contacts runner c s) ∧
    (∀ root, c.stagingRoot = some root → root ≠ "" →
      (run runner c s).1 = .skipped (.stagedInstall root) ∧ contacts runner c s = []) ∧
    (c.IsLive → c.datadir = none →
      (run runner c s).1 = .skipped .noDataDir ∧ contacts runner c s = []) ∧
    ∀ d, c.IsLive → c.datadir = some d →
      (∃ results, (run runner c s).1 = .refreshed results ∧ results.total = 2) ∧
      (c.dryRun = true → contacts runner c s = []) ∧
      (c.dryRun = false → ∃ found answer found' answer', contacts runner c s =
        consultation ⟨c.iconCacheTool, [Bytes.ofString "-qtf",
          d ++ Path.separator d ++ Bytes.ofString "icons/hicolor"]⟩ c.timeout found answer ++
        consultation ⟨c.desktopDatabaseTool, [Bytes.ofString "-q",
          d ++ Path.separator d ++ Bytes.ofString "applications"]⟩ c.timeout found' answer') := by
  refine ⟨run_watched runner c s, ?_, ?_, ?_⟩
  · intro root hr hn
    have h : Decision.decide c.stagingRoot c.datadir = .skip (.stagedInstall root) := by
      rw [hr, Decision.decide_of_staged hn]
    exact ⟨by rw [run_of_skip runner h], contacts_of_skip runner h s⟩
  · intro hl hd
    have h : Decision.decide c.stagingRoot c.datadir = .skip .noDataDir := by
      rw [hl.decide_eq, hd]
      rfl
    exact ⟨by rw [run_of_skip runner h], contacts_of_skip runner h s⟩
  · intro d hl hd
    have h : Decision.decide c.stagingRoot c.datadir = .refresh d := by
      rw [hl.decide_eq, hd]
      rfl
    refine ⟨⟨_, by rw [run_of_refresh runner h], Execution.total_execute ..⟩, ?_, ?_⟩
    · intro hr
      rw [contacts_of_refresh runner h, Execution.turns_of_dryRun runner _ d hr]
      rfl
    · intro hr
      rw [contacts_of_refresh runner h, ← Trigger.command_iconCache, ← Trigger.command_desktopDatabase]
      exact Execution.contacts_turns runner ⟨c.timeout, c.dryRun⟩ hr d s _ _

end

/-- The first tool runs out of time, and the second is still looked up. -/
theorem run_contacts_late :
    let datadir := Bytes.ofString "/usr/share/"
    let script : Runner.Script := ⟨["update-desktop-database"], [.timedOut none none], .finished .none⟩
    let c : Config := { Config.standard with datadir := some datadir }
    c.IsLive ∧
      (∃ results, (run Runner.scripted c script).1 = .refreshed results ∧ results.total = 2) ∧
      ∃ found answer found' answer', contacts Runner.scripted c script =
        consultation ⟨"gtk-update-icon-cache",
          [Bytes.ofString "-qtf", Bytes.ofString "/usr/share/icons/hicolor"]⟩ c.timeout found answer ++
        consultation ⟨"update-desktop-database",
          [Bytes.ofString "-q", Bytes.ofString "/usr/share/applications"]⟩ c.timeout found' answer' := by
  intro datadir script c
  have hl : c.IsLive := fun root hr => by cases hr
  have hi : datadir ++ Path.separator datadir ++ Bytes.ofString "icons/hicolor" =
      Bytes.ofString "/usr/share/icons/hicolor" := by decide
  have ha : datadir ++ Path.separator datadir ++ Bytes.ofString "applications" =
      Bytes.ofString "/usr/share/applications" := by decide
  obtain ⟨-, -, -, h⟩ := run_contacts Runner.scripted c script
  obtain ⟨report, -, asked⟩ := h datadir hl rfl
  rw [hi, ha] at asked
  exact ⟨hl, report, asked rfl⟩

end Hook

end DesktopRefresh

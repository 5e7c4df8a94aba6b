import DesktopRefresh.Proofs.Execution.Turn
import DesktopRefresh.Runner.Scripted

/-!
# The channels of an execution agree

Lookups, calls, counts, errors and log records of an execution that is not a dry run tell the same story
(`execute_coherent`). The outcome of each trigger stands in the log as a record with a mark of its own. The
lines that tools print go to the same log, but as they stand behind the name of the trigger in brackets, none
of them can bear a mark, and names and error texts come too late in a record to change its mark.
-/

namespace DesktopRefresh

/-! ## Marks -/

inductive Mark where
  | completed | missing | failed
  deriving DecidableEq, Repr

namespace Mark

def level : Mark → Level
  | completed => .info
  | missing => .info
  | failed => .warn

def text : Mark → String
  | completed => "  [OK] "
  | missing => "  [SKIP] "
  | failed => "  [FAIL] "

end Mark

namespace Record

/-- The record has the level of the mark and begins with its text. -/
def bears (r : Record) (m : Mark) : Bool :=
  r.level == m.level && m.text.toList.isPrefixOf r.message.toList

theorem bears_append {lead : String} (m : Mark) (h : ¬ lead.toList <+: m.text.toList) (level : Level)
    (origin : Origin) (rest : String) :
    bears ⟨level, origin, lead ++ rest⟩ m = bears ⟨level, origin, lead⟩ m := by
  unfold bears
  congr 1
  -- the mark and the lead are both at the front of the message, so one of them begins with the other
  rw [Bool.eq_iff_iff, List.isPrefixOf_iff_prefix, List.isPrefixOf_iff_prefix, String.toList_append]
  constructor
  · intro hm
    rcases List.prefix_or_prefix_of_prefix hm (List.prefix_append lead.toList rest.toList) with hl | hl
    · exact hl
    · exact absurd hl h
  · intro hm
    exact hm.trans (List.prefix_append _ _)

end Record

namespace Execution

open Record (bears_append)

theorem bears_completed (t : Trigger) (m : Mark) :
    (record .info (completed t)).bears m = (m == .completed) := by
  have : completed t = "  [OK] Trigger '" ++ (t.name ++ "' completed") := String.append_assoc
  rw [record, this]
  cases m <;> rw [bears_append _ (by decide)] <;> rfl

theorem bears_missing (t : Trigger) (m : Mark) :
    (record .info (missing t)).bears m = (m == .missing) := by
  have : missing t =
      "  [SKIP] Trigger '" ++ (t.name ++ ("': handler '" ++ (t.program ++ "' not found"))) := by
    unfold missing
    rw [String.append_assoc, String.append_assoc, String.append_assoc]
  rw [record, this]
  cases m <;> rw [bears_append _ (by decide)] <;> rfl

theorem bears_failed (t : Trigger) (f : Failure) (m : Mark) :
    (record .warn (failed t f)).bears m = (m == .failed) := by
  have : failed t f = "  [FAIL] Trigger '" ++ (t.name ++ ("': " ++ f.message)) := by
    unfold failed
    rw [String.append_assoc, String.append_assoc]
  rw [record, this]
  cases m <;> rw [bears_append _ (by decide)] <;> rfl

theorem bears_running (t : Trigger) (command : Invocation) (m : Mark) :
    (record .info (running t command)).bears m = false := by
  have : running t command = "  Running trigger: " ++
      (t.name ++ (" - " ++ (t.description ++ (" (" ++ (command.display ++ ")"))))) := by
    unfold running
    rw [String.append_assoc, String.append_assoc, String.append_assoc, String.append_assoc,
      String.append_assoc]
  rw [record, this]
  cases m <;> rw [bears_append _ (by decide)] <;> rfl

theorem bears_forwarded (t : Trigger) (level : Level) (line : String) (m : Mark) :
    (record level (forwarded t line)).bears m = false := by
  have : forwarded t line = "[" ++ (t.name ++ ("] " ++ line)) := by
    unfold forwarded
    rw [String.append_assoc, String.append_assoc]
  rw [record, this]
  cases m <;> rw [bears_append _ (by decide)] <;> cases level <;> rfl

theorem bears_opening (count : Nat) (datadir : Bytes) (m : Mark) :
    (record .info (opening count datadir)).bears m = false := by
  have : opening count datadir =
      "Executing " ++ (toString count ++ (" trigger(s) (datadir: " ++ (Utf8.lossy datadir ++ ")"))) := by
    unfold opening
    rw [String.append_assoc, String.append_assoc, String.append_assoc]
  rw [record, this]
  cases m <;> rw [bears_append _ (by decide)] <;> rfl

theorem bears_debug (origin : Origin) (message : String) (m : Mark) :
    (Record.mk .debug origin message).bears m = false := by
  cases m <;> rfl

end Execution

/-! ## The common story -/

/-- The trace of triggers that were all due to run: what was looked up, called, counted and logged fits
together. -/
structure Trace.Coherent (ts : List Trigger) (trace : Trace) : Prop where
  /-- Every tool is looked up once, in order. -/
  lookups : trace.lookups.map Prod.fst = ts.map Trigger.program
  /-- What is called is what was found. -/
  calls : trace.calls.map (fun call => call.invocation.program) =
    (trace.lookups.filter Prod.snd).map Prod.fst
  attempted : trace.calls.length = trace.results.succeeded + trace.results.failed
  skipped : trace.results.skipped = (trace.lookups.filter fun lookup => !lookup.2).length
  completedRecords : (trace.log.filter (Record.bears · .completed)).length = trace.results.succeeded
  missingRecords : (trace.log.filter (Record.bears · .missing)).length = trace.results.skipped
  /-- Failed triggers leave a record and an error each, with the same name and the same text. -/
  failures : ∃ failures : List (Trigger × Failure), failures.length = trace.results.failed ∧
    (failures.map Prod.fst).Sublist ts ∧
    trace.log.filter (Record.bears · .failed) =
      failures.map (fun (t, f) =>
        ⟨.warn, .executor, "  [FAIL] Trigger '" ++ t.name ++ "': " ++ f.message⟩) ∧
    trace.results.errors = failures.map fun (t, f) => t.name ++ ": " ++ f.message

namespace Trace.Coherent

theorem empty : Coherent [] Trace.empty where
  lookups := rfl
  calls := rfl
  attempted := rfl
  skipped := rfl
  completedRecords := rfl
  missingRecords := rfl
  failures := ⟨[], rfl, List.Sublist.refl [], rfl, rfl⟩

theorem append {ts us : List Trigger} {a b : Trace} (ha : Coherent ts a) (hb : Coherent us b) :
    Coherent (ts ++ us) (a ++ b) where
  lookups := by rw [lookups_append, List.map_append, List.map_append, ha.lookups, hb.lookups]
  calls := by
    rw [calls_append, lookups_append, List.map_append, List.filter_append, List.map_append, ha.calls,
      hb.calls]
  attempted := by
    rw [calls_append, List.length_append, ha.attempted, hb.attempted, results_append,
      Results.succeeded_append, Results.failed_append]
    omega
  skipped := by
    rw [results_append, Results.skipped_append, lookups_append, List.filter_append, List.length_append,
      ha.skipped, hb.skipped]
  completedRecords := by
    rw [log_append, List.filter_append, List.length_append, ha.completedRecords, hb.completedRecords,
      results_append, Results.succeeded_append]
  missingRecords := by
    rw [log_append, List.filter_append, List.length_append, ha.missingRecords, hb.missingRecords,
      results_append, Results.skipped_append]
  failures := by
    obtain ⟨fs, hn, hs, hl, he⟩ := ha.failures
    obtain ⟨gs, kn, ks, kl, ke⟩ := hb.failures
    refine ⟨fs ++ gs, ?_, ?_, ?_, ?_⟩
    · rw [List.length_append, hn, kn, results_append, Results.failed_append]
    · rw [List.map_append]
      exact hs.append ks
    · rw [log_append, List.filter_append, hl, kl, List.map_append]
    · rw [results_append, Results.errors_append, he, ke, List.map_append]

/-- Records without a mark do not matter. -/
theorem of_log {ts : List Trigger} {trace : Trace} (records : List Record)
    (hr : ∀ m, trace.log.filter (Record.bears · m) = records.filter (Record.bears · m))
    (h : Coherent ts { trace with log := records }) : Coherent ts trace where
  lookups := h.lookups
  calls := h.calls
  attempted := h.attempted
  skipped := h.skipped
  completedRecords := by rw [hr, h.completedRecords]
  missingRecords := by rw [hr, h.missingRecords]
  failures := by
    rw [hr]
    exact h.failures

theorem length_failedRecords {ts : List Trigger} {trace : Trace} (h : Coherent ts trace) :
    (trace.log.filter (Record.bears · .failed)).length = trace.results.failed := by
  obtain ⟨failures, hn, -, hl, -⟩ := h.failures
  rw [hl, List.length_map, hn]

theorem length_errors {ts : List Trigger} {trace : Trace} (h : Coherent ts trace) :
    trace.results.errors.length = trace.results.failed := by
  obtain ⟨failures, hn, -, -, he⟩ := h.failures
  rw [he, List.length_map, hn]

theorem allSucceeded_iff {ts : List Trigger} {trace : Trace} (h : Coherent ts trace) :
    trace.results.allSucceeded = true ↔ trace.results.errors = [] := by
  rw [Results.allSucceeded, beq_iff_eq, ← h.length_errors, List.length_eq_zero_iff]

end Trace.Coherent

namespace Execution

section
variable {σ : Type} (runner : Runner σ) (timeout : Duration) (datadir : Bytes)

theorem filter_forwardAnswer (t : Trigger) (answer : Answer) (m : Mark) :
    (forwardAnswer t answer).filter (Record.bears · m) = [] := by
  rw [List.filter_eq_nil_iff]
  intro r hr
  rw [Bool.not_eq_true]
  cases answer with
  | error f => cases hr
  | ok o =>
    rcases List.mem_append.mp hr with hr | hr
    · obtain ⟨line, -, rfl⟩ := List.mem_map.mp hr
      exact bears_forwarded t .debug line m
    · obtain ⟨line, -, rfl⟩ := List.mem_map.mp hr
      exact bears_forwarded t .warn line m

theorem filter_announced (messages : List String) (m : Mark) :
    (announced messages).filter (Record.bears · m) = [] := by
  rw [List.filter_eq_nil_iff]
  intro r hr
  obtain ⟨message, -, rfl⟩ := List.mem_map.mp hr
  rw [bears_debug]
  exact Bool.false_ne_true

theorem filter_answered (mode : ExecutionMode) (t : Trigger) (answer : Answer) (m : Mark) :
    (answeredTrace runner.boundary mode datadir t answer).log.filter (Record.bears · m) =
      [(conclude t (failure? (t.command datadir) answer)).1].filter (Record.bears · m) := by
  have hr : ¬ (record .info (running t (t.command datadir))).bears m = true := by
    rw [bears_running]
    exact Bool.false_ne_true
  have hl : (answeredTrace runner.boundary mode datadir t answer).log =
      [record .info (running t (t.command datadir))] ++ announced (runner.announce (t.command datadir)) ++
        forwardAnswer t answer ++ [(conclude t (failure? (t.command datadir) answer)).1] :=
    (List.append_assoc ..).symm
  rw [hl, List.filter_append, List.filter_append, List.filter_append, filter_announced, filter_forwardAnswer,
    List.filter_cons_of_neg (p := (Record.bears · m)) hr]
  rfl

/-! ## One trigger -/

theorem coherent_missing (t : Trigger) : (missingTrace t).Coherent [t] where
  lookups := rfl
  calls := rfl
  attempted := rfl
  skipped := rfl
  completedRecords := by simp [missingTrace, bears_missing, Results.oneSkipped]
  missingRecords := by simp [missingTrace, bears_missing, Results.oneSkipped]
  failures := ⟨[], rfl, List.nil_sublist _, by simp [missingTrace, bears_missing], rfl⟩

theorem coherent_concluded (t : Trigger) (call : Call) (progress : List Progress)
    (h : call.invocation.program = t.program) (failure : Option Failure) :
    Trace.Coherent [t]
      ⟨[(t.program, true)], [call], progress, [(conclude t failure).1], (conclude t failure).2⟩ := by
  cases failure with
  | none =>
    exact {
      lookups := rfl
      calls := by rw [List.map_singleton, h]; rfl
      attempted := rfl
      skipped := rfl
      completedRecords := by simp [conclude, bears_completed, Results.oneSucceeded]
      missingRecords := by simp [conclude, bears_completed, Results.oneSucceeded]
      failures := ⟨[], rfl, List.nil_sublist _, by simp [conclude, bears_completed], rfl⟩ }
  | some f =>
    exact {
      lookups := rfl
      calls := by rw [List.map_singleton, h]; rfl
      attempted := rfl
      skipped := rfl
      completedRecords := by simp [conclude, bears_failed, Results.oneFailed]
      missingRecords := by simp [conclude, bears_failed, Results.oneFailed]
      failures := ⟨[(t, f)], rfl, List.Sublist.refl _, by simp [conclude, bears_failed]; rfl, rfl⟩ }

variable {runner datadir}

theorem Takes.coherent {mode : ExecutionMode} (h : mode.dryRun = false) {s s' : σ} {t : Trigger}
    {taken : Turn} (ht : Takes runner mode datadir t s taken s') : taken.trace.Coherent [t] := by
  cases ht with
  | preview hd =>
    rw [h] at hd
    cases hd
  | missing hd hl => exact coherent_missing t
  | answered hd hl hr =>
    refine .of_log _ (filter_answered runner datadir mode t _) ?_
    exact coherent_concluded t _ _ rfl _

variable (runner datadir)

/-! ## A run -/

theorem coherent_steps {mode : ExecutionMode} (h : mode.dryRun = false) (s : σ) (ts : List Trigger) :
    (steps runner mode datadir s ts).1.Coherent ts := by
  induction ts generalizing s with
  | nil => exact .empty
  | cons t ts ih =>
    rw [steps_cons, step_eq_turn]
    exact ((takes_turn runner mode datadir s t).coherent h).append (ih _)

theorem coherent_execute {mode : ExecutionMode} (h : mode.dryRun = false) (s : σ) (ts : List Trigger) :
    (execute runner mode datadir s ts).1.Coherent ts := by
  refine .of_log (steps runner mode datadir s ts).1.log ?_ (coherent_steps runner datadir h s ts)
  intro m
  refine List.filter_cons_of_neg (p := (Record.bears · m)) ?_
  rw [bears_opening]
  exact Bool.false_ne_true

theorem toNat_total {r : Results} {n : Nat} (h : r.total = n) (hn : n < 2 ^ 64) :
    (.ofNat r.succeeded + .ofNat r.failed + .ofNat r.skipped : UInt64).toNat = n := by
  unfold Results.total at h
  rw [UInt64.toNat_add, UInt64.toNat_add, UInt64.toNat_ofNat', UInt64.toNat_ofNat', UInt64.toNat_ofNat']
  omega

/-- Whatever the names of the triggers, the output of the tools and the texts of the errors are, counts,
errors and marked records of an execution agree with what was looked up and called, and the runner saw the
same. Added up in machine words, the counts still give the number of triggers. -/
theorem execute_coherent (timeout : Duration) (s : σ) (ts : List Trigger) :
    let trace := (execute runner ⟨timeout, false⟩ datadir s ts).1
    let contacts := (execute runner.watched ⟨timeout, false⟩ datadir (s, []) ts).2.2
    let r := trace.results
    contacts.filterMap Contact.lookup? = trace.lookups ∧
    contacts.filterMap Contact.call? = trace.calls ∧
    trace.Coherent ts ∧
    (trace.log.filter (Record.bears · .failed)).length = r.failed ∧
    r.errors.length = r.failed ∧
    (r.allSucceeded = true ↔ r.errors = []) ∧
    r.total = ts.length ∧
    (ts.length < 2 ^ 64 →
      (.ofNat r.succeeded + .ofNat r.failed + .ofNat r.skipped : UInt64).toNat = ts.length) := by
  intro trace contacts r
  obtain ⟨lookups, calls⟩ := contacts_execute runner ⟨timeout, false⟩ datadir s ts
  have h : trace.Coherent ts := coherent_execute runner datadir rfl s ts
  have ht : r.total = ts.length := total_execute runner ⟨timeout, false⟩ datadir s ts
  exact ⟨lookups, calls, h, h.length_failedRecords, h.length_errors, h.allSucceeded_iff, ht,
    toNat_total ht⟩

end

/-- Tools that print marks, for triggers that are named after one. -/
theorem execute_coherent_forged :
    let t : Trigger := { Trigger.iconCache "tool" with name := "  [OK] " }
    let output : Output := ⟨some 1, "  [OK] \n", "  [FAIL] Trigger 'x': y\n"⟩
    let script : Runner.Script := ⟨[], [], .finished output⟩
    let trace := (execute Runner.scripted ⟨.ofSeconds 1, false⟩ [] script [t, t]).1
    let r := trace.results
    [t, t].length < 2 ^ 64 ∧ (trace.log.filter (Record.bears · .failed)).length = 2 ∧
      (.ofNat r.succeeded + .ofNat r.failed + .ofNat r.skipped : UInt64).toNat = 2 := by
  intro t output script trace r
  obtain ⟨-, -, -, hf, -, -, -, hw⟩ := execute_coherent Runner.scripted [] (.ofSeconds 1) script [t, t]
  exact ⟨by decide, hf, hw (by decide)⟩

end Execution

end DesktopRefresh

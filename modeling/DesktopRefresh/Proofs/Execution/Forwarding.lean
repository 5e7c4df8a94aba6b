import DesktopRefresh.Proofs.Execution.Turn
import DesktopRefresh.Proofs.Text
import DesktopRefresh.Runner.Scripted

/-!
# What a tool printed goes to the log

Between the record that a trigger runs and the record of its outcome stand all the lines that its tool printed,
those of standard output first (`execute_forwards`). They go nowhere else, but for the text of standard error,
which is part of the error of a tool that failed.
-/

namespace DesktopRefresh.Execution

open Text (AreLines IsTrimmed)

section
variable {σ : Type} (runner : Runner σ) (mode : ExecutionMode) (datadir : Bytes)

theorem log_steps (s : σ) (ts : List Trigger) :
    (steps runner mode datadir s ts).1.log =
      (turns runner mode datadir s ts).flatMap fun turn => turn.trace.log := by
  rw [steps_trace, Trace.part_concat Trace.log rfl (fun _ _ => rfl), List.flatMap_map]

/-- The records of a trigger that is run, up to the outcome. -/
def begun (t : Trigger) : List Record :=
  record .info (running t (t.command datadir)) :: announced (runner.announce (t.command datadir))

/-- The answer of a tool in the log and among the errors. -/
def Reported (t : Trigger) (trace : Trace) : Answer → Prop
  | .error f =>
    trace.log = begun runner datadir t ++ [record .warn (failed t f)] ∧
      trace.results.errors = [t.name ++ ": " ++ f.message]
  | .ok o => ∃ out err text, AreLines o.stdout out ∧ AreLines o.stderr err ∧ IsTrimmed o.stderr text ∧
    let failure : Failure := .failed t.program (o.status.getD (-1)) text
    trace.log = begun runner datadir t ++
        out.map (fun line => ⟨.debug, .executor, "[" ++ t.name ++ "] " ++ line⟩) ++
        err.map (fun line => ⟨.warn, .executor, "[" ++ t.name ++ "] " ++ line⟩) ++
        [if o.status = some 0 then record .info (completed t) else record .warn (failed t failure)] ∧
      trace.results.errors = if o.status = some 0 then [] else [t.name ++ ": " ++ failure.message]

theorem reported_answered (t : Trigger) (answer : Answer) :
    Reported runner datadir t (answeredTrace runner.boundary mode datadir t answer) answer := by
  cases answer with
  | error f => exact ⟨rfl, rfl⟩
  | ok o =>
    refine ⟨Text.lines o.stdout, Text.lines o.stderr, Text.trim o.stderr, Text.areLines_lines _,
      Text.areLines_lines _, Text.isTrimmed_trim _, ?_⟩
    intro failure
    have hlog : (answeredTrace runner.boundary mode datadir t (.ok o)).log = begun runner datadir t ++
        (Text.lines o.stdout).map (fun line => ⟨.debug, .executor, "[" ++ t.name ++ "] " ++ line⟩) ++
        (Text.lines o.stderr).map (fun line => ⟨.warn, .executor, "[" ++ t.name ++ "] " ++ line⟩) ++
        [(conclude t (failure? (t.command datadir) (.ok o))).1] := by
      simp only [List.append_assoc]
      exact congrArg (begun runner datadir t ++ ·) (List.append_assoc ..)
    have herr : (answeredTrace runner.boundary mode datadir t (.ok o)).results =
        (conclude t (failure? (t.command datadir) (.ok o))).2 := rfl
    rw [hlog, herr]
    by_cases hs : o.status = some 0
    · have hf : failure? (t.command datadir) (.ok o) = none := if_pos (by rw [Output.isSuccess, hs]; rfl)
      rw [hf, if_pos hs, if_pos hs]
      exact ⟨rfl, rfl⟩
    · have hf : failure? (t.command datadir) (.ok o) =
          some (.failed t.program (o.status.getD (-1)) (Text.trim o.stderr)) :=
        if_neg (by rw [Output.isSuccess, beq_iff_eq]; exact hs)
      rw [hf, if_neg hs, if_neg hs]
      exact ⟨rfl, rfl⟩

variable {runner mode datadir}

theorem Takes.reported {s s' : σ} {t : Trigger} {taken : Turn} (h : Takes runner mode datadir t s taken s')
    {answer : Answer} (ha : taken.answer? = some answer) :
    taken.trace.progress = [.notice t.notice] ∧ Reported runner datadir t taken.trace answer := by
  cases h with
  | preview hd => cases ha
  | missing hd hl => cases ha
  | answered hd hl hr =>
    obtain rfl := Option.some.inj ha
    exact ⟨rfl, reported_answered runner mode datadir t _⟩

variable (runner mode datadir)

/-- The log of an execution is that of its turns, one for each trigger. The log of a turn holds every line of
what its tool printed, and no part of a tool that gave no output. Nothing of it is printed. -/
theorem execute_forwards (s : σ) (ts : List Trigger) :
    (execute runner mode datadir s ts).1.log = record .info (opening ts.length datadir) ::
      (turns runner mode datadir s ts).flatMap (fun turn => turn.trace.log) ∧
    (turns runner mode datadir s ts).map Turn.trigger = ts ∧
    ∀ turn ∈ turns runner mode datadir s ts, ∀ answer, turn.answer? = some answer →
      turn.trace.progress = [.notice turn.trigger.notice] ∧
        Reported runner datadir turn.trigger turn.trace answer := by
  refine ⟨?_, trigger_turns runner mode datadir s ts, ?_⟩
  · rw [← log_steps]
    rfl
  · intro turn hm answer ha
    obtain ⟨t, now, next, ht⟩ := takes_of_mem_turns runner mode datadir hm
    rw [ht.trigger_eq]
    exact ht.reported ha

end

/-- A tool that a signal ended, with a blank line, and with carriage returns that end no line. -/
theorem execute_forwards_ended :
    let t := Trigger.iconCache "tool"
    let output : Output := ⟨none, "a\r\n\nb\r", " bad \r\r\n"⟩
    let script : Runner.Script := ⟨[], [], .finished output⟩
    ∃ turn ∈ turns Runner.scripted ⟨.ofSeconds 1, false⟩ [] script [t], turn.answer? = some (.ok output) ∧
      turn.trace.log = [record .info (running t (t.command [])), ⟨.debug, .executor, "[icon-cache] a"⟩,
        ⟨.debug, .executor, "[icon-cache] "⟩, ⟨.debug, .executor, "[icon-cache] b\r"⟩,
        ⟨.warn, .executor, "[icon-cache]  bad \r"⟩, record .warn (failed t (.failed "tool" (-1) "bad"))] ∧
      turn.trace.results.errors = ["icon-cache: handler 'tool' failed with exit code -1: bad"] := by
  intro t output script
  obtain ⟨-, -, shown⟩ := execute_forwards Runner.scripted ⟨.ofSeconds 1, false⟩ [] script [t]
  have hm : (turn Runner.scripted ⟨.ofSeconds 1, false⟩ [] script t).1 ∈
      turns Runner.scripted ⟨.ofSeconds 1, false⟩ [] script [t] := List.mem_cons_self ..
  have ha : (turn Runner.scripted ⟨.ofSeconds 1, false⟩ [] script t).1.answer? = some (.ok output) := rfl
  obtain ⟨-, out, err, text, hout, herr, htext, hlog, herrors⟩ := shown _ hm _ ha
  rw [← Text.lines_eq_iff, show Text.lines output.stdout = ["a", "", "b\r"] by decide] at hout
  rw [← Text.lines_eq_iff, show Text.lines output.stderr = [" bad \r"] by decide] at herr
  rw [← Text.trim_eq_iff, show Text.trim output.stderr = "bad" by decide] at htext
  subst hout herr htext
  exact ⟨_, hm, ha, hlog, herrors⟩

end DesktopRefresh.Execution

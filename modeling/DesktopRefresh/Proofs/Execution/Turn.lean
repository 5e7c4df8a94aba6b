import DesktopRefresh.Proofs.Execution
import DesktopRefresh.Proofs.Trace

/-!
# The turns of an execution

An execution is the turns of its triggers. What passes between a turn and the runner is written down by
a runner that is watched: it answers as before and keeps each question with its answer, so that lookups
and runs stand in the one order in which they were made. An execution does not notice that its runner is
watched (`execute_watched`), and asks what its trace says (`contacts_execute`). A turn has one of three
forms (`takes_turn`), and what an execution shows is put together from its turns (`steps_trace`).
-/

namespace DesktopRefresh

/-- A question to a runner with its answer. -/
inductive Contact where
  | lookup (program : String) (found : Bool)
  | run (call : Call) (answer : Answer)

namespace Contact

/-- What was asked, whatever the answer. -/
def question : Contact → String ⊕ Call
  | lookup program _ => .inl program
  | run call _ => .inr call

def lookup? : Contact → Option (String × Bool)
  | lookup program found => some (program, found)
  | run _ _ => none

def call? : Contact → Option Call
  | lookup _ _ => none
  | run call _ => some call

def answer? : Contact → Option Answer
  | lookup _ _ => none
  | run _ answer => some answer

end Contact

/-- The same runner, which puts down each question and answer at the end of a list. -/
def Runner.watched {σ : Type} (runner : Runner σ) : Runner (σ × List Contact) where
  lookup := fun (s, seen) program =>
    match runner.lookup s program with
    | (found, s) => (found, s, seen ++ [.lookup program found])
  run := fun (s, seen) command timeout =>
    match runner.run s command timeout with
    | (answer, s) => (answer, s, seen ++ [.run ⟨command, timeout⟩ answer])
  announce := runner.announce

section
variable {σ : Type} {runner : Runner σ} {s s' : σ}

theorem Runner.watched_lookup {program : String} {found : Bool} (h : runner.lookup s program = (found, s'))
    (seen : List Contact) :
    runner.watched.lookup (s, seen) program = (found, s', seen ++ [.lookup program found]) := by
  simp only [watched, h]

theorem Runner.watched_run {command : Invocation} {timeout : Duration} {answer : Answer}
    (h : runner.run s command timeout = (answer, s')) (seen : List Contact) :
    runner.watched.run (s, seen) command timeout = (answer, s', seen ++ [.run ⟨command, timeout⟩ answer]) := by
  simp only [watched, h]

end

namespace Execution

/-- What a trigger asked of the runner, and what it added to the trace. -/
structure Turn where
  trigger : Trigger
  contacts : List Contact
  trace : Trace

/-- The answer to the call that the trigger made, if it made one. -/
def Turn.answer? (turn : Turn) : Option Answer := turn.contacts.findSome? Contact.answer?

/-! ## The forms of a turn -/

section
variable {σ : Type} (runner : Runner σ) (mode : ExecutionMode) (datadir : Bytes)

/-- The turn of a trigger from a state of the runner, and the state that it leaves. -/
def turn (s : σ) (t : Trigger) : Turn × σ :=
  match step runner.watched mode datadir (s, []) t with
  | (trace, s, contacts) => (⟨t, contacts, trace⟩, s)

def turns (s : σ) : List Trigger → List Turn
  | [] => []
  | t :: ts => (turn runner mode datadir s t).1 :: turns (turn runner mode datadir s t).2 ts

/-- The turns that a trigger can take: its tool is left alone, is not there, or is run. -/
inductive Takes (t : Trigger) : σ → Turn → σ → Prop where
  | preview {s : σ} : mode.dryRun = true → Takes t s ⟨t, [], announceOnly datadir t⟩ s
  | missing {s s' : σ} : mode.dryRun = false → runner.lookup s t.program = (false, s') →
      Takes t s ⟨t, [.lookup t.program false], missingTrace t⟩ s'
  | answered {s s' s'' : σ} {answer : Answer} : mode.dryRun = false →
      runner.lookup s t.program = (true, s') →
      runner.run s' (t.command datadir) mode.timeout = (answer, s'') →
      Takes t s
        ⟨t, [.lookup t.program true, .run ⟨t.command datadir, mode.timeout⟩ answer],
          answeredTrace runner.boundary mode datadir t answer⟩ s''

variable {runner mode datadir}

theorem Takes.step_eq {s s' : σ} {t : Trigger} {taken : Turn} (h : Takes runner mode datadir t s taken s') :
    step runner mode datadir s t = (taken.trace, s') := by
  unfold step
  cases h with
  | preview hd => rw [stepAt_of_dryRun hd]
  | missing hd hl => rw [stepAt_of_missing hd (Runner.boundary_lookup hl)]
  | answered hd hl hr =>
    rw [stepAt_of_answered hd (Runner.boundary_lookup hl) (Runner.boundary_run hr)]

theorem Takes.watched {s s' : σ} {t : Trigger} {taken : Turn} (h : Takes runner mode datadir t s taken s')
    (seen : List Contact) :
    step runner.watched mode datadir (s, seen) t = (taken.trace, s', seen ++ taken.contacts) := by
  unfold step
  cases h with
  | preview hd => rw [stepAt_of_dryRun hd, List.append_nil]
  | missing hd hl => rw [stepAt_of_missing hd (Runner.boundary_lookup (Runner.watched_lookup hl seen))]
  | answered hd hl hr =>
    rw [stepAt_of_answered hd (Runner.boundary_lookup (Runner.watched_lookup hl seen))
      (Runner.boundary_run (Runner.watched_run hr _)), List.append_assoc]
    rfl

theorem Takes.trigger_eq {s s' : σ} {t : Trigger} {taken : Turn}
    (h : Takes runner mode datadir t s taken s') : taken.trigger = t := by
  cases h <;> rfl

/-- What a trace says that the runner was asked is what it was asked. -/
theorem Takes.contacts_eq {s s' : σ} {t : Trigger} {taken : Turn}
    (h : Takes runner mode datadir t s taken s') :
    taken.contacts.filterMap Contact.lookup? = taken.trace.lookups ∧
      taken.contacts.filterMap Contact.call? = taken.trace.calls := by
  cases h <;> exact ⟨rfl, rfl⟩

theorem Takes.timeout_eq {s s' : σ} {t : Trigger} {taken : Turn} (h : Takes runner mode datadir t s taken s')
    {call : Call} {answer : Answer} (hm : .run call answer ∈ taken.contacts) : call.timeout = mode.timeout := by
  cases h with
  | preview _ => cases hm
  | missing _ _ => simp at hm
  | answered _ _ _ =>
    obtain ⟨rfl, -⟩ : call = ⟨t.command datadir, mode.timeout⟩ ∧ answer = _ := by simpa using hm
    rfl

theorem Takes.total {s s' : σ} {t : Trigger} {taken : Turn} (h : Takes runner mode datadir t s taken s') :
    taken.trace.results.total = 1 := by
  cases h with
  | preview _ => rfl
  | missing _ _ => rfl
  | @answered _ _ answer _ _ _ =>
    simp only [answeredTrace, settle]
    cases failure? (t.command datadir) answer with
    | none => rfl
    | some f => rfl

theorem Takes.turn_eq {s s' : σ} {t : Trigger} {taken : Turn} (h : Takes runner mode datadir t s taken s') :
    turn runner mode datadir s t = (taken, s') := by
  unfold turn
  rw [h.watched []]
  obtain ⟨trigger, contacts, trace⟩ := taken
  obtain rfl := h.trigger_eq
  rfl

variable (runner mode datadir)

theorem exists_takes (s : σ) (t : Trigger) : ∃ taken s', Takes runner mode datadir t s taken s' := by
  cases hd : mode.dryRun with
  | true => exact ⟨_, _, .preview hd⟩
  | false =>
    cases hl : runner.lookup s t.program with
    | mk found s' =>
      cases found with
      | false => exact ⟨_, _, .missing hd hl⟩
      | true => exact ⟨_, _, .answered hd hl rfl⟩

theorem takes_turn (s : σ) (t : Trigger) :
    Takes runner mode datadir t s (turn runner mode datadir s t).1 (turn runner mode datadir s t).2 := by
  obtain ⟨taken, s', h⟩ := exists_takes runner mode datadir s t
  rw [h.turn_eq]
  exact h

/-! ## The turns of a run -/

theorem step_eq_turn (s : σ) (t : Trigger) :
    step runner mode datadir s t =
      ((turn runner mode datadir s t).1.trace, (turn runner mode datadir s t).2) :=
  (takes_turn runner mode datadir s t).step_eq

theorem steps_trace (s : σ) (ts : List Trigger) :
    (steps runner mode datadir s ts).1 = .concat ((turns runner mode datadir s ts).map Turn.trace) := by
  induction ts generalizing s with
  | nil => rfl
  | cons t ts ih => rw [steps_cons, step_eq_turn, turns, List.map_cons, Trace.concat_cons, ih]

theorem takes_of_mem_turns {s : σ} {ts : List Trigger} {taken : Turn}
    (h : taken ∈ turns runner mode datadir s ts) :
    ∃ t now next, Takes runner mode datadir t now taken next := by
  induction ts generalizing s with
  | nil => cases h
  | cons t ts ih =>
    rw [turns, List.mem_cons] at h
    obtain rfl | h := h
    · exact ⟨t, s, _, takes_turn runner mode datadir s t⟩
    · exact ih h

theorem trigger_turns (s : σ) (ts : List Trigger) :
    (turns runner mode datadir s ts).map Turn.trigger = ts := by
  induction ts generalizing s with
  | nil => rfl
  | cons t ts ih => rw [turns, List.map_cons, ih, (takes_turn runner mode datadir s t).trigger_eq]

theorem lookups_steps (s : σ) (ts : List Trigger) :
    (steps runner mode datadir s ts).1.lookups =
      (turns runner mode datadir s ts).flatMap fun turn => turn.trace.lookups := by
  rw [steps_trace, Trace.part_concat Trace.lookups rfl (fun _ _ => rfl), List.flatMap_map]

theorem calls_steps (s : σ) (ts : List Trigger) :
    (steps runner mode datadir s ts).1.calls =
      (turns runner mode datadir s ts).flatMap fun turn => turn.trace.calls := by
  rw [steps_trace, Trace.part_concat Trace.calls rfl (fun _ _ => rfl), List.flatMap_map]

theorem total_execute (s : σ) (ts : List Trigger) :
    (execute runner mode datadir s ts).1.results.total = ts.length := by
  change (steps runner mode datadir s ts).1.results.total = ts.length
  induction ts generalizing s with
  | nil => rfl
  | cons t ts ih =>
    rw [steps_cons, step_eq_turn, Trace.results_append, Results.total_append, ih,
      (takes_turn runner mode datadir s t).total, List.length_cons, Nat.add_comm]

theorem steps_watched (s : σ) (seen : List Contact) (ts : List Trigger) :
    steps runner.watched mode datadir (s, seen) ts =
      ((steps runner mode datadir s ts).1, (steps runner mode datadir s ts).2,
        seen ++ (turns runner mode datadir s ts).flatMap Turn.contacts) := by
  induction ts generalizing s seen with
  | nil => rw [turns, List.flatMap_nil, List.append_nil]; rfl
  | cons t ts ih =>
    rw [steps_cons, (takes_turn runner mode datadir s t).watched seen, ih, steps_cons, step_eq_turn, turns,
      List.flatMap_cons, List.append_assoc]

theorem execute_watched (s : σ) (ts : List Trigger) :
    execute runner.watched mode datadir (s, []) ts =
      ((execute runner mode datadir s ts).1, (execute runner mode datadir s ts).2,
        (turns runner mode datadir s ts).flatMap Turn.contacts) := by
  rw [execute_eq, execute_eq, steps_watched, List.nil_append]

theorem contacts_execute (s : σ) (ts : List Trigger) :
    (execute runner.watched mode datadir (s, []) ts).2.2.filterMap Contact.lookup? =
        (execute runner mode datadir s ts).1.lookups ∧
      (execute runner.watched mode datadir (s, []) ts).2.2.filterMap Contact.call? =
        (execute runner mode datadir s ts).1.calls := by
  rw [execute_watched]
  -- the opening record is all that an execution adds to its steps
  change _ = (steps runner mode datadir s ts).1.lookups ∧ _ = (steps runner mode datadir s ts).1.calls
  induction ts generalizing s with
  | nil => exact ⟨rfl, rfl⟩
  | cons t ts ih =>
    obtain ⟨hl, hc⟩ := (takes_turn runner mode datadir s t).contacts_eq
    obtain ⟨il, ic⟩ := ih (turn runner mode datadir s t).2
    rw [turns, List.flatMap_cons, List.filterMap_append, List.filterMap_append, steps_cons, step_eq_turn]
    exact ⟨by rw [hl, il]; rfl, by rw [hc, ic]; rfl⟩

theorem timeout_of_mem_turns {s : σ} {ts : List Trigger} {call : Call} {answer : Answer}
    (h : .run call answer ∈ (turns runner mode datadir s ts).flatMap Turn.contacts) :
    call.timeout = mode.timeout := by
  obtain ⟨taken, ht, hm⟩ := List.mem_flatMap.mp h
  obtain ⟨_, _, _, hk⟩ := takes_of_mem_turns runner mode datadir ht
  exact hk.timeout_eq hm

/-! ## Dry runs -/

theorem turn_of_dryRun (h : mode.dryRun = true) (s : σ) (t : Trigger) :
    turn runner mode datadir s t = (⟨t, [], announceOnly datadir t⟩, s) :=
  (Takes.preview h).turn_eq

theorem turns_of_dryRun (h : mode.dryRun = true) (s : σ) (ts : List Trigger) :
    turns runner mode datadir s ts = ts.map fun t => ⟨t, [], announceOnly datadir t⟩ := by
  induction ts generalizing s with
  | nil => rfl
  | cons t ts ih => rw [turns, turn_of_dryRun runner mode datadir h, ih, List.map_cons]

end

end Execution

end DesktopRefresh

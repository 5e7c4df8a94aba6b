import DesktopRefresh.Proofs.Execution.Turn
import DesktopRefresh.Runner.Scripted
import Mathlib.Data.List.Forall2

/-!
# Failures stay with their trigger

Two runners find the same tools, but the tools do as they like. Executions with the two ask the same
questions in the same order and print the same. What a trigger adds to the results and to the log depends on
the answer to its own call alone, however the calls of the others ended (`execute_isolated`).
-/

namespace DesktopRefresh

/-! ## Runners that find tools by name -/

namespace Runner

/-- The states that a runner can come to, whatever it is asked. -/
inductive Reachable {σ : Type} (runner : Runner σ) (s : σ) : σ → Prop where
  | refl : Reachable runner s s
  | lookup {t : σ} (program : String) :
      Reachable runner s t → Reachable runner s (runner.lookup t program).2
  | run {t : σ} (command : Invocation) (timeout : Duration) :
      Reachable runner s t → Reachable runner s (runner.run t command timeout).2

/-- From a state on, whether a tool is found depends on its name alone. -/
def FindsBy {σ : Type} (runner : Runner σ) (s : σ) (found : String → Bool) : Prop :=
  ∀ t, runner.Reachable s t → ∀ program, (runner.lookup t program).1 = found program

theorem Reachable.trans {σ : Type} {runner : Runner σ} {s t u : σ} (h : runner.Reachable s t)
    (k : runner.Reachable t u) : runner.Reachable s u := by
  induction k with
  | refl => exact h
  | lookup program _ ih => exact .lookup program ih
  | run command timeout _ ih => exact .run command timeout ih

theorem FindsBy.of_reachable {σ : Type} {runner : Runner σ} {s t : σ} {found : String → Bool}
    (h : runner.FindsBy s found) (k : runner.Reachable s t) : runner.FindsBy t found :=
  fun u hu => h u (k.trans hu)

/-- A script says once which programs are missing. -/
theorem scripted_findsBy (script : Script) : scripted.FindsBy script fun p => !script.missing.contains p := by
  have hm : ∀ t, scripted.Reachable script t → t.missing = script.missing := by
    intro t ht
    induction ht with
    | refl => rfl
    | lookup program _ ih => exact ih
    | @run t command timeout _ ih =>
      rw [← ih]
      simp only [scripted]
      cases t.answers <;> rfl
  intro t ht program
  change (!t.missing.contains program) = _
  rw [hm t ht]

end Runner

namespace Execution

/-! ## The calls of an execution -/

/-- What the executor logged of a turn, without what the runner announced. -/
def Turn.records (turn : Turn) : List Record := turn.trace.log.filter (·.origin == .executor)

section
variable {σ : Type} (runner : Runner σ) (mode : ExecutionMode) (datadir : Bytes)

/-- The turns in which a tool was called, one for each call. -/
def callers (s : σ) (ts : List Trigger) : List Turn :=
  (turns runner mode datadir s ts).filter fun turn => turn.answer?.isSome

variable {runner mode datadir}

theorem Takes.calls {s s' : σ} {t : Trigger} {taken : Turn}
    (h : Takes runner mode datadir t s taken s') :
    taken.answer? = none ∧ taken.trace.calls = [] ∨
      ∃ answer call, taken.answer? = some answer ∧ taken.trace.calls = [call] := by
  cases h with
  | preview _ => exact .inl ⟨rfl, rfl⟩
  | missing _ _ => exact .inl ⟨rfl, rfl⟩
  | answered _ _ _ => exact .inr ⟨_, _, rfl, rfl⟩

theorem Takes.reachable {s s' : σ} {t : Trigger} {taken : Turn}
    (h : Takes runner mode datadir t s taken s') : runner.Reachable s s' := by
  cases h with
  | preview _ => exact .refl
  | missing _ hl =>
    have hs : runner.Reachable s (runner.lookup s t.program).2 := .lookup t.program .refl
    rwa [hl] at hs
  | answered _ hl hr =>
    have hs : runner.Reachable s (runner.lookup s t.program).2 := .lookup t.program .refl
    rw [hl] at hs
    have hs := hs.run (t.command datadir) mode.timeout
    rwa [hr] at hs

variable (runner mode datadir)

/-- The callers are in the order of the calls, and each made one of them. -/
theorem calls_callers (s : σ) (ts : List Trigger) :
    (callers runner mode datadir s ts).map (·.trace.calls) =
      (execute runner mode datadir s ts).1.calls.map fun call => [call] := by
  change _ = (steps runner mode datadir s ts).1.calls.map _
  unfold callers
  induction ts generalizing s with
  | nil => rfl
  | cons t ts ih =>
    rw [steps_cons, step_eq_turn, turns, Trace.calls_append, List.map_append, ← ih]
    rcases (takes_turn runner mode datadir s t).calls with ⟨ha, hc⟩ | ⟨answer, call, ha, hc⟩
    · rw [List.filter_cons_of_neg (by rw [ha]; exact Bool.false_ne_true), hc]
      rfl
    · rw [List.filter_cons_of_pos (by rw [ha]; rfl), List.map_cons, hc]
      rfl

theorem records_answered (t : Trigger) (answer : Answer) (contacts : List Contact) :
    Turn.records ⟨t, contacts, answeredTrace runner.boundary mode datadir t answer⟩ =
      record .info (running t (t.command datadir)) ::
        (settle t (t.command datadir) answer).1.filter (·.origin == .executor) := by
  have ha : (announced (runner.announce (t.command datadir))).filter (·.origin == .executor) = [] := by
    rw [List.filter_eq_nil_iff]
    intro r hr
    obtain ⟨message, -, rfl⟩ := List.mem_map.mp hr
    exact Bool.false_ne_true
  unfold Turn.records answeredTrace
  rw [Runner.announce_boundary, List.cons_append, List.filter_cons_of_pos rfl, List.filter_append, ha,
    List.nil_append]

end

/-! ## Two runners -/

/-- Turns of one trigger with two runners that announce as they like: nothing but the answer to the call can
make a difference. -/
structure Turn.Similar (announce announce' : Invocation → List String) (a b : Turn) : Prop where
  trigger : a.trigger = b.trigger
  questions : a.contacts.map Contact.question = b.contacts.map Contact.question
  lookups : a.trace.lookups = b.trace.lookups
  calls : a.trace.calls = b.trace.calls
  called : a.answer?.isSome = b.answer?.isSome
  results : a.answer? = b.answer? → a.trace.results = b.trace.results
  records : a.answer? = b.answer? → a.records = b.records
  trace : a.answer? = b.answer? → announce = announce' → a.trace = b.trace

section
variable {σ τ : Type} (runner : Runner σ) (runner' : Runner τ) (mode : ExecutionMode) (datadir : Bytes)

theorem similar_turn {s : σ} {s' : τ} {t : Trigger}
    (h : (runner.lookup s t.program).1 = (runner'.lookup s' t.program).1) :
    Turn.Similar runner.announce runner'.announce (turn runner mode datadir s t).1
      (turn runner' mode datadir s' t).1 := by
  cases hd : mode.dryRun with
  | true =>
    rw [(Takes.preview hd).turn_eq, (Takes.preview hd).turn_eq]
    exact ⟨rfl, rfl, rfl, rfl, rfl, fun _ => rfl, fun _ => rfl, fun _ _ => rfl⟩
  | false =>
    rcases hl : runner.lookup s t.program with ⟨found, u⟩
    rcases hl' : runner'.lookup s' t.program with ⟨found', u'⟩
    rw [hl, hl'] at h
    obtain rfl : found = found' := h
    cases found with
    | false =>
      rw [(Takes.missing hd hl).turn_eq, (Takes.missing hd hl').turn_eq]
      exact ⟨rfl, rfl, rfl, rfl, rfl, fun _ => rfl, fun _ => rfl, fun _ _ => rfl⟩
    | true =>
      rw [(Takes.answered hd hl rfl).turn_eq, (Takes.answered hd hl' rfl).turn_eq]
      refine ⟨rfl, rfl, rfl, rfl, rfl, ?_, ?_, ?_⟩
      · intro ha
        exact congrArg (fun answer => (settle t (t.command datadir) answer).2) (Option.some.inj ha)
      · intro ha
        rw [records_answered, records_answered, Option.some.inj ha]
      · intro ha hn
        unfold answeredTrace
        rw [Option.some.inj ha, Runner.announce_boundary, Runner.announce_boundary, hn]

theorem similar_turns {s : σ} {s' : τ} {found : String → Bool} (h : runner.FindsBy s found)
    (h' : runner'.FindsBy s' found) (ts : List Trigger) :
    List.Forall₂ (Turn.Similar runner.announce runner'.announce) (turns runner mode datadir s ts)
      (turns runner' mode datadir s' ts) := by
  induction ts generalizing s s' with
  | nil => exact .nil
  | cons t ts ih =>
    -- the two runners may be in any states by now, but in both the same tools are still found
    refine .cons ?_ ?_
    · refine similar_turn runner runner' mode datadir ?_
      rw [h s .refl, h' s' .refl]
    · exact ih (h.of_reachable (takes_turn runner mode datadir s t).reachable)
        (h'.of_reachable (takes_turn runner' mode datadir s' t).reachable)

theorem flatMap_eq_of_similar {α : Type} {announce announce' : Invocation → List String}
    {as bs : List Turn} (h : List.Forall₂ (Turn.Similar announce announce') as bs) (part : Turn → List α)
    (hp : ∀ a b, Turn.Similar announce announce' a b → part a = part b) :
    as.flatMap part = bs.flatMap part := by
  induction h with
  | nil => rfl
  | cons hab _ ih => rw [List.flatMap_cons, List.flatMap_cons, hp _ _ hab, ih]

theorem similar_caller {s : σ} {s' : τ} {found : String → Bool} (h : runner.FindsBy s found)
    (h' : runner'.FindsBy s' found) (ts : List Trigger) {k : Nat} {a b : Turn}
    (ha : (callers runner mode datadir s ts)[k]? = some a)
    (hb : (callers runner' mode datadir s' ts)[k]? = some b) :
    Turn.Similar runner.announce runner'.announce a b := by
  have hs : List.Forall₂ (Turn.Similar runner.announce runner'.announce) (callers runner mode datadir s ts)
      (callers runner' mode datadir s' ts) :=
    List.rel_filter (fun _ _ hab => Bool.eq_iff_iff.mp hab.called)
      (similar_turns runner runner' mode datadir h h' ts)
  exact (List.forall₂_iff_zip.mp hs).2 (List.mem_of_getElem? (List.getElem?_zip_eq_some.mpr ⟨ha, hb⟩))

/-- Two executions of the same triggers with runners that find the same tools ask the same and print the
same, and the trigger that makes a call adds the same if the call is answered in the same way. -/
theorem execute_isolated {s : σ} {s' : τ} {found : String → Bool} (h : runner.FindsBy s found)
    (h' : runner'.FindsBy s' found) (ts : List Trigger) :
    let outcome := execute runner mode datadir s ts
    let outcome' := execute runner' mode datadir s' ts
    let made := callers runner mode datadir s ts
    let made' := callers runner' mode datadir s' ts
    outcome.1.lookups = outcome'.1.lookups ∧
    outcome.1.calls = outcome'.1.calls ∧
    outcome.1.stdout = outcome'.1.stdout ∧
    (execute runner.watched mode datadir (s, []) ts).2.2.map Contact.question =
      (execute runner'.watched mode datadir (s', []) ts).2.2.map Contact.question ∧
    made.map (·.trace.calls) = outcome.1.calls.map (fun call => [call]) ∧
    made'.map (·.trace.calls) = outcome'.1.calls.map (fun call => [call]) ∧
    ∀ (k : Nat) (a b : Turn), made[k]? = some a → made'[k]? = some b → a.trigger = b.trigger ∧
      (a.answer? = b.answer? → a.trace.results = b.trace.results ∧ a.records = b.records ∧
        (runner.announce = runner'.announce → a.trace = b.trace)) := by
  intro outcome outcome' made made'
  have hs := similar_turns runner runner' mode datadir h h' ts
  refine ⟨?_, ?_, ?_, ?_, calls_callers runner mode datadir s ts,
    calls_callers runner' mode datadir s' ts, ?_⟩
  · change (steps runner mode datadir s ts).1.lookups = (steps runner' mode datadir s' ts).1.lookups
    rw [lookups_steps, lookups_steps]
    exact flatMap_eq_of_similar hs _ fun _ _ hab => hab.lookups
  · change (steps runner mode datadir s ts).1.calls = (steps runner' mode datadir s' ts).1.calls
    rw [calls_steps, calls_steps]
    exact flatMap_eq_of_similar hs _ fun _ _ hab => hab.calls
  · rw [stdout_execute, stdout_execute]
  · rw [execute_watched, execute_watched, List.map_flatMap, List.map_flatMap]
    exact flatMap_eq_of_similar hs _ fun _ _ hab => hab.questions
  · intro k a b ha hb
    have hab := similar_caller runner runner' mode datadir h h' ts ha hb
    exact ⟨hab.trigger, fun he => ⟨hab.results he, hab.records he, hab.trace he⟩⟩

end

/-- The first tool runs out of time with one script and succeeds with the other; the second trigger has no
tool, and the tool of the third warns and fails with both. -/
theorem execute_isolated_scripted :
    let found : String → Bool := fun p => (["absent"].contains p).not
    let broken : Runner.ScriptedAnswer := .finished ⟨some 3, "", "no such directory\n"⟩
    let late : Runner.Script := ⟨["absent"], [.timedOut none none], broken⟩
    let fine : Runner.Script := ⟨["absent"], [.finished ⟨some 0, "", ""⟩], broken⟩
    let ts := [Trigger.iconCache "icons", Trigger.iconCache "absent", Trigger.desktopDatabase "database"]
    let mode : ExecutionMode := ⟨.ofSeconds 5, false⟩
    Runner.scripted.FindsBy late found ∧ Runner.scripted.FindsBy fine found ∧
      ((callers Runner.scripted mode [] late ts)[1]?.map fun turn => turn.trace) =
        (callers Runner.scripted mode [] fine ts)[1]?.map fun turn => turn.trace := by
  intro found broken late fine ts mode
  have hl := Runner.scripted_findsBy late
  have hf := Runner.scripted_findsBy fine
  obtain ⟨-, -, -, -, -, -, hk⟩ := execute_isolated Runner.scripted Runner.scripted mode [] hl hf ts
  have := hk 1 _ _ rfl rfl
  exact ⟨hl, hf, congrArg some ((this.2 rfl).2.2 rfl)⟩

end Execution

end DesktopRefresh

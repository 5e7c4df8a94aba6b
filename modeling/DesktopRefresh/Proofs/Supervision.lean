import DesktopRefresh.Supervision

/-!
# Supervision as it goes on

The supervisor of a child waits for three events, and each of them can come at any instant or never: the child
ends, and each of its pipes is let go by its last holder. Followed instant by instant, supervision comes to
the answer of `supervise` and to no other one. Its timeout bounds the wait for the child alone: a child that
ended in time is waited for as long as a pipe of it is held, and for ever if it is never let go
(`supervise_bounded_iff`). All this time a strike can end the supervisor, so that there are two ways in which
it does not come back (`await_eq_error_iff`).
-/

namespace DesktopRefresh

/-- Nobody holds the pipe any more. -/
def Stream.ClosedAt (s : Stream) (now : Nat) : Prop := ∃ k, s.closes = some k ∧ k ≤ now

theorem Stream.ClosedAt.mono {s : Stream} {now later : Nat} (h : s.ClosedAt now) (hl : now ≤ later) :
    s.ClosedAt later := by
  obtain ⟨k, hk, hn⟩ := h
  exact ⟨k, hk, by omega⟩

theorem Stream.not_closedAt {s : Stream} (h : s.closes = none) (now : Nat) : ¬ s.ClosedAt now := by
  rintro ⟨k, hk, -⟩
  rw [h] at hk
  cases hk

namespace Child

/-- The child has ended by itself. -/
def GoneAt (c : Child) (now : Nat) : Prop := ∃ e, c.ending = some e ∧ e.instant ≤ now

theorem endingWithin_eq_some_iff (timeout : Duration) (c : Child) (e : Ending) :
    c.endingWithin timeout = some e ↔ c.ending = some e ∧ e.instant ≤ timeout.toNanos := by
  rw [endingWithin, Option.filter_eq_some_iff, decide_eq_true_iff]

theorem endingWithin_eq_none_iff (timeout : Duration) (c : Child) :
    c.endingWithin timeout = none ↔ ∀ e, c.ending = some e → timeout.toNanos < e.instant := by
  rw [endingWithin, Option.filter_eq_none_iff]
  simp

/-- All that comes out of the pipes of a child that ended. -/
def output (c : Child) (e : Ending) : Output :=
  ⟨e.status, Utf8.lossy c.stdout.content, Utf8.lossy c.stderr.content⟩

/-! ## Steps -/

/-- How far the supervisor has come. -/
inductive Phase where
  /-- For the child to end. -/
  | waiting
  /-- For the end of its output, after it ended. -/
  | atStdout (e : Ending)
  | atStderr (e : Ending)
  | returned (answer : Answer)

section
variable (program : String) (timeout : Duration) (c : Child)

def late : Answer := .error (.timedOut program timeout.seconds)

/-- What the supervisor can do at an instant. -/
inductive Moves (now : Nat) : Phase → Phase → Prop where
  | ended {e : Ending} : c.ending = some e → e.instant ≤ now → e.instant ≤ timeout.toNanos →
      Moves now .waiting (.atStdout e)
  | expired : timeout.toNanos ≤ now → (∀ e, c.ending = some e → timeout.toNanos < e.instant) →
      Moves now .waiting (.returned (late program timeout))
  | stdoutClosed {e : Ending} : c.stdout.ClosedAt now → Moves now (.atStdout e) (.atStderr e)
  | stderrClosed {e : Ending} : c.stderr.ClosedAt now → Moves now (.atStderr e) (.returned (.ok (c.output e)))

/-- The supervisor can be in a phase at an instant. It moves when it gets to it, and time goes on. -/
inductive Reaches : Nat → Phase → Prop where
  | start : Reaches 0 .waiting
  | tick {now : Nat} {p : Phase} : Reaches now p → Reaches (now + 1) p
  | move {now : Nat} {p q : Phase} : Reaches now p → Moves program timeout c now p q → Reaches now q

/-- The supervisor has not returned and there is nothing it can do. -/
def Blocked (now : Nat) (p : Phase) : Prop :=
  (∀ answer, p ≠ .returned answer) ∧ ∀ q, ¬ Moves program timeout c now p q

/-! ## What a phase says -/

/-- What has happened when the supervisor is in a phase. -/
def Happened (now : Nat) : Phase → Prop
  | .waiting => True
  | .atStdout e => c.endingWithin timeout = some e ∧ e.instant ≤ now
  | .atStderr e => c.endingWithin timeout = some e ∧ e.instant ≤ now ∧ c.stdout.ClosedAt now
  | .returned answer =>
    (∃ e, c.endingWithin timeout = some e ∧ e.instant ≤ now ∧ c.stdout.ClosedAt now ∧ c.stderr.ClosedAt now ∧
      answer = .ok (c.output e)) ∨
    (c.endingWithin timeout = none ∧ timeout.toNanos ≤ now ∧ answer = late program timeout)

variable {program timeout c}

theorem Happened.tick {now : Nat} {p : Phase} (h : Happened program timeout c now p) :
    Happened program timeout c (now + 1) p := by
  cases p with
  | waiting => trivial
  | atStdout e => exact ⟨h.1, by have := h.2; omega⟩
  | atStderr e => exact ⟨h.1, by have := h.2.1; omega, h.2.2.mono (by omega)⟩
  | returned answer =>
    rcases h with ⟨e, he, hn, ho, hr, ha⟩ | ⟨he, hn, ha⟩
    · exact .inl ⟨e, he, by omega, ho.mono (by omega), hr.mono (by omega), ha⟩
    · exact .inr ⟨he, by omega, ha⟩

theorem Happened.move {now : Nat} {p q : Phase} (h : Happened program timeout c now p)
    (hm : Moves program timeout c now p q) : Happened program timeout c now q := by
  cases hm with
  | ended he hn ht => exact ⟨(endingWithin_eq_some_iff timeout c _).mpr ⟨he, ht⟩, hn⟩
  | expired ht he => exact .inr ⟨(endingWithin_eq_none_iff timeout c).mpr he, ht, rfl⟩
  | stdoutClosed ho => exact ⟨h.1, h.2, ho⟩
  | stderrClosed hr => exact .inl ⟨_, h.1, h.2.1, h.2.2, hr, rfl⟩

theorem Reaches.happened {now : Nat} {p : Phase} (h : Reaches program timeout c now p) :
    Happened program timeout c now p := by
  induction h with
  | start => trivial
  | tick _ ih => exact ih.tick
  | move _ hm ih => exact ih.move hm

/-! ## What can be reached -/

theorem reaches_waiting (now : Nat) : Reaches program timeout c now .waiting := by
  induction now with
  | zero => exact .start
  | succ now ih => exact ih.tick

theorem reaches_atStdout {now : Nat} {e : Ending} (he : c.endingWithin timeout = some e)
    (hn : e.instant ≤ now) : Reaches program timeout c now (.atStdout e) := by
  obtain ⟨he, ht⟩ := (endingWithin_eq_some_iff timeout c e).mp he
  exact (reaches_waiting now).move (.ended he hn ht)

/-- The supervisor can be in a phase if all has happened that leads there. -/
theorem Happened.reaches {now : Nat} {p : Phase} (h : Happened program timeout c now p) :
    Reaches program timeout c now p := by
  cases p with
  | waiting => exact reaches_waiting now
  | atStdout e => exact reaches_atStdout h.1 h.2
  | atStderr e => exact (reaches_atStdout h.1 h.2.1).move (.stdoutClosed h.2.2)
  | returned answer =>
    rcases h with ⟨e, he, hn, ho, hr, rfl⟩ | ⟨he, hn, rfl⟩
    · exact ((reaches_atStdout he hn).move (.stdoutClosed ho)).move (.stderrClosed hr)
    · exact (reaches_waiting now).move (.expired hn ((endingWithin_eq_none_iff timeout c).mp he))

theorem Reaches.mono {now later : Nat} {p : Phase} (h : Reaches program timeout c now p) (hl : now ≤ later) :
    Reaches program timeout c later p := by
  induction hl with
  | refl => exact h
  | step _ ih => exact ih.tick

/-! ## Where the supervisor is blocked -/

theorem not_blocked_waiting {now : Nat} (ht : timeout.toNanos ≤ now) :
    ¬ Blocked program timeout c now .waiting := by
  intro hb
  cases he : c.endingWithin timeout with
  | none => exact hb.2 _ (.expired ht ((endingWithin_eq_none_iff timeout c).mp he))
  | some e =>
    obtain ⟨he, hi⟩ := (endingWithin_eq_some_iff timeout c e).mp he
    exact hb.2 _ (.ended he (by omega) hi)

theorem blocked_atStdout_iff (now : Nat) (e : Ending) :
    Blocked program timeout c now (.atStdout e) ↔ ¬ c.stdout.ClosedAt now := by
  constructor
  · intro hb hc
    exact hb.2 _ (.stdoutClosed hc)
  · intro hn
    refine ⟨fun _ => Phase.noConfusion, fun q hm => ?_⟩
    cases hm with
    | stdoutClosed hc => exact hn hc

theorem blocked_atStderr_iff (now : Nat) (e : Ending) :
    Blocked program timeout c now (.atStderr e) ↔ ¬ c.stderr.ClosedAt now := by
  constructor
  · intro hb hc
    exact hb.2 _ (.stderrClosed hc)
  · intro hn
    refine ⟨fun _ => Phase.noConfusion, fun q hm => ?_⟩
    cases hm with
    | stderrClosed hc => exact hn hc

/-- When the time is over, only pipes that are still held can block the supervisor. -/
theorem exists_blocked_iff {now : Nat} (ht : timeout.toNanos ≤ now) :
    (∃ p, Reaches program timeout c now p ∧ Blocked program timeout c now p) ↔
      ∃ e, c.endingWithin timeout = some e ∧ ¬ (c.stdout.ClosedAt now ∧ c.stderr.ClosedAt now) := by
  constructor
  · rintro ⟨p, hr, hb⟩
    have hp := hr.happened
    cases p with
    | waiting => exact absurd hb (not_blocked_waiting ht)
    | atStdout e => exact ⟨e, hp.1, fun hc => (blocked_atStdout_iff now e).mp hb hc.1⟩
    | atStderr e => exact ⟨e, hp.1, fun hc => (blocked_atStderr_iff now e).mp hb hc.2⟩
    | returned answer => exact absurd rfl (hb.1 answer)
  · rintro ⟨e, he, hn⟩
    have hi : e.instant ≤ now := by
      have := ((endingWithin_eq_some_iff timeout c e).mp he).2
      omega
    by_cases ho : c.stdout.ClosedAt now
    · have hr : ¬ c.stderr.ClosedAt now := fun hr => hn ⟨ho, hr⟩
      exact ⟨.atStderr e, Happened.reaches ⟨he, hi, ho⟩, (blocked_atStderr_iff now e).mpr hr⟩
    · exact ⟨.atStdout e, Happened.reaches ⟨he, hi⟩, (blocked_atStdout_iff now e).mpr ho⟩

/-! ## The answer -/

variable (program timeout c)

theorem supervise_of_none (h : c.endingWithin timeout = none) :
    c.supervise program timeout = some (late program timeout) := by
  rw [supervise, h]
  rfl

theorem supervise_of_some {e : Ending} (h : c.endingWithin timeout = some e) {k k' : Nat}
    (ho : c.stdout.closes = some k) (hr : c.stderr.closes = some k') :
    c.supervise program timeout = some (.ok (c.output e)) := by
  rw [supervise, h]
  dsimp only
  rw [collect, ho, hr]
  rfl

theorem supervise_eq_none_iff :
    c.supervise program timeout = none ↔
      ∃ e, c.endingWithin timeout = some e ∧ (c.stdout.closes = none ∨ c.stderr.closes = none) := by
  cases he : c.endingWithin timeout with
  | none => simp [supervise_of_none program timeout c he]
  | some e =>
    cases ho : c.stdout.closes with
    | none => simp [supervise, he, collect, ho]
    | some k =>
      cases hr : c.stderr.closes with
      | none => simp [supervise, he, collect, ho, hr]
      | some k' => simp [supervise_of_some program timeout c he ho hr]

/-- The supervisor comes to the answer of `supervise` and to no other. -/
theorem supervise_eq_some_iff (answer : Answer) :
    c.supervise program timeout = some answer ↔
      ∃ now, Reaches program timeout c now (.returned answer) := by
  constructor
  · intro h
    cases he : c.endingWithin timeout with
    | none =>
      rw [supervise_of_none program timeout c he] at h
      obtain rfl := Option.some.inj h
      exact ⟨timeout.toNanos, Happened.reaches (.inr ⟨he, Nat.le_refl _, rfl⟩)⟩
    | some e =>
      have hn : c.supervise program timeout ≠ none := by simp [h]
      obtain ⟨k, ho⟩ := Option.ne_none_iff_exists'.mp fun ho =>
        hn ((supervise_eq_none_iff program timeout c).mpr ⟨e, he, .inl ho⟩)
      obtain ⟨k', hr⟩ := Option.ne_none_iff_exists'.mp fun hr =>
        hn ((supervise_eq_none_iff program timeout c).mpr ⟨e, he, .inr hr⟩)
      rw [supervise_of_some program timeout c he ho hr] at h
      obtain rfl := Option.some.inj h
      refine ⟨max e.instant (max k k'), Happened.reaches (.inl ⟨e, he, ?_, ⟨k, ho, ?_⟩, ⟨k', hr, ?_⟩, rfl⟩)⟩
      all_goals omega
  · rintro ⟨now, h⟩
    rcases h.happened with ⟨e, he, -, ⟨k, ho, -⟩, ⟨k', hr, -⟩, rfl⟩ | ⟨he, -, rfl⟩
    · exact supervise_of_some program timeout c he ho hr
    · exact supervise_of_none program timeout c he

/-- There is no answer just if the supervisor can come to a point where it is blocked for ever. -/
theorem supervise_eq_none_iff_blocked :
    c.supervise program timeout = none ↔
      ∃ now p, Reaches program timeout c now p ∧
        ∀ later, now ≤ later → Blocked program timeout c later p := by
  constructor
  · intro h
    obtain ⟨e, he, hc⟩ := (supervise_eq_none_iff program timeout c).mp h
    have hi := ((endingWithin_eq_some_iff timeout c e).mp he).2
    cases ho : c.stdout.closes with
    | none =>
      refine ⟨timeout.toNanos, .atStdout e, Happened.reaches ⟨he, hi⟩, fun later _ => ?_⟩
      exact (blocked_atStdout_iff later e).mpr (Stream.not_closedAt ho later)
    | some k =>
      have hr : c.stderr.closes = none := hc.resolve_left (by simp [ho])
      refine ⟨max timeout.toNanos k, .atStderr e, Happened.reaches ⟨he, by omega, k, ho, by omega⟩,
        fun later _ => ?_⟩
      exact (blocked_atStderr_iff later e).mpr (Stream.not_closedAt hr later)
  · rintro ⟨now, p, hp, hb⟩
    cases hs : c.supervise program timeout with
    | none => rfl
    | some answer =>
      -- an instant at which the time is over and the supervisor could have returned
      obtain ⟨m, hm⟩ := (supervise_eq_some_iff program timeout c answer).mp hs
      have hl : now ≤ max now (max m timeout.toNanos) := by omega
      obtain ⟨e, he, hn⟩ := (exists_blocked_iff (by omega)).mp ⟨p, hp.mono hl, hb _ hl⟩
      rcases hm.happened with ⟨-, -, -, ho, hr, -⟩ | ⟨hw, -, -⟩
      · exact absurd ⟨ho.mono (by omega), hr.mono (by omega)⟩ hn
      · rw [hw] at he
        cases he

/-- Supervision gives the status and the output of a child that ends in time, and kills any other one when its
time is over. But the timeout bounds it only if the pipes of a child that ends in time are closed by then.
While one of them is held the supervisor stays blocked, and it never returns if one is held for ever. -/
theorem supervise_bounded_iff :
    (∀ answer, c.supervise program timeout = some answer ↔
      ∃ now, Reaches program timeout c now (.returned answer)) ∧
    (c.endingWithin timeout = none →
      c.supervise program timeout = some (.error (.timedOut program timeout.seconds))) ∧
    (∀ e answer, c.endingWithin timeout = some e → c.supervise program timeout = some answer →
      answer = .ok ⟨e.status, Utf8.lossy c.stdout.content, Utf8.lossy c.stderr.content⟩) ∧
    (c.supervise program timeout = none ↔
      ∃ e, c.endingWithin timeout = some e ∧ (c.stdout.closes = none ∨ c.stderr.closes = none)) ∧
    (c.supervise program timeout = none ↔ ∃ now p, Reaches program timeout c now p ∧
      ∀ later, now ≤ later → Blocked program timeout c later p) ∧
    ((∀ now p, Reaches program timeout c now p → c.GoneAt now → timeout.toNanos ≤ now →
        ¬ Blocked program timeout c now p) ↔
      ∀ e, c.endingWithin timeout = some e →
        c.stdout.ClosedAt timeout.toNanos ∧ c.stderr.ClosedAt timeout.toNanos) := by
  refine ⟨supervise_eq_some_iff program timeout c, supervise_of_none program timeout c, ?_,
    supervise_eq_none_iff program timeout c, supervise_eq_none_iff_blocked program timeout c, ?_, ?_⟩
  · intro e answer he h
    obtain ⟨now, hr⟩ := (supervise_eq_some_iff program timeout c answer).mp h
    rcases hr.happened with ⟨e', he', -, -, -, rfl⟩ | ⟨hn, -, -⟩
    · rw [he] at he'
      obtain rfl := Option.some.inj he'
      rfl
    · rw [he] at hn
      cases hn
  · intro h e he
    obtain ⟨hg, hi⟩ := (endingWithin_eq_some_iff timeout c e).mp he
    refine Classical.not_not.mp fun hn => ?_
    obtain ⟨p, hp, hb⟩ := (exists_blocked_iff (Nat.le_refl _)).mpr ⟨e, he, hn⟩
    exact h _ p hp ⟨e, hg, hi⟩ (Nat.le_refl _) hb
  · intro h now p hp _ ht hb
    obtain ⟨e, he, hn⟩ := (exists_blocked_iff ht).mp ⟨p, hp, hb⟩
    exact hn ⟨(h e he).1.mono ht, (h e he).2.mono ht⟩

end

/-- A child that ends at once and leaves a pipe behind: if it is never let go there is no answer, and if it is
let go after a second, a timeout of half a second is over long before. -/
theorem not_forall_supervise_bounded :
    (¬ ∀ (program : String) (timeout : Duration) (c : Child),
      ∃ answer, c.supervise program timeout = some answer) ∧
      ¬ ∀ (program : String) (timeout : Duration) (c : Child) (now : Nat) (p : Phase),
        Reaches program timeout c now p → c.GoneAt now → timeout.toNanos ≤ now →
          ¬ Blocked program timeout c now p := by
  constructor
  · intro h
    let c : Child := ⟨some ⟨0, some 0⟩, ⟨[], none⟩, ⟨[], some 0⟩⟩
    have he : c.endingWithin (.ofSeconds 1) = some ⟨0, some 0⟩ :=
      (endingWithin_eq_some_iff _ c _).mpr ⟨rfl, Nat.zero_le _⟩
    obtain ⟨answer, ha⟩ := h "tool" (.ofSeconds 1) c
    rw [(supervise_eq_none_iff "tool" (.ofSeconds 1) c).mpr ⟨_, he, .inl rfl⟩] at ha
    cases ha
  · intro h
    let timeout : Duration := ⟨0, 5 * 10 ^ 8⟩
    let c : Child := ⟨some ⟨0, some 0⟩, ⟨Bytes.ofString "late\n", some (10 ^ 9)⟩, ⟨[], some 0⟩⟩
    have he : c.endingWithin timeout = some ⟨0, some 0⟩ :=
      (endingWithin_eq_some_iff _ c _).mpr ⟨rfl, Nat.zero_le _⟩
    have hn : ¬ c.stdout.ClosedAt timeout.toNanos := by
      rintro ⟨k, hk, ht⟩
      obtain rfl := Option.some.inj hk
      exact absurd ht (by decide)
    have hb : ∃ p, Reaches "tool" timeout c timeout.toNanos p ∧ Blocked "tool" timeout c timeout.toNanos p :=
      (exists_blocked_iff (Nat.le_refl _)).mpr ⟨_, he, fun hc => hn hc.1⟩
    obtain ⟨p, hp, hb⟩ := hb
    exact h "tool" timeout c timeout.toNanos p hp ⟨⟨0, some 0⟩, rfl, Nat.zero_le _⟩ (Nat.le_refl _) hb

/-! ## The wait for a child -/

section
variable (program : String) (timeout : Duration) (c : Child)

theorem answered_by_iff (now : Nat) :
    (c.answeredAt timeout).any (· ≤ now) = true ↔ ∃ answer, Reaches program timeout c now (.returned answer) := by
  constructor
  · intro h
    obtain ⟨m, hm, hle⟩ := (Option.any_eq_true ..).mp h
    have hle : m ≤ now := of_decide_eq_true hle
    unfold answeredAt at hm
    cases he : c.endingWithin timeout with
    | none =>
      rw [he] at hm
      obtain rfl := Option.some.inj hm
      exact ⟨_, Happened.reaches (.inr ⟨he, hle, rfl⟩)⟩
    | some e =>
      rw [he] at hm
      dsimp only at hm
      split at hm
      · next stdout stderr ho hr =>
        obtain rfl := Option.some.inj hm
        exact ⟨_, Happened.reaches (.inl ⟨e, he, by omega, ⟨stdout, ho, by omega⟩, ⟨stderr, hr, by omega⟩, rfl⟩)⟩
      · cases hm
  · rintro ⟨answer, h⟩
    refine (Option.any_eq_true ..).mpr ?_
    rcases h.happened with ⟨e, he, hn, ⟨stdout, ho, hso⟩, ⟨stderr, hr, hsr⟩, -⟩ | ⟨he, hn, -⟩
    · refine ⟨max e.instant (max stdout stderr), ?_, decide_eq_true (by omega)⟩
      simp only [answeredAt, he, ho, hr]
    · refine ⟨timeout.toNanos, ?_, decide_eq_true hn⟩
      simp only [answeredAt, he]

end

end Child

namespace Started

open Child (Blocked Reaches)

section
variable (program : String) (timeout : Duration) (s : Started)

/-- What interrupts the wait for a child: a strike at which there can be no answer yet, or else the supervisor
stays blocked for ever. -/
def Interrupts : Interruption → Prop
  | .killed signal => ∃ k, s.strike = some k ∧ k.signal = signal ∧
      ∀ answer, ¬ Reaches program timeout s.child k.instant (.returned answer)
  | .endless => s.strike = none ∧ ∃ now p, Reaches program timeout s.child now p ∧
      ∀ later, now ≤ later → Blocked program timeout s.child later p

variable {s}

theorem await_of_no_strike (h : s.strike = none) : s.await program timeout =
    match s.child.supervise program timeout with
    | some answer => .ok answer
    | none => .error .endless := by
  rw [await, h]
  rfl

variable {program timeout}

theorem await_of_early_strike {k : Strike} (h : s.strike = some k)
    (hk : ∀ answer, ¬ Reaches program timeout s.child k.instant (.returned answer)) :
    s.await program timeout = .error (.killed k.signal) := by
  have hn : (s.child.answeredAt timeout).any (· ≤ k.instant) = false := by
    rw [← Bool.not_eq_true, Child.answered_by_iff program]
    exact fun ⟨answer, ha⟩ => hk answer ha
  rw [await, h, Option.filter_some, if_pos (by rw [hn]; rfl)]

theorem await_of_late_strike {k : Strike} (h : s.strike = some k) {answer : Answer}
    (hk : Reaches program timeout s.child k.instant (.returned answer)) :
    s.await program timeout = .ok answer := by
  have ha : (s.child.answeredAt timeout).any (· ≤ k.instant) = true :=
    (Child.answered_by_iff program timeout s.child k.instant).mpr ⟨answer, hk⟩
  have hs : s.child.supervise program timeout = some answer :=
    (Child.supervise_eq_some_iff program timeout s.child answer).mpr ⟨_, hk⟩
  rw [await, h, Option.filter_some, if_neg (by rw [ha]; decide), hs]

theorem interrupts_iff_of_no_strike (h : s.strike = none) (cause : Interruption) :
    s.Interrupts program timeout cause ↔ cause = .endless ∧ s.child.supervise program timeout = none := by
  rw [Child.supervise_eq_none_iff_blocked]
  cases cause with
  | endless => simp [Interrupts, h]
  | killed signal => simp [Interrupts, h]

theorem interrupts_iff_of_strike {k : Strike} (h : s.strike = some k) (cause : Interruption) :
    s.Interrupts program timeout cause ↔ cause = .killed k.signal ∧
      ∀ answer, ¬ Reaches program timeout s.child k.instant (.returned answer) := by
  cases cause with
  | endless => simp [Interrupts, h]
  | killed signal => simp [Interrupts, h, eq_comm]

variable (program timeout s)

theorem await_eq_error_iff (cause : Interruption) :
    s.await program timeout = .error cause ↔ s.Interrupts program timeout cause := by
  cases hk : s.strike with
  | none =>
    rw [await_of_no_strike program timeout hk, interrupts_iff_of_no_strike hk]
    cases s.child.supervise program timeout with
    | none => simp [eq_comm]
    | some answer => simp
  | some k =>
    rw [interrupts_iff_of_strike hk]
    by_cases hr : ∃ answer, Reaches program timeout s.child k.instant (.returned answer)
    · obtain ⟨answer, hr⟩ := hr
      rw [await_of_late_strike hk hr]
      exact iff_of_false (fun h => by cases h) fun h => h.2 answer hr
    · rw [not_exists] at hr
      rw [await_of_early_strike hk hr, Except.error.injEq, eq_comm]
      exact (and_iff_left hr).symm

end

end Started

end DesktopRefresh

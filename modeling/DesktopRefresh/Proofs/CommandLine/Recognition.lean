import DesktopRefresh.Proofs.CommandLine.Insertion

/-!
# Where options are recognised

A command line is read for options up to the escape or the first extra operand (`optionArgs`). As long as
options are recognised, each mark of a state has an argument behind it, and what waits to be settled is what
was read last (`HasRead`, kept by each argument in `HasRead.after_step`).
-/

namespace DesktopRefresh.CommandLine

/-! ## Where options are recognised -/

/-- The next word is the value of the option. -/
def LongName.needsValue : LongName → Option Bytes → Bool
  | value _, none => true
  | _, _ => false

/-- The arguments in front of the escape and of the first extra operand; carried along is whether the next word
is the value of an option, and whether there was an operand. -/
def recognised (awaits operand : Bool) : List Bytes → List Bytes
  | [] => []
  | a :: rest =>
    match Token.ofArg a with
    | .escape => []
    | .word =>
      if awaits then a :: recognised false operand rest
      else if operand then []
      else a :: recognised false true rest
    | .long n attached => a :: recognised (n.needsValue attached) operand rest
    | .undecodable _ | .cluster _ => a :: recognised false operand rest

def optionArgs (args : List Bytes) : List Bytes := recognised false false args

section
variable {awaits operand : Bool} {a : Bytes} {rest : List Bytes}

theorem recognised_escape : recognised awaits operand (escapeArg :: rest) = [] := rfl

theorem recognised_known (n : LongName) (attached : Option Bytes) :
    recognised awaits operand (n.arg attached :: rest) =
      n.arg attached :: recognised (n.needsValue attached) operand rest := by
  rw [recognised, Token.ofArg_arg]

theorem recognised_word (ha : ¬ OptionLike a) :
    recognised awaits operand (a :: rest) =
      if awaits then a :: recognised false operand rest
      else if operand then [] else a :: recognised false true rest := by
  rw [recognised, (Token.ofArg_eq_word_iff a).mpr ha]

theorem recognised_append (awaits operand : Bool) (args : List Bytes) :
    ∃ back, args = recognised awaits operand args ++ back ∧ State.Stop back := by
  induction args generalizing awaits operand with
  | nil => exact ⟨[], rfl, .nil⟩
  | cons a rest ih =>
    have goes : ∀ w o, recognised awaits operand (a :: rest) = a :: recognised w o rest →
        ∃ back, a :: rest = recognised awaits operand (a :: rest) ++ back ∧ State.Stop back := by
      intro w o h
      obtain ⟨back, hb, hs⟩ := ih w o
      refine ⟨back, ?_, hs⟩
      rw [h, List.cons_append, ← hb]
    have stops : recognised awaits operand (a :: rest) = [] → State.Stop (a :: rest) →
        ∃ back, a :: rest = recognised awaits operand (a :: rest) ++ back ∧ State.Stop back := by
      intro h hs
      exact ⟨a :: rest, by rw [h, List.nil_append], hs⟩
    by_cases hw : OptionLike a
    · cases hw with
      | escape => exact stops recognised_escape (.escape rest)
      | known n attached => exact goes _ _ (recognised_known n attached)
      | undecodable name attached he hn =>
        exact goes false operand (by rw [recognised, Token.ofArg_undecodable he hn])
      | cluster letters hne hl =>
        obtain ⟨first, hf⟩ := Token.ofArg_cluster hne hl
        exact goes false operand (by rw [recognised, hf])
    · have hr : recognised awaits operand (a :: rest) = _ := recognised_word hw
      cases awaits with
      | true => exact goes false operand hr
      | false =>
        cases operand with
        | true => exact stops hr (.operand a rest hw)
        | false => exact goes false true hr

end

/-! ## What was read -/

/-- The arguments of what waits to be settled. -/
def Pending.args : Pending → List Bytes
  | nothing => []
  | option o none => [(LongName.value o).arg none]
  | option o (some v) => [(LongName.value o).arg none, v]
  | datadir d => [d]

namespace State

def awaits (st : State) : Bool :=
  match st.pending with
  | .option _ none => true
  | _ => false

def hasOperand (st : State) : Bool :=
  match st.pending with
  | .datadir _ => true
  | _ => st.parsed.datadir.isSome

theorem exists_of_awaits {st : State} (h : st.awaits = true) : ∃ o, st.pending = .option o none := by
  unfold awaits at h
  split at h
  · rename_i o ho
    exact ⟨o, ho⟩
  · cases h

theorem word_of_not_awaits {st : State} (h : st.awaits = false) (a : Bytes) : st.word a = st.operand a := by
  unfold word
  split
  · rename_i o ho
    rw [awaits, ho] at h
    cases h
  · rfl

def Marked (seen : List Bytes) (st : State) : Prop :=
  ∀ n, Field.named n ∈ st.present → ∃ attached, n.arg attached ∈ seen

/-- The arguments behind the marks and behind what waits, which stands at the end. -/
structure HasRead (seen : List Bytes) (st : State) : Prop where
  split : ∃ before, seen = before ++ st.pending.args ∧ st.Marked before
  word : ∀ o v, st.pending = .option o (some v) → ¬ OptionLike v

theorem Marked.mono {seen front : List Bytes} {st : State} (h : st.Marked seen) (hs : seen ⊆ front) :
    st.Marked front := by
  intro n hn
  obtain ⟨attached, ha⟩ := h n hn
  exact ⟨attached, hs ha⟩

theorem Marked.append_named {seen : List Bytes} {st st' : State} {n : LongName} {attached : Option Bytes}
    (h : st.Marked seen) (hp : st'.present = st.present ++ [.named n]) (ha : n.arg attached ∈ seen) :
    st'.Marked seen := by
  intro m hm
  rw [hp] at hm
  rcases List.mem_append.mp hm with hm | hm
  · exact h m hm
  · obtain rfl : m = n := by simpa using hm
    exact ⟨attached, ha⟩

theorem HasRead.of_nothing {seen : List Bytes} {st : State} (h : st.Marked seen) (hp : st.pending = .nothing) :
    st.HasRead seen := by
  refine ⟨⟨seen, by rw [hp, Pending.args, List.append_nil], h⟩, fun o v ho => ?_⟩
  rw [hp] at ho
  cases ho

/-! ## Settling -/

theorem datadir_add (p : Parsed) (g : Group) : (p.add g).datadir = p.datadir := by
  cases g with
  | dryRun => rfl
  | value o t s => cases o <;> rfl

theorem HasRead.settled {seen : List Bytes} {st c : State} (hr : st.HasRead seen) (h : st.settled = .ok c) :
    c.Marked seen ∧ c.parsed.datadir.isSome = st.hasOperand := by
  obtain ⟨⟨before, rfl, hm⟩, -⟩ := hr
  obtain ⟨p, f, w, pl⟩ := st
  cases w with
  | nothing =>
    cases h
    exact ⟨hm.mono (List.subset_append_left ..), rfl⟩
  | option o value =>
    cases value with
    | none => cases h
    | some v =>
      obtain ⟨-, t, -, -, rfl⟩ := (orReject_accept_iff ⟨p, f, .nothing, pl⟩ o v .separate c).mp h
      have hs : State.Marked (before ++ Pending.args (.option o (some v))) ⟨p, f, .nothing, pl⟩ :=
        Marked.mono hm (List.subset_append_left ..)
      have ha : (LongName.value o).arg none ∈ before ++ Pending.args (.option o (some v)) := by
        simp [Pending.args]
      refine ⟨hs.append_named rfl ha, ?_⟩
      simp [datadir_add, hasOperand]
  | datadir d =>
    cases h
    refine ⟨fun n hn => ?_, rfl⟩
    obtain ⟨attached, ha⟩ := hm n (by simpa using hn)
    exact ⟨attached, List.mem_append_left _ ha⟩

/-! ## One argument where options are recognised -/

/-- A long argument settles what waits, and is marked at once or waits for its value. -/
theorem long_eq_ok {st st' : State} {n : LongName} {attached : Option Bytes}
    (h : st.long n attached = .ok st') : ∃ c, st.settled = .ok c ∧
      ((∃ o, n = .value o ∧ attached = none ∧ st' = { c with pending := .option o none }) ∨
        n.needsValue attached = false ∧ st'.pending = c.pending ∧ st'.place = c.place ∧
          st'.present = c.present ++ [.named n] ∧ st'.parsed.datadir = c.parsed.datadir) := by
  obtain ⟨c, hc⟩ := settled_of_long h
  refine ⟨c, hc, ?_⟩
  cases n with
  | dryRun =>
    cases attached with
    | none =>
      simp only [long, hc, bind, Except.bind] at h
      obtain ⟨m, hm, h⟩ := bind_eq_ok_iff.mp h
      cases h
      obtain ⟨-, rfl⟩ := (orReject_mark_iff c _ m).mp hm
      exact .inr ⟨rfl, rfl, rfl, rfl, rfl⟩
    | some v => cases h
  | value o =>
    cases attached with
    | none =>
      simp only [long, hc, bind, Except.bind] at h
      cases h
      exact .inl ⟨o, rfl, rfl, rfl⟩
    | some v =>
      simp only [long, hc, bind, Except.bind] at h
      obtain ⟨-, t, -, -, rfl⟩ := (orReject_accept_iff c o v .attached st').mp h
      exact .inr ⟨rfl, rfl, rfl, rfl, datadir_add _ _⟩
  | info i =>
    cases attached with
    | none => cases i <;> (simp only [long, hc, bind, Except.bind] at h; cases h)
    | some v => cases i <;> cases h

/-- What is left of a line to be recognised, seen from a state. -/
def recognises (st : State) (args : List Bytes) : List Bytes := recognised st.awaits st.hasOperand args

section
variable {seen : List Bytes} {st st' : State} (hr : st.HasRead seen)
include hr

theorem HasRead.after_long {n : LongName} {attached : Option Bytes} (h : st.long n attached = .ok st') :
    st'.HasRead (seen ++ [n.arg attached]) ∧ st'.place = st.place ∧
      ∀ rest, st.recognises (n.arg attached :: rest) = n.arg attached :: st'.recognises rest := by
  obtain ⟨c, hc, hcase⟩ := long_eq_ok h
  obtain ⟨hm, hd⟩ := hr.settled hc
  obtain ⟨hn, hpl, -⟩ := settled_eq_ok hc
  obtain ⟨o, rfl, rfl, rfl⟩ | ⟨hv, hp, hpl', hf, hdir⟩ := hcase
  · refine ⟨⟨⟨seen, rfl, hm⟩, by simp⟩, hpl, fun rest => ?_⟩
    rw [recognises, recognised_known, ← hd]
    rfl
  · rw [hn] at hp
    have hmem : n.arg attached ∈ seen ++ [n.arg attached] := by simp
    have hm' : st'.Marked (seen ++ [n.arg attached]) :=
      (hm.mono (List.subset_append_left ..)).append_named hf hmem
    refine ⟨.of_nothing hm' hp, hpl'.trans hpl, fun rest => ?_⟩
    have ha : st'.awaits = false := by rw [awaits, hp]
    have ho : st'.hasOperand = st.hasOperand := by rw [hasOperand, hp, hdir, hd]
    rw [recognises, recognised_known, hv, recognises, ha, ho]

theorem HasRead.after_word {a : Bytes} (ha : ¬ OptionLike a) (h : st.word a = .ok st') :
    (st'.HasRead (seen ++ [a]) ∧ st'.place = st.place ∧
        ∀ rest, st.recognises (a :: rest) = a :: st'.recognises rest) ∨
      st'.place = .extras ∧ st'.pending = .nothing := by
  cases hw : st.awaits with
  | true =>
    obtain ⟨o, ho⟩ := exists_of_awaits hw
    simp only [State.word, ho] at h
    cases h
    left
    obtain ⟨⟨before, hb, hm⟩, -⟩ := hr
    refine ⟨⟨⟨before, by rw [hb, ho]; simp [Pending.args], hm⟩, fun o' v hv => ?_⟩, rfl, fun rest => ?_⟩
    · cases hv
      exact ha
    · rw [recognises, recognised_word ha, if_pos hw]
      simp [recognises, awaits, hasOperand, ho]
  | false =>
    rw [word_of_not_awaits hw, operand, bind_eq_ok_iff] at h
    obtain ⟨c, hc, h⟩ := h
    obtain ⟨hm, hd⟩ := hr.settled hc
    obtain ⟨hn, hpl, -⟩ := settled_eq_ok hc
    split at h
    · rename_i hnone
      cases h
      left
      refine ⟨⟨⟨seen, rfl, hm⟩, by simp⟩, hpl, fun rest => ?_⟩
      have ho : st.hasOperand = false := by rw [← hd]; simpa using hnone
      rw [recognises, recognised_word ha, hw, ho]
      rfl
    · cases h
      exact .inr ⟨rfl, hn⟩

/-- One argument is read, or it is the escape or an extra operand. -/
theorem HasRead.after_step (hp : st.place = .options) {a : Bytes} (h : st.step a = .ok st') :
    (st'.HasRead (seen ++ [a]) ∧ st'.place = .options ∧
        ∀ rest, st.recognises (a :: rest) = a :: st'.recognises rest) ∨
      (a = escapeArg ∧ st' = { st with place := .operands }) ∨
      st'.place = .extras ∧ st'.pending = .nothing := by
  by_cases hw : OptionLike a
  · cases hw with
    | escape =>
      simp only [State.step, hp] at h
      exact .inr (.inl ⟨rfl, (Except.ok.inj h).symm⟩)
    | known n attached =>
      simp only [State.step, hp, Token.ofArg_arg] at h
      rw [← hp]
      exact .inl (hr.after_long h)
    | undecodable name attached he hn => simp [State.step, hp, Token.ofArg_undecodable he hn] at h
    | cluster letters hne hl =>
      obtain ⟨first, hf⟩ := Token.ofArg_cluster hne hl
      simp only [State.step, hp, hf] at h
      exact absurd h (cluster_ne_ok _ _ _)
  · simp only [State.step, hp, (Token.ofArg_eq_word_iff a).mpr hw] at h
    rw [← hp]
    obtain hword | hx := hr.after_word hw h
    · exact .inl hword
    · exact .inr (.inr hx)

end

/-! ## The arguments of a line -/

theorem hasRead_initial : initial.HasRead [] :=
  .of_nothing (fun n hn => by cases hn) rfl

theorem place_of_foldlM {args : List Bytes} {st st' : State} (hp : st.place ≠ .options)
    (h : args.foldlM step st = .ok st') : st'.place ≠ .options := by
  induction args generalizing st with
  | nil =>
    cases h
    exact hp
  | cons a args ih =>
    rw [List.foldlM_cons, bind_eq_ok_iff] at h
    obtain ⟨st₁, hs, h⟩ := h
    refine ih ?_ h
    cases hpl : st.place with
    | options => exact absurd hpl hp
    | operands =>
      simp only [step, hpl] at hs
      obtain hsame | ⟨hx, -⟩ := operand_cases hs
      · rw [hsame]
        exact hp
      · simp [hx]
    | extras =>
      simp only [step, hpl] at hs
      cases hs
      simp

/-- What was read of a line is behind the state, as long as options are recognised. -/
theorem hasRead_of_foldlM {args seen : List Bytes} {st st' : State} (hr : st.HasRead seen)
    (hp : st.place = .options) (h : args.foldlM step st = .ok st') (hp' : st'.place = .options) :
    st'.HasRead (seen ++ args) := by
  induction args generalizing seen st with
  | nil =>
    cases h
    rwa [List.append_nil]
  | cons a args ih =>
    rw [List.foldlM_cons, bind_eq_ok_iff] at h
    obtain ⟨st₁, hs, h⟩ := h
    obtain ⟨hr₁, hp₁, -⟩ | ⟨-, rfl⟩ | ⟨hx, -⟩ := hr.after_step hp hs
    · have := ih hr₁ hp₁ h
      rwa [List.append_assoc, List.singleton_append] at this
    · exact absurd hp' (place_of_foldlM (by simp) h)
    · exact absurd hp' (place_of_foldlM (by simp [hx]) h)

end State

end DesktopRefresh.CommandLine

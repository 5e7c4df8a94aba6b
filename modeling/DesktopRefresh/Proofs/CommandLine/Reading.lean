import DesktopRefresh.Proofs.CommandLine.Groups

/-!
# Reading, one option group at a time

A value that waits to be settled is out of sight once `finish` has settled it, so a state may be replaced by
the settled one (`finish_congr`). From a state in which nothing waits, every option group, operand and
escape is then one step, and what can be read is taken apart at its first group, operand or escape
(`cases_of_finish`).
-/

namespace DesktopRefresh.CommandLine

theorem bind_eq_ok_iff {ε α β : Type} {x : Except ε α} {f : α → Except ε β} {b : β} :
    (x >>= f) = .ok b ↔ ∃ a, x = .ok a ∧ f a = .ok b := by
  cases x with
  | ok a => simp [bind, Except.bind]
  | error e => simp [bind, Except.bind]

/-! ## Values -/

theorem setValue_eq_ok_iff (p : Parsed) (o : ValueOption) (v : Bytes) (s : Spelling) (q : Parsed) :
    p.setValue o v = .ok q ↔
      ∃ t, Bytes.ofString t = v ∧ (o = .timeout → ∃ n, Decimal.Denotes t n) ∧ p.add (.value o t s) = q := by
  unfold Parsed.setValue
  cases hd : Utf8.decode? v with
  | none =>
    constructor
    · intro h
      cases h
    · rintro ⟨t, rfl, -⟩
      rw [Utf8.decode?_ofString] at hd
      cases hd
  | some t =>
    have ht := (Utf8.decode?_eq_some_iff v t).mp hd
    have huniq : ∀ t', Bytes.ofString t' = v → t' = t := fun t' h => Utf8.ofString_injective (h.trans ht.symm)
    constructor
    · intro h
      refine ⟨t, ht, ?_⟩
      cases o with
      | timeout =>
        cases hr : Decimal.read t with
        | ok n =>
          have hn := (Decimal.read_eq_ok_iff t n).mp hr
          exact ⟨fun _ => ⟨n, hn⟩, by simpa [hr, Parsed.add, Except.toOption] using h⟩
        | error fault => simp [hr] at h
      | iconCacheTool => exact ⟨by simp, by simpa [Parsed.add] using h⟩
      | desktopDatabaseTool => exact ⟨by simp, by simpa [Parsed.add] using h⟩
    · rintro ⟨t', ht', hr, rfl⟩
      obtain rfl := huniq t' ht'
      cases o with
      | timeout =>
        obtain ⟨n, hn⟩ := hr rfl
        rw [← Decimal.read_eq_ok_iff] at hn
        simp [hn, Parsed.add, Except.toOption]
      | iconCacheTool => rfl
      | desktopDatabaseTool => rfl

namespace State

theorem orReject_mark_iff (st : State) (n : LongName) (c : State) :
    orReject (st.mark n) = .ok c ↔
      Field.named n ∉ st.present ∧ { st with present := st.present ++ [.named n] } = c := by
  unfold mark
  by_cases h : Field.named n ∈ st.present
  · simp [h, orReject]
  · simp [h, orReject]

theorem orReject_accept_iff (st : State) (o : ValueOption) (v : Bytes) (s : Spelling) (c : State) :
    orReject (st.accept o v) = .ok c ↔
      Field.named (.value o) ∉ st.present ∧
      ∃ t, Bytes.ofString t = v ∧ (o = .timeout → ∃ n, Decimal.Denotes t n) ∧
        { st with
          parsed := st.parsed.add (.value o t s)
          present := st.present ++ [.named (.value o)] } = c := by
  unfold accept mark
  by_cases h : Field.named (.value o) ∈ st.present
  · simp [h, orReject]
  · have hc : st.present.contains (.named (.value o)) = false := by simpa using h
    simp only [hc, Bool.false_eq_true, if_false, h, not_false_eq_true, true_and]
    cases hv : st.parsed.setValue o v with
    | ok q =>
      obtain ⟨t, ht, hr, rfl⟩ := (setValue_eq_ok_iff st.parsed o v s q).mp hv
      simp only [orReject, Except.ok.injEq]
      constructor
      · rintro rfl
        exact ⟨t, ht, hr, rfl⟩
      · rintro ⟨t', ht', -, rfl⟩
        rw [Utf8.ofString_injective (ht'.trans ht.symm)]
    | error r =>
      constructor
      · intro h
        cases h
      · rintro ⟨t, ht, hr, -⟩
        rw [(setValue_eq_ok_iff st.parsed o v s _).mpr ⟨t, ht, hr, rfl⟩] at hv
        cases hv

/-! ## Settling -/

theorem settled_of_nothing {st : State} (h : st.pending = .nothing) : st.settled = .ok st := by
  obtain ⟨p, f, w, pl⟩ := st
  cases h
  rfl

theorem settled_eq_ok {st c : State} (h : st.settled = .ok c) :
    c.pending = .nothing ∧ c.place = st.place ∧
      ∀ place, { st with place := place }.settled = .ok { c with place := place } := by
  obtain ⟨p, f, w, pl⟩ := st
  cases w with
  | nothing => cases h; exact ⟨rfl, rfl, fun _ => rfl⟩
  | option o value =>
    cases value with
    | none => cases h
    | some v =>
      obtain ⟨hf, t, ht, hr, rfl⟩ := (orReject_accept_iff ⟨p, f, .nothing, pl⟩ o v .separate c).mp h
      refine ⟨rfl, rfl, fun place => ?_⟩
      exact (orReject_accept_iff ⟨p, f, .nothing, place⟩ o v .separate _).mpr ⟨hf, t, ht, hr, rfl⟩
  | datadir d => cases h; exact ⟨rfl, rfl, fun _ => rfl⟩

theorem not_waiting_of_settled {st c : State} (h : st.settled = .ok c) (o : ValueOption) :
    st.pending ≠ .option o none := by
  obtain ⟨p, f, w, pl⟩ := st
  rintro rfl
  cases h

/-! ## Reading to the end -/

/-- Reads the arguments and settles what is pending in the end. -/
def finish (st : State) (args : List Bytes) : Except Rejection State := args.foldlM step st >>= settled

theorem finish_nil (st : State) : st.finish [] = st.settled := rfl

theorem finish_append (st : State) (args rest : List Bytes) :
    st.finish (args ++ rest) = args.foldlM step st >>= fun st => st.finish rest := by
  simp only [finish, List.foldlM_append, bind_assoc]

theorem finish_cons (st : State) (a : Bytes) (args : List Bytes) :
    st.finish (a :: args) = st.step a >>= fun st => st.finish args := by
  simp only [finish, List.foldlM_cons, bind_assoc]

theorem word_of_settled {st c : State} (h : st.settled = .ok c) (a : Bytes) : st.word a = st.operand a := by
  unfold word
  split
  · rename_i o ho
    exact absurd ho (not_waiting_of_settled h o)
  · rfl

theorem operand_congr {st c : State} (h : st.settled = .ok c) (a : Bytes) : st.operand a = c.operand a := by
  have hc := settled_of_nothing (settled_eq_ok h).1
  simp only [operand, h, hc]

/-- A long argument is read in the same way from a state and from the settled one, unless it is refused by
both: the fields that the refusal shows can differ. -/
theorem long_congr {st c : State} (h : st.settled = .ok c) (n : LongName) (attached : Option Bytes) :
    st.long n attached = c.long n attached ∨
      (∃ r, st.long n attached = .error r) ∧ ∃ r, c.long n attached = .error r := by
  have hc := settled_of_nothing (settled_eq_ok h).1
  cases n with
  | dryRun =>
    cases attached with
    | none => exact .inl (by simp only [long, h, hc])
    | some v => exact .inr ⟨⟨_, rfl⟩, _, rfl⟩
  | value o => cases attached <;> exact .inl (by simp only [long, h, hc])
  | info i =>
    cases attached with
    | none => cases i <;> exact .inl (by simp only [long, h, hc])
    | some v => cases i <;> exact .inr ⟨⟨_, rfl⟩, _, rfl⟩

theorem finish_congr (st : State) {c : State} (h : st.settled = .ok c)
    (hx : st.place = .extras → st.pending = .nothing) (args : List Bytes) (r : State) :
    st.finish args = .ok r ↔ c.finish args = .ok r := by
  induction args generalizing st c with
  | nil => rw [finish_nil, finish_nil, h, settled_of_nothing (settled_eq_ok h).1]
  | cons a args ih =>
    obtain ⟨hc, hpl, hpn⟩ := settled_eq_ok h
    rw [finish_cons, finish_cons]
    cases hp : st.place with
    | extras =>
      have : st = c := Except.ok.inj ((settled_of_nothing (hx hp)).symm.trans h)
      rw [this]
    | operands =>
      have : st.step a = c.step a := by simp only [step, hp, hpl, operand_congr h]
      rw [this]
    | options =>
      rw [hp] at hpl
      cases ht : Token.ofArg a with
      | escape =>
        simp only [step, hp, hpl, ht]
        exact ih _ (hpn .operands) (by simp)
      | long n attached =>
        simp only [step, hp, hpl, ht]
        obtain he | ⟨⟨r₁, h₁⟩, r₂, h₂⟩ := long_congr h n attached
        · rw [he]
        · simp [h₁, h₂, bind, Except.bind]
      | undecodable name => simp [step, hp, hpl, ht, bind, Except.bind]
      | cluster first =>
        have : st.cluster first = c.cluster first := by
          cases first <;> simp only [cluster, h, settled_of_nothing hc]
        simp only [step, hp, hpl, ht, this]
      | word =>
        have hw : st.word a = c.word a := by
          rw [word_of_settled h, word_of_settled (settled_of_nothing hc), operand_congr h]
        simp only [step, hp, hpl, ht, hw]

/-! ## One step from a state in which nothing waits -/

/-- Options are recognised and nothing waits. -/
def ready (p : Parsed) (present : List Field) : State := ⟨p, present, .nothing, .options⟩

section
variable {p : Parsed} {f : List Field} {args : List Bytes} {c : State}

theorem settled_ready : (ready p f).settled = .ok (ready p f) := rfl

theorem operand_datadir (hd : p.datadir = none) (pl : Place) (d : Bytes) :
    (⟨p, f, .nothing, pl⟩ : State).operand d = .ok ⟨p, f, .datadir d, pl⟩ := by
  simp [operand, settled, settle, orReject, hd, bind, Except.bind, pure, Except.pure]

theorem operand_extra (hd : p.datadir ≠ none) (pl : Place) (e : Bytes) :
    (⟨p, f, .nothing, pl⟩ : State).operand e =
      .ok ⟨{ p with extra := p.extra ++ [e] }, f, .nothing, .extras⟩ := by
  simp [operand, settled, settle, orReject, hd, bind, Except.bind, pure, Except.pure]

theorem finish_extras (p : Parsed) (args : List Bytes) :
    (⟨p, f, .nothing, .extras⟩ : State).finish args =
      .ok ⟨{ p with extra := p.extra ++ args }, f, .nothing, .extras⟩ := by
  induction args generalizing p with
  | nil => simp [finish_nil, settled_of_nothing]
  | cons a args ih =>
    rw [finish_cons]
    exact (ih _).trans (by simp)

theorem finish_datadir {pl : Place} (hx : pl ≠ .extras) (d : Bytes) :
    (⟨p, f, .datadir d, pl⟩ : State).finish args = .ok c ↔
      (⟨{ p with datadir := some d }, f ++ [.datadir], .nothing, pl⟩ : State).finish args = .ok c :=
  finish_congr ⟨p, f, .datadir d, pl⟩ rfl (fun h => absurd h hx) args c

/-! ### After the escape -/

theorem finish_operands_extra (hd : p.datadir ≠ none) (e : Bytes) :
    (⟨p, f, .nothing, .operands⟩ : State).finish (e :: args) =
      .ok ⟨{ p with extra := p.extra ++ e :: args }, f, .nothing, .extras⟩ := by
  rw [finish_cons, show step ⟨p, f, .nothing, .operands⟩ e = _ from operand_extra hd .operands e]
  exact (finish_extras _ args).trans (by simp)

theorem finish_operands_datadir (hd : p.datadir = none) (d : Bytes) :
    (⟨p, f, .nothing, .operands⟩ : State).finish (d :: args) = .ok c ↔
      (⟨{ p with datadir := some d }, f ++ [.datadir], .nothing, .operands⟩ : State).finish args = .ok c := by
  rw [finish_cons, show step ⟨p, f, .nothing, .operands⟩ d = _ from operand_datadir hd .operands d]
  exact finish_datadir (by simp) d

/-! ### While options are recognised -/

theorem finish_ready_escape :
    (ready p f).finish (escapeArg :: args) = (⟨p, f, .nothing, .operands⟩ : State).finish args := by
  rw [finish_cons]
  rfl

theorem step_ready_word {w : Bytes} (hw : ¬ OptionLike w) : (ready p f).step w = (ready p f).operand w := by
  have ht := (Token.ofArg_eq_word_iff w).mpr hw
  simp [step, ready, ht, word]

theorem finish_ready_datadir (hd : p.datadir = none) {d : Bytes} (hw : ¬ OptionLike d) :
    (ready p f).finish (d :: args) = .ok c ↔
      (ready { p with datadir := some d } (f ++ [.datadir])).finish args = .ok c := by
  rw [finish_cons, step_ready_word hw, ready, operand_datadir hd]
  exact finish_datadir (by simp) d

theorem finish_ready_extra (hd : p.datadir ≠ none) {e : Bytes} (hw : ¬ OptionLike e) :
    (ready p f).finish (e :: args) =
      .ok ⟨{ p with extra := p.extra ++ e :: args }, f, .nothing, .extras⟩ := by
  rw [finish_cons, step_ready_word hw, ready, operand_extra hd]
  exact (finish_extras _ args).trans (by simp)

theorem step_ready_arg (n : LongName) (attached : Option Bytes) :
    (ready p f).step (n.arg attached) = (ready p f).long n attached := by
  simp [step, ready, Token.ofArg_arg]

theorem step_waiting_word (o : ValueOption) {w : Bytes} (hw : ¬ OptionLike w) :
    step ⟨p, f, .option o none, .options⟩ w = .ok ⟨p, f, .option o (some w), .options⟩ := by
  have ht := (Token.ofArg_eq_word_iff w).mpr hw
  simp [step, ht, word]

theorem finish_ready_group {g : Group} (hv : g.Valid) (hf : Field.named g.name ∉ f) :
    (ready p f).finish (g.args ++ args) = .ok c ↔
      (ready (p.add g) (f ++ [.named g.name])).finish args = .ok c := by
  cases g with
  | dryRun =>
    have : (ready p f).long .dryRun none = .ok (ready (p.add .dryRun) (f ++ [.named .dryRun])) := by
      have hm := (orReject_mark_iff (ready p f) .dryRun _).mpr ⟨hf, rfl⟩
      simp only [long, settled_ready, bind, Except.bind, hm]
      rfl
    rw [Group.args, List.singleton_append, finish_cons, step_ready_arg, this]
    rfl
  | value o t s =>
    have ha : orReject ((ready p f).accept o (Bytes.ofString t)) =
        .ok (ready (p.add (.value o t s)) (f ++ [.named (.value o)])) :=
      (orReject_accept_iff (ready p f) o _ s _).mpr ⟨hf, t, rfl, hv.1, rfl⟩
    cases s with
    | attached =>
      rw [Group.args, List.singleton_append, finish_cons, step_ready_arg]
      simp only [long, settled_ready, bind, Except.bind, ha]
      rfl
    | separate =>
      rw [Group.args, List.cons_append, finish_cons, step_ready_arg, List.singleton_append]
      simp only [long, settled_ready, bind, Except.bind, pure, Except.pure]
      rw [finish_cons, ready, step_waiting_word o (hv.2 rfl)]
      exact finish_congr ⟨p, f, .option o (some (Bytes.ofString t)), .options⟩ ha (by simp) args c

end

/-! ## Taking a line apart -/

theorem settled_of_operand {st st' : State} {a : Bytes} (h : st.operand a = .ok st') :
    ∃ c, st.settled = .ok c := by
  simp only [operand, bind_eq_ok_iff] at h
  obtain ⟨c, hc, -⟩ := h
  exact ⟨c, hc⟩

theorem settled_of_long {st st' : State} {n : LongName} {attached : Option Bytes}
    (h : st.long n attached = .ok st') : ∃ c, st.settled = .ok c := by
  have key : ∀ {k : State → Except Rejection State}, st.settled >>= k = .ok st' →
      ∃ c, st.settled = .ok c := by
    intro k hk
    obtain ⟨c, hc, -⟩ := bind_eq_ok_iff.mp hk
    exact ⟨c, hc⟩
  cases n with
  | dryRun =>
    cases attached with
    | none => exact key h
    | some v => cases h
  | value o =>
    cases attached with
    | none => exact key h
    | some v => exact key h
  | info i =>
    cases attached with
    | none => cases i <;> exact key h
    | some v => cases i <;> cases h

theorem cluster_ne_ok (st st' : State) (first : Info) : st.cluster first ≠ .ok st' := by
  intro h
  cases first <;> (obtain ⟨-, -, h⟩ := bind_eq_ok_iff.mp h; cases h)

theorem settled_of_finish_operands {st c : State} {args : List Bytes} (hp : st.place = .operands)
    (h : st.finish args = .ok c) : ∃ c', st.settled = .ok c' := by
  cases args with
  | nil => exact ⟨c, h⟩
  | cons a args =>
    rw [finish_cons, bind_eq_ok_iff] at h
    obtain ⟨st', hs, -⟩ := h
    simp only [step, hp] at hs
    exact settled_of_operand hs

/-- What waits can be settled if the line can be read to its end, unless it still gets its value. -/
theorem settled_of_finish {st c : State} {args : List Bytes} (hp : st.place = .options)
    (h : st.finish args = .ok c) :
    (∃ c', st.settled = .ok c') ∨
      ∃ o w rest, st.pending = .option o none ∧ args = w :: rest ∧ ¬ OptionLike w := by
  cases args with
  | nil => exact .inl ⟨c, h⟩
  | cons a args =>
    rw [finish_cons, bind_eq_ok_iff] at h
    obtain ⟨st', hs, hr⟩ := h
    by_cases hw : OptionLike a
    · left
      cases hw with
      | escape =>
        -- the escape itself settles nothing, but what stands behind it does
        simp only [step, hp] at hs
        obtain rfl : { st with place := .operands } = st' := Except.ok.inj hs
        obtain ⟨c', hc'⟩ := settled_of_finish_operands rfl hr
        have := (settled_eq_ok hc').2.2 .options
        exact ⟨{ c' with place := .options }, by rw [← hp] at this ⊢; exact this⟩
      | known n attached =>
        simp only [step, hp, Token.ofArg_arg] at hs
        exact settled_of_long hs
      | undecodable name attached he hn => simp [step, hp, Token.ofArg_undecodable he hn] at hs
      | cluster letters hne hl =>
        obtain ⟨first, hf⟩ := Token.ofArg_cluster hne hl
        simp only [step, hp, hf] at hs
        exact absurd hs (cluster_ne_ok _ _ _)
    · simp only [step, hp, (Token.ofArg_eq_word_iff a).mpr hw, word] at hs
      split at hs
      · rename_i o ho
        exact .inr ⟨o, a, args, ho, rfl, hw⟩
      · exact .inl (settled_of_operand hs)

/-- How a line goes on after the options that can be read from it. -/
inductive Stop : List Bytes → Prop where
  | nil : Stop []
  | escape (rest : List Bytes) : Stop (escapeArg :: rest)
  | operand (w : Bytes) (rest : List Bytes) : ¬ OptionLike w → Stop (w :: rest)

section
variable {p : Parsed} {f : List Field} {args : List Bytes} {c : State}

theorem cases_of_finish (h : (ready p f).finish args = .ok c) :
    Stop args ∨ ∃ g rest, Group.Valid g ∧ Field.named g.name ∉ f ∧ args = g.args ++ rest := by
  cases args with
  | nil => exact .inl .nil
  | cons a args =>
    by_cases hw : OptionLike a
    · rw [finish_cons, bind_eq_ok_iff] at h
      obtain ⟨st, hs, hr⟩ := h
      cases hw with
      | escape => exact .inl (.escape args)
      | known n attached =>
        right
        rw [step_ready_arg] at hs
        cases n with
        | dryRun =>
          cases attached with
          | none =>
            obtain ⟨st', hm, -⟩ : ∃ st', orReject ((ready p f).mark .dryRun) = .ok st' ∧ _ :=
              bind_eq_ok_iff.mp hs
            exact ⟨.dryRun, args, trivial, ((orReject_mark_iff (ready p f) _ _).mp hm).1, rfl⟩
          | some v => cases hs
        | value o =>
          cases attached with
          | some v =>
            obtain ⟨hf, t, rfl, hr, -⟩ := (orReject_accept_iff (ready p f) o v .attached st).mp hs
            exact ⟨.value o t .attached, args, ⟨hr, by simp⟩, hf, rfl⟩
          | none =>
            obtain rfl : (⟨p, f, .option o none, .options⟩ : State) = st := Except.ok.inj hs
            obtain ⟨c', hc'⟩ | ⟨o', w, rest, ho, rfl, hw⟩ := settled_of_finish rfl hr
            · cases hc'
            · cases ho
              rw [finish_cons, step_waiting_word o hw] at hr
              obtain ⟨c', hc'⟩ | ⟨_, _, _, ho, -⟩ := settled_of_finish rfl hr
              · obtain ⟨hf, t, rfl, hr, -⟩ := (orReject_accept_iff (ready p f) o w .separate c').mp hc'
                exact ⟨.value o t .separate, rest, ⟨hr, fun _ => hw⟩, hf, rfl⟩
              · cases ho
        | info i =>
          cases attached with
          | none => cases i <;> cases hs
          | some v => cases i <;> cases hs
      | undecodable name attached he hn => simp [step, ready, Token.ofArg_undecodable he hn] at hs
      | cluster letters hne hl =>
        obtain ⟨first, hf⟩ := Token.ofArg_cluster hne hl
        simp only [step, ready, hf] at hs
        exact absurd hs (cluster_ne_ok _ _ _)
    · exact .inl (.operand a args hw)

end

end State

end DesktopRefresh.CommandLine

import DesktopRefresh.Proofs.CommandLine.Recognition

/-!
# Every rejection has its cause

A rejection of a line of text names something that is wrong where options are recognised (`Cause`). An argument
that is no option is never what is wrong: it is an operand, or the value that was still missing
(`parse_of_text`).
-/

namespace DesktopRefresh.CommandLine

open Token (dash)

/-- Why a line is rejected that has `front` where options are recognised, and `back` behind it. -/
inductive Cause (front back : List Bytes) : Rejection → Prop where
  | help : (LongName.info .help).arg none ∈ front → Cause front back (.help true)
  | version : (LongName.info .version).arg none ∈ front → Cause front back .version
  | helpCluster (letters : Bytes) : dash :: Bytes.ascii 'h' :: letters ∈ front →
      (∀ b ∈ letters, b = Bytes.ascii 'h' ∨ b = Bytes.ascii 'V') → Cause front back (.help false)
  | versionCluster (letters : Bytes) : dash :: Bytes.ascii 'V' :: letters ∈ front →
      (∀ b ∈ letters, b = Bytes.ascii 'h' ∨ b = Bytes.ascii 'V') → Cause front back .version
  | missingValue (o : ValueOption) (before after : List Bytes) :
      front = before ++ (LongName.value o).arg none :: after →
      (∀ w, (after ++ back).head? = some w → OptionLike w) → Cause front back (.missingValue o)
  | invalidTimeout (t : String) (s : Spelling) (fault : Decimal.Fault) :
      (Group.value .timeout t s).args <:+: front → (s = .separate → ¬ OptionLike (Bytes.ofString t)) →
      (∀ n, ¬ Decimal.Denotes t n) → Cause front back (.invalidTimeout t fault)
  | repeated (n : LongName) (a b : Option Bytes) : (∀ i, n ≠ .info i) →
      [n.arg a, n.arg b].Sublist front → Cause front back (.repeated n)
  | unexpectedValue (n : LongName) (v : Bytes) (present : List Field) : (∀ o, n ≠ .value o) →
      n.arg (some v) ∈ front → Cause front back (.unexpectedValue n v present)

namespace State

/-! ## What is wrong with an argument -/

theorem mark_error {st : State} {n : LongName} {r : Rejection} (h : orReject (st.mark n) = .error r) :
    Field.named n ∈ st.present ∧ r = .repeated n := by
  unfold mark at h
  by_cases hf : Field.named n ∈ st.present
  · rw [if_pos (by simpa using hf)] at h
    cases h
    exact ⟨hf, rfl⟩
  · rw [if_neg (by simpa using hf)] at h
    cases h

theorem accept_error {st : State} {o : ValueOption} {v : Bytes} {r : Rejection}
    (ht : Utf8.isText v = true) (h : orReject (st.accept o v) = .error r) :
    (Field.named (.value o) ∈ st.present ∧ r = .repeated (.value o)) ∨
      (o = .timeout ∧ ∃ t fault, Bytes.ofString t = v ∧ (∀ n, ¬ Decimal.Denotes t n) ∧
        r = .invalidTimeout t fault) := by
  unfold accept mark at h
  by_cases hf : Field.named (.value o) ∈ st.present
  · have hc : st.present.contains (.named (.value o)) = true := by simpa using hf
    rw [if_pos hc] at h
    cases h
    exact .inl ⟨hf, rfl⟩
  · have hc : ¬ st.present.contains (.named (.value o)) = true := by simpa using hf
    obtain ⟨t, rfl⟩ := (Utf8.isText_iff v).mp ht
    rw [if_neg hc] at h
    simp only [Parsed.setValue, Utf8.decode?_ofString] at h
    cases o with
    | timeout =>
      cases hd : Decimal.read t with
      | ok n => simp [hd, orReject] at h
      | error fault =>
        simp only [hd, orReject, Except.error.injEq] at h
        refine .inr ⟨rfl, t, fault, rfl, fun n hn => ?_, h.symm⟩
        rw [← Decimal.read_eq_ok_iff, hd] at hn
        cases hn
    | iconCacheTool => cases h
    | desktopDatabaseTool => cases h

/-- A value where none is taken is rejected at once, whatever waits. -/
theorem long_unexpected {n : LongName} (hn : ∀ o, n ≠ .value o) (st : State) (v : Bytes) :
    st.long n (some v) = .error (.unexpectedValue n v st.present) := by
  cases n with
  | dryRun => rfl
  | value o => exact absurd rfl (hn o)
  | info i => cases i <;> rfl

theorem long_of_unsettled {st : State} {n : LongName} {attached : Option Bytes} {e : Rejection}
    (hv : ¬ ∃ v, attached = some v ∧ ∀ o, n ≠ .value o) (hs : st.settled = .error e) :
    st.long n attached = .error e := by
  cases n with
  | dryRun =>
    obtain rfl : attached = none := Option.eq_none_iff_forall_ne_some.mpr (by simpa using hv)
    rw [long, hs]
    rfl
  | value o => cases attached <;> (rw [long, hs]; rfl)
  | info i =>
    obtain rfl : attached = none := Option.eq_none_iff_forall_ne_some.mpr (by simpa using hv)
    cases i <;> (rw [long, hs]; rfl)

section
variable {seen : List Bytes} {st : State} {r : Rejection} (hr : st.HasRead seen)
  (ht : ∀ a ∈ seen, Utf8.isText a = true)
include hr ht

theorem cause_of_settled (h : st.settled = .error r) (more back : List Bytes)
    (hw : st.awaits = true → ∀ w, (more ++ back).head? = some w → OptionLike w) :
    Cause (seen ++ more) back r := by
  obtain ⟨⟨before, rfl, hm⟩, hword⟩ := hr
  obtain ⟨p, f, w, pl⟩ := st
  cases w with
  | nothing => cases h
  | datadir d => cases h
  | option o value =>
    cases value with
    | none =>
      cases h
      exact .missingValue o before more (by simp [Pending.args]) (hw rfl)
    | some v =>
      have hv : Utf8.isText v = true := ht v (by simp [Pending.args])
      replace h : orReject ((⟨p, f, .nothing, pl⟩ : State).accept o v) = .error r := h
      obtain ⟨hf, rfl⟩ | ⟨rfl, t, fault, rfl, hn, rfl⟩ := accept_error hv h
      · obtain ⟨attached, ha⟩ := hm _ hf
        refine .repeated _ attached none (by simp) ?_
        rw [List.append_assoc]
        exact (List.singleton_sublist.mpr ha).append (by simp [Pending.args])
      · refine .invalidTimeout t .separate fault ?_ (fun _ => hword _ _ rfl) hn
        exact ⟨before, more, by simp [Pending.args, Group.args]⟩

theorem cause_of_long {n : LongName} {attached : Option Bytes} (hn : Utf8.isText (n.arg attached) = true)
    (h : st.long n attached = .error r) (more back : List Bytes) :
    Cause (seen ++ n.arg attached :: more) back r := by
  have hmem : n.arg attached ∈ seen ++ n.arg attached :: more := by simp
  by_cases hv : ∃ v, attached = some v ∧ ∀ o, n ≠ .value o
  · obtain ⟨v, rfl, hno⟩ := hv
    rw [long_unexpected hno] at h
    cases h
    exact .unexpectedValue n v _ hno hmem
  cases hc : st.settled with
  | error e =>
    rw [long_of_unsettled hv hc] at h
    cases h
    refine cause_of_settled hr ht hc _ back fun _ w hw => ?_
    cases hw
    exact .known n attached
  | ok c =>
    obtain ⟨hm, -⟩ := hr.settled hc
    have twice : Field.named n ∈ c.present →
        ∃ a, [n.arg a, n.arg attached].Sublist (seen ++ n.arg attached :: more) := by
      intro hf
      obtain ⟨a, ha⟩ := hm n hf
      exact ⟨a, (List.singleton_sublist.mpr ha).append (by simp)⟩
    cases n with
    | dryRun =>
      obtain rfl : attached = none := Option.eq_none_iff_forall_ne_some.mpr (by simpa using hv)
      simp only [long, hc, bind, Except.bind] at h
      split at h
      · rename_i e he
        obtain ⟨hf, rfl⟩ := mark_error he
        cases h
        obtain ⟨a, hs⟩ := twice hf
        exact .repeated _ a none (by simp) hs
      · cases h
    | value o =>
      simp only [long, hc, bind, Except.bind] at h
      cases attached with
      | none => cases h
      | some v =>
        obtain ⟨hf, rfl⟩ | ⟨rfl, t, fault, rfl, hd, rfl⟩ := accept_error ((isText_longArg hn).2 v rfl) h
        · obtain ⟨a, hs⟩ := twice hf
          exact .repeated _ a (some v) (by simp) hs
        · exact .invalidTimeout t .attached fault ⟨seen, more, by simp [Group.args]⟩ (by simp) hd
    | info i =>
      obtain rfl : attached = none := Option.eq_none_iff_forall_ne_some.mpr (by simpa using hv)
      cases i with
      | help =>
        simp only [long, hc, bind, Except.bind] at h
        cases h
        exact .help hmem
      | version =>
        simp only [long, hc, bind, Except.bind] at h
        cases h
        exact .version hmem

theorem cause_of_cluster {letters : Bytes} {first : Info} (hc : Token.ofArg (dash :: letters) = .cluster first)
    (hl : ∀ b ∈ letters, b = Bytes.ascii 'h' ∨ b = Bytes.ascii 'V') (h : st.cluster first = .error r)
    (more back : List Bytes) : Cause (seen ++ (dash :: letters) :: more) back r := by
  obtain ⟨b, hb, hf⟩ := Token.ofArg_cluster_eq hc
  obtain ⟨rest, rfl⟩ : ∃ rest, letters = b :: rest := ⟨letters.tail, List.eq_cons_of_mem_head? hb⟩
  have hopt : OptionLike (dash :: b :: rest) := .cluster _ (List.cons_ne_nil _ _) hl
  rw [List.forall_mem_cons] at hl
  have hmem : dash :: b :: rest ∈ seen ++ (dash :: b :: rest) :: more := by simp
  cases hs : st.settled with
  | error e =>
    have he : e = r := by
      cases first <;> (simp only [cluster, hs, bind, Except.bind] at h; cases h; rfl)
    subst he
    refine cause_of_settled hr ht hs _ back fun _ w hw => ?_
    cases hw
    exact hopt
  | ok c =>
    rcases hl.1 with rfl | rfl
    · obtain rfl : Info.help = first := Option.some.inj hf
      simp only [cluster, hs, bind, Except.bind] at h
      cases h
      exact .helpCluster rest hmem hl.2
    · obtain rfl : Info.version = first := Option.some.inj hf
      simp only [cluster, hs, bind, Except.bind] at h
      cases h
      exact .versionCluster rest hmem hl.2

theorem cause_of_step (hp : st.place = .options) {a : Bytes} (hta : Utf8.isText a = true)
    (h : st.step a = .error r) (rest back : List Bytes) :
    Cause (seen ++ st.recognises (a :: rest)) back r := by
  by_cases hw : OptionLike a
  · cases hw with
    | escape =>
      simp only [step, hp] at h
      cases h
    | known n attached =>
      simp only [step, hp, Token.ofArg_arg] at h
      rw [recognises, recognised_known]
      exact cause_of_long hr ht hta h _ back
    | undecodable name attached he hn =>
      exact absurd (.longArg name attached he hn) (not_nameless_of_isText hta)
    | cluster letters hne hl =>
      obtain ⟨first, hf⟩ := Token.ofArg_cluster hne hl
      simp only [step, hp, hf] at h
      have hrec : st.recognises ((dash :: letters) :: rest) =
          (dash :: letters) :: recognised false st.hasOperand rest := by
        rw [recognises, recognised, hf]
      rw [hrec]
      exact cause_of_cluster hr ht hf hl h _ back
  · simp only [step, hp, (Token.ofArg_eq_word_iff a).mpr hw] at h
    cases haw : st.awaits with
    | true =>
      obtain ⟨o, ho⟩ := exists_of_awaits haw
      simp only [word, ho] at h
      cases h
    | false =>
      rw [word_of_not_awaits haw] at h
      cases hs : st.settled with
      | ok c =>
        simp only [operand, hs, bind, Except.bind] at h
        split at h <;> cases h
      | error e =>
        simp only [operand, hs, bind, Except.bind] at h
        cases h
        refine cause_of_settled hr ht hs _ back fun ht => ?_
        rw [haw] at ht
        cases ht

end

/-! ## The rest of the line -/

theorem settled_withPlace (st : State) (place : Place) :
    ({ st with place := place } : State).settled = st.settled.map fun c => { c with place := place } := by
  obtain ⟨p, f, w, pl⟩ := st
  cases w with
  | nothing => rfl
  | option o value =>
    cases value with
    | none => rfl
    | some v =>
      simp only [settled, settle, accept, mark]
      by_cases hf : f.contains (.named (.value o)) = true
      · rw [if_pos hf, if_pos hf]
        rfl
      · rw [if_neg hf, if_neg hf]
        dsimp only
        cases p.setValue o v <;> rfl
  | datadir d => rfl

theorem finish_operands_of_settled {st c : State} (hp : st.place = .operands) (h : st.settled = .ok c)
    (args : List Bytes) : ∃ c', st.finish args = .ok c' := by
  obtain ⟨hn, hpl, -⟩ := settled_eq_ok h
  obtain ⟨p, f, w, pl⟩ := c
  obtain rfl : w = .nothing := hn
  obtain rfl : pl = .operands := hpl.trans hp
  have hx : st.place = .extras → st.pending = .nothing := fun hx => by rw [hp] at hx; cases hx
  have key : ∃ c', (⟨p, f, .nothing, .operands⟩ : State).finish args = .ok c' := by
    by_cases hd : p.datadir = none
    · cases args with
      | nil => exact ⟨_, rfl⟩
      | cons d args =>
        obtain ⟨place, ho⟩ := finish_operands (p := { p with datadir := some d }) (f := f ++ [.datadir])
          (by simp) args
        exact ⟨_, (finish_operands_datadir hd d).mpr ho⟩
    · obtain ⟨place, ho⟩ := finish_operands (f := f) hd args
      exact ⟨_, ho⟩
  obtain ⟨c', hc'⟩ := key
  exact ⟨c', (finish_congr st h hx args c').mpr hc'⟩

theorem settled_of_escaped {st : State} {args : List Bytes} {r : Rejection}
    (h : ({ st with place := .operands } : State).finish args = .error r) : st.settled = .error r := by
  have hp := settled_withPlace st .operands
  cases hs : st.settled with
  | ok c =>
    rw [hs] at hp
    obtain ⟨c', hc'⟩ := finish_operands_of_settled rfl hp args
    rw [hc'] at h
    cases h
  | error e =>
    rw [hs] at hp
    cases args with
    | nil =>
      rw [finish_nil, hp] at h
      cases h
      rfl
    | cons a args =>
      simp only [finish_cons, step, operand, hp, Except.map, bind, Except.bind] at h
      cases h
      rfl

theorem cause_of_finish {args seen : List Bytes} {st : State} {r : Rejection} (hr : st.HasRead seen)
    (hp : st.place = .options) (ht : ∀ a ∈ seen ++ args, Utf8.isText a = true)
    (h : st.finish args = .error r) {back : List Bytes} (hb : args = st.recognises args ++ back) :
    Cause (seen ++ st.recognises args) back r := by
  induction args generalizing seen st with
  | nil =>
    rw [finish_nil] at h
    obtain rfl : back = [] := hb.symm
    exact cause_of_settled hr (fun a ha => ht a (List.mem_append_left _ ha)) h [] [] (by simp)
  | cons a args ih =>
    have hts : ∀ b ∈ seen, Utf8.isText b = true := fun b hb => ht b (List.mem_append_left _ hb)
    rw [finish_cons] at h
    cases hs : st.step a with
    | error e =>
      rw [hs] at h
      obtain rfl : e = r := Except.error.inj h
      exact cause_of_step hr hts hp (ht a (by simp)) hs args back
    | ok st' =>
      rw [hs] at h
      obtain ⟨hr', hp', hrec⟩ | ⟨rfl, rfl⟩ | ⟨hx, hn⟩ := hr.after_step hp hs
      · rw [hrec] at hb ⊢
        have := ih hr' hp' (by simpa using ht) h (List.cons.inj hb).2
        rwa [List.append_assoc, List.singleton_append] at this
      · obtain rfl : back = escapeArg :: args := hb.symm
        refine cause_of_settled hr hts (settled_of_escaped h) [] _ fun _ w hw => ?_
        cases hw
        exact .escape
      · -- extra operands are all accepted
        obtain ⟨p, f, w, pl⟩ := st'
        cases hx
        cases hn
        have := finish_extras (f := f) p args
        rw [show (⟨p, f, .nothing, .extras⟩ : State).finish args = .error r from h] at this
        cases this

end State

theorem finish_eq_error {args : List Bytes} {r : Rejection} (h : parse args = .error r) :
    State.initial.finish args = .error r := by
  rw [parse_eq_finish] at h
  cases hf : State.initial.finish args with
  | ok c =>
    rw [hf] at h
    cases h
  | error e =>
    rw [hf] at h
    cases h
    rfl

/-! ## Arguments that are no options -/

namespace State

/-- A value in an argument of its own is settled as an attached one is. -/
theorem settled_waiting {st c : State} (h : st.settled = .ok c) (o : ValueOption) (v : Bytes) :
    ({ c with pending := .option o (some v) } : State).settled =
      st.long (.value o) (some v) >>= State.settled := by
  have hn := (settled_eq_ok h).1
  have hc : ({ c with pending := .option o (some v) } : State).settled = orReject (c.accept o v) := by
    obtain ⟨p, f, w, pl⟩ := c
    cases hn
    rfl
  rw [hc, State.long, h]
  change _ = orReject (c.accept o v) >>= State.settled
  cases ha : orReject (c.accept o v) with
  | error e => rfl
  | ok m =>
    have hm : m.pending = .nothing := by
      obtain ⟨-, t, -, -, rfl⟩ := (orReject_accept_iff c o v .separate m).mp ha
      exact hn
    exact (settled_of_nothing hm).symm

theorem finish_waiting {st c : State} (hp : st.place = .options) (h : st.settled = .ok c) (o : ValueOption)
    {a : Bytes} (ha : ¬ OptionLike a) :
    ({ c with pending := .option o none } : State).finish [a] =
      st.finish [(LongName.value o).arg (some a)] := by
  have hc := (settled_eq_ok h).2.1.trans hp
  have hv : step { c with pending := .option o none } a = .ok { c with pending := .option o (some a) } := by
    simp only [step, hc, (Token.ofArg_eq_word_iff a).mpr ha, word]
  have hl : st.step ((LongName.value o).arg (some a)) = st.long (.value o) (some a) := by
    simp only [step, hp, Token.ofArg_arg]
  rw [finish_cons, finish_cons, hv, hl]
  exact settled_waiting h o a

/-- An option whose value is missing was read last, from a state that could be settled. -/
theorem awaited_of_foldlM {args : List Bytes} {st : State} (h : args.foldlM step initial = .ok st)
    (hp : st.place = .options) {o : ValueOption} (ho : st.pending = .option o none) :
    ∃ front st₀ c, args = front ++ [(LongName.value o).arg none] ∧ front.foldlM step initial = .ok st₀ ∧
      st₀.place = .options ∧ st₀.settled = .ok c ∧ st = { c with pending := .option o none } := by
  obtain ⟨⟨front, ha, -⟩, -⟩ := hasRead_of_foldlM hasRead_initial rfl h hp
  rw [ho, Pending.args] at ha
  obtain rfl : args = front ++ [(LongName.value o).arg none] := ha
  rw [List.foldlM_append] at h
  obtain ⟨st₀, h₀, h₁⟩ := bind_eq_ok_iff.mp h
  have hp₀ : st₀.place = .options := by_contra fun hne => place_of_foldlM hne h₁ hp
  simp only [List.foldlM_cons, List.foldlM_nil, bind_pure, step, hp₀, Token.ofArg_arg] at h₁
  obtain ⟨c, hc, h₁⟩ := bind_eq_ok_iff.mp h₁
  cases h₁
  exact ⟨front, st₀, c, rfl, h₀, hp₀, hc, rfl⟩

end State

/-- One more operand: the data directory if there is none yet, or else an extra operand. -/
def Parsed.withOperand (p : Parsed) (a : Bytes) : Parsed :=
  if p.datadir = none then { p with datadir := some a } else { p with extra := p.extra ++ [a] }

section
variable {pre : List Bytes} {a : Bytes} (ha : ¬ OptionLike a)
include ha

theorem parse_concat_of_ok {p : Parsed} (h : parse pre = .ok p) :
    parse (pre ++ [a]) = .ok (p.withOperand a) := by
  obtain ⟨l, ⟨hv, hn, hw⟩, rfl, rfl⟩ := line_of_parse h
  cases l with
  | options gs =>
    have hl : (Line.operand gs a []).Valid :=
      ⟨by simpa [Line.groups] using hv, by simpa [Line.groups] using hn, by simpa [Line.words] using ha⟩
    simpa [Line.args, Line.parsed, Line.groups, Line.datadir, Line.extra, Parsed.withOperand]
      using parse_line hl
  | escaped gs rest =>
    have hl : (Line.escaped gs (rest ++ [a])).Valid := ⟨hv, hn, hw⟩
    cases rest <;>
      simpa [Line.args, Line.parsed, Line.groups, Line.datadir, Line.extra, Parsed.withOperand]
        using parse_line hl
  | operand gs d gs' =>
    have hl : (Line.operands gs d gs' a []).Valid :=
      ⟨hv, hn, by simpa [Line.words] using ⟨hw d (List.mem_singleton_self d), ha⟩⟩
    simpa [Line.args, Line.parsed, Line.groups, Line.datadir, Line.extra, Parsed.withOperand]
      using parse_line hl
  | operandEscaped gs d gs' rest =>
    have hl : (Line.operandEscaped gs d gs' (rest ++ [a])).Valid := ⟨hv, hn, hw⟩
    simpa [Line.args, Line.parsed, Line.groups, Line.datadir, Line.extra, Parsed.withOperand]
      using parse_line hl
  | operands gs d gs' e rest =>
    have hl : (Line.operands gs d gs' e (rest ++ [a])).Valid := ⟨hv, hn, hw⟩
    simpa [Line.args, Line.parsed, Line.groups, Line.datadir, Line.extra, Parsed.withOperand]
      using parse_line hl

theorem parse_concat_of_error {r : Rejection} (h : parse pre = .error r) :
    parse (pre ++ [a]) = .error r ∨ ∃ o front, r = .missingValue o ∧
      pre = front ++ [(LongName.value o).arg none] ∧
      parse (pre ++ [a]) = parse (front ++ [(LongName.value o).arg (some a)]) := by
  have hfin := finish_eq_error h
  have hw := (Token.ofArg_eq_word_iff a).mpr ha
  rw [parse_eq_finish, State.finish_append]
  cases hf : pre.foldlM State.step State.initial with
  | error e =>
    rw [State.finish, hf] at hfin
    cases hfin
    exact .inl rfl
  | ok st =>
    rw [State.finish, hf] at hfin
    replace hfin : st.settled = .error r := hfin
    have stays : st.step a = .error r →
        (Except.ok st >>= fun st => st.finish [a]) >>= (fun c => Except.ok c.parsed) = .error r := by
      intro hs
      change st.finish [a] >>= _ = _
      rw [State.finish_cons, hs]
      rfl
    have hop : st.operand a = .error r := by
      rw [State.operand, hfin]
      rfl
    cases hp : st.place with
    | extras =>
      rw [State.settled_of_nothing (State.nothing_of_foldlM hf (fun _ => rfl) hp)] at hfin
      cases hfin
    | operands =>
      refine .inl (stays ?_)
      simp only [State.step, hp, hop]
    | options =>
      cases haw : st.awaits with
      | true =>
        obtain ⟨o, ho⟩ := State.exists_of_awaits haw
        obtain ⟨front, st₀, c, rfl, h₀, hp₀, hc, rfl⟩ := State.awaited_of_foldlM hf hp ho
        cases hfin
        refine .inr ⟨o, front, rfl, rfl, ?_⟩
        rw [parse_eq_finish, State.finish_append, h₀]
        change State.finish _ [a] >>= _ = State.finish st₀ _ >>= _
        rw [State.finish_waiting hp₀ hc o ha]
      | false =>
        refine .inl (stays ?_)
        simp only [State.step, hp, hw, State.word_of_not_awaits haw, hop]

end

/-! ## Lines that are accepted -/

theorem Group.eq_value_of_mem {g : Group} {a : Bytes} (ha : a ∈ g.args) (hr : ¬ Reserved a) :
    ∃ o t, g = .value o t .separate ∧ Bytes.ofString t = a := by
  cases g with
  | dryRun =>
    obtain rfl := List.mem_singleton.mp ha
    exact absurd (.known _ _) hr
  | value o t s =>
    cases s with
    | attached =>
      obtain rfl := List.mem_singleton.mp ha
      exact absurd (.known _ _) hr
    | separate =>
      rcases List.mem_pair.mp ha with rfl | rfl
      · exact absurd (.known _ _) hr
      · exact ⟨o, t, rfl, rfl⟩

namespace Line

theorem role_of_mem {l : Line} {a : Bytes} (ha : a ∈ l.args) :
    a = escapeArg ∨ l.datadir = some a ∨ a ∈ l.extra ∨ ∃ g ∈ l.groups, a ∈ g.args := by
  cases l with
  | options gs => exact .inr (.inr (.inr (List.mem_flatMap.mp ha)))
  | escaped gs rest => cases rest <;> grind [args, datadir, extra, groups]
  | operand gs d gs' => grind [args, datadir, extra, groups]
  | operandEscaped gs d gs' rest => grind [args, datadir, extra, groups]
  | operands gs d gs' e rest => grind [args, datadir, extra, groups]

theorem infix_args {l : Line} {g : Group} (h : g ∈ l.groups) : g.args <:+: l.args := by
  have within : ∀ {gs : List Group}, g ∈ gs → g.args <:+: gs.flatMap Group.args := by
    intro gs hg
    exact List.infix_of_mem_flatten (List.mem_map_of_mem hg)
  have between : ∀ {gs gs' : List Group} (d : Bytes) (back : List Bytes), g ∈ gs ++ gs' →
      g.args <:+: gs.flatMap Group.args ++ d :: (gs'.flatMap Group.args ++ back) := by
    intro gs gs' d back hg
    rcases List.mem_append.mp hg with hg | hg
    · exact List.infix_append_of_infix_left (within hg)
    · exact List.infix_append_of_infix_right
        (List.infix_cons (List.infix_append_of_infix_left (within hg)))
  cases l with
  | options gs => exact within h
  | escaped gs rest => exact List.infix_append_of_infix_left (within h)
  | operand gs d gs' => simpa [args] using between d [] h
  | operandEscaped gs d gs' rest => exact between d _ h
  | operands gs d gs' e rest => exact between d _ h

end Line

/-- In a line that is accepted, an argument that is not reserved is an operand or the value of the option in
front of it. -/
theorem role_of_parse {args : List Bytes} {p : Parsed} (h : parse args = .ok p) {a : Bytes} (ha : a ∈ args)
    (hr : ¬ Reserved a) : p.datadir = some a ∨ a ∈ p.extra ∨
      ∃ o, [(LongName.value o).arg none, a] <:+: args ∧ p.setValue o a = .ok p := by
  obtain ⟨l, hl, rfl, rfl⟩ := line_of_parse h
  obtain rfl | hd | hx | ⟨g, hg, hag⟩ := l.role_of_mem ha
  · exact absurd .escape hr
  · exact .inl hd
  · exact .inr (.inl hx)
  · obtain ⟨o, t, rfl, rfl⟩ := Group.eq_value_of_mem hag hr
    refine .inr (.inr ⟨o, Line.infix_args hg, (setValue_eq_ok_iff _ o _ .separate _).mpr ?_⟩)
    refine ⟨t, rfl, (hl.groups _ hg).1, ?_⟩
    rw [Line.parsed, Parsed.add_with, Parsed.add_ofGroups_of_mem hl.once (hl.groups _ hg) hg]

/-! ## The law -/

theorem not_optionLike_of_isText {a : Bytes} (ht : Utf8.isText a = true) (ha : ¬ Reserved a) :
    ¬ OptionLike a := by
  rw [optionLike_iff, not_or]
  exact ⟨ha, not_nameless_of_isText ht⟩

/-- A rejection of a line of text has its cause where options are recognised. An argument that is not reserved,
such as a flag that nobody knows, is never rejected itself: behind a line that is accepted it is an operand, and
behind one that is not it changes nothing, unless it is the value that was missing. So it is one or the other in
every line that is accepted. -/
theorem parse_of_text {args : List Bytes} (ht : ∀ a ∈ args, Utf8.isText a = true) :
    (∃ back, args = optionArgs args ++ back ∧ State.Stop back ∧ ∀ r, parse args = .error r →
      Cause (optionArgs args) back r ∧ r ≠ .undecodableValue ∧
        ∀ name present, r ≠ .unknownArgument name present) ∧
    ∀ pre a post, args = pre ++ a :: post → ¬ Reserved a →
      (∀ p, parse pre = .ok p → parse (pre ++ [a]) = .ok (p.withOperand a)) ∧
      (∀ r, parse pre = .error r → parse (pre ++ [a]) = .error r ∨ ∃ o front, r = .missingValue o ∧
        pre = front ++ [(LongName.value o).arg none] ∧
        parse (pre ++ [a]) = parse (front ++ [(LongName.value o).arg (some a)])) ∧
      ∀ p, parse args = .ok p → p.datadir = some a ∨ a ∈ p.extra ∨
        ∃ o, [(LongName.value o).arg none, a] <:+: args ∧ p.setValue o a = .ok p := by
  constructor
  · obtain ⟨back, hb, hs⟩ := recognised_append false false args
    refine ⟨back, hb, hs, fun r hr => ?_⟩
    have hcause : Cause (optionArgs args) back r :=
      State.cause_of_finish State.hasRead_initial rfl ht (finish_eq_error hr) hb
    refine ⟨hcause, ?_, ?_⟩
    · rintro rfl
      cases hcause
    · rintro name present rfl
      cases hcause
  · rintro pre a post rfl ha
    have hm : a ∈ pre ++ a :: post := by simp
    have hw : ¬ OptionLike a := not_optionLike_of_isText (ht a hm) ha
    exact ⟨fun p => parse_concat_of_ok hw, fun r => parse_concat_of_error hw,
      fun p hp => role_of_parse hp hm ha⟩

/-- A flag that nobody knows is the data directory, and a line with an extra operand is rejected for what
stands in front of it. -/
theorem parse_of_text_repeated :
    let front := ["--timeout", "5", "--share", "--timeout=7"].map Bytes.ofString
    let args := front ++ ["-x", "--help"].map Bytes.ofString
    (∀ a ∈ args, Utf8.isText a = true) ∧ optionArgs args = front ∧
      parse args = .error (.repeated (.value .timeout)) ∧
      (∃ back, Cause front back (.repeated (.value .timeout))) ∧
      parse (["--timeout", "5", "--share"].map Bytes.ofString) =
        .ok { Parsed.empty with timeout := some 5, datadir := some (Bytes.ofString "--share") } := by
  intro front args
  have ht : ∀ a ∈ args, Utf8.isText a = true := by decide
  have hf : optionArgs args = front := by decide
  have hr : parse args = .error (.repeated (.value .timeout)) := by decide
  have hs : ¬ Reserved (Bytes.ofString "--share") := not_reserved_of_word (by decide)
  have hp : parse (["--timeout", "5"].map Bytes.ofString) = .ok { Parsed.empty with timeout := some 5 } := by
    decide
  obtain ⟨⟨back, -, -, hc⟩, hw⟩ := parse_of_text ht
  obtain ⟨hok, -, -⟩ := hw (["--timeout", "5"].map Bytes.ofString) (Bytes.ofString "--share") _ rfl hs
  refine ⟨ht, hf, hr, ⟨back, ?_⟩, hok _ hp⟩
  rw [← hf]
  exact (hc _ hr).1

end DesktopRefresh.CommandLine

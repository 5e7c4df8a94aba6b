import DesktopRefresh.Proofs.CommandLine.Acceptance

/-!
# One more operand

An operand that is put behind the data directory is accepted, and what stands in front of it stays in force.
But options are no longer recognised behind it, so the options that stood there are lost: the
configuration is the same only if they asked for nothing but the standard (`toConfig_insert_iff`).
-/

namespace DesktopRefresh.CommandLine

/-! ## Where a line can be cut -/

namespace State

theorem operand_cases {st st' : State} {a : Bytes} (h : st.operand a = .ok st') :
    st'.place = st.place ∨ st'.place = .extras ∧ st'.pending = .nothing := by
  rw [operand, bind_eq_ok_iff] at h
  obtain ⟨c, hc, h⟩ := h
  obtain ⟨hn, hp, -⟩ := settled_eq_ok hc
  split at h
  · cases h
    exact .inl hp
  · cases h
    exact .inr ⟨rfl, hn⟩

theorem place_of_long {st st' : State} {n : LongName} {attached : Option Bytes}
    (h : st.long n attached = .ok st') : st'.place = st.place := by
  obtain ⟨c, hc⟩ := settled_of_long h
  have hp := (settled_eq_ok hc).2.1
  cases n with
  | dryRun =>
    cases attached with
    | none =>
      simp only [long, hc, bind, Except.bind] at h
      obtain ⟨m, hm, h⟩ := bind_eq_ok_iff.mp h
      cases h
      rw [← ((orReject_mark_iff c _ m).mp hm).2]
      exact hp
    | some v => cases h
  | value o =>
    cases attached with
    | none =>
      simp only [long, hc, bind, Except.bind] at h
      cases h
      exact hp
    | some v =>
      simp only [long, hc, bind, Except.bind] at h
      obtain ⟨-, t, -, -, rfl⟩ := (orReject_accept_iff c o v .attached st').mp h
      exact hp
  | info i =>
    cases attached with
    | none => cases i <;> (simp only [long, hc, bind, Except.bind] at h; cases h)
    | some v => cases i <;> cases h

theorem nothing_of_step {st st' : State} {a : Bytes} (h : st.step a = .ok st')
    (hx : st.place = .extras → st.pending = .nothing) : st'.place = .extras → st'.pending = .nothing := by
  intro hp'
  unfold step at h
  cases hp : st.place with
  | extras =>
    simp only [hp] at h
    cases h
    exact hx hp
  | operands =>
    simp only [hp] at h
    obtain hpl | ⟨-, hn⟩ := operand_cases h
    · rw [hpl, hp] at hp'
      cases hp'
    · exact hn
  | options =>
    simp only [hp] at h
    split at h
    · cases h
      cases hp'
    · rw [place_of_long h, hp] at hp'
      cases hp'
    · cases h
    · exact absurd h (cluster_ne_ok _ _ _)
    · unfold word at h
      split at h
      · cases h
        rw [hp] at hp'
        cases hp'
      · obtain hpl | ⟨-, hn⟩ := operand_cases h
        · rw [hpl, hp] at hp'
          cases hp'
        · exact hn

theorem nothing_of_foldlM {args : List Bytes} {st st' : State} (h : args.foldlM step st = .ok st')
    (hx : st.place = .extras → st.pending = .nothing) : st'.place = .extras → st'.pending = .nothing := by
  induction args generalizing st with
  | nil =>
    cases h
    exact hx
  | cons a args ih =>
    rw [List.foldlM_cons, bind_eq_ok_iff] at h
    obtain ⟨st₁, hs, hr⟩ := h
    exact ih hr (nothing_of_step hs hx)

end State

/-- What stands in front of a place on a readable line can be read by itself, or it asks for the value that
stands behind the place. -/
theorem parse_front {pre post : List Bytes} {p : Parsed} (h : parse (pre ++ post) = .ok p) :
    (∃ q, parse pre = .ok q) ∨ ∃ o, parse pre = .error (.missingValue o) := by
  obtain ⟨c, hc, -⟩ := (parse_eq_ok_iff_finish _ p).mp h
  rw [State.finish_append, bind_eq_ok_iff] at hc
  obtain ⟨st, hs, hr⟩ := hc
  have settled : ∀ c', st.settled = .ok c' → ∃ q, parse pre = .ok q := fun c' hc' =>
    ⟨c'.parsed, (parse_eq_ok_iff_finish pre _).mpr ⟨c', by rw [State.finish, hs]; exact hc', rfl⟩⟩
  -- only while options are recognised can a value be missing
  cases hp : st.place with
  | extras =>
    have hn := State.nothing_of_foldlM hs (fun _ => rfl) hp
    exact .inl (settled st (State.settled_of_nothing hn))
  | operands =>
    obtain ⟨c', hc'⟩ := State.settled_of_finish_operands hp hr
    exact .inl (settled c' hc')
  | options =>
    obtain ⟨c', hc'⟩ | ⟨o, w, rest, ho, -, -⟩ := State.settled_of_finish hp hr
    · exact .inl (settled c' hc')
    · refine .inr ⟨o, ?_⟩
      simp only [parse, hs, bind, Except.bind, State.settled, State.settle, ho, orReject]

/-! ## Groups behind a place -/

/-- The groups that a line has behind a place, if what stands in front of the place is a line by itself. -/
def GroupsBehind (pre post : List Bytes) (gs : List Group) : Prop :=
  ∃ front whole : Line, front.Valid ∧ whole.Valid ∧ front.args = pre ∧ whole.args = pre ++ post ∧
    whole.groups = front.groups ++ gs

theorem operand_or_forall_append {front : Line} (hf : front.Valid) (hd : front.datadir ≠ none) :
    (∃ gs d gs', front = .operand gs d gs') ∨
      ∀ post, ∃ whole : Line, whole.Valid ∧ whole.args = front.args ++ post ∧ whole.groups = front.groups ∧
        whole.datadir = front.datadir := by
  obtain ⟨hv, hn, hw⟩ := hf
  cases front with
  | options gs => exact absurd rfl hd
  | escaped gs rest =>
    cases rest with
    | nil => exact absurd rfl hd
    | cons d rest =>
      right
      intro post
      exact ⟨.escaped gs (d :: rest ++ post), ⟨hv, hn, hw⟩, by simp [Line.args], rfl, rfl⟩
  | operand gs d gs' => exact .inl ⟨gs, d, gs', rfl⟩
  | operandEscaped gs d gs' rest =>
    right
    intro post
    exact ⟨.operandEscaped gs d gs' (rest ++ post), ⟨hv, hn, hw⟩, by simp [Line.args], rfl, rfl⟩
  | operands gs d gs' e rest =>
    right
    intro post
    exact ⟨.operands gs d gs' e (rest ++ post), ⟨hv, hn, hw⟩, by simp [Line.args], rfl, rfl⟩

theorem exists_line_append {front : Line} (hf : front.Valid) (hd : front.datadir ≠ none) {post : List Bytes}
    {p : Parsed} (h : parse (front.args ++ post) = .ok p) :
    ∃ whole : Line, whole.Valid ∧ whole.args = front.args ++ post ∧ whole.datadir = front.datadir ∧
      ∃ gs, whole.groups = front.groups ++ gs := by
  obtain ⟨gs, d, gs', rfl⟩ | hb := operand_or_forall_append hf hd
  · obtain ⟨hv, hn, hw⟩ := hf
    obtain ⟨c, hc, -⟩ := (parse_eq_ok_iff_finish _ p).mp h
    rw [Line.args, List.append_assoc, List.cons_append] at hc ⊢
    exact State.line_of_finish_datadir hv hn (hw d (List.mem_singleton_self d)) hc
  · obtain ⟨whole, hwv, hwa, hwg, hwd⟩ := hb post
    exact ⟨whole, hwv, hwa, hwd, [], by rw [hwg, List.append_nil]⟩

theorem exists_line_insert {front : Line} (hf : front.Valid) (hd : front.datadir ≠ none) {w : Bytes}
    (hw : ¬ OptionLike w) (post : List Bytes) :
    ∃ whole : Line, whole.Valid ∧ whole.args = front.args ++ w :: post ∧ whole.groups = front.groups ∧
      whole.datadir = front.datadir := by
  obtain ⟨gs, d, gs', rfl⟩ | hb := operand_or_forall_append hf hd
  · obtain ⟨hv, hn, hws⟩ := hf
    refine ⟨.operands gs d gs' w post, ⟨hv, hn, ?_⟩, by simp [Line.args], rfl, rfl⟩
    exact List.forall_mem_cons.mpr ⟨hws d (List.mem_singleton_self d), List.forall_mem_singleton.mpr hw⟩
  · exact hb (w :: post)

/-! ## What is lost -/

/-- The group asks for what holds without it. -/
def Group.IsStandard : Group → Prop
  | dryRun => False
  | value .timeout t _ => Decimal.Denotes t Config.standard.timeout.seconds
  | value .iconCacheTool t _ => t = Config.standard.iconCacheTool
  | value .desktopDatabaseTool t _ => t = Config.standard.desktopDatabaseTool

theorem Group.isStandard_iff {g : Group} (hv : g.Valid) :
    g.IsStandard ↔ g ≠ .dryRun ∧ (∀ n, g.timeout? = some n → n = Config.standard.timeout.seconds) ∧
      (∀ t, g.text? .iconCacheTool = some t → t = Config.standard.iconCacheTool) ∧
      ∀ t, g.text? .desktopDatabaseTool = some t → t = Config.standard.desktopDatabaseTool := by
  cases g with
  | dryRun => simp [IsStandard]
  | value o t s =>
    cases o with
    | timeout =>
      obtain ⟨n, hn⟩ := hv.1 rfl
      rw [← Decimal.read_eq_ok_iff] at hn
      simp [IsStandard, timeout?, text?, ← Decimal.read_eq_ok_iff, hn, Except.toOption]
    | iconCacheTool => simp [IsStandard, timeout?, text?]
    | desktopDatabaseTool => simp [IsStandard, timeout?, text?]

theorem Parsed.dryRun_append_iff {gs gs' : List Group} (hn : ((gs ++ gs').map Group.name).Nodup) :
    (ofGroups (gs ++ gs')).dryRun = (ofGroups gs).dryRun ↔ ∀ g ∈ gs', g ≠ .dryRun := by
  have : Group.dryRun ∈ gs' → Group.dryRun ∉ gs := by
    intro hm hm'
    rw [List.map_append, List.nodup_append] at hn
    exact hn.2.2 _ (List.mem_map_of_mem hm') _ (List.mem_map_of_mem hm) rfl
  rw [Bool.eq_iff_iff, show (ofGroups (gs ++ gs')).dryRun = (gs ++ gs').contains .dryRun from rfl,
    show (ofGroups gs).dryRun = gs.contains .dryRun from rfl, List.contains_iff_mem, List.contains_iff_mem,
    List.mem_append]
  constructor
  · rintro h g hg rfl
    exact this hg (h.mp (.inr hg))
  · intro h
    exact ⟨fun hm => hm.resolve_right fun hg => h _ hg rfl, .inl⟩

theorem Line.toConfig_eq_iff {l front : Line} {gs : List Group} (hl : l.Valid)
    (hg : l.groups = front.groups ++ gs) (hd : l.datadir = front.datadir) (root : Option String) :
    front.parsed.toConfig root = l.parsed.toConfig root ↔ ∀ g ∈ gs, g.IsStandard := by
  have hn := hl.once
  rw [hg] at hn
  have hdry := Parsed.dryRun_append_iff hn
  have htime := Group.getD_findSome?_append Group.name_of_timeout? hn Config.standard.timeout.seconds
  have hicon := Group.getD_findSome?_append (Group.name_of_text? .iconCacheTool) hn
    Config.standard.iconCacheTool
  have hdesk := Group.getD_findSome?_append (Group.name_of_text? .desktopDatabaseTool) hn
    Config.standard.desktopDatabaseTool
  have hstd : (∀ g ∈ gs, g.IsStandard) ↔ ∀ g ∈ gs, g ≠ .dryRun ∧
      (∀ n, g.timeout? = some n → n = Config.standard.timeout.seconds) ∧
      (∀ t, g.text? .iconCacheTool = some t → t = Config.standard.iconCacheTool) ∧
      ∀ t, g.text? .desktopDatabaseTool = some t → t = Config.standard.desktopDatabaseTool := by
    refine forall₂_congr fun g hm => Group.isStandard_iff (hl.groups g ?_)
    rw [hg]
    exact List.mem_append_right _ hm
  rw [hstd, eq_comm, Parsed.toConfig_eq, Parsed.toConfig_eq]
  simp only [forall₂_and, ← hdry, ← htime, ← hicon, ← hdesk]
  simp [Line.parsed, hg, hd, Duration.ofSeconds, Parsed.ofGroups]

/-! ## The law -/

/-- Behind the data directory and not between an option and its value, one more operand is accepted. The
configuration stays the same exactly if the options behind the operand are standard. -/
theorem toConfig_insert_iff {pre post : List Bytes} {w : Bytes} {p : Parsed} (h : parse (pre ++ post) = .ok p)
    (hsep : ∀ o, parse pre ≠ .error (.missingValue o)) (hd : ∀ q, parse pre = .ok q → q.datadir ≠ none)
    (hw : ¬ OptionLike w) :
    ∃ r, parse (pre ++ w :: post) = .ok r ∧
      (∀ q, parse pre = .ok q → ∀ root, r.toConfig root = q.toConfig root) ∧
      (∃ gs, GroupsBehind pre post gs) ∧
      ∀ gs, GroupsBehind pre post gs →
        ∀ root, r.toConfig root = p.toConfig root ↔ ∀ g ∈ gs, g.IsStandard := by
  obtain ⟨q, hq⟩ | ⟨o, ho⟩ := parse_front h
  · obtain ⟨front, hf, rfl, rfl⟩ := line_of_parse hq
    have hfd : front.datadir ≠ none := hd _ hq
    obtain ⟨line, hl, ha, hg, hld⟩ := exists_line_insert hf hfd hw post
    have hr := parse_line hl
    rw [ha] at hr
    have hc : ∀ root, line.parsed.toConfig root = front.parsed.toConfig root := by
      intro root
      rw [Parsed.toConfig_eq, Parsed.toConfig_eq]
      simp [Line.parsed, hg, hld]
    obtain ⟨whole, hwv, hwa, hwd, gs, hwg⟩ := exists_line_append hf hfd h
    -- any other line with these arguments says the same, as it is read the same way
    have hp := parse_line hwv
    rw [hwa, h] at hp
    cases hp
    refine ⟨line.parsed, hr, ?_, ⟨gs, front, whole, hf, hwv, rfl, hwa, hwg⟩, ?_⟩
    · intro q hq' root
      rw [hq] at hq'
      cases hq'
      exact hc root
    · rintro gs ⟨front', whole', hfv', hwv', hfa', hwa', hwg'⟩ root
      have hq' := parse_line hfv'
      rw [hfa', hq] at hq'
      have hp' := parse_line hwv'
      rw [hwa', h] at hp'
      have hd' : whole'.datadir = front'.datadir := by
        have h₁ : whole.datadir = whole'.datadir := congrArg Parsed.datadir (Except.ok.inj hp')
        have h₂ : front.datadir = front'.datadir := congrArg Parsed.datadir (Except.ok.inj hq')
        rw [← h₁, hwd, h₂]
      rw [hc, Except.ok.inj hq', Except.ok.inj hp']
      exact Line.toConfig_eq_iff hwv' hwg' hd' root
  · exact absurd ho (hsep o)

theorem toConfig_insert_timeout : ∃ p r,
    parse [Bytes.ofString "/usr/share", Bytes.ofString "--timeout=120"] = .ok p ∧
    parse [Bytes.ofString "/usr/share", Bytes.ofString "extra", Bytes.ofString "--timeout=120"] = .ok r ∧
    ∀ root, r.toConfig root = p.toConfig root := by
  have hd : ¬ OptionLike (Bytes.ofString "/usr/share") := fun h => absurd h.head?_eq (by decide)
  have hw : ¬ OptionLike (Bytes.ofString "extra") := fun h => absurd h.head?_eq (by decide)
  have hq := parse_word hd
  have hp : parse ([Bytes.ofString "/usr/share"] ++ [Bytes.ofString "--timeout=120"]) =
      .ok { Parsed.empty with datadir := some (Bytes.ofString "/usr/share"), timeout := some 120 } := by
    decide
  obtain ⟨r, hr, -, -, h⟩ := toConfig_insert_iff hp (by simp [hq]) (by simp [hq]) hw
  let g : Group := .value .timeout "120" .attached
  have hg : Decimal.Denotes "120" 120 := (Decimal.read_eq_ok_iff "120" 120).mp (by decide)
  have hb : GroupsBehind [Bytes.ofString "/usr/share"] [Bytes.ofString "--timeout=120"] [g] := by
    refine ⟨.operand [] (Bytes.ofString "/usr/share") [], .operand [] (Bytes.ofString "/usr/share") [g],
      ?_, ?_, rfl, by decide, rfl⟩
    · exact ⟨by simp [Line.groups], by simp [Line.groups], by simpa [Line.words] using hd⟩
    · exact ⟨by simpa [g, Line.groups, Group.Valid] using ⟨120, hg⟩, by simp [Line.groups],
        by simpa [Line.words] using hd⟩
  exact ⟨_, r, hp, hr, fun root => (h _ hb root).mpr (List.forall_mem_singleton.mpr hg)⟩

/-- An operand in front of `--dry-run` takes it away, so that extra operands are not just ignored. -/
theorem not_forall_toConfig_insert_eq : ¬ ∀ (pre post : List Bytes) (w : Bytes) (p : Parsed),
    parse (pre ++ post) = .ok p → (∀ o, parse pre ≠ .error (.missingValue o)) →
    (∀ q, parse pre = .ok q → q.datadir ≠ none) → w.head? ≠ some Token.dash →
    ∃ r, parse (pre ++ w :: post) = .ok r ∧ ∀ root, r.toConfig root = p.toConfig root := by
  intro h
  have hd : ¬ OptionLike (Bytes.ofString "/usr/share") := fun h => absurd h.head?_eq (by decide)
  have hq := parse_word hd
  have hp : parse ([Bytes.ofString "/usr/share"] ++ [Bytes.ofString "--dry-run"]) =
      .ok { Parsed.empty with datadir := some (Bytes.ofString "/usr/share"), dryRun := true } := by
    decide
  have hr : parse ([Bytes.ofString "/usr/share"] ++ Bytes.ofString "extra" :: [Bytes.ofString "--dry-run"]) =
      .ok { Parsed.empty with
        datadir := some (Bytes.ofString "/usr/share")
        extra := [Bytes.ofString "extra", Bytes.ofString "--dry-run"] } := by
    decide
  obtain ⟨r, hr', hc⟩ := h _ _ (Bytes.ofString "extra") _ hp (by simp [hq]) (by simp [hq]) (by decide)
  rw [hr] at hr'
  cases hr'
  exact absurd (congrArg Config.dryRun (hc none)) (by decide)

end DesktopRefresh.CommandLine

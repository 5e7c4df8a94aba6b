import DesktopRefresh.Proofs.CommandLine.Reading

/-!
# Exactly the lines of the grammar are accepted

`parse_eq_ok_iff`: an argument list is read exactly if it is a valid line, and then what is read from it is
what the line says.
-/

namespace DesktopRefresh.CommandLine

/-! ## Groups in a row -/

namespace State

def marks (gs : List Group) : List Field := gs.map fun g => .named g.name

theorem named_mem_marks (gs : List Group) (n : LongName) :
    Field.named n ∈ marks gs ↔ n ∈ gs.map Group.name := by
  simp [marks]

section
variable {args : List Bytes} {c : State}

theorem finish_groups {gs : List Group} {p : Parsed} {f : List Field} (hv : ∀ g ∈ gs, g.Valid)
    (hn : (gs.map Group.name).Nodup) (hf : ∀ n ∈ gs.map Group.name, Field.named n ∉ f) :
    (ready p f).finish (gs.flatMap Group.args ++ args) = .ok c ↔
      (ready (gs.foldl Parsed.add p) (f ++ marks gs)).finish args = .ok c := by
  induction gs generalizing p f with
  | nil => simp [marks]
  | cons g gs ih =>
    rw [List.forall_mem_cons] at hv
    rw [List.map_cons, List.nodup_cons] at hn
    rw [List.map_cons, List.forall_mem_cons] at hf
    rw [List.flatMap_cons, List.append_assoc, finish_ready_group hv.1 hf.1, ih hv.2 hn.2]
    · simp [marks]
    · intro n hm h
      rcases List.mem_append.mp h with h | h
      · exact hf.2 n hm h
      · obtain rfl : n = g.name := by simpa using h
        exact hn.1 hm

/-- A readable line begins with valid groups, each of them new, and then stops or goes on with an operand. -/
theorem groups_of_finish : ∀ (args : List Bytes) (p : Parsed) (f : List Field),
    (ready p f).finish args = .ok c → ∃ gs rest, args = gs.flatMap Group.args ++ rest ∧ Stop rest ∧
      (∀ g ∈ gs, g.Valid) ∧ (gs.map Group.name).Nodup ∧ (∀ n ∈ gs.map Group.name, Field.named n ∉ f) ∧
      (ready (gs.foldl Parsed.add p) (f ++ marks gs)).finish rest = .ok c := by
  intro args
  -- by the number of arguments, as a group can be two of them
  induction h : args.length using Nat.strong_induction_on generalizing args with
  | _ k ih =>
    intro p f hc
    obtain hs | ⟨g, rest, hv, hf, rfl⟩ := cases_of_finish hc
    · exact ⟨[], args, rfl, hs, by simp, by simp, by simp, by simpa [marks] using hc⟩
    · have hlen : rest.length < k := by
        have : 0 < g.args.length := by
          cases g with
          | dryRun => decide
          | value o t s => cases s <;> exact Nat.succ_pos _
        rw [← h, List.length_append]
        omega
      rw [finish_ready_group hv hf] at hc
      obtain ⟨gs, rest', rfl, hs, hvs, hn, hfs, hr⟩ := ih rest.length hlen rest rfl _ _ hc
      have hg : g.name ∉ gs.map Group.name := fun hm => hfs _ hm (by simp)
      refine ⟨g :: gs, rest', by simp, hs, ?_, ?_, ?_, ?_⟩
      · exact List.forall_mem_cons.mpr ⟨hv, hvs⟩
      · exact List.nodup_cons.mpr ⟨hg, hn⟩
      · exact List.forall_mem_cons.mpr ⟨hf, fun n hm h => hfs n hm (List.mem_append_left _ h)⟩
      · simpa [marks] using hr

end

/-! ## Lines -/

section
variable {p : Parsed} {f : List Field} {c : State}

theorem finish_operands (hd : p.datadir ≠ none) (args : List Bytes) :
    ∃ place, (⟨p, f, .nothing, .operands⟩ : State).finish args =
      .ok ⟨{ p with extra := p.extra ++ args }, f, .nothing, place⟩ := by
  cases args with
  | nil => exact ⟨.operands, by simp [finish_nil, settled_of_nothing]⟩
  | cons e args => exact ⟨.extras, finish_operands_extra hd e⟩

end

theorem initial_eq_ready : initial = ready (.ofGroups []) [] := rfl

section
variable {gs gs' : List Group} {d : Bytes} {c : State}

theorem finish_initial_groups (hv : ∀ g ∈ gs, g.Valid) (hn : (gs.map Group.name).Nodup) (args : List Bytes) :
    initial.finish (gs.flatMap Group.args ++ args) = .ok c ↔
      (ready (.ofGroups gs) (marks gs)).finish args = .ok c := by
  rw [initial_eq_ready, finish_groups hv hn (by simp), Parsed.foldl_add_ofGroups [] gs (by simpa using hn)]
  simp

theorem finish_initial_datadir (hv : ∀ g ∈ gs ++ gs', g.Valid) (hn : ((gs ++ gs').map Group.name).Nodup)
    (hd : ¬ OptionLike d) (args : List Bytes) :
    initial.finish (gs.flatMap Group.args ++ d :: (gs'.flatMap Group.args ++ args)) = .ok c ↔
      (ready { Parsed.ofGroups (gs ++ gs') with datadir := some d }
        (marks gs ++ [.datadir] ++ marks gs')).finish args = .ok c := by
  have hn' := hn
  rw [List.map_append, List.nodup_append] at hn'
  have hv' := List.forall_mem_append.mp hv
  rw [finish_initial_groups hv'.1 hn'.1, finish_ready_datadir rfl hd, finish_groups hv'.2 hn'.2.1]
  · have := Parsed.foldl_add_with gs' (.ofGroups gs) (some d) []
    rw [Parsed.foldl_add_ofGroups gs gs' hn] at this
    rw [show ({ Parsed.ofGroups gs with datadir := some d } : Parsed) =
      { Parsed.ofGroups gs with datadir := some d, extra := [] } from rfl, this]
    rfl
  · intro n hm h
    rcases List.mem_append.mp h with h | h
    · exact hn'.2.2 n ((named_mem_marks gs n).mp h) n hm rfl
    · simp at h

theorem finish_of_line (l : Line) (h : l.Valid) :
    ∃ c, initial.finish l.args = .ok c ∧ c.parsed = l.parsed := by
  obtain ⟨hv, hn, hw⟩ := h
  cases l with
  | options gs =>
    have hr := (finish_initial_groups hv hn []).mpr rfl
    rw [List.append_nil] at hr
    exact ⟨_, hr, rfl⟩
  | escaped gs rest =>
    cases rest with
    | nil =>
      have hr : initial.finish (gs.flatMap Group.args ++ [escapeArg]) =
          .ok ⟨.ofGroups gs, marks gs, .nothing, .operands⟩ :=
        (finish_initial_groups hv hn [escapeArg]).mpr (by rw [finish_ready_escape]; rfl)
      exact ⟨_, hr, rfl⟩
    | cons d rest =>
      obtain ⟨place, ho⟩ := finish_operands (p := { Parsed.ofGroups gs with datadir := some d })
        (f := marks gs ++ [.datadir]) (by simp) rest
      have hr := (finish_initial_groups hv hn (escapeArg :: d :: rest)).mpr
        (finish_ready_escape.trans ((finish_operands_datadir rfl d).mpr ho))
      exact ⟨_, hr, rfl⟩
  | operand gs d gs' =>
    have hr := (finish_initial_datadir hv hn (hw d (List.mem_singleton_self d)) []).mpr rfl
    rw [List.append_nil] at hr
    exact ⟨_, hr, rfl⟩
  | operandEscaped gs d gs' rest =>
    obtain ⟨place, ho⟩ := finish_operands (p := { Parsed.ofGroups (gs ++ gs') with datadir := some d })
      (f := marks gs ++ [.datadir] ++ marks gs') (by simp) rest
    have hr := (finish_initial_datadir hv hn (hw d (List.mem_singleton_self d)) (escapeArg :: rest)).mpr
      (finish_ready_escape.trans ho)
    exact ⟨_, hr, rfl⟩
  | operands gs d gs' e rest =>
    have hwd := hw d (by simp [Line.words])
    have hwe := hw e (by simp [Line.words])
    have hr := (finish_initial_datadir hv hn hwd (e :: rest)).mpr (finish_ready_extra (by simp) hwe)
    exact ⟨_, hr, rfl⟩

theorem line_of_finish_datadir (hv : ∀ g ∈ gs ++ gs', g.Valid) (hn : ((gs ++ gs').map Group.name).Nodup)
    (hd : ¬ OptionLike d) {args : List Bytes}
    (h : initial.finish (gs.flatMap Group.args ++ d :: (gs'.flatMap Group.args ++ args)) = .ok c) :
    ∃ l : Line, l.Valid ∧ l.args = gs.flatMap Group.args ++ d :: (gs'.flatMap Group.args ++ args) ∧
      l.datadir = some d ∧ ∃ gs'', l.groups = gs ++ gs' ++ gs'' := by
  rw [finish_initial_datadir hv hn hd] at h
  obtain ⟨gs'', rest, rfl, hs, hv'', hn'', hf, -⟩ := groups_of_finish args _ _ h
  have hvs : ∀ g ∈ gs ++ (gs' ++ gs''), Group.Valid g := by
    rw [← List.append_assoc]
    exact List.forall_mem_append.mpr ⟨hv, hv''⟩
  have hns : ((gs ++ (gs' ++ gs'')).map Group.name).Nodup := by
    rw [← List.append_assoc, List.map_append, List.nodup_append]
    refine ⟨hn, hn'', fun n hm n'' hm'' hnn => hf n'' hm'' ?_⟩
    rw [List.map_append, List.mem_append, ← named_mem_marks, ← named_mem_marks, hnn] at hm
    simpa using hm
  have hg : gs ++ (gs' ++ gs'') = gs ++ gs' ++ gs'' := (List.append_assoc ..).symm
  cases hs with
  | nil =>
    exact ⟨.operand gs d (gs' ++ gs''), ⟨hvs, hns, by simpa [Line.words] using hd⟩,
      by simp [Line.args], rfl, gs'', hg⟩
  | escape rest =>
    exact ⟨.operandEscaped gs d (gs' ++ gs'') rest, ⟨hvs, hns, by simpa [Line.words] using hd⟩,
      by simp [Line.args], rfl, gs'', hg⟩
  | operand e rest he =>
    exact ⟨.operands gs d (gs' ++ gs'') e rest, ⟨hvs, hns, by simpa [Line.words] using ⟨hd, he⟩⟩,
      by simp [Line.args], rfl, gs'', hg⟩

theorem line_of_finish {args : List Bytes} (h : initial.finish args = .ok c) :
    ∃ l : Line, l.Valid ∧ l.args = args := by
  have h' := h
  rw [initial_eq_ready] at h'
  obtain ⟨gs, rest, rfl, hs, hv, hn, -, -⟩ := groups_of_finish args _ _ h'
  cases hs with
  | nil => exact ⟨.options gs, ⟨hv, hn, by simp [Line.words]⟩, by simp [Line.args]⟩
  | escape rest => exact ⟨.escaped gs rest, ⟨hv, hn, by simp [Line.words]⟩, rfl⟩
  | operand d rest hd =>
    have h₀ : initial.finish (gs.flatMap Group.args ++ d :: (([] : List Group).flatMap Group.args ++ rest)) =
      .ok c := h
    obtain ⟨l, hl, ha, -⟩ := line_of_finish_datadir (by simpa using hv) (by simpa using hn) hd h₀
    exact ⟨l, hl, ha⟩

end

end State

/-! ## The command line -/

theorem parse_eq_finish (args : List Bytes) :
    parse args = State.initial.finish args >>= fun c => .ok c.parsed := by
  rw [State.finish, bind_assoc]
  rfl

theorem parse_eq_ok_iff_finish (args : List Bytes) (p : Parsed) :
    parse args = .ok p ↔ ∃ c, State.initial.finish args = .ok c ∧ c.parsed = p := by
  rw [parse_eq_finish, bind_eq_ok_iff]
  simp

theorem parse_line {l : Line} (h : l.Valid) : parse l.args = .ok l.parsed := by
  obtain ⟨c, hc, hp⟩ := State.finish_of_line l h
  exact (parse_eq_ok_iff_finish l.args l.parsed).mpr ⟨c, hc, hp⟩

theorem line_of_parse {args : List Bytes} {p : Parsed} (h : parse args = .ok p) :
    ∃ l : Line, l.Valid ∧ l.args = args ∧ l.parsed = p := by
  obtain ⟨c, hc, -⟩ := (parse_eq_ok_iff_finish args p).mp h
  obtain ⟨l, hl, rfl⟩ := State.line_of_finish hc
  rw [parse_line hl] at h
  exact ⟨l, hl, rfl, Except.ok.inj h⟩

theorem parse_word {d : Bytes} (hd : ¬ OptionLike d) :
    parse [d] = .ok { Parsed.empty with datadir := some d } := by
  have hl : (Line.operand [] d []).Valid :=
    ⟨by simp [Line.groups], by simp [Line.groups], by simpa [Line.words] using hd⟩
  exact parse_line hl

/-- The command line accepts exactly its grammar, and what is read from a line is what the line says. -/
theorem parse_eq_ok_iff (args : List Bytes) (p : Parsed) :
    parse args = .ok p ↔ ∃ l : Line, l.Valid ∧ l.args = args ∧ l.parsed = p := by
  constructor
  · exact line_of_parse
  · rintro ⟨l, hl, rfl, rfl⟩
    exact parse_line hl

end DesktopRefresh.CommandLine

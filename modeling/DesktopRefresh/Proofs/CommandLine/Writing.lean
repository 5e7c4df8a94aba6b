import DesktopRefresh.Proofs.CommandLine.Acceptance

/-!
# Writing a command line

Everything that can be read can be written, and what is written is read back (`parse_written`): the options
in any order, in front of the data directory or behind it, and the operands behind an escape.
-/

namespace DesktopRefresh.CommandLine

namespace Parsed

/-- The group of a name that has something to say. -/
def group? (p : Parsed) (spelling : ValueOption → Spelling) : LongName → Option Group
  | .dryRun => if p.dryRun then some .dryRun else none
  | .value .timeout => p.timeout.map fun n => .value .timeout (toString n) (spelling .timeout)
  | .value .iconCacheTool => p.iconCacheTool.map fun t => .value .iconCacheTool t (spelling .iconCacheTool)
  | .value .desktopDatabaseTool =>
    p.desktopDatabaseTool.map fun t => .value .desktopDatabaseTool t (spelling .desktopDatabaseTool)
  | .info _ => none

def groups (p : Parsed) (spelling : ValueOption → Spelling) : List Group :=
  LongName.all.filterMap (p.group? spelling)

/-- A timeout fits into 64 bits, extra operands stand behind a data directory, and a value that becomes an
argument of its own is a word. -/
structure Writable (p : Parsed) (spelling : ValueOption → Spelling) : Prop where
  timeout : ∀ n, p.timeout = some n → n < Decimal.limit
  extra : p.datadir = none → p.extra = []
  separate : ∀ o t, Group.value o t .separate ∈ p.groups spelling → ¬ OptionLike (Bytes.ofString t)

section
variable (p : Parsed) (spelling : ValueOption → Spelling)

theorem name_of_group? (n : LongName) (g : Group) (h : p.group? spelling n = some g) : g.name = n := by
  cases n with
  | dryRun =>
    obtain ⟨-, rfl⟩ : p.dryRun = true ∧ Group.dryRun = g := by simpa [group?] using h
    rfl
  | value o => cases o <;> (obtain ⟨a, -, rfl⟩ := Option.map_eq_some_iff.mp h; rfl)
  | info i => cases h

theorem mem_groups_iff (g : Group) : g ∈ p.groups spelling ↔ p.group? spelling g.name = some g := by
  rw [groups, List.mem_filterMap]
  constructor
  · rintro ⟨n, -, h⟩
    rw [name_of_group? p spelling n g h]
    exact h
  · intro h
    exact ⟨g.name, LongName.mem_all _, h⟩

theorem nodup_names_groups : ((p.groups spelling).map Group.name).Nodup := by
  rw [groups, List.map_filterMap]
  apply List.Nodup.filterMap
  · intro n n' m h h'
    obtain ⟨g, hg, rfl⟩ := Option.map_eq_some_iff.mp h
    obtain ⟨g', hg', hm⟩ := Option.map_eq_some_iff.mp h'
    rw [← name_of_group? p spelling n g hg, ← hm, name_of_group? p spelling n' g' hg']
  · decide

theorem findSome?_groups {α : Type} {k : Group → Option α} {n : LongName}
    (hk : ∀ g a, k g = some a → g.name = n) :
    (p.groups spelling).findSome? k = (p.group? spelling n).bind k := by
  apply Option.ext
  intro a
  rw [Group.findSome?_eq_some_iff hk (nodup_names_groups p spelling), Option.bind_eq_some_iff]
  constructor
  · rintro ⟨g, hg, ha⟩
    rw [mem_groups_iff, hk g a ha] at hg
    exact ⟨g, hg, ha⟩
  · rintro ⟨g, hg, ha⟩
    refine ⟨g, ?_, ha⟩
    rw [mem_groups_iff, hk g a ha]
    exact hg

theorem contains_dryRun_groups : (p.groups spelling).contains .dryRun = p.dryRun := by
  rw [Bool.eq_iff_iff, List.contains_iff_mem, mem_groups_iff]
  simp [group?, Group.name]

end

section
variable {p : Parsed} {spelling : ValueOption → Spelling}

theorem Writable.valid (h : p.Writable spelling) : ∀ g ∈ p.groups spelling, g.Valid := by
  intro g hg
  cases g with
  | dryRun => trivial
  | value o t s =>
    refine ⟨?_, ?_⟩
    · rintro rfl
      rw [mem_groups_iff] at hg
      obtain ⟨n, hn, hg⟩ := Option.map_eq_some_iff.mp hg
      cases hg
      exact ⟨n, (Decimal.read_eq_ok_iff _ n).mp (Decimal.read_toString (h.timeout n hn))⟩
    · rintro rfl
      exact h.separate o t hg

theorem Writable.ofGroups_groups (h : p.Writable spelling) :
    ofGroups (p.groups spelling) = { p with datadir := none, extra := [] } := by
  have htime : (p.groups spelling).findSome? Group.timeout? = p.timeout := by
    rw [findSome?_groups p spelling Group.name_of_timeout?]
    cases hn : p.timeout with
    | none => simp [group?, hn]
    | some n =>
      have hr := Decimal.read_toString (h.timeout n hn)
      simp only [group?, hn, Option.map_some, Option.bind_some, Group.timeout?, hr]
      rfl
  have hicon : (p.groups spelling).findSome? (Group.text? .iconCacheTool) = p.iconCacheTool := by
    rw [findSome?_groups p spelling (Group.name_of_text? .iconCacheTool)]
    cases ht : p.iconCacheTool <;> simp [group?, ht, Group.text?]
  have hdesk : (p.groups spelling).findSome? (Group.text? .desktopDatabaseTool) = p.desktopDatabaseTool := by
    rw [findSome?_groups p spelling (Group.name_of_text? .desktopDatabaseTool)]
    cases ht : p.desktopDatabaseTool <;> simp [group?, ht, Group.text?]
  rw [ofGroups, contains_dryRun_groups, htime, hicon, hdesk]

theorem Writable.line (h : p.Writable spelling) {l : Line} (hg : l.groups.Perm (p.groups spelling))
    (hw : ∀ w ∈ l.words, ¬ OptionLike w) (hd : l.datadir = p.datadir) (hx : l.extra = p.extra) :
    parse l.args = .ok p := by
  have hn : (l.groups.map Group.name).Nodup :=
    (hg.map Group.name).nodup_iff.mpr (nodup_names_groups p spelling)
  have hl : l.Valid := ⟨fun g hm => h.valid g (hg.mem_iff.mp hm), hn, hw⟩
  rw [parse_line hl, Line.parsed, ofGroups_perm hn hg, h.ofGroups_groups, hd, hx]

end

end Parsed

/-! ## The round trip -/

/-- What is written behind an escape comes back, and so it does if some options stand behind a data directory
that is a word. The configuration has the values that were written, and the standard ones for the others. -/
theorem parse_written (p : Parsed) (spelling : ValueOption → Spelling) (h : p.Writable spelling)
    (gs gs' : List Group) (hg : (gs ++ gs').Perm (p.groups spelling)) :
    parse ((gs ++ gs').flatMap Group.args ++ escapeArg :: (p.datadir.toList ++ p.extra)) = .ok p ∧
      (∀ d, p.datadir = some d → ¬ OptionLike d →
        parse (gs.flatMap Group.args ++ d :: (gs'.flatMap Group.args ++ escapeArg :: p.extra)) = .ok p) ∧
      ∀ root, p.toConfig root = ⟨p.datadir, root, p.dryRun, ⟨p.timeout.getD 120, 0⟩,
        p.iconCacheTool.getD "gtk-update-icon-cache",
        p.desktopDatabaseTool.getD "update-desktop-database"⟩ := by
  refine ⟨?_, ?_, fun root => Parsed.toConfig_eq p root⟩
  · refine h.line (l := .escaped (gs ++ gs') (p.datadir.toList ++ p.extra)) hg (by simp [Line.words]) ?_ ?_
    · cases hd : p.datadir with
      | none => simp [Line.datadir, h.extra hd]
      | some d => rfl
    · cases hd : p.datadir with
      | none => simp [Line.extra, h.extra hd]
      | some d => rfl
  · intro d hd hw
    exact h.line (l := .operandEscaped gs d gs' p.extra) hg (by simpa [Line.words] using hw) hd.symm rfl

/-- A tool and a data directory that look like options. -/
theorem parse_written_help :
    parse [Bytes.ofString "--icon-cache-tool=--help", Bytes.ofString "--timeout", Bytes.ofString "5",
        Bytes.ofString "--dry-run", Bytes.ofString "--", Bytes.ofString "--help", Bytes.ofString "-x"] =
      .ok ⟨some (Bytes.ofString "--help"), [Bytes.ofString "-x"], true, some 5, some "--help", none⟩ := by
  let p : Parsed := ⟨some (Bytes.ofString "--help"), [Bytes.ofString "-x"], true, some 5, some "--help", none⟩
  let spelling : ValueOption → Spelling := fun o => if o = .timeout then .separate else .attached
  let gs : List Group := [.value .iconCacheTool "--help" .attached, .value .timeout "5" .separate, .dryRun]
  have hg : gs.Perm (p.groups spelling) := by decide
  have h : p.Writable spelling := by
    refine ⟨?_, fun hd => absurd hd (by decide), ?_⟩
    · intro n hn
      cases hn
      decide
    · intro o t hm
      rw [← hg.mem_iff] at hm
      obtain ⟨rfl, rfl⟩ : o = .timeout ∧ t = "5" := by simpa [gs] using hm
      exact fun ho => absurd ho.head?_eq (by decide)
  exact (parse_written p spelling h gs [] (by simpa using hg)).1

end DesktopRefresh.CommandLine

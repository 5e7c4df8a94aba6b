import DesktopRefresh.Proofs.CommandLine.Grammar
import Mathlib.Data.List.Nodup

/-!
# What option groups say together

Groups with different names speak about different fields. So what they say about a field is what the one
group says that has its name (`findSome?_eq_some_iff`), in whatever order they stand (`ofGroups_perm`), and
a new group adds its own part and nothing else (`ofGroups_concat`).
-/

namespace DesktopRefresh.CommandLine

namespace Group

theorem name_of_timeout? (g : Group) (n : Nat) (h : g.timeout? = some n) : g.name = .value .timeout := by
  cases g with
  | dryRun => cases h
  | value o t s => cases o <;> first | rfl | cases h

theorem name_of_text? (o : ValueOption) (g : Group) (t : String) (h : g.text? o = some t) :
    g.name = .value o := by
  cases g with
  | dryRun => cases h
  | value o' t' s =>
    by_cases ho : o' = o
    · subst ho; rfl
    · simp [text?, ho] at h

/-! ## A field, as groups of one name set it -/

section
variable {α : Type} {k : Group → Option α} {n : LongName} (hk : ∀ g a, k g = some a → g.name = n)
variable {gs gs' : List Group}
include hk

theorem findSome?_eq_none (hn : n ∉ gs.map name) : gs.findSome? k = none := by
  rw [List.findSome?_eq_none_iff]
  intro g hg
  cases h : k g with
  | none => rfl
  | some a => exact absurd (List.mem_map.mpr ⟨g, hg, hk g a h⟩) hn

theorem findSome?_eq_some_iff (hn : (gs.map name).Nodup) (a : α) :
    gs.findSome? k = some a ↔ ∃ g ∈ gs, k g = some a := by
  constructor
  · exact List.exists_of_findSome?_eq_some
  · rintro ⟨g, hg, ha⟩
    cases h : gs.findSome? k with
    | none =>
      have := List.findSome?_eq_none_iff.mp h g hg
      rw [ha] at this
      cases this
    | some b =>
      obtain ⟨g', hg', hb⟩ := List.exists_of_findSome?_eq_some h
      have : g' = g := List.inj_on_of_nodup_map hn hg' hg ((hk g' b hb).trans (hk g a ha).symm)
      rw [← hb, this, ha]

theorem findSome?_perm (hn : (gs.map name).Nodup) (h : gs.Perm gs') : gs.findSome? k = gs'.findSome? k := by
  have hn' : (gs'.map name).Nodup := (h.map name).nodup_iff.mp hn
  apply Option.ext
  intro a
  rw [findSome?_eq_some_iff hk hn, findSome?_eq_some_iff hk hn']
  simp only [h.mem_iff]

/-- Groups at the end leave a field as it was exactly if they set it to its standard value only. -/
theorem getD_findSome?_append (hn : ((gs ++ gs').map name).Nodup) (d : α) :
    ((gs ++ gs').findSome? k).getD d = (gs.findSome? k).getD d ↔ ∀ g ∈ gs', ∀ a, k g = some a → a = d := by
  rw [List.map_append, List.nodup_append] at hn
  cases h : gs'.findSome? k with
  | none =>
    rw [List.findSome?_append, h, Option.or_none]
    refine ⟨fun _ g hg a ha => ?_, fun _ => rfl⟩
    rw [List.findSome?_eq_none_iff.mp h g hg] at ha
    cases ha
  | some a =>
    obtain ⟨g, hg, ha⟩ := List.exists_of_findSome?_eq_some h
    have hgs : gs.findSome? k = none := findSome?_eq_none hk fun hm =>
      hn.2.2 n hm g.name (List.mem_map_of_mem hg) (hk g a ha).symm
    rw [List.findSome?_append, hgs, h, Option.none_or, Option.getD_some, Option.getD_none]
    constructor
    · rintro rfl g' hg' a' ha'
      have h' := (findSome?_eq_some_iff hk hn.2.1 a').mpr ⟨g', hg', ha'⟩
      rw [h] at h'
      exact (Option.some.inj h').symm
    · intro hd
      exact hd g hg a ha

end

end Group

namespace Parsed

theorem ofGroups_perm {gs gs' : List Group} (hn : (gs.map Group.name).Nodup) (h : gs.Perm gs') :
    ofGroups gs = ofGroups gs' := by
  unfold ofGroups
  rw [Group.findSome?_perm Group.name_of_timeout? hn h,
    Group.findSome?_perm (Group.name_of_text? .iconCacheTool) hn h,
    Group.findSome?_perm (Group.name_of_text? .desktopDatabaseTool) hn h]
  have : gs.contains .dryRun = gs'.contains .dryRun := by
    rw [Bool.eq_iff_iff, List.contains_iff_mem, List.contains_iff_mem, h.mem_iff]
  rw [this]

/-! ## One group after the other -/

def add (p : Parsed) : Group → Parsed
  | .dryRun => { p with dryRun := true }
  | .value .timeout t _ => { p with timeout := (Decimal.read t).toOption }
  | .value .iconCacheTool t _ => { p with iconCacheTool := some t }
  | .value .desktopDatabaseTool t _ => { p with desktopDatabaseTool := some t }

theorem add_with (p : Parsed) (g : Group) (d : Option Bytes) (x : List Bytes) :
    { p with datadir := d, extra := x }.add g = { p.add g with datadir := d, extra := x } := by
  cases g with
  | dryRun => rfl
  | value o t s => cases o <;> rfl

theorem foldl_add_with (gs : List Group) (p : Parsed) (d : Option Bytes) (x : List Bytes) :
    gs.foldl add { p with datadir := d, extra := x } = { gs.foldl add p with datadir := d, extra := x } := by
  induction gs generalizing p with
  | nil => rfl
  | cons g gs ih => rw [List.foldl_cons, List.foldl_cons, add_with, ih]

theorem ofGroups_concat {gs : List Group} {g : Group} (hn : g.name ∉ gs.map Group.name) :
    ofGroups (gs ++ [g]) = (ofGroups gs).add g := by
  cases g with
  | dryRun => simp [ofGroups, add, List.findSome?_append, Group.timeout?, Group.text?]
  | value o t s =>
    cases o with
    | timeout =>
      have h := Group.findSome?_eq_none Group.name_of_timeout? hn
      simp [ofGroups, add, List.findSome?_append, Group.timeout?, Group.text?, h]
    | iconCacheTool =>
      have h := Group.findSome?_eq_none (Group.name_of_text? .iconCacheTool) hn
      simp [ofGroups, add, List.findSome?_append, Group.timeout?, Group.text?, h]
    | desktopDatabaseTool =>
      have h := Group.findSome?_eq_none (Group.name_of_text? .desktopDatabaseTool) hn
      simp [ofGroups, add, List.findSome?_append, Group.timeout?, Group.text?, h]

theorem foldl_add_ofGroups (gs gs' : List Group) (hn : ((gs ++ gs').map Group.name).Nodup) :
    gs'.foldl add (ofGroups gs) = ofGroups (gs ++ gs') := by
  induction gs' generalizing gs with
  | nil => simp
  | cons g gs' ih =>
    have hg : g.name ∉ gs.map Group.name := by
      rw [List.map_append, List.nodup_append] at hn
      exact fun h => hn.2.2 _ h _ (by simp) rfl
    rw [List.foldl_cons, ← ofGroups_concat hg, ih (gs ++ [g]) (by simpa using hn)]
    simp

/-- A group says nothing that the groups do not say that it is one of. -/
theorem add_ofGroups_of_mem {gs : List Group} {g : Group} (hn : (gs.map Group.name).Nodup)
    (hv : g.Valid) (hg : g ∈ gs) : (ofGroups gs).add g = ofGroups gs := by
  have text : ∀ o t s, g = .value o t s → gs.findSome? (Group.text? o) = some t := by
    rintro o t s rfl
    exact (Group.findSome?_eq_some_iff (Group.name_of_text? o) hn t).mpr ⟨_, hg, if_pos rfl⟩
  cases g with
  | dryRun => simp [add, ofGroups, hg]
  | value o t s =>
    cases o with
    | timeout =>
      obtain ⟨n, hd⟩ := hv.1 rfl
      have hr : (Decimal.read t).toOption = some n := by
        rw [(Decimal.read_eq_ok_iff t n).mpr hd]
        rfl
      have ht := (Group.findSome?_eq_some_iff Group.name_of_timeout? hn n).mpr ⟨_, hg, hr⟩
      rw [add, hr, ← ht]
      rfl
    | iconCacheTool =>
      rw [add, ← text _ t s rfl]
      rfl
    | desktopDatabaseTool =>
      rw [add, ← text _ t s rfl]
      rfl

/-! ## The configuration -/

theorem toConfig_eq (p : Parsed) (root : Option String) :
    p.toConfig root = ⟨p.datadir, root, p.dryRun, .ofSeconds (p.timeout.getD Config.standard.timeout.seconds),
      p.iconCacheTool.getD Config.standard.iconCacheTool,
      p.desktopDatabaseTool.getD Config.standard.desktopDatabaseTool⟩ := by
  unfold toConfig
  cases p.timeout <;> rfl

end Parsed

end DesktopRefresh.CommandLine

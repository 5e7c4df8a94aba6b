import DesktopRefresh.Trigger

/-!
# The commands of triggers

A relative directory is joined to the data directory with one `/` between the two, unless nothing or a `/`
stands in front of it. A built-in trigger therefore hands every byte of the data directory to its tool, with
its own directory behind them. So what is refreshed tells the data directory, up to one `/` at its end
(`command_identifies`).
-/

namespace DesktopRefresh

namespace Path

open Bytes (slash)

/-- What stands between a directory and what is joined to it. -/
def separator (base : Bytes) : Bytes := if base = [] ∨ base.getLast? = some slash then [] else [slash]

/-- The path names something and does not end in `/`. -/
def IsClosed (p : Bytes) : Prop := p ≠ [] ∧ p.getLast? ≠ some slash

theorem separator_of_closed {base : Bytes} (h : IsClosed base) : separator base = [slash] :=
  if_neg fun ho => ho.elim h.1 h.2

theorem separator_of_not_closed {base : Bytes} (h : ¬ IsClosed base) : separator base = [] := by
  unfold separator
  split
  · rfl
  · rename_i ho
    exact absurd (not_or.mp ho) h

theorem not_isClosed_append_slash (base : Bytes) : ¬ IsClosed (base ++ [slash]) := by
  intro h
  exact h.2 List.getLast?_concat

theorem isOpen_iff (base : Bytes) : isOpen base = true ↔ base = [] ∨ base.getLast? = some slash := by
  rw [isOpen, Bool.or_eq_true, List.isEmpty_iff, beq_iff_eq]

theorem join_of_relative (base : Bytes) {sub : Bytes} (h : isAbsolute sub = false) :
    join base sub = base ++ separator base ++ sub := by
  unfold join separator
  rw [h, if_neg Bool.false_ne_true]
  by_cases hb : base = [] ∨ base.getLast? = some slash
  · rw [if_pos ((isOpen_iff base).mpr hb), if_pos hb, List.append_nil]
  · rw [if_neg fun ho => hb ((isOpen_iff base).mp ho), if_neg hb, List.append_assoc]
    rfl

theorem isAbsolute_join (base : Bytes) {sub : Bytes} (h : isAbsolute sub = false) :
    isAbsolute (join base sub) = isAbsolute base := by
  rw [join_of_relative base h]
  cases base with
  | nil => exact h
  | cons b base => rfl

theorem append_separator_eq_iff (d₁ d₂ : Bytes) :
    d₁ ++ separator d₁ = d₂ ++ separator d₂ ↔
      d₁ = d₂ ∨ (IsClosed d₁ ∧ d₂ = d₁ ++ [slash]) ∨ (IsClosed d₂ ∧ d₁ = d₂ ++ [slash]) := by
  constructor
  · intro h
    by_cases h₁ : IsClosed d₁
    · by_cases h₂ : IsClosed d₂
      · rw [separator_of_closed h₁, separator_of_closed h₂] at h
        exact .inl (List.append_cancel_right h)
      · rw [separator_of_closed h₁, separator_of_not_closed h₂, List.append_nil] at h
        exact .inr (.inl ⟨h₁, h.symm⟩)
    · by_cases h₂ : IsClosed d₂
      · rw [separator_of_not_closed h₁, separator_of_closed h₂, List.append_nil] at h
        exact .inr (.inr ⟨h₂, h⟩)
      · rw [separator_of_not_closed h₁, separator_of_not_closed h₂, List.append_nil, List.append_nil] at h
        exact .inl h
  · have slashed : ∀ d, IsClosed d → d ++ separator d = d ++ [slash] ++ separator (d ++ [slash]) := by
      intro d hd
      rw [separator_of_closed hd, separator_of_not_closed (not_isClosed_append_slash d), List.append_nil]
    rintro (rfl | ⟨h, rfl⟩ | ⟨h, rfl⟩)
    · rfl
    · exact slashed d₁ h
    · exact (slashed d₂ h).symm

theorem join_eq_join_iff {sub : Bytes} (h : isAbsolute sub = false) (d₁ d₂ : Bytes) :
    join d₁ sub = join d₂ sub ↔
      d₁ = d₂ ∨ (IsClosed d₁ ∧ d₂ = d₁ ++ [slash]) ∨ (IsClosed d₂ ∧ d₁ = d₂ ++ [slash]) := by
  rw [join_of_relative d₁ h, join_of_relative d₂ h, List.append_left_inj, append_separator_eq_iff]

end Path

namespace Trigger

theorem command_iconCache (program : String) (datadir : Bytes) :
    (iconCache program).command datadir = ⟨program, [Bytes.ofString "-qtf",
      datadir ++ Path.separator datadir ++ Bytes.ofString "icons/hicolor"]⟩ := by
  rw [← Path.join_of_relative datadir (by decide)]
  rfl

theorem command_desktopDatabase (program : String) (datadir : Bytes) :
    (desktopDatabase program).command datadir = ⟨program, [Bytes.ofString "-q",
      datadir ++ Path.separator datadir ++ Bytes.ofString "applications"]⟩ := by
  rw [← Path.join_of_relative datadir (by decide)]
  rfl

/-- The directory of the trigger is relative to the data directory. -/
def IsRelative (t : Trigger) : Prop := Path.isAbsolute (Bytes.ofString t.subdir) = false

theorem isRelative_of_mem_builtin {icon desktop : String} {t : Trigger} (h : t ∈ builtin icon desktop) :
    t.IsRelative := by
  obtain rfl | h := List.mem_cons.mp h
  · exact (by decide : Path.isAbsolute (Bytes.ofString "icons/hicolor") = false)
  · obtain rfl := List.mem_singleton.mp h
    exact (by decide : Path.isAbsolute (Bytes.ofString "applications") = false)

/-- A command has the program and the arguments of its trigger and then the directory that is refreshed,
which begins with the data directory as it is. Two data directories lead to the same directory only if they
are the same but for one `/` at the end. -/
theorem command_identifies {t : Trigger} (h : t.IsRelative) :
    (∀ d, (t.command d).program = t.program ∧
      (t.command d).args = t.args.map Bytes.ofString ++ [t.target d] ∧
      (Path.IsClosed d → t.target d = d ++ Bytes.slash :: Bytes.ofString t.subdir) ∧
      (¬ Path.IsClosed d → t.target d = d ++ Bytes.ofString t.subdir) ∧
      Path.isAbsolute (t.target d) = Path.isAbsolute d) ∧
    Path.isAbsolute (t.target []) = false ∧
    ∀ d₁ d₂, t.target d₁ = t.target d₂ ↔
      d₁ = d₂ ∨ (Path.IsClosed d₁ ∧ d₂ = d₁ ++ [Bytes.slash]) ∨
        (Path.IsClosed d₂ ∧ d₁ = d₂ ++ [Bytes.slash]) := by
  refine ⟨fun d => ⟨rfl, rfl, ?_, ?_, Path.isAbsolute_join d h⟩, Path.isAbsolute_join [] h,
    Path.join_eq_join_iff h⟩
  · intro hd
    rw [target, Path.join_of_relative d h, Path.separator_of_closed hd, List.append_assoc]
    rfl
  · intro hd
    rw [target, Path.join_of_relative d h, Path.separator_of_not_closed hd, List.append_nil]

/-- A data directory that is no text, without a `/` at its end and with one, and a directory of its own with
two. -/
theorem command_identifies_undecodable :
    let t := iconCache "tool"
    let d : Bytes := [0x2F, 0xFF]
    t ∈ builtin "tool" "other" ∧ t.IsRelative ∧
      (t.command d).args = [Bytes.ofString "-qtf", 0x2F :: 0xFF :: 0x2F :: Bytes.ofString "icons/hicolor"] ∧
      t.target d = t.target (d ++ [Bytes.slash]) ∧
      t.target d ≠ t.target (d ++ [Bytes.slash, Bytes.slash]) := by
  intro t d
  have hm : t ∈ builtin "tool" "other" := List.mem_cons_self ..
  have ht := isRelative_of_mem_builtin hm
  have hd : Path.IsClosed d := by
    unfold Path.IsClosed
    decide
  obtain ⟨command, -, same⟩ := command_identifies ht
  obtain ⟨-, args, closed, -, -⟩ := command d
  rw [closed hd] at args
  refine ⟨hm, ht, args, (same _ _).mpr (.inr (.inl ⟨hd, rfl⟩)), ?_⟩
  rw [Ne, same]
  rintro (h | ⟨-, h⟩ | ⟨-, h⟩)
  · exact absurd h (by decide)
  · exact absurd h (by decide)
  · exact absurd h (by decide)

end Trigger

end DesktopRefresh

import DesktopRefresh.Text.Decimal

/-!
# Which texts are numbers

`read_eq_ok_iff`: a text is read as a number exactly if it stands for it, which is said by `Denotes`: some
digits, perhaps after a plus sign, whose value fits into 64 bits. So every such number can be read back
from its shortest form (`read_toString`).
-/

namespace DesktopRefresh.Decimal

theorem le_ofDigitChars (cs : List Char) (m : Nat) : m ≤ Nat.ofDigitChars 10 cs m := by
  induction cs generalizing m with
  | nil => simp
  | cons c cs ih =>
    rw [Nat.ofDigitChars_cons]
    exact Nat.le_trans (by omega) (ih _)

theorem pushDigit_eq_ok_iff (m : Nat) (c : Char) (n : Nat) :
    pushDigit m c = .ok n ↔ c.isDigit = true ∧ 10 * m + (c.toNat - 48) = n ∧ n < limit := by
  unfold pushDigit
  by_cases hc : c.isDigit
  · by_cases hl : m * 10 + (c.toNat - 48) < limit
    · simp only [hc, hl, if_true, Except.ok.injEq, true_and]
      omega
    · simp only [hc, hl, if_true, if_false, reduceCtorEq, true_and, false_iff]
      omega
  · simp [hc]

theorem foldlM_pushDigit_eq_ok_iff {m : Nat} (hm : m < limit) (cs : List Char) (n : Nat) :
    cs.foldlM pushDigit m = .ok n ↔
      (∀ c ∈ cs, c.isDigit = true) ∧ Nat.ofDigitChars 10 cs m = n ∧ n < limit := by
  induction cs generalizing m with
  | nil =>
    simp only [List.foldlM_nil, pure, Except.pure, Except.ok.injEq, Nat.ofDigitChars_nil, List.not_mem_nil,
      false_imp_iff, implies_true, true_and]
    omega
  | cons c cs ih =>
    rw [List.foldlM_cons, Nat.ofDigitChars_cons, List.forall_mem_cons]
    cases h : pushDigit m c with
    | ok k =>
      obtain ⟨hc, hk, hl⟩ := (pushDigit_eq_ok_iff m c k).mp h
      exact (ih hl).trans (by simp [hc, ← hk])
    | error e =>
      refine ⟨fun h' => by simp [bind, Except.bind] at h', ?_⟩
      rintro ⟨⟨hc, -⟩, hn, hl⟩
      -- a number that has become too large stays so
      have hle := le_ofDigitChars cs (10 * m + (c.toNat - '0'.toNat))
      have := (pushDigit_eq_ok_iff m c _).mpr ⟨hc, rfl, Nat.lt_of_le_of_lt (hn ▸ hle) hl⟩
      rw [h] at this
      cases this

/-- Digits, one at least, whose value fits. -/
def IsNumeral (ds : List Char) (n : Nat) : Prop :=
  ds ≠ [] ∧ (∀ c ∈ ds, c.isDigit = true) ∧ Nat.ofDigitChars 10 ds 0 = n ∧ n < limit

theorem readDigits_eq_ok_iff (cs : List Char) (n : Nat) : readDigits cs = .ok n ↔ IsNumeral cs n := by
  unfold readDigits IsNumeral
  cases cs with
  | nil => simp
  | cons c cs =>
    rw [if_neg (by simp), foldlM_pushDigit_eq_ok_iff (by decide)]
    simp

theorem not_isNumeral_plus (cs : List Char) (n : Nat) : ¬ IsNumeral ('+' :: cs) n := by
  rintro ⟨-, hd, -⟩
  exact absurd (hd '+' (List.mem_cons_self ..)) (by decide)

/-- A text stands for a number: a numeral, or one after a plus sign. -/
def Denotes (s : String) (n : Nat) : Prop :=
  IsNumeral s.toList n ∨ ∃ ds, s.toList = '+' :: ds ∧ IsNumeral ds n

theorem read_eq_ok_iff (s : String) (n : Nat) : read s = .ok n ↔ Denotes s n := by
  unfold read Denotes
  generalize s.toList = cs
  unfold readChars
  split
  · simp [IsNumeral]
  · rename_i ds
    rw [readDigits_eq_ok_iff]
    simp [not_isNumeral_plus]
  · rename_i hp
    rw [readDigits_eq_ok_iff]
    refine ⟨Or.inl, ?_⟩
    rintro (h | ⟨ds, rfl, -⟩)
    · exact h
    · exact absurd rfl (hp ds)

theorem isNumeral_toDigits {n : Nat} (h : n < limit) : IsNumeral (Nat.toDigits 10 n) n :=
  ⟨Nat.toDigits_ne_nil, fun _ hc => Nat.isDigit_of_mem_toDigits (by decide) (by decide) hc,
    Nat.ofDigitChars_ten_toDigits, h⟩

theorem read_toString {n : Nat} (h : n < limit) : read (toString n) = .ok n :=
  (read_eq_ok_iff _ n).mpr (.inl (by rw [Nat.toString_eq_repr, Nat.toList_repr]; exact isNumeral_toDigits h))

end DesktopRefresh.Decimal

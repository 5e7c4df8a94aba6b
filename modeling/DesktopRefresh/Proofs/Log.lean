import DesktopRefresh.Log.Filter
import DesktopRefresh.Proofs.Decoding
import Mathlib.Data.List.Basic

/-!
# Cuts of a directive

A directive is cut beside its marks, and just the places inside a character cannot be cut at (`splits_iff`). The
marks are ASCII characters, so that the places beside them lie between two characters of the text they were
searched in. But the cuts are made in another text if there are blanks in front. So a cut comes to lie inside a
character only if a directive begins with a blank and is not all ASCII (`exists_of_read_eq_split`).
-/

namespace DesktopRefresh

namespace Utf8

/-- A byte that begins no character. -/
def IsInner (b : UInt8) : Prop := 0x80 ≤ b ∧ b < 0xC0

theorem encode_cases (c : Char) :
    (c.toNat < 0x80 ∧ String.utf8EncodeChar c = [Bytes.ascii c]) ∨
      0x80 ≤ c.toNat ∧ ∃ lead rest, String.utf8EncodeChar c = lead :: rest ∧ 0xC0 ≤ lead ∧
        ∀ b ∈ rest, IsInner b := by
  have hin {k : Nat} (h : k < 64) : IsInner (.ofNat (0x80 + k)) := by
    have := toNat_ofNat_small (show 0x80 + k < 256 by omega)
    simp only [IsInner, UInt8.le_iff_toNat_le, UInt8.lt_iff_toNat_lt, this, UInt8.reduceToNat]
    omega
  have hlead {k : Nat} (h : 0xC0 ≤ k) (h' : k < 256) : (0xC0 : UInt8) ≤ .ofNat k := by
    rw [UInt8.le_iff_toNat_le, toNat_ofNat_small h']
    exact h
  by_cases h1 : c.toNat < 0x80
  · exact .inl ⟨h1, encode_ascii h1⟩
  refine .inr ⟨by omega, ?_⟩
  obtain ⟨v, hv, rfl⟩ : ∃ v, v.isValidChar ∧ Char.ofNat v = c := ⟨c.toNat, c.valid, Char.ofNat_toNat c⟩
  rw [toNat_charOfNat hv] at h1
  have hv' : v < 0x110000 ∧ (v < 0xD800 ∨ 0xDFFF < v) := by unfold Nat.isValidChar at hv; omega
  by_cases h2 : v < 0x800
  · refine ⟨_, _, encode_two (by omega) h2, hlead (by omega) (by omega), ?_⟩
    simp only [List.forall_mem_cons]
    exact ⟨hin (by omega), List.forall_mem_nil _⟩
  by_cases h3 : v < 0x10000
  · refine ⟨_, _, encode_three (by omega) h3 hv'.2, hlead (by omega) (by omega), ?_⟩
    simp only [List.forall_mem_cons]
    exact ⟨hin (by omega), hin (by omega), List.forall_mem_nil _⟩
  · refine ⟨_, _, encode_four (by omega) hv'.1, hlead (by omega) (by omega), ?_⟩
    simp only [List.forall_mem_cons]
    exact ⟨hin (by omega), hin (by omega), hin (by omega), List.forall_mem_nil _⟩

section
variable {c : Char} {k : Nat} {b : UInt8} (h : (String.utf8EncodeChar c)[k]? = some b)
include h

/-- All bytes of a character but the first are inside it. -/
theorem isInner_iff_of_encode : IsInner b ↔ k ≠ 0 := by
  obtain ⟨hc, he⟩ | ⟨-, lead, rest, he, hl, hr⟩ := encode_cases c
  · rw [he, List.getElem?_singleton] at h
    obtain ⟨rfl, h⟩ := Option.ite_none_right_eq_some.mp h
    obtain rfl := Option.some.inj h
    exact iff_of_false (fun hn => absurd (ascii_lt hc) (UInt8.not_lt.mpr hn.1)) fun hk => hk rfl
  · rw [he] at h
    cases k with
    | zero =>
      obtain rfl := Option.some.inj h
      exact iff_of_false (fun hn => absurd hn.2 (UInt8.not_lt.mpr hl)) fun hk => hk rfl
    | succ k => exact iff_of_true (hr b (List.mem_of_getElem? h)) (Nat.succ_ne_zero k)

/-- An ASCII byte is a character of its own. -/
theorem length_encode_of_ascii (hb : b < 0x80) : k = 0 ∧ (String.utf8EncodeChar c).length = 1 := by
  have hn : ¬ IsInner b := fun hn => absurd hb (UInt8.not_lt.mpr hn.1)
  have hk : k = 0 := Classical.not_not.mp ((isInner_iff_of_encode h).not.mp hn)
  refine ⟨hk, ?_⟩
  obtain ⟨-, he⟩ | ⟨-, lead, rest, he, hl, -⟩ := encode_cases c
  · rw [he]
    rfl
  · rw [he, hk] at h
    obtain rfl := Option.some.inj h
    exact absurd (UInt8.lt_of_lt_of_le hb (UInt8.le_trans (by decide) hl)) (UInt8.lt_irrefl _)

end

theorem ofChars_append (front back : List Char) :
    Bytes.ofChars (front ++ back) = Bytes.ofChars front ++ Bytes.ofChars back :=
  List.flatMap_append

theorem length_ofChars_concat (front : List Char) (c : Char) :
    (Bytes.ofChars (front ++ [c])).length = (Bytes.ofChars front).length + (String.utf8EncodeChar c).length := by
  rw [ofChars_append, List.length_append, Bytes.ofChars, Bytes.ofChars, List.flatMap_singleton]

/-- Every byte is one of some character. -/
theorem getElem?_ofChars_iff (cs : List Char) (i : Nat) (b : UInt8) :
    (Bytes.ofChars cs)[i]? = some b ↔ ∃ front c back k, cs = front ++ c :: back ∧
      i = (Bytes.ofChars front).length + k ∧ (String.utf8EncodeChar c)[k]? = some b := by
  have hcons (c : Char) (cs : List Char) : Bytes.ofChars (c :: cs) = String.utf8EncodeChar c ++ Bytes.ofChars cs :=
    rfl
  constructor
  · intro h
    induction cs generalizing i with
    | nil => cases h
    | cons c cs ih =>
      rw [hcons] at h
      by_cases hi : i < (String.utf8EncodeChar c).length
      · rw [List.getElem?_append_left hi] at h
        exact ⟨[], c, cs, i, rfl, (Nat.zero_add i).symm, h⟩
      · rw [List.getElem?_append_right (Nat.not_lt.mp hi)] at h
        obtain ⟨front, d, back, k, rfl, hk, hd⟩ := ih _ h
        refine ⟨c :: front, d, back, k, rfl, ?_, hd⟩
        rw [hcons, List.length_append]
        omega
  · rintro ⟨front, c, back, k, rfl, rfl, h⟩
    rw [ofChars_append, List.getElem?_append_right (Nat.le_add_right _ _), Nat.add_sub_cancel_left, hcons,
      List.getElem?_append_left (List.getElem?_eq_some_iff.mp h).1, h]

end Utf8

namespace Log

open Fault (orMalformed)

section
variable {α β : Type}

theorem Fault.orMalformed_ne (o : Option α) : orMalformed o ≠ .error .split := by
  cases o <;> nofun

theorem Fault.orMalformed_eq_ok {o : Option α} {a : α} : orMalformed o = .ok a ↔ o = some a := by
  cases o <;> simp [orMalformed]

theorem Fault.bind_ne {x : Except Fault α} {f : α → Except Fault β} (hx : x ≠ .error .split)
    (hf : ∀ a, x = .ok a → f a ≠ .error .split) : (x >>= f) ≠ .error .split := by
  cases x with
  | ok a => exact hf a rfl
  | error e =>
    intro h
    cases e with
    | malformed => cases h
    | split => exact hx rfl

theorem Fault.exists_of_mapM_eq_split {f : α → Except Fault β} {as : List α} (h : as.mapM f = .error .split) :
    ∃ a ∈ as, f a = .error .split := by
  induction as with
  | nil => cases h
  | cons a as ih =>
    by_contra hn
    simp only [List.mem_cons, exists_eq_or_imp, not_or] at hn
    rw [List.mapM_cons] at h
    refine bind_ne hn.1 (fun b _ => bind_ne (fun hr => hn.2 (ih hr)) fun bs _ hp => ?_) h
    cases hp

end

namespace Directive

/-- No cut beside a mark, nor one at the beginning, is inside a character. -/
structure Source.IsSteady (s : Source) : Prop where
  start : s.splits 0 = false
  mark {i : Nat} {b : UInt8} : s.at? i = some b → b < 0x80 → s.splits i = false ∧ s.splits (i + 1) = false

namespace Source

theorem splits_eq_true_iff (s : Source) (i : Nat) :
    s.splits i = true ↔ ∃ b, s.whole[i]? = some b ∧ Utf8.IsInner b := by
  unfold splits
  simp [Option.any_eq_true, Utf8.IsInner]

/-- Just the places between the bytes of one character cannot be cut at. -/
theorem splits_iff (cs : List Char) (i : Nat) :
    (ofChars cs).splits i = true ↔ ∃ front c back, cs = front ++ c :: back ∧
      (Bytes.ofChars front).length < i ∧ i < (Bytes.ofChars (front ++ [c])).length := by
  have hw : (ofChars cs).whole = Bytes.ofChars cs := rfl
  simp only [splits_eq_true_iff, hw, Utf8.getElem?_ofChars_iff, Utf8.length_ofChars_concat]
  constructor
  · rintro ⟨b, ⟨front, c, back, k, hc, rfl, hb⟩, hn⟩
    have := (Utf8.isInner_iff_of_encode hb).mp hn
    have := (List.getElem?_eq_some_iff.mp hb).1
    exact ⟨front, c, back, hc, by omega, by omega⟩
  · rintro ⟨front, c, back, hc, hlow, hhigh⟩
    have hk : i - (Bytes.ofChars front).length < (String.utf8EncodeChar c).length := by omega
    have hb := List.getElem?_eq_getElem hk
    exact ⟨_, ⟨front, c, back, _, hc, by omega, hb⟩, (Utf8.isInner_iff_of_encode hb).mpr (by omega)⟩

theorem splits_length (front back : List Char) :
    (ofChars (front ++ back)).splits (Bytes.ofChars front).length = false := by
  rw [← Bool.not_eq_true, splits_eq_true_iff]
  rintro ⟨b, hb, hn⟩
  change (Bytes.ofChars (front ++ back))[_]? = some b at hb
  rw [Utf8.ofChars_append, List.getElem?_append_right (Nat.le_refl _), Nat.sub_self] at hb
  obtain ⟨front', c, back', k, -, hk, hc⟩ := (Utf8.getElem?_ofChars_iff back 0 b).mp hb
  exact (Utf8.isInner_iff_of_encode hc).mp hn (by omega)

theorem isSteady_of_ascii {cs : List Char} (h : ∀ c ∈ cs, c.toNat < 0x80) : (ofChars cs).IsSteady := by
  have hs (i : Nat) : (ofChars cs).splits i = false := by
    rw [← Bool.not_eq_true, splits_iff]
    rintro ⟨front, c, back, rfl, hlow, hhigh⟩
    have hc : c.toNat < 0x80 := h c (List.mem_append_right _ List.mem_cons_self)
    rw [Utf8.length_ofChars_concat, Utf8.encode_ascii hc, List.length_singleton] at hhigh
    omega
  exact ⟨hs 0, fun _ _ => ⟨hs _, hs _⟩⟩

/-- Without blanks in front, a text begins with what is left of it between the blanks. -/
theorem isSteady_of_head {cs : List Char} (h : ∀ c, cs.head? = some c → Text.isBlank c = false) :
    (ofChars cs).IsSteady := by
  have hd : cs.dropWhile Text.isBlank = cs := by
    cases cs with
    | nil => rfl
    | cons c cs => rw [List.dropWhile_cons_of_neg (by rw [h c rfl]; exact Bool.false_ne_true)]
  have hp : Text.trimChars cs <+: cs := by
    rw [Text.trimChars, hd]
    have := List.dropWhile_suffix Text.isBlank (l := cs.reverse)
    rwa [← List.reverse_prefix, List.reverse_reverse] at this
  obtain ⟨tail, ht⟩ := hp
  refine ⟨splits_length [] cs, fun {i b} hm ha => ?_⟩
  have hm : (Bytes.ofChars (Text.trimChars cs))[i]? = some b := hm
  have hi : (Bytes.ofChars cs)[i]? = some b := by
    rw [← ht, Utf8.ofChars_append, List.getElem?_append_left (List.getElem?_eq_some_iff.mp hm).1, hm]
  obtain ⟨front, c, back, k, hc, rfl, hb⟩ := (Utf8.getElem?_ofChars_iff cs i b).mp hi
  obtain ⟨rfl, hl⟩ := Utf8.length_encode_of_ascii hb ha
  have hnext := splits_length (front ++ [c]) back
  rw [List.append_assoc, List.singleton_append, Utf8.length_ofChars_concat, hl, ← hc] at hnext
  refine ⟨?_, hnext⟩
  rw [hc]
  exact splits_length front (c :: back)

section
variable {s : Source} {start stop : Nat}

theorem between_ne (h : s.splits start = false) (h' : s.splits stop = false) :
    s.between start stop ≠ .error .split := by
  rw [between, h, h']
  nofun

theorem after_ne (h : s.splits start = false) : s.after start ≠ .error .split := by
  rw [after, h]
  nofun

theorem at?_of_find? {mark other : UInt8} {i : Nat} (h : s.find? mark other start = some i) :
    s.at? i = some mark ∨ s.at? i = some other := by
  obtain ⟨j, hj, rfl⟩ := Option.map_eq_some_iff.mp h
  obtain ⟨hl, hm, -⟩ := List.findIdx?_eq_some_iff_getElem.mp hj
  have ha : s.at? (j + start) = some (s.trimmed.drop start)[j] := by
    rw [at?, Nat.add_comm, ← List.getElem?_drop, List.getElem?_eq_getElem hl]
  rw [ha]
  simpa using hm

theorem IsSteady.splits_of_find? (h : s.IsSteady) {mark other : UInt8} (hm : mark < 0x80) (ho : other < 0x80)
    {i : Nat} (hi : s.find? mark other start = some i) : s.splits i = false ∧ s.splits (i + 1) = false := by
  obtain hi | hi := at?_of_find? hi
  · exact h.mark hi hm
  · exact h.mark hi ho

end

end Source

theorem readLimit_ne (bs : Bytes) : readLimit bs ≠ .error .split := by
  unfold readLimit
  split
  · nofun
  · exact Fault.orMalformed_ne _

theorem fieldPattern_ne (bs : Bytes) : fieldPattern bs ≠ .error .split := by
  unfold fieldPattern
  split
  · split <;> nofun
  · nofun

section
variable {s : Source} (h : s.IsSteady)
include h

theorem readEnd_ne (d : Directive) (i : Nat) : readEnd s d i ≠ .error .split := by
  unfold readEnd
  cases hb : s.at? i with
  | none => nofun
  | some b =>
    dsimp only
    split
    · next he =>
      have ha := (h.mark hb (by rw [he]; decide)).2
      refine Fault.bind_ne (Source.after_ne ha) fun _ _ => Fault.bind_ne (readLimit_ne _) fun _ _ => ?_
      nofun
    · nofun

theorem readSpan_ne (target : Option Bytes) {start : Nat} (hs : s.splits start = false) :
    readSpan s target start ≠ .error .split := by
  unfold readSpan
  refine Fault.bind_ne (Fault.orMalformed_ne _) fun i hi => ?_
  obtain ⟨hi, hi'⟩ := h.splits_of_find? (by decide) (by decide) (Fault.orMalformed_eq_ok.mp hi)
  refine Fault.bind_ne (Source.between_ne hs hi) fun span _ => ?_
  split
  · exact readEnd_ne h _ _
  refine Fault.bind_ne (Fault.orMalformed_ne _) fun j hj => ?_
  obtain ⟨hj, -⟩ := h.splits_of_find? (by decide) (by decide) (Fault.orMalformed_eq_ok.mp hj)
  refine Fault.bind_ne (Source.between_ne hi' hj) fun field _ => ?_
  split
  · nofun
  · exact Fault.bind_ne (fieldPattern_ne _) fun pattern _ => readEnd_ne h _ _

theorem readTarget_ne : readTarget s ≠ .error .split := by
  unfold readTarget
  cases hi : s.find? equals opening 0 with
  | none =>
    dsimp only
    split <;> nofun
  | some i =>
    obtain ⟨hi, hi'⟩ := h.splits_of_find? (by decide) (by decide) hi
    refine Fault.bind_ne (Source.between_ne h.start hi) fun target _ => ?_
    split
    · refine Fault.bind_ne (Source.after_ne hi') fun _ _ => Fault.bind_ne (readLimit_ne _) fun _ _ => ?_
      nofun
    · exact readSpan_ne h _ hi'

end

theorem read_ne {cs : List Char} (h : (Source.ofChars cs).IsSteady) : read cs ≠ .error .split := by
  unfold read
  cases hc : (Text.trimChars cs).head? with
  | none => nofun
  | some c =>
    dsimp only
    split
    · next hb =>
      have ha : (Source.ofChars cs).at? 0 = some opening := by
        obtain ⟨rest, hr⟩ := List.head?_eq_some_iff.mp hc
        rw [Source.ofChars, hr, hb]
        rfl
      exact readSpan_ne h none (h.mark ha (by decide)).2
    · split
      · exact readTarget_ne h
      · nofun

end Directive

namespace Filter

theorem exists_of_read_eq_split {text : String} (h : read text = .error .split) :
    ∃ part ∈ splitAtCommas text.toList, (∃ c, part.head? = some c ∧ Text.isBlank c = true) ∧
      ∃ c ∈ part, 0x80 ≤ c.toNat := by
  have hm : ((splitAtCommas text.toList).filter (!·.isEmpty)).mapM Directive.read = .error .split := by
    by_contra hn
    refine Fault.bind_ne hn (fun ds _ => ?_) h
    split <;> nofun
  obtain ⟨part, hp, hr⟩ := Fault.exists_of_mapM_eq_split hm
  refine ⟨part, (List.mem_filter.mp hp).1, ?_, ?_⟩
  · by_contra hn
    refine Directive.read_ne (Directive.Source.isSteady_of_head fun c hc => ?_) hr
    exact Bool.eq_false_iff.mpr fun hb => hn ⟨c, hc, hb⟩
  · by_contra hn
    refine Directive.read_ne (Directive.Source.isSteady_of_ascii fun c hc => ?_) hr
    exact Nat.not_le.mp fun hl => hn ⟨c, hc, hl⟩

end Filter

end Log

end DesktopRefresh

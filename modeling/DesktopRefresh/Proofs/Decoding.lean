import DesktopRefresh.Text.Utf8

/-!
# Nothing is lost in decoding

`flatMap_bytes_pieces`: the bytes of the pieces are the bytes that were read. `pieces_ofChars`: an
encoded text is read back as its characters. Together they say which byte strings are text
(`decode?_eq_some_iff`), and that only the empty byte string is read as the empty text
(`lossy_eq_empty_iff`).
-/

namespace DesktopRefresh.Utf8

/-! ## Encodings by their length -/

theorem toNat_charOfNat {v : Nat} (h : v.isValidChar) : (Char.ofNat v).toNat = v := by
  unfold Char.ofNat
  rw [dif_pos h]
  rfl

theorem toNat_ofNat_small {n : Nat} (h : n < 256) : (UInt8.ofNat n).toNat = n := by
  rw [UInt8.toNat_ofNat']
  exact Nat.mod_eq_of_lt h

theorem encode_one {v : Nat} (h : v < 0x80) : String.utf8EncodeChar (Char.ofNat v) = [.ofNat v] := by
  have hv : (Char.ofNat v).val.toNat = v := toNat_charOfNat (Or.inl (by omega))
  simp [String.utf8EncodeChar, hv, show v ≤ 127 by omega]

theorem encode_two {v : Nat} (h : 0x80 ≤ v) (h' : v < 0x800) :
    String.utf8EncodeChar (Char.ofNat v) = [.ofNat (0xC0 + v / 64), .ofNat (0x80 + v % 64)] := by
  have hv : (Char.ofNat v).val.toNat = v := toNat_charOfNat (Or.inl (by omega))
  have hlead : v / 64 % 32 + 192 = 192 + v / 64 := by omega
  simp only [String.utf8EncodeChar, hv, show ¬ v ≤ 127 by omega, show v ≤ 2047 by omega, ite_false, ite_true,
    hlead, Nat.add_comm (v % 64)]

theorem encode_three {v : Nat} (h : 0x800 ≤ v) (h' : v < 0x10000) (hs : v < 0xD800 ∨ 0xDFFF < v) :
    String.utf8EncodeChar (Char.ofNat v) =
      [.ofNat (0xE0 + v / 4096), .ofNat (0x80 + v / 64 % 64), .ofNat (0x80 + v % 64)] := by
  have hv : (Char.ofNat v).val.toNat = v := toNat_charOfNat (by unfold Nat.isValidChar; omega)
  have hlead : v / 4096 % 16 + 224 = 224 + v / 4096 := by omega
  simp only [String.utf8EncodeChar, hv, show ¬ v ≤ 127 by omega, show ¬ v ≤ 2047 by omega,
    show v ≤ 65535 by omega, ite_false, ite_true, hlead, Nat.add_comm (v / 64 % 64), Nat.add_comm (v % 64)]

theorem encode_four {v : Nat} (h : 0x10000 ≤ v) (h' : v < 0x110000) :
    String.utf8EncodeChar (Char.ofNat v) =
      [.ofNat (0xF0 + v / 262144), .ofNat (0x80 + v / 4096 % 64), .ofNat (0x80 + v / 64 % 64),
        .ofNat (0x80 + v % 64)] := by
  have hv : (Char.ofNat v).val.toNat = v := toNat_charOfNat (Or.inr (by omega))
  have hlead : v / 262144 % 8 + 240 = 240 + v / 262144 := by omega
  simp only [String.utf8EncodeChar, hv, show ¬ v ≤ 127 by omega, show ¬ v ≤ 2047 by omega,
    show ¬ v ≤ 65535 by omega, ite_false, hlead, Nat.add_comm (v / 4096 % 64), Nat.add_comm (v / 64 % 64),
    Nat.add_comm (v % 64)]

theorem ofNat_eq_of_toNat {b : UInt8} {n : Nat} (h : b.toNat = n) : UInt8.ofNat n = b := by
  rw [← h, UInt8.ofNat_toNat]

/-! ## The character under way -/

/-- What was read of a character begins its encoding, and within the bounds of the next byte no overlong
form, no surrogate and nothing above U+10FFFF can come of it. -/
inductive Begun.Sound : Begun → Prop where
  | lead2 {a : UInt8} {x : Nat} : a.toNat = 0xC0 + x → 2 ≤ x → x < 32 → Sound ⟨[a], x, 1, 0x80, 0xBF⟩
  | lead3 {a low high : UInt8} {x : Nat} : a.toNat = 0xE0 + x → x < 16 → 0x80 ≤ low.toNat →
      high.toNat ≤ 0xBF → (x = 0 → 0xA0 ≤ low.toNat) → (x = 13 → high.toNat ≤ 0x9F) →
      Sound ⟨[a], x, 2, low, high⟩
  | mid3 {a b : UInt8} {y : Nat} : a.toNat = 0xE0 + y / 64 → b.toNat = 0x80 + y % 64 → 32 ≤ y → y < 1024 →
      (y < 864 ∨ 896 ≤ y) → Sound ⟨[a, b], y, 1, 0x80, 0xBF⟩
  | lead4 {a low high : UInt8} {x : Nat} : a.toNat = 0xF0 + x → x ≤ 4 → 0x80 ≤ low.toNat → high.toNat ≤ 0xBF →
      (x = 0 → 0x90 ≤ low.toNat) → (x = 4 → high.toNat ≤ 0x8F) → Sound ⟨[a], x, 3, low, high⟩
  | mid4 {a b : UInt8} {y : Nat} : a.toNat = 0xF0 + y / 64 → b.toNat = 0x80 + y % 64 → 16 ≤ y → y < 272 →
      Sound ⟨[a, b], y, 2, 0x80, 0xBF⟩
  | late4 {a b c : UInt8} {z : Nat} : a.toNat = 0xF0 + z / 4096 → b.toNat = 0x80 + z / 64 % 64 →
      c.toNat = 0x80 + z % 64 → 1024 ≤ z → z < 17408 → Sound ⟨[a, b, c], z, 1, 0x80, 0xBF⟩

theorem sound_of_ofLead? {b : UInt8} {p : Begun} (h : Begun.ofLead? b = some p) : p.Sound := by
  simp only [Begun.ofLead?, UInt8.le_iff_toNat_le, ← UInt8.toNat_inj, UInt8.reduceToNat] at h
  split at h
  · cases h; exact .lead2 (by omega) (by omega) (by omega)
  split at h
  · cases h; exact .lead3 (by omega) (by omega) (by decide) (by decide) (by decide) (by decide)
  split at h
  · cases h; exact .lead3 (by omega) (by omega) (by decide) (by decide) (by decide) (by decide)
  split at h
  · cases h; exact .lead3 (by omega) (by omega) (by decide) (by decide) (by omega) (by omega)
  split at h
  · cases h; exact .lead4 (by omega) (by omega) (by decide) (by decide) (by decide) (by decide)
  split at h
  · cases h; exact .lead4 (by omega) (by omega) (by decide) (by decide) (by decide) (by decide)
  split at h
  · cases h; exact .lead4 (by omega) (by omega) (by decide) (by decide) (by omega) (by omega)
  cases h

theorem seen_of_ofLead? {b : UInt8} {p : Begun} (h : Begun.ofLead? b = some p) : p.seen = [b] := by
  unfold Begun.ofLead? at h
  split at h; · cases h; rfl
  split at h; · cases h; rfl
  split at h; · cases h; rfl
  split at h; · cases h; rfl
  split at h; · cases h; rfl
  split at h; · cases h; rfl
  split at h; · cases h; rfl
  cases h

section
variable {p : Begun} {b : UInt8} (hp : p.Sound) (hlow : p.low ≤ b) (hhigh : b ≤ p.high)
include hp hlow hhigh

theorem Begun.Sound.next (hm : p.missing ≠ 1) :
    Begun.Sound ⟨p.seen ++ [b], p.value * 64 + (b.toNat - 0x80), p.missing - 1, 0x80, 0xBF⟩ := by
  rw [UInt8.le_iff_toNat_le] at hlow hhigh
  cases hp with
  | lead2 => exact absurd rfl hm
  | lead3 =>
    dsimp only at hlow hhigh ⊢
    exact .mid3 (by omega) (by omega) (by omega) (by omega) (by omega)
  | mid3 => exact absurd rfl hm
  | lead4 =>
    dsimp only at hlow hhigh ⊢
    exact .mid4 (by omega) (by omega) (by omega) (by omega)
  | mid4 =>
    simp only [UInt8.reduceToNat] at hlow hhigh ⊢
    exact .late4 (by omega) (by omega) (by omega) (by omega) (by omega)
  | late4 => exact absurd rfl hm

theorem Begun.Sound.encode (hm : p.missing = 1) :
    String.utf8EncodeChar (Char.ofNat (p.value * 64 + (b.toNat - 0x80))) = p.seen ++ [b] := by
  rw [UInt8.le_iff_toNat_le] at hlow hhigh
  cases hp with
  | lead2 ha =>
    simp only [UInt8.reduceToNat] at hlow hhigh ⊢
    rw [encode_two (by omega) (by omega), ofNat_eq_of_toNat (ha.trans (by omega)),
      ofNat_eq_of_toNat (b := b) (by omega)]
    rfl
  | lead3 => simp at hm
  | mid3 ha hb =>
    simp only [UInt8.reduceToNat] at hlow hhigh ⊢
    rw [encode_three (by omega) (by omega) (by omega), ofNat_eq_of_toNat (ha.trans (by omega)),
      ofNat_eq_of_toNat (hb.trans (by omega)), ofNat_eq_of_toNat (b := b) (by omega)]
    rfl
  | lead4 => simp at hm
  | mid4 => simp at hm
  | late4 ha hb hc =>
    simp only [UInt8.reduceToNat] at hlow hhigh ⊢
    rw [encode_four (by omega) (by omega), ofNat_eq_of_toNat (ha.trans (by omega)),
      ofNat_eq_of_toNat (hb.trans (by omega)), ofNat_eq_of_toNat (hc.trans (by omega)),
      ofNat_eq_of_toNat (b := b) (by omega)]
    rfl

end

/-! ## Bytes are kept -/

namespace Decoder

def Sound (d : Decoder) : Prop := ∀ p, d.begun = some p → p.Sound

theorem sound_between (done : List Piece) : (⟨done, none⟩ : Decoder).Sound := by
  intro p hp
  cases hp

/-- Everything read so far: the bytes of the pieces, and of the character under way. -/
def bytes (d : Decoder) : Bytes := d.done.reverse.flatMap Piece.bytes ++ (d.begun.map Begun.seen).getD []

theorem enter_spec (done : List Piece) (b : UInt8) :
    (enter done b).Sound ∧ (enter done b).bytes = done.reverse.flatMap Piece.bytes ++ [b] := by
  unfold enter
  split
  · rename_i h
    refine ⟨sound_between _, ?_⟩
    have he : String.utf8EncodeChar (Char.ofNat b.toNat) = [b] := by
      rw [encode_one (UInt8.lt_iff_toNat_lt.mp h), UInt8.ofNat_toNat]
    simp [bytes, Piece.bytes, he]
  · cases hl : Begun.ofLead? b with
    | none => exact ⟨sound_between _, by simp [bytes, Piece.bytes]⟩
    | some p =>
      refine ⟨fun q hq => ?_, by simp [bytes, seen_of_ofLead? hl]⟩
      cases hq
      exact sound_of_ofLead? hl

theorem push_spec {d : Decoder} (hd : d.Sound) (b : UInt8) :
    (d.push b).Sound ∧ (d.push b).bytes = d.bytes ++ [b] := by
  obtain ⟨done, begun⟩ := d
  cases begun with
  | none =>
    have := enter_spec done b
    simpa [push, bytes] using this
  | some p =>
    have hp := hd p rfl
    simp only [push]
    split
    · rename_i hb
      split
      · rename_i hm
        have he := hp.encode hb.1 hb.2 hm
        exact ⟨sound_between _, by simp [bytes, Piece.bytes, he]⟩
      · rename_i hm
        refine ⟨fun q hq => ?_, by simp [bytes]⟩
        cases hq
        exact hp.next hb.1 hb.2 hm
    · have := enter_spec (.junk p.seen :: done) b
      simpa [bytes, Piece.bytes] using this

theorem foldl_push_spec {d : Decoder} (hd : d.Sound) (bs : Bytes) :
    (bs.foldl push d).Sound ∧ (bs.foldl push d).bytes = d.bytes ++ bs := by
  induction bs generalizing d with
  | nil => exact ⟨hd, by simp⟩
  | cons b bs ih =>
    obtain ⟨hs, hb⟩ := push_spec hd b
    obtain ⟨hs', hb'⟩ := ih hs
    exact ⟨hs', by rw [List.foldl_cons, hb', hb, List.append_assoc, List.singleton_append]⟩

theorem flatMap_bytes_finish (d : Decoder) : d.finish.flatMap Piece.bytes = d.bytes := by
  obtain ⟨done, begun⟩ := d
  cases begun with
  | none => simp [finish, bytes]
  | some p => simp [finish, bytes, Piece.bytes]

end Decoder

/-- Decoding loses no byte and invents none. -/
theorem flatMap_bytes_pieces (bs : Bytes) : (pieces bs).flatMap Piece.bytes = bs := by
  rw [pieces, Decoder.flatMap_bytes_finish, (Decoder.foldl_push_spec (Decoder.sound_between []) bs).2]
  rfl

/-! ## Text is read back -/

theorem ofLead?_two {a : UInt8} {x : Nat} (ha : a.toNat = 0xC0 + x) (hx : 2 ≤ x) (hx' : x < 32) :
    Begun.ofLead? a = some ⟨[a], x, 1, 0x80, 0xBF⟩ := by
  simp only [Begun.ofLead?, UInt8.le_iff_toNat_le, UInt8.reduceToNat]
  rw [if_pos (by omega), show a.toNat - 0xC0 = x by omega]

theorem ofLead?_three {a b : UInt8} {x : Nat} (ha : a.toNat = 0xE0 + x) (hx : x < 16) (hb : 0x80 ≤ b.toNat)
    (hb' : b.toNat ≤ 0xBF) (h0 : x = 0 → 0xA0 ≤ b.toNat) (h13 : x = 13 → b.toNat ≤ 0x9F) :
    ∃ low high, Begun.ofLead? a = some ⟨[a], x, 2, low, high⟩ ∧ low ≤ b ∧ b ≤ high := by
  simp only [Begun.ofLead?, UInt8.le_iff_toNat_le, ← UInt8.toNat_inj, UInt8.reduceToNat]
  rw [if_neg (by omega)]
  by_cases hz : x = 0
  · subst hz
    exact ⟨0xA0, 0xBF, by rw [if_pos (by omega)], h0 rfl, hb'⟩
  by_cases hs : x = 13
  · subst hs
    exact ⟨0x80, 0x9F, by rw [if_neg (by omega), if_pos (by omega)], hb, h13 rfl⟩
  refine ⟨0x80, 0xBF, ?_, hb, hb'⟩
  rw [if_neg (by omega), if_neg (by omega), if_pos (by omega), show a.toNat - 0xE0 = x by omega]

theorem ofLead?_four {a b : UInt8} {x : Nat} (ha : a.toNat = 0xF0 + x) (hx : x ≤ 4) (hb : 0x80 ≤ b.toNat)
    (hb' : b.toNat ≤ 0xBF) (h0 : x = 0 → 0x90 ≤ b.toNat) (h4 : x = 4 → b.toNat ≤ 0x8F) :
    ∃ low high, Begun.ofLead? a = some ⟨[a], x, 3, low, high⟩ ∧ low ≤ b ∧ b ≤ high := by
  simp only [Begun.ofLead?, UInt8.le_iff_toNat_le, ← UInt8.toNat_inj, UInt8.reduceToNat]
  rw [if_neg (by omega), if_neg (by omega), if_neg (by omega), if_neg (by omega)]
  by_cases hz : x = 0
  · subst hz
    exact ⟨0x90, 0xBF, by rw [if_pos (by omega)], h0 rfl, hb'⟩
  by_cases hs : x = 4
  · subst hs
    exact ⟨0x80, 0x8F, by rw [if_neg (by omega), if_pos (by omega)], hb, h4 rfl⟩
  refine ⟨0x80, 0xBF, ?_, hb, hb'⟩
  rw [if_neg (by omega), if_neg (by omega), if_pos (by omega), show a.toNat - 0xF0 = x by omega]

namespace Decoder

theorem enter_lead {done : List Piece} {a : UInt8} {p : Begun} (ha : 0x80 ≤ a.toNat)
    (h : Begun.ofLead? a = some p) : enter done a = ⟨done, some p⟩ := by
  have : ¬ a < 0x80 := UInt8.not_lt.mpr (UInt8.le_iff_toNat_le.mpr ha)
  simp [enter, this, h]

theorem push_last {done : List Piece} {p : Begun} {b : UInt8} (hlow : p.low ≤ b) (hhigh : b ≤ p.high)
    (hm : p.missing = 1) :
    push ⟨done, some p⟩ b = ⟨.char (Char.ofNat (p.value * 64 + (b.toNat - 0x80))) :: done, none⟩ := by
  simp [push, hlow, hhigh, hm]

theorem push_more {done : List Piece} {p : Begun} {b : UInt8} (hlow : p.low ≤ b) (hhigh : b ≤ p.high)
    (hm : p.missing ≠ 1) :
    push ⟨done, some p⟩ b =
      ⟨done, some ⟨p.seen ++ [b], p.value * 64 + (b.toNat - 0x80), p.missing - 1, 0x80, 0xBF⟩⟩ := by
  simp [push, hlow, hhigh, hm]

theorem isContinuation {k : Nat} (h : k < 64) :
    (0x80 : UInt8) ≤ .ofNat (0x80 + k) ∧ .ofNat (0x80 + k) ≤ (0xBF : UInt8) := by
  simp only [UInt8.le_iff_toNat_le, toNat_ofNat_small (show 0x80 + k < 256 by omega), UInt8.reduceToNat]
  omega

theorem foldl_push_char (done : List Piece) (c : Char) :
    (String.utf8EncodeChar c).foldl push ⟨done, none⟩ = ⟨.char c :: done, none⟩ := by
  obtain ⟨v, hv, rfl⟩ : ∃ v, v.isValidChar ∧ Char.ofNat v = c := ⟨c.toNat, c.valid, Char.ofNat_toNat c⟩
  have hv' : v < 0x110000 ∧ (v < 0xD800 ∨ 0xDFFF < v) := by unfold Nat.isValidChar at hv; omega
  by_cases h1 : v < 0x80
  · have e := toNat_ofNat_small (show v < 256 by omega)
    have : UInt8.ofNat v < 0x80 := by rw [UInt8.lt_iff_toNat_lt, e]; exact h1
    simp [encode_one h1, push, enter, this, e]
  by_cases h2 : v < 0x800
  · have e := toNat_ofNat_small (show 0xC0 + v / 64 < 256 by omega)
    have e' := toNat_ofNat_small (show 0x80 + v % 64 < 256 by omega)
    obtain ⟨hl, hh⟩ := isContinuation (show v % 64 < 64 by omega)
    rw [encode_two (by omega) h2]
    simp only [List.foldl_cons, List.foldl_nil]
    rw [show push ⟨done, none⟩ _ = _ from enter_lead (by omega) (ofLead?_two e (by omega) (by omega)),
      push_last hl hh rfl, e', show v / 64 * 64 + (0x80 + v % 64 - 0x80) = v by omega]
  by_cases h3 : v < 0x10000
  · have e := toNat_ofNat_small (show 0xE0 + v / 4096 < 256 by omega)
    have e' := toNat_ofNat_small (show 0x80 + v / 64 % 64 < 256 by omega)
    have e'' := toNat_ofNat_small (show 0x80 + v % 64 < 256 by omega)
    obtain ⟨hl, hh⟩ := isContinuation (show v % 64 < 64 by omega)
    obtain ⟨low, high, hp, hl', hh'⟩ := ofLead?_three (b := .ofNat (0x80 + v / 64 % 64)) e (by omega)
      (by omega) (by omega) (by omega) (by omega)
    rw [encode_three (by omega) h3 hv'.2]
    simp only [List.foldl_cons, List.foldl_nil]
    rw [show push ⟨done, none⟩ _ = _ from enter_lead (by omega) hp, push_more hl' hh' (by simp),
      push_last hl hh rfl, e', e'',
      show (v / 4096 * 64 + (0x80 + v / 64 % 64 - 0x80)) * 64 + (0x80 + v % 64 - 0x80) = v by omega]
  · have e := toNat_ofNat_small (show 0xF0 + v / 262144 < 256 by omega)
    have e1 := toNat_ofNat_small (show 0x80 + v / 4096 % 64 < 256 by omega)
    have e2 := toNat_ofNat_small (show 0x80 + v / 64 % 64 < 256 by omega)
    have e3 := toNat_ofNat_small (show 0x80 + v % 64 < 256 by omega)
    obtain ⟨hl2, hh2⟩ := isContinuation (show v / 64 % 64 < 64 by omega)
    obtain ⟨hl3, hh3⟩ := isContinuation (show v % 64 < 64 by omega)
    obtain ⟨low, high, hp, hl1, hh1⟩ := ofLead?_four (b := .ofNat (0x80 + v / 4096 % 64)) e (by omega)
      (by omega) (by omega) (by omega) (by omega)
    rw [encode_four (by omega) hv'.1]
    simp only [List.foldl_cons, List.foldl_nil]
    rw [show push ⟨done, none⟩ _ = _ from enter_lead (by omega) hp, push_more hl1 hh1 (by simp),
      push_more hl2 hh2 (by simp), push_last hl3 hh3 rfl, e1, e2, e3,
      show ((v / 262144 * 64 + (0x80 + v / 4096 % 64 - 0x80)) * 64 + (0x80 + v / 64 % 64 - 0x80)) * 64 +
        (0x80 + v % 64 - 0x80) = v by omega]

theorem foldl_push_chars (done : List Piece) (cs : List Char) :
    (Bytes.ofChars cs).foldl push ⟨done, none⟩ = ⟨(cs.map .char).reverse ++ done, none⟩ := by
  induction cs generalizing done with
  | nil => rfl
  | cons c cs ih =>
    rw [Bytes.ofChars, List.flatMap_cons, List.foldl_append, foldl_push_char]
    exact (ih _).trans (by simp)

end Decoder

theorem pieces_ofChars (cs : List Char) : pieces (Bytes.ofChars cs) = cs.map .char := by
  simp [pieces, Decoder.foldl_push_chars, Decoder.finish]

/-! ## Which byte strings are text -/

theorem mapM_char? (ps : List Piece) (cs : List Char) :
    ps.mapM Piece.char? = some cs ↔ ps = cs.map .char := by
  induction ps generalizing cs with
  | nil => cases cs <;> simp
  | cons p ps ih =>
    cases p with
    | char c =>
      cases cs with
      | nil => simp [Piece.char?, Option.bind_eq_some_iff]
      | cons d ds =>
        simp only [List.mapM_cons, Piece.char?, List.map_cons, List.cons.injEq, Piece.char.injEq]
        rw [← ih ds]
        cases ps.mapM Piece.char? <;> simp
    | junk bs => cases cs <;> simp [Piece.char?]

theorem decode?_eq_some_iff (bs : Bytes) (s : String) : decode? bs = some s ↔ Bytes.ofString s = bs := by
  constructor
  · intro h
    obtain ⟨cs, hcs, rfl⟩ := Option.map_eq_some_iff.mp h
    have hp := (mapM_char? _ _).mp hcs
    calc Bytes.ofString (String.ofList cs) = (cs.map Piece.char).flatMap Piece.bytes := by
          simp [Bytes.ofString, Bytes.ofChars, List.flatMap_map, Piece.bytes]
      _ = bs := by rw [← hp, flatMap_bytes_pieces]
  · rintro rfl
    have hp : (pieces (Bytes.ofString s)).mapM Piece.char? = some s.toList :=
      (mapM_char? _ _).mpr (pieces_ofChars s.toList)
    rw [decode?, hp, Option.map_some, String.ofList_toList]

theorem decode?_ofString (s : String) : decode? (Bytes.ofString s) = some s :=
  (decode?_eq_some_iff _ s).mpr rfl

theorem ofString_injective : Function.Injective Bytes.ofString := by
  intro s t h
  have := decode?_ofString s
  rw [h, decode?_ofString] at this
  exact (Option.some.inj this).symm

theorem isText_iff (bs : Bytes) : isText bs = true ↔ ∃ s, Bytes.ofString s = bs := by
  simp only [isText, Option.isSome_iff_exists, decode?_eq_some_iff]

/-! ## ASCII bytes cut -/

theorem Begun.Sound.low_le {p : Begun} (hp : p.Sound) : 0x80 ≤ p.low.toNat := by
  cases hp with
  | lead3 _ _ hlow => exact hlow
  | lead4 _ _ hlow => exact hlow
  | lead2 | mid3 | mid4 | late4 => exact Nat.le_refl 0x80

namespace Decoder

theorem push_append_done (done more : List Piece) (begun : Option Begun) (b : UInt8) :
    push ⟨done ++ more, begun⟩ b =
      ⟨(push ⟨done, begun⟩ b).done ++ more, (push ⟨done, begun⟩ b).begun⟩ := by
  have enters : ∀ done, enter (done ++ more) b = ⟨(enter done b).done ++ more, (enter done b).begun⟩ := by
    intro done
    unfold enter
    split
    · rfl
    · split <;> rfl
  cases begun with
  | none => exact enters done
  | some p =>
    simp only [push]
    split
    · split <;> rfl
    · exact enters (.junk p.seen :: done)

theorem foldl_push_append_done (done more : List Piece) (begun : Option Begun) (bs : Bytes) :
    bs.foldl push ⟨done ++ more, begun⟩ =
      ⟨(bs.foldl push ⟨done, begun⟩).done ++ more, (bs.foldl push ⟨done, begun⟩).begun⟩ := by
  induction bs generalizing done begun with
  | nil => rfl
  | cons b bs ih => rw [List.foldl_cons, push_append_done, ih, List.foldl_cons]

theorem finish_append_done (done more : List Piece) (begun : Option Begun) :
    finish ⟨done ++ more, begun⟩ = more.reverse ++ finish ⟨done, begun⟩ := by
  cases begun <;> simp [finish]

theorem push_ascii {d : Decoder} (hd : d.Sound) {b : UInt8} (hb : b < 0x80) :
    d.push b = ⟨.char (Char.ofNat b.toNat) :: d.finish.reverse, none⟩ := by
  obtain ⟨done, begun⟩ := d
  cases begun with
  | none => simp [push, enter, hb, finish]
  | some p =>
    have hlow : ¬ p.low ≤ b := by
      have hp := (hd p rfl).low_le
      simp only [UInt8.lt_iff_toNat_lt, UInt8.reduceToNat] at hb
      rw [UInt8.le_iff_toNat_le]
      omega
    simp [push, enter, hlow, hb, finish]

end Decoder

/-- An ASCII byte is a piece by itself, whatever stands around it. -/
theorem pieces_append_ascii (xs : Bytes) {b : UInt8} (hb : b < 0x80) (ys : Bytes) :
    pieces (xs ++ b :: ys) = pieces xs ++ .char (Char.ofNat b.toNat) :: pieces ys := by
  have hs := (Decoder.foldl_push_spec (Decoder.sound_between []) xs).1
  have hcut := Decoder.foldl_push_append_done []
    (.char (Char.ofNat b.toNat) :: (xs.foldl Decoder.push ⟨[], none⟩).finish.reverse) none ys
  rw [List.nil_append] at hcut
  rw [pieces, List.foldl_append, List.foldl_cons, Decoder.push_ascii hs hb, hcut,
    Decoder.finish_append_done]
  simp [pieces]

theorem isText_eq_all (bs : Bytes) : isText bs = (pieces bs).all fun p => p.char?.isSome := by
  rw [isText, decode?, Option.isSome_map]
  induction pieces bs with
  | nil => rfl
  | cons p ps ih =>
    rw [List.mapM_cons, List.all_cons, ← ih]
    cases p.char? <;> cases ps.mapM Piece.char? <;> rfl

theorem isText_append_ascii (xs : Bytes) {b : UInt8} (hb : b < 0x80) (ys : Bytes) :
    isText (xs ++ b :: ys) = (isText xs && isText ys) := by
  rw [isText_eq_all, pieces_append_ascii xs hb ys, List.all_append, List.all_cons, isText_eq_all,
    isText_eq_all]
  rfl

/-! ## Lossy decoding -/

/-- No byte is passed over in silence: only the empty byte string is read as the empty text. -/
theorem lossy_eq_empty_iff (bs : Bytes) : lossy bs = "" ↔ bs = [] := by
  constructor
  · intro h
    have hp : pieces bs = [] := by simpa [lossy] using congrArg String.toList h
    rw [← flatMap_bytes_pieces bs, hp]
    rfl
  · rintro rfl
    rfl

theorem lossy_ofString (s : String) : lossy (Bytes.ofString s) = s := by
  have hc : Piece.lossyChar ∘ Piece.char = id := rfl
  rw [lossy, Bytes.ofString, pieces_ofChars, List.map_map, hc, List.map_id, String.ofList_toList]

section
variable {c : Char} (hc : c.toNat < 0x80)
include hc

theorem encode_ascii : String.utf8EncodeChar c = [Bytes.ascii c] := by
  have := encode_one hc
  rwa [Char.ofNat_toNat] at this

theorem toNat_ascii : (Bytes.ascii c).toNat = c.toNat := toNat_ofNat_small (by omega)

theorem ascii_lt : Bytes.ascii c < 0x80 := by
  rw [UInt8.lt_iff_toNat_lt, toNat_ascii hc]
  exact hc

/-- A replacement is no ASCII character, so that none comes out of junk. -/
theorem ascii_mem_of_mem_lossy {bs : Bytes} (h : c ∈ (lossy bs).toList) : Bytes.ascii c ∈ bs := by
  rw [lossy, String.toList_ofList, List.mem_map] at h
  obtain ⟨p, hp, hpc⟩ := h
  cases p with
  | char d =>
    obtain rfl : d = c := hpc
    rw [← flatMap_bytes_pieces bs, List.mem_flatMap]
    refine ⟨.char d, hp, ?_⟩
    rw [Piece.bytes, encode_ascii hc]
    exact List.mem_singleton_self _
  | junk junk =>
    obtain rfl : replacement = c := hpc
    exact absurd hc (by decide)

theorem toList_lossy_append_ascii (xs ys : Bytes) :
    (lossy (xs ++ Bytes.ascii c :: ys)).toList = (lossy xs).toList ++ c :: (lossy ys).toList := by
  have hv : Char.ofNat (Bytes.ascii c).toNat = c := by
    rw [toNat_ascii hc, Char.ofNat_toNat]
  simp only [lossy, String.toList_ofList, pieces_append_ascii xs (ascii_lt hc) ys, List.map_append,
    List.map_cons, Piece.lossyChar, hv]

/-- Lossy decoding neither swallows nor makes an ASCII character: text and bytes are cut at the same places. -/
theorem splitOn_lossy (bs : Bytes) :
    (lossy bs).toList.splitOn c = (bs.splitOn (Bytes.ascii c)).map fun part => (lossy part).toList := by
  -- the parts around a cut are shorter than the whole
  induction hn : bs.length using Nat.strongRecOn generalizing bs with
  | ind n ih =>
    by_cases hm : Bytes.ascii c ∈ bs
    · obtain ⟨xs, ys, rfl⟩ := List.append_of_mem hm
      rw [List.length_append, List.length_cons] at hn
      rw [toList_lossy_append_ascii hc, List.splitOn_append_cons_self, List.splitOn_append_cons_self,
        List.map_append, ih xs.length (by omega) xs rfl, ih ys.length (by omega) ys rfl]
    · rw [List.splitOn_eq_singleton hm, List.splitOn_eq_singleton fun h => hm (ascii_mem_of_mem_lossy hc h)]
      rfl

end

end DesktopRefresh.Utf8

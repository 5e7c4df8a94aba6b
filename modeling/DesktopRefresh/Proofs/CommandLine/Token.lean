import DesktopRefresh.CommandLine.Token
import DesktopRefresh.Proofs.Decoding
import Mathlib.Data.List.TakeWhile

/-!
# What an argument looks like

`OptionLike` says how the arguments are written that cannot stand for themselves while options are
recognised. `ofArg_eq_word_iff`: all others are ordinary words, unknown flags among them.
-/

namespace DesktopRefresh.CommandLine

namespace Token

def attachment : Option Bytes → Bytes
  | none => []
  | some value => equals :: value

def longArg (name : Bytes) (attached : Option Bytes) : Bytes := dash :: dash :: (name ++ attachment attached)

end Token

open Token (dash equals longArg attachment)

def LongName.arg (n : LongName) (attached : Option Bytes) : Bytes :=
  longArg (Bytes.ofString n.spelling) attached

/-- The ways to write an argument that is no ordinary word: `--`, a known name, a name that is no text, and
a cluster of the letters `h` and `V`. -/
inductive OptionLike : Bytes → Prop where
  | escape : OptionLike [dash, dash]
  | known (name : LongName) (attached : Option Bytes) : OptionLike (name.arg attached)
  | undecodable (name : Bytes) (attached : Option Bytes) : equals ∉ name → (∀ s, Bytes.ofString s ≠ name) →
      OptionLike (longArg name attached)
  | cluster (letters : Bytes) : letters ≠ [] → (∀ b ∈ letters, b = Bytes.ascii 'h' ∨ b = Bytes.ascii 'V') →
      OptionLike (dash :: letters)

theorem OptionLike.head?_eq {arg : Bytes} (h : OptionLike arg) : arg.head? = some dash := by
  cases h <;> rfl

/-! ## Names -/

namespace LongName

theorem spelling_injective : Function.Injective spelling := by
  intro m n h
  have key : ∀ m ∈ all, ∀ n ∈ all, m.spelling = n.spelling → m = n := by decide
  exact key m (mem_all m) n (mem_all n) h

theorem ofBytes?_eq_some_iff (bs : Bytes) (n : LongName) :
    ofBytes? bs = some n ↔ Bytes.ofString n.spelling = bs := by
  constructor
  · intro h
    simpa using List.find?_some h
  · rintro rfl
    have hm : (all.find? fun m => Bytes.ofString m.spelling == Bytes.ofString n.spelling).isSome := by
      rw [List.find?_isSome]
      exact ⟨n, mem_all n, by simp⟩
    obtain ⟨m, hm⟩ := Option.isSome_iff_exists.mp hm
    have : m = n := spelling_injective (Utf8.ofString_injective (by simpa using List.find?_some hm))
    rw [ofBytes?, hm, this]

theorem ofString_spelling_ne_nil (n : LongName) : Bytes.ofString n.spelling ≠ [] := by
  have key : ∀ n ∈ all, Bytes.ofString n.spelling ≠ [] := by decide
  exact key n (mem_all n)

theorem equals_not_mem (n : LongName) : equals ∉ Bytes.ofString n.spelling := by
  have key : ∀ n ∈ all, equals ∉ Bytes.ofString n.spelling := by decide
  exact key n (mem_all n)

end LongName

/-! ## Long arguments -/

namespace Token

theorem cutAttached_append {name : Bytes} (h : equals ∉ name) (attached : Option Bytes) :
    cutAttached (name ++ attachment attached) = (name, attached) := by
  have hn : ∀ b ∈ name, (b != equals) = true := fun b hb => by
    simp only [bne_iff_ne]
    rintro rfl
    exact h hb
  unfold cutAttached
  rw [List.takeWhile_append_of_pos hn, List.dropWhile_append_of_pos hn]
  cases attached <;> simp [attachment]

theorem eq_append_attachment (body : Bytes) :
    equals ∉ (cutAttached body).1 ∧ body = (cutAttached body).1 ++ attachment (cutAttached body).2 := by
  constructor
  · intro h
    simpa using List.mem_takeWhile_imp h
  · have hd : attachment (cutAttached body).2 = body.dropWhile (· != equals) := by
      unfold cutAttached
      cases h : body.dropWhile (· != equals) with
      | nil => rfl
      | cons b value =>
        have : b = equals := by simpa [h] using List.head?_dropWhile_not (· != equals) body
        rw [this]
        rfl
    rw [hd]
    exact (List.takeWhile_append_dropWhile ..).symm

theorem ofArg_longArg {name : Bytes} (h : equals ∉ name) (attached : Option Bytes) :
    ofArg (longArg name attached) =
      if (name ++ attachment attached).isEmpty then escape
      else if Utf8.isText name then
        match LongName.ofBytes? name with
        | some n => long n attached
        | none => word
      else undecodable name := by
  have ho : ofArg (longArg name attached) = ofLong (name ++ attachment attached) := rfl
  rw [ofLong, cutAttached_append h] at ho
  exact ho

theorem ofArg_arg (n : LongName) (attached : Option Bytes) : ofArg (n.arg attached) = long n attached := by
  have hn : LongName.ofBytes? (Bytes.ofString n.spelling) = some n :=
    (LongName.ofBytes?_eq_some_iff _ n).mpr rfl
  have ht : Utf8.isText (Bytes.ofString n.spelling) = true := (Utf8.isText_iff _).mpr ⟨_, rfl⟩
  have he : (Bytes.ofString n.spelling ++ attachment attached).isEmpty = false := by
    simp [LongName.ofString_spelling_ne_nil]
  rw [LongName.arg, ofArg_longArg (LongName.equals_not_mem n), he, ht, hn]
  rfl

theorem ofLong_cases (body : Bytes) :
    (body = [] ∧ ofLong body = escape) ∨
    (∃ n attached, body = Bytes.ofString (LongName.spelling n) ++ attachment attached ∧
      ofLong body = long n attached) ∨
    (∃ name attached, equals ∉ name ∧ (∀ s, Bytes.ofString s ≠ name) ∧ body = name ++ attachment attached ∧
      ofLong body = undecodable name) ∨
    ofLong body = word := by
  obtain ⟨he, hb⟩ := eq_append_attachment body
  unfold ofLong
  split
  · rename_i h
    exact .inl ⟨by simpa using h, rfl⟩
  · refine .inr ?_
    dsimp only
    split
    · split
      · rename_i n hn
        rw [LongName.ofBytes?_eq_some_iff] at hn
        exact .inl ⟨n, _, by rw [hn]; exact hb, rfl⟩
      · exact .inr (.inr rfl)
    · rename_i ht
      refine .inr (.inl ⟨_, _, he, fun s hs => ht ?_, hb, rfl⟩)
      exact (Utf8.isText_iff _).mpr ⟨s, hs⟩

/-! ## Clusters -/

theorem ofLetter?_isSome_iff (b : UInt8) :
    (Info.ofLetter? b).isSome ↔ b = Bytes.ascii 'h' ∨ b = Bytes.ascii 'V' := by
  unfold Info.ofLetter?
  by_cases h : b = Bytes.ascii 'h'
  · simp [h]
  · by_cases hv : b = Bytes.ascii 'V'
    · subst hv
      decide
    · simp [h, hv]

theorem mapM_ofLetter?_isSome_iff (letters : Bytes) :
    (letters.mapM Info.ofLetter?).isSome ↔ ∀ b ∈ letters, b = Bytes.ascii 'h' ∨ b = Bytes.ascii 'V' := by
  induction letters with
  | nil => simp
  | cons b letters ih =>
    rw [List.forall_mem_cons, ← ih, ← ofLetter?_isSome_iff, List.mapM_cons]
    cases Info.ofLetter? b <;> cases letters.mapM Info.ofLetter? <;> simp

theorem ofShort_cases (letters : Bytes) :
    (letters ≠ [] ∧ (∀ b ∈ letters, b = Bytes.ascii 'h' ∨ b = Bytes.ascii 'V') ∧
      ∃ first, ofShort letters = cluster first) ∨
    (¬ (letters ≠ [] ∧ ∀ b ∈ letters, b = Bytes.ascii 'h' ∨ b = Bytes.ascii 'V') ∧
      ofShort letters = word) := by
  rw [← mapM_ofLetter?_isSome_iff]
  unfold ofShort
  cases letters with
  | nil => exact .inr ⟨by simp, rfl⟩
  | cons b letters =>
    rw [List.mapM_cons]
    cases Info.ofLetter? b with
    | none => exact .inr ⟨by simp, rfl⟩
    | some first =>
      cases letters.mapM Info.ofLetter? with
      | none => exact .inr ⟨by simp, rfl⟩
      | some others => exact .inl ⟨by simp, by simp, first, rfl⟩

/-! ## Ordinary words -/

theorem ofArg_undecodable {name : Bytes} (he : equals ∉ name) (hs : ∀ s, Bytes.ofString s ≠ name)
    (attached : Option Bytes) : ofArg (longArg name attached) = undecodable name := by
  have ht : Utf8.isText name = false := by
    rw [Bool.eq_false_iff, Ne, Utf8.isText_iff]
    rintro ⟨s, hs'⟩
    exact hs s hs'
  have hn : name ≠ [] := fun h => hs "" (h ▸ rfl)
  rw [ofArg_longArg he]
  simp [ht, hn]

theorem ofArg_cluster {letters : Bytes} (hn : letters ≠ [])
    (hl : ∀ b ∈ letters, b = Bytes.ascii 'h' ∨ b = Bytes.ascii 'V') :
    ∃ first, ofArg (dash :: letters) = cluster first := by
  obtain ⟨-, -, first, h⟩ | ⟨h, -⟩ := ofShort_cases letters
  · cases letters with
    | nil => exact absurd rfl hn
    | cons b rest =>
      have hb : b ≠ dash := by
        rintro rfl
        exact absurd (hl dash (List.mem_cons_self ..)) (by decide)
      exact ⟨first, by simp [ofArg, hb, h]⟩
  · exact absurd ⟨hn, hl⟩ h

theorem ofArg_ne_word {arg : Bytes} (h : OptionLike arg) : ofArg arg ≠ word := by
  cases h with
  | escape => decide
  | known n attached => rw [ofArg_arg]; exact Token.noConfusion
  | undecodable name attached he hs => rw [ofArg_undecodable he hs]; exact Token.noConfusion
  | cluster letters hn hl =>
    obtain ⟨first, hf⟩ := ofArg_cluster hn hl
    rw [hf]
    exact Token.noConfusion

theorem optionLike_of_ne_word {arg : Bytes} (h : ofArg arg ≠ word) : OptionLike arg := by
  unfold ofArg at h
  split at h
  · exact absurd rfl h
  · rename_i a body
    split at h
    · rename_i ha
      subst ha
      split at h
      · exact absurd rfl h
      · rename_i b rest
        split at h
        · rename_i hb
          subst hb
          obtain ⟨rfl, -⟩ | ⟨n, attached, rfl, -⟩ | ⟨name, attached, he, hs, rfl, -⟩ | hw := ofLong_cases rest
          · exact .escape
          · exact .known n attached
          · exact .undecodable name attached he hs
          · exact absurd hw h
        · obtain ⟨hn, hl, -⟩ | ⟨-, hw⟩ := ofShort_cases (b :: rest)
          · exact .cluster _ hn hl
          · exact absurd hw h
    · exact absurd rfl h

theorem ofArg_eq_word_iff (arg : Bytes) : ofArg arg = word ↔ ¬ OptionLike arg :=
  ⟨fun h ho => ofArg_ne_word ho h, fun h => by_contra fun hw => h (optionLike_of_ne_word hw)⟩

/-- The first letter decides what a cluster asks for. -/
theorem ofArg_cluster_eq {letters : Bytes} {first : Info} (h : ofArg (dash :: letters) = cluster first) :
    ∃ b, letters.head? = some b ∧ Info.ofLetter? b = some first := by
  cases letters with
  | nil => cases h
  | cons b rest =>
    by_cases hb : b = dash
    · -- two dashes open a long argument, which is no cluster
      rw [ofArg, if_pos rfl, if_pos hb] at h
      obtain ⟨-, hl⟩ | ⟨_, _, -, hl⟩ | ⟨_, _, -, -, -, hl⟩ | hl := ofLong_cases rest <;> (rw [hl] at h; cases h)
    · rw [ofArg, if_pos rfl, if_neg hb, ofShort, List.mapM_cons] at h
      refine ⟨b, rfl, ?_⟩
      cases hf : Info.ofLetter? b with
      | none => simp [hf] at h
      | some i =>
        cases hm : rest.mapM Info.ofLetter? with
        | none => simp [hf, hm] at h
        | some others =>
          simp only [hf, hm] at h
          cases h
          rfl

end Token

/-! ## Text and other bytes -/

/-- Arguments that mean something wherever options are recognised: `--`, a known name, and a cluster of the
letters `h` and `V`. -/
inductive Reserved : Bytes → Prop where
  | escape : Reserved [dash, dash]
  | known (name : LongName) (attached : Option Bytes) : Reserved (name.arg attached)
  | cluster (letters : Bytes) : letters ≠ [] → (∀ b ∈ letters, b = Bytes.ascii 'h' ∨ b = Bytes.ascii 'V') →
      Reserved (dash :: letters)

/-- A long argument with a name that is no text. -/
inductive Nameless : Bytes → Prop where
  | longArg (name : Bytes) (attached : Option Bytes) : equals ∉ name → (∀ s, Bytes.ofString s ≠ name) →
      Nameless (longArg name attached)

theorem optionLike_iff (arg : Bytes) : OptionLike arg ↔ Reserved arg ∨ Nameless arg := by
  constructor
  · intro h
    cases h with
    | escape => exact .inl .escape
    | known n attached => exact .inl (.known n attached)
    | undecodable name attached he hs => exact .inr (.longArg name attached he hs)
    | cluster letters hn hl => exact .inl (.cluster letters hn hl)
  · rintro (h | h)
    · cases h with
      | escape => exact .escape
      | known n attached => exact .known n attached
      | cluster letters hn hl => exact .cluster letters hn hl
    · cases h with
      | longArg name attached he hs => exact .undecodable name attached he hs

theorem not_reserved_of_word {b : Bytes} (h : Token.ofArg b = .word) : ¬ Reserved b := fun hr =>
  (Token.ofArg_eq_word_iff b).mp h ((optionLike_iff b).mpr (.inl hr))

theorem not_reserved_of_undecodable {b name : Bytes} (h : Token.ofArg b = .undecodable name) :
    ¬ Reserved b := by
  intro hr
  cases hr with
  | escape => cases h
  | known n attached =>
    rw [Token.ofArg_arg] at h
    cases h
  | cluster letters hn hl =>
    obtain ⟨first, hf⟩ := Token.ofArg_cluster hn hl
    rw [hf] at h
    cases h

theorem isText_longArg {name : Bytes} {attached : Option Bytes}
    (h : Utf8.isText (longArg name attached) = true) :
    Utf8.isText name = true ∧ ∀ value, attached = some value → Utf8.isText value = true := by
  have hd : dash < 0x80 := by decide
  have he : equals < 0x80 := by decide
  have hb : Utf8.isText (name ++ attachment attached) = true := by
    have h₁ := Utf8.isText_append_ascii [] hd (dash :: (name ++ attachment attached))
    have h₂ := Utf8.isText_append_ascii [] hd (name ++ attachment attached)
    rw [List.nil_append] at h₁ h₂
    rw [longArg, h₁, h₂, Bool.and_eq_true, Bool.and_eq_true] at h
    exact h.2.2
  cases attached with
  | none => exact ⟨by simpa [attachment] using hb, fun value hv => by cases hv⟩
  | some value =>
    rw [attachment, Utf8.isText_append_ascii name he value, Bool.and_eq_true] at hb
    refine ⟨hb.1, fun v hv => ?_⟩
    cases hv
    exact hb.2

theorem not_nameless_of_isText {arg : Bytes} (h : Utf8.isText arg = true) : ¬ Nameless arg := by
  rintro ⟨name, attached, -, hs⟩
  obtain ⟨s, hn⟩ := (Utf8.isText_iff name).mp (isText_longArg h).1
  exact hs s hn

end DesktopRefresh.CommandLine

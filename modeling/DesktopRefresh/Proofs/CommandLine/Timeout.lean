import DesktopRefresh.Proofs.CommandLine.Reading
import DesktopRefresh.Proofs.Program
import Mathlib.Data.List.Basic

/-!
# The timeout

A timeout is read exactly: it is accepted just if it is written as a number of 64 bits, and then every run is
given that many seconds (`run_timeout`). The bytes that stand for a number are those of a text that stands for it
(`denotes_iff`).
-/

namespace DesktopRefresh

/-! ## Numbers in bytes -/

namespace Bytes

/-- ASCII digits, one at least, whose value fits into 64 bits. -/
def IsNumeral (ds : Bytes) (n : Nat) : Prop :=
  ds ≠ [] ∧ (∀ b ∈ ds, isDigit b = true) ∧ number ds = n ∧ n < 2 ^ 64

/-- The bytes stand for a number: a numeral, or one behind a plus sign. -/
def Denotes (bs : Bytes) (n : Nat) : Prop := IsNumeral bs n ∨ ∃ ds, bs = ascii '+' :: ds ∧ IsNumeral ds n

theorem isDigit_iff (b : UInt8) : isDigit b = true ↔ 48 ≤ b.toNat ∧ b.toNat ≤ 57 := by
  rw [isDigit, decide_eq_true_iff, UInt8.le_iff_toNat_le, UInt8.le_iff_toNat_le]
  rfl

theorem toNat_of_isDigit {c : Char} (h : c.isDigit = true) :
    48 ≤ c.toNat ∧ c.toNat ≤ 57 ∧ (ascii c).toNat = c.toNat := by
  obtain ⟨hlow, hhigh⟩ : 48 ≤ c.toNat ∧ c.toNat ≤ 57 := Char.isDigit_iff_toNat.mp h
  exact ⟨hlow, hhigh, Utf8.toNat_ascii (by omega)⟩

theorem isDigit_ascii {c : Char} (h : c.isDigit = true) : isDigit (ascii c) = true := by
  obtain ⟨hlow, hhigh, hb⟩ := toNat_of_isDigit h
  rw [isDigit_iff, hb]
  exact ⟨hlow, hhigh⟩

theorem exists_ascii_eq {b : UInt8} (h : isDigit b = true) : ∃ c : Char, c.isDigit = true ∧ ascii c = b := by
  obtain ⟨hlow, hhigh⟩ := (isDigit_iff b).mp h
  have hc : (Char.ofNat b.toNat).toNat = b.toNat := Utf8.toNat_charOfNat (.inl (by omega))
  refine ⟨Char.ofNat b.toNat, Char.isDigit_iff_toNat.mpr ?_, ?_⟩
  · rw [hc]
    exact ⟨hlow, hhigh⟩
  · rw [ascii, hc]
    exact UInt8.ofNat_toNat

theorem exists_map_ascii_eq {ds : Bytes} (h : ∀ b ∈ ds, isDigit b = true) :
    ∃ cs : List Char, (∀ c ∈ cs, c.isDigit = true) ∧ cs.map ascii = ds := by
  induction ds with
  | nil => exact ⟨[], by simp, rfl⟩
  | cons b ds ih =>
    rw [List.forall_mem_cons] at h
    obtain ⟨c, hc, rfl⟩ := exists_ascii_eq h.1
    obtain ⟨cs, hcs, rfl⟩ := ih h.2
    exact ⟨c :: cs, List.forall_mem_cons.mpr ⟨hc, hcs⟩, rfl⟩

section
variable {cs : List Char} (h : ∀ c ∈ cs, c.isDigit = true)
include h

theorem ofChars_digits : ofChars cs = cs.map ascii := by
  rw [ofChars, List.map_eq_flatMap]
  refine List.flatMap_congr fun c hc => Utf8.encode_ascii ?_
  have := toNat_of_isDigit (h c hc)
  omega

theorem foldl_digits (m : Nat) :
    (cs.map ascii).foldl (fun n b => n * 10 + (b.toNat - (ascii '0').toNat)) m = Nat.ofDigitChars 10 cs m := by
  induction cs generalizing m with
  | nil => rfl
  | cons c cs ih =>
    rw [List.forall_mem_cons] at h
    obtain ⟨-, -, hb⟩ := toNat_of_isDigit h.1
    have hm : m * 10 + ((ascii c).toNat - (ascii '0').toNat) = 10 * m + (c.toNat - '0'.toNat) := by
      rw [hb, Nat.mul_comm]
      rfl
    rw [List.map_cons, List.foldl_cons, Nat.ofDigitChars_cons, hm, ih h.2]

theorem isNumeral_digits_iff (n : Nat) : IsNumeral (cs.map ascii) n ↔ Decimal.IsNumeral cs n := by
  have hd : ∀ b ∈ cs.map ascii, isDigit b = true := by
    intro b hb
    obtain ⟨c, hc, rfl⟩ := List.mem_map.mp hb
    exact isDigit_ascii (h c hc)
  rw [IsNumeral, Decimal.IsNumeral, number, foldl_digits h, Ne, List.map_eq_nil_iff]
  exact and_congr_right fun _ => and_congr_left fun _ => iff_of_true hd h

end

theorem isNumeral_iff (ds : Bytes) (n : Nat) :
    IsNumeral ds n ↔ ∃ cs, ofChars cs = ds ∧ Decimal.IsNumeral cs n := by
  constructor
  · intro h
    obtain ⟨cs, hcs, rfl⟩ := exists_map_ascii_eq h.2.1
    exact ⟨cs, ofChars_digits hcs, (isNumeral_digits_iff hcs n).mp h⟩
  · rintro ⟨cs, rfl, h⟩
    rw [ofChars_digits h.2.1]
    exact (isNumeral_digits_iff h.2.1 n).mpr h

theorem ofChars_plus (cs : List Char) : ofChars ('+' :: cs) = ascii '+' :: ofChars cs := rfl

theorem denotes_iff (bs : Bytes) (n : Nat) : Denotes bs n ↔ ∃ s, ofString s = bs ∧ Decimal.Denotes s n := by
  constructor
  · rintro (h | ⟨ds, rfl, h⟩)
    · obtain ⟨cs, rfl, hn⟩ := (isNumeral_iff bs n).mp h
      exact ⟨String.ofList cs, by rw [ofString, String.toList_ofList],
        .inl (by rwa [String.toList_ofList])⟩
    · obtain ⟨cs, rfl, hn⟩ := (isNumeral_iff ds n).mp h
      exact ⟨String.ofList ('+' :: cs), by rw [ofString, String.toList_ofList, ofChars_plus],
        .inr ⟨cs, String.toList_ofList, hn⟩⟩
  · rintro ⟨s, rfl, h | ⟨cs, hs, h⟩⟩
    · exact .inl ((isNumeral_iff _ n).mpr ⟨s.toList, rfl, h⟩)
    · rw [ofString, hs, ofChars_plus]
      exact .inr ⟨_, rfl, (isNumeral_iff _ n).mpr ⟨cs, rfl, h⟩⟩

end Bytes

/-! ## A sole option -/

namespace CommandLine

theorem parse_attached (o : ValueOption) (v : Bytes) :
    parse [(LongName.value o).arg (some v)] = Parsed.empty.setValue o v := by
  have hstep : State.initial.step ((LongName.value o).arg (some v)) = orReject (State.initial.accept o v) := by
    simp only [State.step, State.initial, Token.ofArg_arg]
    rfl
  have hmark : State.initial.mark (.value o) = (⟨.empty, [.named (.value o)], .nothing, .options⟩, none) := rfl
  rw [parse, List.foldlM_cons, hstep, State.accept, hmark]
  dsimp only
  cases Parsed.empty.setValue o v with
  | ok p => rfl
  | error r => rfl

theorem timeout_arg (v : Bytes) :
    (LongName.value .timeout).arg (some v) = Bytes.ofString "--timeout=" ++ v := by
  have hs : Bytes.ofString "--timeout=" =
      Token.dash :: Token.dash :: (Bytes.ofString (LongName.value .timeout).spelling ++ [Token.equals]) := by
    decide
  rw [hs, LongName.arg, Token.longArg, Token.attachment, List.cons_append, List.cons_append, List.append_assoc,
    List.singleton_append]

theorem parse_timeout {v : Bytes} {n : Nat} (h : Bytes.Denotes v n) :
    parse [Bytes.ofString "--timeout=" ++ v] = .ok { Parsed.empty with timeout := some n } := by
  obtain ⟨s, rfl, hs⟩ := (Bytes.denotes_iff v n).mp h
  rw [← timeout_arg, parse_attached, Parsed.setValue, Utf8.decode?_ofString]
  dsimp only
  rw [(Decimal.read_eq_ok_iff s n).mpr hs]

theorem parse_timeout_undecodable {v : Bytes} (h : Utf8.isText v = false) :
    parse [Bytes.ofString "--timeout=" ++ v] = .error .undecodableValue := by
  have hd : Utf8.decode? v = none := by simpa [Utf8.isText] using h
  rw [← timeout_arg, parse_attached, Parsed.setValue, hd]

theorem parse_timeout_invalid {s : String} (h : ¬ ∃ n, Decimal.Denotes s n) :
    ∃ fault, parse [Bytes.ofString "--timeout=" ++ Bytes.ofString s] = .error (.invalidTimeout s fault) := by
  rw [← timeout_arg, parse_attached, Parsed.setValue, Utf8.decode?_ofString]
  cases hr : Decimal.read s with
  | ok n => exact absurd ⟨n, (Decimal.read_eq_ok_iff s n).mp hr⟩ h
  | error fault => exact ⟨fault, by simp [hr]⟩

theorem rejected_timeout {v : Bytes} (h : ¬ ∃ n, Bytes.Denotes v n) :
    ∃ cause, parse [Bytes.ofString "--timeout=" ++ v] = .error cause ∧ cause.isInfo = false ∧
      (Utf8.isText v = false → cause = .undecodableValue) ∧
      (Utf8.isText v = true → ∃ s fault, Bytes.ofString s = v ∧ cause = .invalidTimeout s fault) := by
  cases ht : Utf8.isText v with
  | false => exact ⟨_, parse_timeout_undecodable ht, rfl, fun _ => rfl, fun hf => by cases hf⟩
  | true =>
    obtain ⟨s, rfl⟩ := (Utf8.isText_iff v).mp ht
    have hs : ¬ ∃ n, Decimal.Denotes s n := fun ⟨n, hn⟩ => h ⟨n, (Bytes.denotes_iff _ n).mpr ⟨s, rfl, hn⟩⟩
    obtain ⟨fault, hp⟩ := parse_timeout_invalid hs
    refine ⟨_, hp, rfl, fun hf => ?_, fun _ => ⟨s, fault, rfl, rfl⟩⟩
    cases hf

open Execution (execute)

/-- A timeout is accepted just if it is written as a number of 64 bits. Then it is that many seconds, and all
that is run by an execution with it, or by a hook whatever its data directory is, is given just these. Any other
is rejected, because it is no text or because it is no such number, and no tool is asked for. -/
theorem run_timeout {σ : Type} (runner : Runner σ) (s : σ) (v : Bytes) :
    let args := [Bytes.ofString "--timeout=" ++ v]
    ((∃ p, parse args = .ok p) ↔ ∃ n, Bytes.Denotes v n) ∧
    (∀ n, Bytes.Denotes v n → ∃ p, parse args = .ok p ∧ ∀ root,
      let c := p.toConfig root
      c.timeout = ⟨n, 0⟩ ∧
      (∀ dryRun datadir triggers call answer,
        .run call answer ∈ (execute runner.watched ⟨c.timeout, dryRun⟩ datadir (s, []) triggers).2.2 →
          call.timeout = ⟨n, 0⟩) ∧
      ∀ datadir call answer, .run call answer ∈ Hook.contacts runner { c with datadir := datadir } s →
        call.timeout = ⟨n, 0⟩) ∧
    ((¬ ∃ n, Bytes.Denotes v n) → ∃ cause, parse args = .error cause ∧
      (Utf8.isText v = false → cause = .undecodableValue) ∧
      (Utf8.isText v = true → ∃ text fault, Bytes.ofString text = v ∧ cause = .invalidTimeout text fault) ∧
      ∀ env, Program.run runner env args s = (.rejected cause, s)) := by
  intro args
  refine ⟨⟨?_, ?_⟩, ?_, ?_⟩
  · rintro ⟨p, hp⟩
    by_contra h
    obtain ⟨cause, hc, -⟩ := rejected_timeout h
    rw [hc] at hp
    cases hp
  · rintro ⟨n, hn⟩
    exact ⟨_, parse_timeout hn⟩
  · intro n hn
    refine ⟨_, parse_timeout hn, fun root => ⟨rfl, ?_, ?_⟩⟩
    · intro dryRun datadir triggers call answer hm
      rw [Execution.execute_watched] at hm
      exact Execution.timeout_of_mem_turns runner _ datadir hm
    · intro datadir call answer hm
      exact Hook.timeout_of_mem_contacts runner hm
  · intro h
    obtain ⟨cause, hc, hi, hu, ht⟩ := rejected_timeout h
    refine ⟨cause, hc, hu, ht, fun env => ?_⟩
    rw [Program.run_of_error runner env s hc, hi]
    rfl

/-- The longest timeout, behind a plus sign and zeros, and the one that is a second longer. -/
theorem run_timeout_longest :
    let longest := Bytes.ofString "+0018446744073709551615"
    let longer := Bytes.ofString "18446744073709551616"
    let script : Runner.Script := ⟨[], [], .finished .none⟩
    Bytes.Denotes longest (2 ^ 64 - 1) ∧
    (∃ p, parse [Bytes.ofString "--timeout=" ++ longest] = .ok p ∧ (p.toConfig none).timeout = ⟨2 ^ 64 - 1, 0⟩ ∧
      ∀ call answer, .run call answer ∈ Hook.contacts Runner.scripted
        { p.toConfig none with datadir := some (Bytes.ofString "/usr/share") } script →
          call.timeout = ⟨2 ^ 64 - 1, 0⟩) ∧
    (¬ ∃ n, Bytes.Denotes longer n) ∧
    ∃ cause, parse [Bytes.ofString "--timeout=" ++ longer] = .error cause ∧
      ∃ text fault, Bytes.ofString text = longer ∧ cause = .invalidTimeout text fault := by
  intro longest longer script
  have hn : Bytes.Denotes longest (2 ^ 64 - 1) :=
    .inr ⟨Bytes.ofString "0018446744073709551615", by decide, by decide, List.all_eq_true.mp (by decide),
      by decide, by decide⟩
  have hl : ¬ ∃ n, Bytes.Denotes longer n := by
    rintro ⟨n, ⟨-, -, rfl, hfits⟩ | ⟨ds, hp, -⟩⟩
    · exact absurd hfits (by decide)
    · have hplus : some (Bytes.ascii '1') = some (Bytes.ascii '+') := congrArg List.head? hp
      exact absurd hplus (by decide)
  obtain ⟨-, accepted, -⟩ := run_timeout Runner.scripted script longest
  obtain ⟨p, hp, hc⟩ := accepted _ hn
  obtain ⟨ht, -, hr⟩ := hc none
  obtain ⟨-, -, rejected⟩ := run_timeout Runner.scripted script longer
  obtain ⟨cause, hcause, -, htext, -⟩ := rejected hl
  exact ⟨hn, ⟨p, hp, ht, hr _⟩, hl, cause, hcause, htext (by decide)⟩

end CommandLine

end DesktopRefresh

import DesktopRefresh.Execution
import DesktopRefresh.Proofs.Text.Quoted
import DesktopRefresh.System
import Mathlib.Data.List.Basic

/-!
# What the text of an invocation tells

The display of an invocation falls apart at its spaces just where the bytes of its program and its arguments do
(`parts_display`). So it can be read back if there is no space in them and all of them are text, and what is no
text never changes the number of its parts (`display_readable`). What the runner of a system announces can
always be read back (`announced_eq_iff`).
-/

namespace DesktopRefresh

open Utf8 (lossy)

namespace Invocation

/-- The program and the arguments as bytes. -/
def line (c : Invocation) : List Bytes := Bytes.ofString c.program :: c.args

/-- What stands between the single spaces of a text, of which some can be empty. -/
def parts (s : String) : List String := (s.toList.splitOn ' ').map String.ofList

/-- The invocation with every argument as the text that it is shown as. -/
def decoded (c : Invocation) : Invocation := ⟨c.program, c.args.map fun a => Bytes.ofString (lossy a)⟩

/-- Nothing in the invocation is ambiguous: all of it is text, and there is no space in it. -/
def IsPlain (c : Invocation) : Prop := ∀ word ∈ c.line, Utf8.isText word = true ∧ Bytes.ascii ' ' ∉ word

theorem line_injective : Function.Injective line := by
  intro c c' h
  obtain ⟨program, args⟩ := c
  obtain ⟨program', args'⟩ := c'
  obtain ⟨hp, rfl⟩ : Bytes.ofString program = Bytes.ofString program' ∧ args = args' := List.cons.inj h
  rw [Utf8.ofString_injective hp]

/-! ## The display -/

theorem words_eq_map_line (c : Invocation) : c.words = c.line.map lossy := by
  rw [words, line, List.map_cons, Utf8.lossy_ofString]

theorem display_decoded (c : Invocation) : c.decoded.display = c.display := by
  have hl : lossy ∘ (fun a => Bytes.ofString (lossy a)) = lossy := funext fun a => Utf8.lossy_ofString _
  have hw : c.decoded.words = c.words := by
    rw [words, words, decoded, List.map_map, hl]
  rw [display, display, hw]

theorem splitOn_intercalate_cons (sep : Char) (l : List Char) (ls : List (List Char)) :
    ([sep].intercalate (l :: ls)).splitOn sep = (l :: ls).flatMap fun l => l.splitOn sep := by
  induction ls generalizing l with
  | nil => rw [List.intercalate_singleton, List.flatMap_singleton]
  | cons m ls ih =>
    rw [List.intercalate_cons_cons, List.append_assoc, List.singleton_append, List.splitOn_append_cons_self, ih,
      List.flatMap_cons (x := l)]

theorem parts_display (c : Invocation) :
    parts c.display = c.line.flatMap fun word => (word.splitOn (Bytes.ascii ' ')).map lossy := by
  have hword : ∀ word, (((lossy word).toList.splitOn ' ').map String.ofList) =
      (word.splitOn (Bytes.ascii ' ')).map lossy := by
    intro word
    rw [Utf8.splitOn_lossy (by decide), List.map_map]
    exact List.map_congr_left fun part _ => String.ofList_toList
  rw [parts, display, String.toList_intercalate, words_eq_map_line, line, List.map_cons, List.map_cons]
  rw [show " ".toList = [' '] from rfl, splitOn_intercalate_cons, ← List.map_cons, ← List.map_cons,
    List.flatMap_map, List.flatMap_map, List.map_flatMap]
  exact List.flatMap_congr fun word _ => hword word

theorem parts_display_of_not_mem {c : Invocation} (h : ∀ word ∈ c.line, Bytes.ascii ' ' ∉ word) :
    parts c.display = c.words := by
  rw [parts_display, words_eq_map_line, List.map_eq_flatMap]
  refine List.flatMap_congr fun word hw => ?_
  rw [List.splitOn_eq_singleton (h word hw)]
  rfl

theorem IsPlain.ofString_parts {c : Invocation} (h : c.IsPlain) :
    (parts c.display).map Bytes.ofString = c.line := by
  have hkept : ∀ word ∈ c.line, Bytes.ofString (lossy word) = word := by
    intro word hw
    obtain ⟨s, rfl⟩ := (Utf8.isText_iff word).mp (h word hw).1
    rw [Utf8.lossy_ofString]
  rw [parts_display_of_not_mem fun word hw => (h word hw).2, words_eq_map_line, List.map_map]
  calc c.line.map (Bytes.ofString ∘ lossy) = c.line.map id := List.map_congr_left hkept
    _ = c.line := List.map_id _

theorem IsPlain.eq_of_display {c c' : Invocation} (h : c.IsPlain) (h' : c'.IsPlain)
    (hd : c.display = c'.display) : c = c' :=
  line_injective (by rw [← h.ofString_parts, ← h'.ofString_parts, hd])

/-- The display of an invocation shows its arguments as texts, and falls apart at its spaces just where the
program and the arguments do. So without spaces there are as many parts as words, and if all of them are text,
the parts are the program and the arguments again: two such invocations that are shown alike, in a dry run or
in the log, are the same. -/
theorem display_readable (c : Invocation) :
    (c.IsPlain → (parts c.display).map Bytes.ofString = Bytes.ofString c.program :: c.args) ∧
    (∀ c' : Invocation, c.IsPlain → c'.IsPlain → c.display = c'.display ∨
      (Progress.wouldRun c).line = (Progress.wouldRun c').line ∨
      (∃ t, Execution.running t c = Execution.running t c') → c = c') ∧
    c.display = c.decoded.display ∧
    (parts c.display = c.line.flatMap fun word => (word.splitOn (Bytes.ascii ' ')).map lossy) ∧
    ((∀ word ∈ c.line, Bytes.ascii ' ' ∉ word) →
      parts c.display = c.program :: c.args.map lossy ∧ (parts c.display).length = 1 + c.args.length) := by
  refine ⟨fun h => h.ofString_parts, ?_, (display_decoded c).symm, parts_display c, ?_⟩
  · intro c' h h' hs
    refine h.eq_of_display h' ?_
    obtain hd | hd | ⟨t, hd⟩ := hs
    · exact hd
    · exact (String.append_right_inj _).mp hd
    · exact (String.append_right_inj _).mp ((String.append_left_inj _).mp hd)
  · intro h
    have hw := parts_display_of_not_mem h
    refine ⟨hw, ?_⟩
    rw [hw, words, List.length_cons, List.length_map, Nat.add_comm]

/-- Nothing but empty words and a flag, and an argument that is no text in front of one that is. -/
theorem display_readable_empty :
    let c : Invocation := ⟨"", ["", "-q", ""].map Bytes.ofString⟩
    let broken : Invocation := ⟨"tool", [[0xE2, 0x82], Bytes.ofString "A"]⟩
    c.IsPlain ∧ (parts c.display).map Bytes.ofString = ["", "", "-q", ""].map Bytes.ofString ∧
      (∀ c' : Invocation, c'.IsPlain → c.display = c'.display → c = c') ∧
      (parts broken.display).length = 3 := by
  intro c broken
  have hc : c.IsPlain := by
    unfold IsPlain
    decide
  have hb : ∀ word ∈ broken.line, Bytes.ascii ' ' ∉ word := by decide
  obtain ⟨hread, hsame, -⟩ := display_readable c
  obtain ⟨-, -, -, -, hcount⟩ := display_readable broken
  exact ⟨hc, hread hc, fun c' hc' hd => hsame c' hc hc' (.inl hd), (hcount hb).2⟩

end Invocation

/-! ## The announcement -/

namespace System

open Execution (announced running)

theorem executing_eq_iff (program : String) (a b : List Bytes) :
    executing ⟨program, a⟩ = executing ⟨program, b⟩ ↔ a = b := by
  constructor
  · intro h
    exact Text.quoteList_injective ((String.append_right_inj _).mp h)
  · rintro rfl
    rfl

/-- The one record that the runner of a system announces a command with has the arguments quoted, and records for
one program tell them apart to the byte. The display that the other records show does not. -/
theorem announced_eq_iff {σ : Type} (system : System σ) (program : String) :
    (∀ args, announced (system.runner.announce ⟨program, args⟩) =
      [⟨.debug, .runner, "Executing: " ++ program ++ " " ++ Text.quoteList args⟩]) ∧
    (∀ a b, announced (system.runner.announce ⟨program, a⟩) = announced (system.runner.announce ⟨program, b⟩) ↔
      a = b) ∧
    ∃ a b, a ≠ b ∧ Invocation.display ⟨program, a⟩ = Invocation.display ⟨program, b⟩ ∧
      ∀ t, running t ⟨program, a⟩ = running t ⟨program, b⟩ := by
  refine ⟨fun args => rfl, fun a b => ?_, ?_⟩
  · rw [← executing_eq_iff program a b]
    constructor
    · intro h
      exact congrArg Record.message (List.cons.inj h).1
    · intro h
      exact congrArg (fun message => announced [message]) h
  · -- two bytes that begin no character are shown as the same replacement
    have hl : lossy [0xFE] = lossy [0xFF] := by decide
    have hw : Invocation.words ⟨program, [[0xFE]]⟩ = Invocation.words ⟨program, [[0xFF]]⟩ :=
      congrArg (fun text => [program, text]) hl
    have hd : Invocation.display ⟨program, [[0xFE]]⟩ = Invocation.display ⟨program, [[0xFF]]⟩ := by
      unfold Invocation.display
      rw [hw]
    refine ⟨[[0xFE]], [[0xFF]], by decide, hd, fun t => ?_⟩
    unfold running
    rw [hd]

end System

end DesktopRefresh

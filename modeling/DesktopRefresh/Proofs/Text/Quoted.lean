import DesktopRefresh.Proofs.Decoding
import DesktopRefresh.Text.Quoted

/-!
# Reading quoted byte strings back

A reader goes through a quoted list from left to right and keeps what stands between double quotes, with every
escape turned back into its bytes. It gives back what was quoted (`unquoteList_quoteList`), whether this is text
or not, so that two lists which are quoted alike are the same (`quoteList_injective`).
-/

namespace DesktopRefresh.Text

/-! ## Hexadecimal digits -/

/-- The value of a digit, be it small or capital. -/
def hexValue (c : Char) : Nat :=
  if c.isDigit then c.toNat - 48 else if c.isUpper then c.toNat - 55 else c.toNat - 87

theorem hexValue_hexDigit : ∀ d < 16, hexValue (hexDigit d) = d := by decide

theorem hexValue_digitChar : ∀ d < 16,
    Nat.digitChar d ≠ '\x7b' ∧ Nat.digitChar d ≠ '\x7d' ∧ hexValue (Nat.digitChar d) = d := by decide

/-! ## The reader -/

inductive Place where
  | outside
  | inside
  /-- Behind a backslash. -/
  | escape
  /-- Behind `\x`, with the value of the first digit if it was read. -/
  | byte (high : Option Nat)
  /-- Behind `\u`, with the value of the digits that were read. -/
  | point (value : Nat)

/-- The byte strings that were read, last one first, and what was read of the next one. -/
structure Unquoter where
  done : List Bytes
  current : Bytes
  place : Place

namespace Unquoter

def addByte (r : Unquoter) (b : UInt8) : Unquoter := ⟨r.done, r.current ++ [b], .inside⟩

def addChar (r : Unquoter) (c : Char) : Unquoter := ⟨r.done, r.current ++ String.utf8EncodeChar c, .inside⟩

def push (r : Unquoter) (c : Char) : Unquoter :=
  match r.place with
  | .outside => if c = '"' then ⟨r.done, [], .inside⟩ else r
  | .inside =>
    if c = '"' then ⟨r.current :: r.done, [], .outside⟩
    else if c = '\\' then { r with place := .escape }
    else r.addChar c
  | .escape =>
    match c with
    | 'x' => { r with place := .byte none }
    | 'u' => { r with place := .point 0 }
    | '0' => r.addChar '\x00'
    | 't' => r.addChar '\t'
    | 'r' => r.addChar '\r'
    | 'n' => r.addChar '\n'
    | c => r.addChar c
  | .byte none => { r with place := .byte (some (hexValue c)) }
  | .byte (some high) => r.addByte (.ofNat (16 * high + hexValue c))
  | .point value =>
    if c = '\x7b' then r
    else if c = '\x7d' then r.addChar (Char.ofNat value)
    else { r with place := .point (16 * value + hexValue c) }

end Unquoter

/-- The byte strings of a quoted list. -/
def unquoteList (s : String) : List Bytes := (s.toList.foldl Unquoter.push ⟨[], [], .outside⟩).done.reverse

/-! ## Escapes are read back -/

namespace Unquoter

section
variable (done : List Bytes) (current : Bytes)

theorem foldl_push_escapeByte (b : UInt8) :
    (escapeByte b).foldl push ⟨done, current, .inside⟩ = ⟨done, current ++ [b], .inside⟩ := by
  have hb := b.toNat_lt
  have hhigh := hexValue_hexDigit (b.toNat / 16) (by omega)
  have hlow := hexValue_hexDigit (b.toNat % 16) (by omega)
  have hv : UInt8.ofNat (16 * (b.toNat / 16) + b.toNat % 16) = b := by
    rw [Nat.div_add_mod, UInt8.ofNat_toNat]
  simp [escapeByte, push, addByte, hhigh, hlow, hv]

theorem push_digitChar (value : Nat) {d : Nat} (hd : d < 16) :
    push ⟨done, current, .point value⟩ (Nat.digitChar d) = ⟨done, current, .point (16 * value + d)⟩ := by
  obtain ⟨hopen, hclose, hv⟩ := hexValue_digitChar d hd
  simp only [push]
  rw [if_neg hopen, if_neg hclose, hv]

theorem foldl_push_toDigits (n : Nat) :
    (Nat.toDigits 16 n).foldl push ⟨done, current, .point 0⟩ = ⟨done, current, .point n⟩ := by
  induction n using Nat.strongRecOn with
  | ind n ih =>
    by_cases hn : n < 16
    · rw [Nat.toDigits_of_lt_base hn, List.foldl_cons, push_digitChar done current 0 hn, List.foldl_nil,
        Nat.mul_zero, Nat.zero_add]
    · rw [Nat.toDigits_of_base_le (by decide) (by omega), List.foldl_append, ih (n / 16) (by omega),
        List.foldl_cons, push_digitChar done current _ (Nat.mod_lt n (by decide)), List.foldl_nil,
        Nat.div_add_mod]

theorem foldl_push_escapePoint (c : Char) :
    (escapePoint c).foldl push ⟨done, current, .inside⟩ =
      ⟨done, current ++ String.utf8EncodeChar c, .inside⟩ := by
  have hopen : ['\\', 'u', '\x7b'].foldl push ⟨done, current, .inside⟩ = ⟨done, current, .point 0⟩ := rfl
  rw [escapePoint, List.foldl_append, List.foldl_append, hopen, foldl_push_toDigits]
  simp [push, addChar, Char.ofNat_toNat]

theorem foldl_push_escapeChar (c : Char) :
    (escapeChar c).foldl push ⟨done, current, .inside⟩ =
      ⟨done, current ++ String.utf8EncodeChar c, .inside⟩ := by
  unfold escapeChar
  split
  · rfl
  · rfl
  · rfl
  · rfl
  · rfl
  · rfl
  · rename_i hback hquote
    split
    · exact foldl_push_escapePoint done current c
    · -- a character that is written as it is ends no quotation and opens no escape
      rw [List.foldl_cons, List.foldl_nil]
      simp only [push]
      rw [if_neg hquote, if_neg hback]
      rfl

theorem foldl_push_escapePiece (p : Utf8.Piece) :
    (escapePiece p).foldl push ⟨done, current, .inside⟩ = ⟨done, current ++ p.bytes, .inside⟩ := by
  cases p with
  | char c => exact foldl_push_escapeChar done current c
  | junk bs =>
    change (bs.flatMap escapeByte).foldl push _ = ⟨done, current ++ bs, .inside⟩
    induction bs generalizing current with
    | nil => rw [List.append_nil]; rfl
    | cons b bs ih =>
      rw [List.flatMap_cons, List.foldl_append, foldl_push_escapeByte, ih, List.append_assoc,
        List.singleton_append]

theorem foldl_push_escapePieces (ps : List Utf8.Piece) :
    (ps.flatMap escapePiece).foldl push ⟨done, current, .inside⟩ =
      ⟨done, current ++ ps.flatMap Utf8.Piece.bytes, .inside⟩ := by
  induction ps generalizing current with
  | nil => rw [List.flatMap_nil, List.flatMap_nil, List.append_nil]; rfl
  | cons p ps ih =>
    rw [List.flatMap_cons, List.foldl_append, foldl_push_escapePiece, ih, List.flatMap_cons, List.append_assoc]

/-! ## Quotations are read back -/

theorem foldl_push_quoteChars (bs : Bytes) :
    (quoteChars bs).foldl push ⟨done, [], .outside⟩ = ⟨bs :: done, [], .outside⟩ := by
  have hopen : ['"'].foldl push ⟨done, [], .outside⟩ = ⟨done, [], .inside⟩ := rfl
  rw [quoteChars, List.foldl_append, List.foldl_append, hopen, foldl_push_escapePieces, List.nil_append,
    Utf8.flatMap_bytes_pieces]
  rfl

theorem foldl_push_quotations (args : List Bytes) :
    ([',', ' '].intercalate (args.map quoteChars)).foldl push ⟨done, [], .outside⟩ =
      ⟨args.reverse ++ done, [], .outside⟩ := by
  induction args generalizing done with
  | nil => rfl
  | cons a args ih =>
    cases args with
    | nil => rw [List.map_singleton, List.intercalate_singleton, foldl_push_quoteChars]; rfl
    | cons b rest =>
      have hcomma : [',', ' '].foldl push ⟨a :: done, [], .outside⟩ = ⟨a :: done, [], .outside⟩ := rfl
      rw [List.map_cons] at ih
      rw [List.map_cons, List.map_cons, List.intercalate_cons_cons, List.foldl_append, List.foldl_append,
        foldl_push_quoteChars, hcomma, ih, List.reverse_cons (a := a), List.append_assoc, List.singleton_append]

end

end Unquoter

theorem toList_quoteList (args : List Bytes) :
    (quoteList args).toList = ['['] ++ [',', ' '].intercalate (args.map quoteChars) ++ [']'] := by
  have hq : String.toList ∘ quote = quoteChars := funext fun bs => String.toList_ofList
  rw [quoteList, String.toList_append, String.toList_append, String.toList_intercalate, List.map_map, hq]
  rfl

/-- A quoted list has all that was quoted, to the byte. -/
theorem unquoteList_quoteList (args : List Bytes) : unquoteList (quoteList args) = args := by
  rw [unquoteList, toList_quoteList, List.foldl_append, List.foldl_append]
  have hopen : ['['].foldl Unquoter.push ⟨[], [], .outside⟩ = ⟨[], [], .outside⟩ := rfl
  rw [hopen, Unquoter.foldl_push_quotations, List.append_nil]
  exact List.reverse_reverse args

theorem quoteList_injective : Function.Injective quoteList :=
  Function.LeftInverse.injective unquoteList_quoteList

end DesktopRefresh.Text

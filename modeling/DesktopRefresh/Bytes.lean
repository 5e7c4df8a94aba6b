import DesktopRefresh.Number

/-!
# Byte strings

Arguments, paths and captured output are bytes: none of them has to be text. A text is turned
into bytes by its UTF-8 encoding.
-/

namespace DesktopRefresh

abbrev Bytes := List UInt8

namespace Bytes

/-- The UTF-8 encoding of a list of characters. -/
def ofChars (cs : List Char) : Bytes := cs.flatMap String.utf8EncodeChar

def ofString (s : String) : Bytes := ofChars s.toList

/-- The byte of an ASCII character. -/
def ascii (c : Char) : UInt8 := c.toNat.toUInt8

def slash : UInt8 := ascii '/'

def newline : UInt8 := ascii '\n'

def isBlank (b : UInt8) : Bool := b = ascii ' ' ∨ b = ascii '\t'

def isDigit (b : UInt8) : Bool := ascii '0' ≤ b ∧ b ≤ ascii '9'

/-- The number that a list of digits stands for. -/
def number (bs : Bytes) : Nat := bs.foldl (fun n b => n * 10 + (b.toNat - (ascii '0').toNat)) 0

/-- The small letter for a capital one of ASCII. -/
def toLower (b : UInt8) : UInt8 := if ascii 'A' ≤ b ∧ b ≤ ascii 'Z' then b + 32 else b

def toUpper (b : UInt8) : UInt8 := if ascii 'a' ≤ b ∧ b ≤ ascii 'z' then b - 32 else b

/-- Without the blanks at both ends. -/
def trim (bs : Bytes) : Bytes := ((bs.dropWhile isBlank).reverse.dropWhile isBlank).reverse

/-- Cuts at every occurrence of one byte, which belongs to no part; there is always a part. -/
def splitAt (sep : UInt8) (bs : Bytes) : List Bytes :=
  bs.foldr (fun b parts => if b = sep then [] :: parts else
    match parts with
    | [] => [[b]]
    | p :: ps => (b :: p) :: ps) [[]]

theorem splitAt_ne_nil (sep : UInt8) (bs : Bytes) : splitAt sep bs ≠ [] := by
  cases bs with
  | nil => exact List.cons_ne_nil _ _
  | cons b bs =>
    rw [splitAt, List.foldr_cons]
    split
    · exact List.cons_ne_nil _ _
    · split <;> exact List.cons_ne_nil _ _

theorem splitAt_of_not_mem {sep : UInt8} {bs : Bytes} (h : sep ∉ bs) : splitAt sep bs = [bs] := by
  induction bs with
  | nil => rfl
  | cons b bs ih =>
    rw [List.mem_cons, not_or] at h
    have hs : splitAt sep bs = [bs] := ih h.2
    unfold splitAt at hs ⊢
    rw [List.foldr_cons, if_neg fun hb => h.1 hb.symm, hs]

theorem splitAt_append (sep : UInt8) (as bs : Bytes) :
    splitAt sep (as ++ sep :: bs) = splitAt sep as ++ splitAt sep bs := by
  induction as with
  | nil => exact if_pos rfl
  | cons a as ih =>
    have hn := splitAt_ne_nil sep as
    unfold splitAt at hn ih ⊢
    rw [List.cons_append, List.foldr_cons, List.foldr_cons, ih]
    by_cases ha : a = sep
    · rw [if_pos ha, if_pos ha, List.cons_append]
    · rw [if_neg ha, if_neg ha]
      obtain ⟨part, parts, hp⟩ := List.exists_cons_of_ne_nil hn
      rw [hp, List.cons_append, List.cons_append]

end Bytes

end DesktopRefresh

import DesktopRefresh.Bytes

/-!
# Decoding UTF-8

A byte string is read as a sequence of pieces: characters, and junk. A piece of junk is a maximal
invalid subpart: the bytes of a character that was begun correctly and broken off, or one byte that
begins none. Nothing is lost: the bytes of the pieces are the bytes that were read.
-/

namespace DesktopRefresh.Utf8

inductive Piece where
  | char (c : Char)
  | junk (bs : Bytes)
  deriving DecidableEq, Repr

def Piece.bytes : Piece → Bytes
  | .char c => String.utf8EncodeChar c
  | .junk bs => bs

/-- A character that was begun: its bytes so far, the bits they carry, how many bytes are still to
come, and the bounds of the next one. -/
structure Begun where
  seen : Bytes
  value : Nat
  missing : Nat
  low : UInt8
  high : UInt8

/-- The byte that opens a character of two to four bytes. The bounds on the byte after it keep out
overlong forms, surrogates and everything above U+10FFFF. -/
def Begun.ofLead? (b : UInt8) : Option Begun :=
  if 0xC2 ≤ b ∧ b ≤ 0xDF then some ⟨[b], b.toNat - 0xC0, 1, 0x80, 0xBF⟩
  else if b = 0xE0 then some ⟨[b], 0, 2, 0xA0, 0xBF⟩
  else if b = 0xED then some ⟨[b], 0xD, 2, 0x80, 0x9F⟩
  else if 0xE1 ≤ b ∧ b ≤ 0xEF then some ⟨[b], b.toNat - 0xE0, 2, 0x80, 0xBF⟩
  else if b = 0xF0 then some ⟨[b], 0, 3, 0x90, 0xBF⟩
  else if b = 0xF4 then some ⟨[b], 4, 3, 0x80, 0x8F⟩
  else if 0xF1 ≤ b ∧ b ≤ 0xF3 then some ⟨[b], b.toNat - 0xF0, 3, 0x80, 0xBF⟩
  else none

/-- What has been read: the pieces, last one first, and the character under way. -/
structure Decoder where
  done : List Piece
  begun : Option Begun

namespace Decoder

/-- A byte between characters. -/
def enter (done : List Piece) (b : UInt8) : Decoder :=
  if b < 0x80 then ⟨.char (Char.ofNat b.toNat) :: done, none⟩
  else match Begun.ofLead? b with
    | some p => ⟨done, some p⟩
    | none => ⟨.junk [b] :: done, none⟩

def push (d : Decoder) (b : UInt8) : Decoder :=
  match d.begun with
  | none => enter d.done b
  | some p =>
    if p.low ≤ b ∧ b ≤ p.high then
      let value := p.value * 64 + (b.toNat - 0x80)
      if p.missing = 1 then ⟨.char (Char.ofNat value) :: d.done, none⟩
      else ⟨d.done, some ⟨p.seen ++ [b], value, p.missing - 1, 0x80, 0xBF⟩⟩
    else enter (.junk p.seen :: d.done) b

def finish (d : Decoder) : List Piece :=
  match d.begun with
  | none => d.done.reverse
  | some p => (.junk p.seen :: d.done).reverse

end Decoder

def pieces (bs : Bytes) : List Piece := (bs.foldl Decoder.push ⟨[], none⟩).finish

/-- The character that stands for a piece of junk. -/
def replacement : Char := '\uFFFD'

def Piece.lossyChar : Piece → Char
  | .char c => c
  | .junk _ => replacement

/-- Every piece of junk becomes one replacement character. -/
def lossy (bs : Bytes) : String := String.ofList ((pieces bs).map Piece.lossyChar)

def Piece.char? : Piece → Option Char
  | .char c => some c
  | .junk _ => none

/-- The text, if there is no junk. -/
def decode? (bs : Bytes) : Option String := ((pieces bs).mapM Piece.char?).map String.ofList

def isText (bs : Bytes) : Bool := (decode? bs).isSome

end DesktopRefresh.Utf8

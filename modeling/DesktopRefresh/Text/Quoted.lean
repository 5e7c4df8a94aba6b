import DesktopRefresh.Text.Extending
import DesktopRefresh.Text.Printable
import DesktopRefresh.Text.Utf8

/-!
# Quoted byte strings

A byte string is shown between double quotes. A byte that is no text is written with two hexadecimal
digits, a character that would be invisible, or would merge with its neighbour, with its code point.
-/

namespace DesktopRefresh.Text

def hexDigit (n : Nat) : Char := if n < 10 then Char.ofNat (48 + n) else Char.ofNat (55 + n)

/-- The escape of a byte that belongs to no character: `\xFF`. -/
def escapeByte (b : UInt8) : List Char := ['\\', 'x', hexDigit (b.toNat / 16), hexDigit (b.toNat % 16)]

/-- The escape of a character by its code point, `\u` and the number in braces. -/
def escapePoint (c : Char) : List Char := ['\\', 'u', '\x7b'] ++ Nat.toDigits 16 c.toNat ++ ['\x7d']

def escapeChar (c : Char) : List Char :=
  match c with
  | '\x00' => ['\\', '0']
  | '\t' => ['\\', 't']
  | '\r' => ['\\', 'r']
  | '\n' => ['\\', 'n']
  | '\\' => ['\\', '\\']
  | '"' => ['\\', '"']
  | c => if isExtending c || !isPrintable c then escapePoint c else [c]

def escapePiece : Utf8.Piece → List Char
  | .char c => escapeChar c
  | .junk bs => bs.flatMap escapeByte

def quoteChars (bs : Bytes) : List Char := ['"'] ++ (Utf8.pieces bs).flatMap escapePiece ++ ['"']

def quote (bs : Bytes) : String := String.ofList (quoteChars bs)

/-- Quoted byte strings in brackets, with a comma and a space between two of them. -/
def quoteList (args : List Bytes) : String := "[" ++ String.intercalate ", " (args.map quote) ++ "]"

end DesktopRefresh.Text

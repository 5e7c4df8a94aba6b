import DesktopRefresh.Number

/-!
# Decimal numbers of 64 bits

A number is written with at least one ASCII digit and may have one plus sign in front. Digits are
read from left to right, and the first fault decides: a character that is no digit, or the digit
with which the number leaves the 64 bits.
-/

namespace DesktopRefresh.Decimal

inductive Fault where
  | empty
  | invalidDigit
  | tooLarge
  deriving DecidableEq, Repr

def Fault.message : Fault → String
  | .empty => "cannot parse integer from empty string"
  | .invalidDigit => "invalid digit found in string"
  | .tooLarge => "number too large to fit in target type"

def limit : Nat := 2 ^ 64

def pushDigit (n : Nat) (c : Char) : Except Fault Nat :=
  if c.isDigit then
    let n := n * 10 + (c.toNat - 48)
    if n < limit then .ok n else .error .tooLarge
  else .error .invalidDigit

def readDigits (cs : List Char) : Except Fault Nat :=
  if cs.isEmpty then .error .invalidDigit else cs.foldlM pushDigit 0

def readChars : List Char → Except Fault Nat
  | [] => .error .empty
  | '+' :: cs => readDigits cs
  | cs => readDigits cs

def read (s : String) : Except Fault Nat := readChars s.toList

end DesktopRefresh.Decimal

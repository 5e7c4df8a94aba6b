import DesktopRefresh.Bytes

/-!
# Floating numbers

Numbers with a sign, 53 binary digits and an exponent of two. A numeral is rounded to the nearest of them,
and one of them is written with the exact value of its digits, rounded to the nearest decimal; of two that
are equally near, the even one is taken.
-/

namespace DesktopRefresh

inductive Floating where
  /-- The number `mantissa * 2 ^ exponent`, with a minus sign if it is negative. -/
  | finite (negative : Bool) (mantissa : Nat) (exponent : Int)
  | infinite (negative : Bool)
  | undefined (negative : Bool)
  deriving DecidableEq, Repr

namespace Floating

open Bytes (isDigit)

def char (c : Char) : UInt8 := Bytes.ascii c

def zero : Floating := finite false 0 0

def isNegative : Floating → Bool
  | finite n _ _ | infinite n | undefined n => n

/-! ## Rounding -/

/-- The whole number nearest to a quotient; halfway between two of them, the even one. -/
def roundQuotient (n d : Nat) : Nat :=
  let q := n / d
  let r := n % d
  if 2 * r < d then q else if d < 2 * r then q + 1 else if q % 2 = 0 then q else q + 1

def precision : Nat := 53

def leastExponent : Int := -1074

def greatestExponent : Int := 971

/-- `n * 2 ^ e / d`, where a negative exponent divides. -/
def scaled (n d : Nat) (e : Int) : Nat × Nat := if 0 ≤ e then (n * 2 ^ e.toNat, d) else (n, d * 2 ^ (-e).toNat)

/-- The floating number nearest to a quotient. -/
def ofQuotient (negative : Bool) (n d : Nat) : Floating :=
  if n = 0 then finite negative 0 0
  else
    let guess : Int := (Nat.log2 n : Int) - Nat.log2 d - precision
    let size (e : Int) : Nat := let (a, b) := scaled n d (-e); a / b
    let e := if size guess ≥ 2 ^ precision then guess + 1 else guess
    let e := if size e ≥ 2 ^ precision then e + 1 else e
    let e := max e leastExponent
    let (a, b) := scaled n d (-e)
    let m := roundQuotient a b
    let (m, e) := if m = 2 ^ precision then (m / 2, e + 1) else (m, e)
    if greatestExponent < e then infinite negative else finite negative m e

/-! ## Reading -/

def digitValue (b : UInt8) : Nat :=
  if isDigit b then b.toNat - 48
  else if 0x61 ≤ b ∧ b ≤ 0x66 then b.toNat - 87
  else if 0x41 ≤ b ∧ b ≤ 0x46 then b.toNat - 55
  else 16

/-- Digits of a base with a point between them: their value without the point, how many stand behind it, and
what follows; nothing if there are none. -/
def digits? (base : Nat) (bs : Bytes) : Option (Nat × Nat × Bytes) :=
  let isMember (b : UInt8) : Bool := digitValue b < base
  let (whole, rest) := bs.span isMember
  let (part, after) : Bytes × Bytes := match rest with
    | point :: more => if point = char '.' then more.span isMember else ([], rest)
    | [] => ([], [])
  let consumed := if part.isEmpty && whole.isEmpty then none else
    some (if part.isEmpty && rest.head? == some (char '.') then rest.drop 1 else after)
  consumed.map fun after =>
    ((whole ++ part).foldl (fun n b => n * base + digitValue b) 0, part.length, after)

/-- An exponent behind its letter, and what follows it. -/
def exponent? (letter : Char) (bs : Bytes) : Option (Int × Bytes) :=
  match bs with
  | e :: rest =>
    if Bytes.toLower e = char letter then
      let negative := rest.head? == some (char '-')
      let rest := if negative || rest.head? == some (char '+') then rest.drop 1 else rest
      let digits := rest.takeWhile isDigit
      if digits.isEmpty then none
      else
        let n : Int := Bytes.number digits
        some (if negative then -n else n, rest.drop digits.length)
    else none
  | [] => none

/-- Exponents beyond this have the same effect as it has. -/
def farExponent : Int := 5000

def startsWith (word : String) (bs : Bytes) : Bool := (Bytes.ofString word).isPrefixOf (bs.map Bytes.toLower)

/-- A number that was read from a numeral is too large, or too small to have all its binary digits. -/
def isOutOfRange (exact : Bool) : Floating → Bool
  | finite _ m e => !exact && m < 2 ^ (precision - 1) && e = leastExponent
  | infinite _ => true
  | undefined _ => false

/-- The number nearest to a quotient that a numeral stands for, and whether it is in range. -/
def ofNumeral (negative : Bool) (n d : Nat) : Floating × Bool :=
  let x := ofQuotient negative n d
  let exact := match x with
    | finite _ m e => let (a, b) := scaled m 1 e; a * d == n * b
    | _ => false
  (x, !isOutOfRange exact x)

/-- The number that a text begins with, whether it is in range, and what follows it. -/
def read? (bs : Bytes) : Option (Floating × Bool × Bytes) :=
  let bs := bs.dropWhile fun b => b == 0x20 || (0x09 ≤ b && b ≤ 0x0D)
  let negative := bs.head? == some (char '-')
  let bs := if negative || bs.head? == some (char '+') then bs.drop 1 else bs
  let decimal : Option (Floating × Bool × Bytes) := (digits? 10 bs).map fun (n, places, after) =>
    let (e, after) := (exponent? 'e' after).getD (0, after)
    let e := max (-farExponent) (min farExponent (e - places))
    let (x, inRange) := if 0 ≤ e then ofNumeral negative (n * 10 ^ e.toNat) 1 else ofNumeral negative n (10 ^ (-e).toNat)
    (x, inRange, after)
  if startsWith "infinity" bs then some (infinite negative, true, bs.drop 8)
  else if startsWith "inf" bs then some (infinite negative, true, bs.drop 3)
  else if startsWith "nan" bs then some (undefined negative, true, bs.drop 3)
  else if startsWith "0x" bs then
    match digits? 16 (bs.drop 2) with
    | some (n, places, after) =>
      let (e, after) := (exponent? 'p' after).getD (0, after)
      let e := max (-farExponent) (min farExponent (e - 4 * places))
      let (a, b) := scaled n 1 e
      let (x, inRange) := ofNumeral negative a b
      some (x, inRange, after)
    | none => decimal
  else decimal

/-! ## Writing -/

/-- The value as a quotient, without its sign. -/
def quotient (m : Nat) (e : Int) : Nat × Nat := scaled m 1 e

def padLeft (width : Nat) (digits : List Char) : List Char := List.replicate (width - digits.length) '0' ++ digits

/-- Digits with a point before the last `places` of them. -/
def withPoint (alternate : Bool) (places n : Nat) : String :=
  let digits := padLeft (places + 1) (Nat.toDigits 10 n)
  let whole := digits.take (digits.length - places)
  let part := digits.drop (digits.length - places)
  String.ofList (whole ++ if places = 0 && !alternate then [] else '.' :: part)

/-- With a given number of places behind the point. -/
def fixed (alternate : Bool) (places : Nat) (m : Nat) (e : Int) : String :=
  let (n, d) := quotient m e
  withPoint alternate places (roundQuotient (n * 10 ^ places) d)

/-- The exponent of ten of the first digit of a quotient that is not zero. -/
def magnitude (n d : Nat) : Int :=
  let guess : Int := ((Nat.toDigits 10 n).length : Int) - (Nat.toDigits 10 d).length
  let reaches (k : Int) : Bool := if 0 ≤ k then d * 10 ^ k.toNat ≤ n else d ≤ n * 10 ^ (-k).toNat
  if reaches guess then guess else guess - 1

/-- The digits of a number rounded to so many of them, as a whole number, with the exponent of the first. -/
def significant (count : Nat) (m : Nat) (e : Int) : Nat × Int :=
  let (n, d) := quotient m e
  if n = 0 then (0, 0)
  else
    let k := magnitude n d
    let shift := (count : Int) - 1 - k
    let r := if 0 ≤ shift then roundQuotient (n * 10 ^ shift.toNat) d else roundQuotient n (d * 10 ^ (-shift).toNat)
    if r = 10 ^ count then (r / 10, k + 1) else (r, k)

def exponentText (e : Int) : String :=
  let digits := padLeft 2 (Nat.toDigits 10 e.natAbs)
  (if e < 0 then "-" else "+") ++ String.ofList digits

/-- One digit before the point, and an exponent. -/
def scientific (alternate : Bool) (places : Nat) (m : Nat) (e : Int) : String :=
  let (n, k) := significant (places + 1) m e
  withPoint alternate places n ++ "e" ++ exponentText k

def dropZeros (s : String) : String :=
  if s.contains '.' then
    let kept := s.toList.reverse.dropWhile (· == '0')
    String.ofList (if kept.head? == some '.' then kept.drop 1 else kept).reverse
  else s

/-- Whichever of the two forms is shorter for so many digits, without zeros at the end. -/
def general (alternate : Bool) (count : Nat) (m : Nat) (e : Int) : String :=
  let count := max count 1
  let (n, k) := significant count m e
  if k < -4 ∨ (count : Int) ≤ k then
    let body := withPoint alternate (count - 1) n
    (if alternate then body else dropZeros body) ++ "e" ++ exponentText k
  else
    let body := fixed alternate (((count : Int) - 1 - k).toNat) m e
    if alternate then body else dropZeros body

def hexDigits (n : Nat) : List Char := Nat.toDigits 16 n

/-- The least exponent of a number that has all its binary digits. -/
def leastNormal : Int := -1022

/-- Hexadecimal digits and an exponent of two, as many as are needed or a given number behind the point. -/
def hexadecimal (alternate : Bool) (places : Option Nat) (m : Nat) (e : Int) : String :=
  if m = 0 then
    "0x0" ++ (match places with
      | some (n + 1) => "." ++ String.ofList (List.replicate (n + 1) '0')
      | _ => if alternate then "." else "") ++ "p+0"
  else
    -- A number too small for a leading one is written with a leading zero.
    let size := max (Nat.log2 m) (leastNormal - e).toNat
    let full := m * 2 ^ (52 - size)
    let binary := e + size
    let (full, places, width) : Nat × Nat × Nat := match places with
      | some p => if p < 13 then (roundQuotient full (2 ^ (52 - 4 * p)), p, p) else (full, 13, p)
      | none => (full, 13, 0)
    let whole := full / 16 ^ places
    let part := padLeft places (hexDigits (full % 16 ^ places))
    let part := if places = 0 then [] else part
    let kept := (part.reverse.dropWhile (· == '0')).reverse
    let shown := kept ++ List.replicate (width - kept.length) '0'
    let point := if shown.isEmpty && !alternate then "" else "."
    "0x" ++ String.ofList (hexDigits whole) ++ point ++ String.ofList shown ++ "p" ++
      (if binary < 0 then "-" else "+") ++ toString binary.natAbs

/-- The number without its sign in the form that a letter stands for, if it is one. -/
def render (letter : Char) (alternate : Bool) (places : Option Nat) (x : Floating) : String :=
  let body : String := match x with
    | infinite _ => "inf"
    | undefined _ => "nan"
    | finite _ m e =>
      match letter.toLower with
      | 'f' => fixed alternate (places.getD 6) m e
      | 'e' => scientific alternate (places.getD 6) m e
      | 'g' => general alternate (places.getD 6) m e
      | _ => hexadecimal alternate places m e
  if letter.isUpper then body.toUpper else body

end Floating

end DesktopRefresh

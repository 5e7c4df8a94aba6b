import DesktopRefresh.Shell.Format
import DesktopRefresh.Text.Floating.Arithmetic
import DesktopRefresh.Utility.Awk.Lexer

/-!
# Values of programs

A value is a number or a text. A text that came from an input and looks like a number is compared as a number.
-/

namespace DesktopRefresh.Awk

open Utility (text)

inductive Value where
  /-- Nothing was assigned yet; it counts as zero and as the empty text. -/
  | unset
  | number (x : Floating)
  | text (bs : Bytes)
  /-- A text that looks like a number. -/
  | numeral (bs : Bytes) (x : Floating)
  deriving DecidableEq, Repr

instance : Inhabited Value := ⟨.unset⟩

/-! ## Conversions -/

/-- The number that a text begins with, or zero. -/
def leadingNumber (bs : Bytes) : Floating := ((Floating.read? bs).map (·.1)).getD Floating.zero

def isBlankByte (b : UInt8) : Bool := b = 0x20 || (0x09 ≤ b && b ≤ 0x0D)

/-- A text from an input. -/
def Value.ofInput (bs : Bytes) : Value :=
  match Floating.read? bs with
  | some (x, _, rest) => if rest.all isBlankByte then .numeral bs x else .text bs
  | none => .text bs

def Value.toNumber : Value → Floating
  | .unset => Floating.zero
  | .number x => x
  | .text bs => leadingNumber bs
  | .numeral _ x => x

/-- Whole numbers below this are written with all their digits. -/
def mostWhole : Nat := 2 ^ 64

/-- A number in the place of the first conversion of a format. -/
def floatText (format : Bytes) (x : Floating) : Bytes :=
  let front := format.takeWhile (· != Bytes.ascii '%')
  match format.drop front.length with
  | [] => front
  | _ :: rest =>
    let (d, after) := Shell.Format.flags rest.length Shell.Format.Directive.plain rest
    let width := after.takeWhile Bytes.isDigit
    let after := after.drop width.length
    let (precision, after) := if after.head? == some (Bytes.ascii '.') then
        let digits := (after.drop 1).takeWhile Bytes.isDigit
        (some (Bytes.number digits), after.drop (digits.length + 1))
      else (none, after)
    match after with
    | letter :: behind =>
      front ++ Shell.Format.floating { d with width := Bytes.number width, precision := precision }
        (Char.ofNat letter.toNat) x ++ behind
    | [] => front

/-- A number in the form that a format asks for, unless it is a whole number. -/
def numberText (format : Bytes) (x : Floating) : Bytes :=
  match x with
  | .infinite n => text (if n then "-inf" else "inf")
  | .undefined n => text (if n then "-nan" else "nan")
  | .finite _ _ _ =>
    match (if x.isWhole then x.truncate? else none) with
    | some n => if n.natAbs < mostWhole then text (toString n) else floatText format x
    | none => floatText format x

def Value.toText (format : Bytes) : Value → Bytes
  | .unset => []
  | .number x => numberText format x
  | .text bs | .numeral bs _ => bs

/-- A number is true if it is not zero, a text if it is not empty. -/
def Value.isTrue : Value → Bool
  | .unset => false
  | .number x | .numeral _ x => !x.isZero
  | .text bs => !bs.isEmpty

def Value.ofBool (b : Bool) : Value := .number (if b then Floating.one else Floating.zero)

def Value.ofNat (n : Nat) : Value := .number (Floating.ofNat n)

/-- Numbers are compared as numbers, but a number and a text as texts. -/
def compareValues (format : Bytes) (a b : Value) : Option Ordering :=
  let isNumeric : Value → Bool
    | .text _ => false
    | _ => true
  if isNumeric a && isNumeric b then a.toNumber.order? b.toNumber
  else
    let x := a.toText format
    let y := b.toText format
    some (if x < y then .lt else if x == y then .eq else .gt)

def Relation.holds (r : Relation) (o : Option Ordering) : Bool :=
  match r, o with
  | .unequal, none => true
  | _, none => false
  | .less, some o => o == .lt
  | .lessEqual, some o => o != .gt
  | .equal, some o => o == .eq
  | .unequal, some o => o != .eq
  | .greater, some o => o == .gt
  | .greaterEqual, some o => o != .lt

def Operation.apply (op : Operation) (x y : Floating) : Floating :=
  match op with
  | .add => x.add y
  | .subtract => x.subtract y
  | .multiply => x.multiply y
  | .divide => x.divide y
  | .remainder => x.remainder y
  | .power => x.power y

/-! ## Formats -/

/-- What keeps a text from being formatted: too few values, or a conversion that is not one. -/
inductive FormatFault where
  | tooFew
  | improper (number : Nat)

/-- The number to which a value is cut for conversions to whole numbers. -/
def wholeOf (v : Value) : Int := (v.toNumber.truncate?).getD (if v.toNumber.isNegative then -(2 ^ 63) else 2 ^ 63 - 1)

/-- One conversion of a value. -/
def converted (string : Bytes) (d : Shell.Format.Directive) (letter : UInt8) (v : Value) : Option Bytes :=
  let cut (bs : Bytes) : Bytes := match d.precision with
    | some n => bs.take n
    | none => bs
  let c := Char.ofNat letter.toNat
  let whole (base : Nat) (mark : String) : Bytes :=
    let n := wholeOf v
    let front := if d.alternate && n != 0 then text mark else []
    let digits := Shell.Format.digitsOf base (Shell.Format.unsigned n)
    Shell.Format.padNumber d front (if c = 'X' then digits.map Bytes.toUpper else digits)
  match c with
  | 's' => some (Shell.Format.pad d (cut (v.toText string)))
  | 'c' =>
    let bs := match v with
      | .number x => [(((x.truncate?).getD 0) % 256).toNat.toUInt8]
      | .numeral _ x => [(((x.truncate?).getD 0) % 256).toNat.toUInt8]
      | v => (v.toText string).take 1
    some (Shell.Format.pad d bs)
  | 'd' | 'i' =>
    let n := wholeOf v
    some (Shell.Format.padNumber d (Shell.Format.signOf d n) (Shell.Format.digitsOf 10 n.natAbs))
  | 'o' => some (whole 8 "0")
  | 'x' => some (whole 16 "0x")
  | 'X' => some (whole 16 "0X")
  | 'u' => some (whole 10 "")
  | 'e' | 'E' | 'f' | 'F' | 'g' | 'G' | 'a' | 'A' => some (Shell.Format.floating d c v.toNumber)
  | _ => none

/-- A count in a conversion, which a star takes from the values. -/
def formatCount (bs : Bytes) (vs : List Value) : Option (Option Int × Bytes × List Value) :=
  if bs.head? == some (Bytes.ascii '*') then
    match vs with
    | v :: rest => some (some (wholeOf v), bs.drop 1, rest)
    | [] => none
  else
    let digits := bs.takeWhile Bytes.isDigit
    some (if digits.isEmpty then none else some (Bytes.number digits), bs.drop digits.length, vs)

/-- A format with values in the place of its conversions. -/
def format (string : Bytes) : (fuel number : Nat) → Bytes → List Value → Except FormatFault Bytes
  | 0, _, _, _ | _, _, [], _ => .ok []
  | fuel + 1, number, b :: rest, vs => do
    if b != Bytes.ascii '%' then return b :: (← format string fuel number rest vs)
    else if rest.head? == some b then return b :: (← format string fuel number (rest.drop 1) vs)
    else if rest.isEmpty then throw (.improper number)
    else
      let (d, after) := Shell.Format.flags rest.length Shell.Format.Directive.plain rest
      let (width, after, vs) ← (formatCount after vs).elim (.error .tooFew) .ok
      let (precision, after, vs) ← if after.head? == some (Bytes.ascii '.') then do
          let (n, after, vs) ← (formatCount (after.drop 1) vs).elim (.error .tooFew) .ok
          pure (some (n.getD 0), after, vs)
        else pure (none, after, vs)
      let d := { d with
        width := (width.getD 0).natAbs
        left := d.left || width.any (· < 0)
        precision := precision.bind fun n => if n < 0 then none else some n.toNat }
      let after := after.dropWhile fun c => c = Bytes.ascii 'l' || c = Bytes.ascii 'h'
      match after, vs with
      | [], _ => throw (.improper number)
      | letter :: after, v :: vs =>
        match converted string d letter v with
        | some bs => return bs ++ (← format string fuel (number + 1) after vs)
        | none => throw (.improper number)
      | letter :: _, [] =>
        if (converted string d letter .unset).isSome then throw .tooFew else throw (.improper number)

/-! ## Tables -/

/-- Elements by their subscripts; the one that was used last stands first. -/
abbrev Table := List (Bytes × Value)

/-- Finds an element and puts it first. -/
def Table.find (t : Table) (key : Bytes) : Option Value × Table :=
  match t.lookup key with
  | some v => (some v, (key, v) :: t.eraseP (·.1 == key))
  | none => (none, t)

def Table.insert (t : Table) (key : Bytes) (v : Value) : Table := (key, v) :: t.eraseP (·.1 == key)

/-- The number of lists among which elements are spread. -/
def spread : Nat := 64

/-- The list that an element belongs to. -/
def listOf (key : Bytes) : Nat :=
  (key.foldl (fun h b => Nat.xor h b.toNat * 16777619 % 2 ^ 32) 2166136261) % spread

/-- The subscripts in the order in which they are gone through. -/
def Table.keys (t : Table) : List Bytes := (t.map (·.1)).mergeSort fun a b => decide (listOf a ≤ listOf b)

end DesktopRefresh.Awk

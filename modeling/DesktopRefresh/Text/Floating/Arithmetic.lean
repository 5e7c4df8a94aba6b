import DesktopRefresh.Text.Floating

/-!
# Arithmetic of floating numbers

Sums, products and quotients are those of the exact values, rounded to the nearest number. What has no exact
value is left to the words of the processor.
-/

namespace DesktopRefresh.Floating

/-! ## Whole numbers -/

def ofInt (n : Int) : Floating := ofQuotient (n < 0) n.natAbs 1

def ofNat (n : Nat) : Floating := ofQuotient false n 1

def one : Floating := ofNat 1

/-- The whole number nearest to zero up to which a finite number goes. -/
def truncate? : Floating → Option Int
  | finite negative m e =>
    let (n, d) := scaled m 1 e
    some (if negative then -((n / d : Nat) : Int) else (n / d : Nat))
  | _ => none

def isWhole : Floating → Bool
  | finite _ m e =>
    let (n, d) := scaled m 1 e
    n % d = 0
  | _ => false

def isZero : Floating → Bool
  | finite _ 0 _ => true
  | _ => false

def negate : Floating → Floating
  | finite n m e => finite (!n) m e
  | infinite n => infinite (!n)
  | undefined n => undefined (!n)

/-- What an operation without a value gives. -/
def nothing : Floating := undefined true

/-! ## The four operations -/

/-- A finite number as a whole number of units. -/
def inUnitsOf (low : Int) (negative : Bool) (m : Nat) (e : Int) : Int :=
  let size : Int := (m * 2 ^ (e - low).toNat : Nat)
  if negative then -size else size

def add : Floating → Floating → Floating
  | undefined n, _ | _, undefined n => undefined n
  | infinite n, infinite n' => if n = n' then infinite n else nothing
  | infinite n, _ | _, infinite n => infinite n
  | finite n m e, finite n' m' e' =>
    let low := min e e'
    let sum := inUnitsOf low n m e + inUnitsOf low n' m' e'
    if sum = 0 then finite (n && n') 0 0
    else
      let (a, b) := scaled sum.natAbs 1 low
      ofQuotient (sum < 0) a b

def subtract (x y : Floating) : Floating :=
  match y with
  | undefined _ => add x y
  | _ => add x y.negate

def multiply : Floating → Floating → Floating
  | undefined n, _ | _, undefined n => undefined n
  | infinite n, y | y, infinite n => if y.isZero then nothing else infinite (n != y.isNegative)
  | finite n m e, finite n' m' e' =>
    let (a, b) := scaled (m * m') 1 (e + e')
    ofQuotient (n != n') a b

def divide : Floating → Floating → Floating
  | undefined n, _ | _, undefined n => undefined n
  | infinite _, infinite _ => nothing
  | infinite n, y => infinite (n != y.isNegative)
  | x, infinite n => finite (x.isNegative != n) 0 0
  | finite n m e, finite n' m' e' =>
    if m' = 0 then (if m = 0 then nothing else infinite (n != n'))
    else
      let (a, b) := scaled m m' (e - e')
      ofQuotient (n != n') a b

/-- What is left of a number after whole parts of another one; it has the sign of the first. -/
def remainder : Floating → Floating → Floating
  | undefined n, _ | _, undefined n => undefined n
  | infinite _, _ => nothing
  | x, infinite _ => x
  | finite n m e, finite _ m' e' =>
    if m' = 0 then nothing
    else
      let low := min e e'
      let rest := (m * 2 ^ (e - low).toNat) % (m' * 2 ^ (e' - low).toNat)
      let (a, b) := scaled rest 1 low
      ofQuotient n a b

/-! ## Order -/

/-- The order of numbers; those without a value have none. -/
def order? : Floating → Floating → Option Ordering
  | undefined _, _ | _, undefined _ => none
  | infinite n, infinite n' => some (compare n' n)
  | infinite n, _ => some (if n then .lt else .gt)
  | _, infinite n => some (if n then .gt else .lt)
  | finite n m e, finite n' m' e' =>
    let low := min e e'
    some (compare (inUnitsOf low n m e) (inUnitsOf low n' m' e'))

/-! ## Words of 64 bits -/

/-- The sign, eleven digits of the exponent, and the binary digits behind the first. -/
def toBits (x : Floating) : UInt64 :=
  let sign : Nat := if x.isNegative then 2 ^ 63 else 0
  let body : Nat := match x with
    | infinite _ => 2047 * 2 ^ 52
    | undefined _ => 2047 * 2 ^ 52 + 2 ^ 51
    | finite _ 0 _ => 0
    | finite _ m e =>
      let shift := min (precision - 1 - Nat.log2 m) (e - leastExponent).toNat
      let m := m * 2 ^ shift
      if m < 2 ^ (precision - 1) then m
      else (e - shift - leastExponent + 1).toNat * 2 ^ 52 + (m - 2 ^ 52)
  (sign + body).toUInt64

def ofBits (bits : UInt64) : Floating :=
  let n := bits.toNat
  let negative := 2 ^ 63 ≤ n
  let exponent : Nat := n / 2 ^ 52 % 2 ^ 11
  let digits : Nat := n % 2 ^ 52
  if exponent = 2047 then (if digits = 0 then infinite negative else undefined negative)
  else if exponent = 0 then finite negative digits leastExponent
  else finite negative (digits + 2 ^ 52) (leastExponent + (exponent : Int) - 1)

/-- A function of the processor. -/
def byFloat (f : Float → Float) (x : Floating) : Floating := ofBits (f (Float.ofBits x.toBits)).toBits

def byFloats (f : Float → Float → Float) (x y : Floating) : Floating :=
  ofBits (f (Float.ofBits x.toBits) (Float.ofBits y.toBits)).toBits

/-- Exponents up to which a power is computed exactly. -/
def mostExact : Nat := 1024

def power (x y : Floating) : Floating :=
  match x, (if y.isWhole then y.truncate? else none) with
  | finite n m e, some k =>
    if k.natAbs ≤ mostExact && m != 0 then
      let negative := n && k.natAbs % 2 = 1
      let (a, b) := scaled (m ^ k.natAbs) 1 (e * k.natAbs)
      if k < 0 then ofQuotient negative b a else ofQuotient negative a b
    else byFloats Float.pow x y
  | _, _ => byFloats Float.pow x y

end DesktopRefresh.Floating

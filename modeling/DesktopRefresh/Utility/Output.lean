import DesktopRefresh.Shell.Format
import DesktopRefresh.Utility.Basic

/-!
# Utilities that print what they are told
-/

namespace DesktopRefresh.Utility

open Kernel (Activity)

/-! ## Texts with escapes -/

def isHex (b : UInt8) : Bool := Floating.digitValue b < 16

def octalValue (digits : Bytes) : Nat := digits.foldl (fun n d => n * 8 + (d.toNat - 48)) 0

def simpleEscapes : List (Char × UInt8) :=
  [('\\', 0x5C), ('a', 0x07), ('b', 0x08), ('e', 0x1B), ('f', 0x0C), ('n', 0x0A), ('r', 0x0D), ('t', 0x09),
    ('v', 0x0B)]

/-- The byte that an escape stands for, and the text after it, given the text after the backslash. -/
def escape? (rest : Bytes) : Option (UInt8 × Bytes) :=
  match rest with
  | [] => none
  | b :: after =>
    if b = Bytes.ascii 'x' then
      let digits := (after.take 2).takeWhile isHex
      if digits.isEmpty then none
      else some ((digits.foldl (fun n d => n * 16 + Floating.digitValue d) 0).toUInt8, after.drop digits.length)
    else if Shell.Format.isOctal b then
      -- One more zero can stand in front.
      let start := if b = Bytes.ascii '0' then after else rest
      let digits := (start.take 3).takeWhile Shell.Format.isOctal
      some ((octalValue digits).toUInt8, start.drop digits.length)
    else (simpleEscapes.find? fun e => Bytes.ascii e.1 == b).map fun e => (e.2, after)

/-- A text with its escapes replaced, last byte first, and whether it was cut short. -/
def expandEscapes : (fuel : Nat) → Bytes → (done : Bytes) → Bytes × Bool
  | fuel + 1, b :: rest, done =>
    if b = Bytes.ascii '\\' then
      if rest.head? == some (Bytes.ascii 'c') then (done, true)
      else match escape? rest with
        | some (value, after) => expandEscapes fuel after (value :: done)
        | none => expandEscapes fuel rest (b :: done)
    else expandEscapes fuel rest (b :: done)
  | _, _, done => (done, false)

def isEchoOption (a : Bytes) : Bool :=
  match a with
  | sign :: b :: bs => sign = Bytes.ascii '-' && (b :: bs).all fun c => (text "neE").contains c
  | _ => false

def echo : Utility := fun s => do
  let letters := (s.args.takeWhile isEchoOption).flatten
  let words := s.args.dropWhile isEchoOption
  let line := List.intercalate [Bytes.ascii ' '] words
  let escapes := (letters.filter fun b => b = Bytes.ascii 'e' || b = Bytes.ascii 'E').getLast? == some (Bytes.ascii 'e')
  let (shown, isCut) := if escapes then expandEscapes (line.length + 1) line [] else (line.reverse, false)
  let quiet := letters.contains (Bytes.ascii 'n')
  deliver s (if quiet || isCut then shown.reverse else shown.reverse ++ [Bytes.newline]) 0

def printf : Utility := fun s => do
  match (if s.args.head? == some (text "--") then s.args.drop 1 else s.args) with
  | [] => misuse s 1 (text "missing operand")
  | format :: args =>
    let p := Shell.Format.printf format args
    write 1 p.output
    for (argument, fault) in p.faults do
      let reason := if fault == "not completely converted" then "value not completely converted"
        else if fault == "expected numeric value" then "expected a numeric value" else fault
      complain s (quoted argument ++ text (": " ++ reason))
    match p.broken with
    | some _ =>
      complain s (text "%: invalid conversion specification")
      return 1
    | none => return if p.faults.isEmpty then 0 else 1

/-! ## Repetition -/

def repeatedly (chunk : Bytes) : (rounds : Nat) → Activity (Option Errno)
  | 0 => return none
  | rounds + 1 => do
    match ← Activity.write 1 chunk with
    | .ok _ => repeatedly chunk rounds
    | .error e => return some e

/-- How much is written at once by a program that has no end. -/
def chunkSize : Nat := 4096

def yes : Utility := fun s => do
  withOptions [] 1 true s fun o => do
    let line := (if o.operands.isEmpty then text "y" else List.intercalate [Bytes.ascii ' '] o.operands) ++
      [Bytes.newline]
    let chunk := (List.replicate (chunkSize / line.length + 1) line).flatten
    match ← repeatedly chunk Activity.mostPieces with
    | some e =>
      complain s (refusal (text "standard output") e)
      return 1
    | none => return 0

/-! ## Sequences -/

/-- A number with a decimal point: its digits as a whole number, and how many stand behind the point. -/
structure Decimal where
  digits : Int
  places : Nat

namespace Decimal

def ofBytes? (bs : Bytes) : Option Decimal :=
  let negative := bs.head? == some (Bytes.ascii '-')
  let unsigned := if negative || bs.head? == some (Bytes.ascii '+') then bs.drop 1 else bs
  let (whole, rest) := unsigned.span Bytes.isDigit
  let (places, rest) := if rest.head? == some (Bytes.ascii '.') then (rest.drop 1).span Bytes.isDigit else ([], rest)
  let n : Int := Bytes.number (whole ++ places)
  let signed (n : Int) : Int := if negative then -n else n
  if whole.isEmpty && places.isEmpty then none
  else match rest with
    | [] => some ⟨signed n, places.length⟩
    | e :: rest =>
      let back := rest.head? == some (Bytes.ascii '-')
      let digits := if back || rest.head? == some (Bytes.ascii '+') then rest.drop 1 else rest
      if Bytes.toLower e = Bytes.ascii 'e' && !digits.isEmpty && digits.length < 4 && digits.all Bytes.isDigit then
        let far := Bytes.number digits
        some (if back then ⟨signed n, places.length + far⟩
          else ⟨signed (n * 10 ^ (far - places.length)), places.length - far⟩)
      else if Bytes.toLower e = Bytes.ascii 'x' && whole == [Bytes.ascii '0'] && places.isEmpty && !rest.isEmpty then
        (hexNumber? rest).map fun n => ⟨signed n, 0⟩
      else none
where
  hexNumber? (bs : Bytes) : Option Nat := bs.foldlM (fun n b =>
    let l := (Bytes.toLower b).toNat
    if Bytes.isDigit b then some (n * 16 + (b.toNat - 48))
    else if 97 ≤ l ∧ l ≤ 102 then some (n * 16 + (l - 87)) else none) 0

/-- The digits with more places. -/
def atPlaces (places : Nat) (d : Decimal) : Int := d.digits * 10 ^ (places - d.places)

end Decimal

def showDecimal (places : Nat) (n : Int) : Bytes :=
  let digits := toString n.natAbs
  let digits := String.ofList (List.replicate (places + 1 - digits.length) '0') ++ digits
  let whole := digits.toList.take (digits.length - places)
  let part := digits.toList.drop (digits.length - places)
  Bytes.ofChars ((if n < 0 then ['-'] else []) ++ whole ++ if places = 0 then [] else '.' :: part)

/-- So many numbers of a sequence from one on. -/
def progression (n step last : Int) : (count : Nat) → List Int
  | 0 => []
  | count + 1 => if (if 0 < step then last < n else n < last) then [] else n :: progression (n + step) step last count

/-- How many numbers are printed at once. -/
def numbersAtOnce : Nat := 1000

/-- Prints the numbers of a sequence with a separator in front of each but the first. -/
def printSequence (s : Start) (separator : Bytes) (render : Int → Bytes) (step last : Int) : (chunks : Nat) →
    (n : Int) → (isFirst : Bool) → Activity Nat
  | 0, _, _ => return 0
  | chunks + 1, n, isFirst => do
    match progression n step last numbersAtOnce with
    | [] => if isFirst then return 0 else deliver s [Bytes.newline] 0
    | n :: ns =>
      let out := (if isFirst then [] else separator) ++ render n ++ ns.flatMap fun m => separator ++ render m
      let next := n + step * (ns.length + 1)
      if ns.length + 1 < numbersAtOnce then deliver s (out ++ [Bytes.newline]) 0
      else match ← deliver s out 0 with
        | 0 => printSequence s separator render step last chunks next false
        | status => return status

/-- What is wrong with a format for numbers, which takes one of them. -/
def formatFault? (format : Bytes) : Option Bytes :=
  let rec go : (fuel : Nat) → (seen : Bool) → Bytes → Option Bytes
    | 0, _, _ => none
    | _, seen, [] => if seen then none else some (text " has no % directive")
    | fuel + 1, seen, b :: rest =>
      if b != Bytes.ascii '%' then go fuel seen rest
      else if rest.head? == some (Bytes.ascii '%') then go fuel seen (rest.drop 1)
      else
        let after := (rest.dropWhile (text "-+#0 '").contains).dropWhile fun c => Bytes.isDigit c || c = Bytes.ascii '.'
        match after with
        | [] => some (text " ends in %")
        | c :: after =>
          if !(text "aAeEfFgG").contains c then some (text " has unknown %" ++ c :: text " directive")
          else if seen then some (text " has too many % directives")
          else go fuel true after
  go (format.length + 1) false format

def padZeros (width : Nat) (bs : Bytes) : Bytes :=
  let zeros := List.replicate (width - bs.length) (Bytes.ascii '0')
  match bs with
  | sign :: rest => if sign = Bytes.ascii '-' then sign :: zeros ++ rest else zeros ++ bs
  | [] => zeros

/-- A negative number is no option. -/
def seqArgs (args : List Bytes) : List Bytes × List Bytes :=
  args.span fun a => !(a.head? == some (Bytes.ascii '-') && (a.drop 1).head?.any fun b => Bytes.isDigit b || b = Bytes.ascii '.')

def seq : Utility := fun s => do
  let (front, numbers) := seqArgs s.args
  let specs : List OptionSpec :=
    [⟨'f', .argument, ["format"]⟩, ⟨'s', .argument, ["separator"]⟩, ⟨'w', .nothing, ["equal-width"]⟩]
  withOptions specs 1 false { s with args := front } fun o => do
    let operands := o.operands ++ numbers
    let fault := (o.last? 'f').bind fun f => (formatFault? f).map (f, ·)
    match operands with
    | [] => misuse s 1 (text "missing operand")
    | _ :: _ :: _ :: extra :: _ => misuse s 1 (text "extra operand " ++ quoted extra)
    | operands =>
      match fault, operands.find? fun a => (Decimal.ofBytes? a).isNone with
      | some (f, what), _ =>
        complain s (text "format " ++ quoted f ++ what)
        return 1
      | none, some a =>
        if o.has 'f' && o.has 'w' then
          misuse s 1 (text "format string may not be specified when printing equal width strings")
        else
          let isNumber := (a.map Bytes.toLower) != text "nan" && (a.map Bytes.toLower) != text "-nan"
          misuse s 1 (text (if isNumber then "invalid floating point argument: "
            else "invalid 'not-a-number' argument: ") ++ quoted a)
      | none, none =>
        let ds := operands.filterMap Decimal.ofBytes?
        let one : Decimal := ⟨1, 0⟩
        let (first, step, last) := match ds with
          | [l] => (one, one, l)
          | [f, l] => (f, one, l)
          | [f, st, l] => (f, st, l)
          | _ => (one, one, one)
        if o.has 'f' && o.has 'w' then
          misuse s 1 (text "format string may not be specified when printing equal width strings")
        else if step.digits = 0 then
          misuse s 1 (text "invalid Zero increment value: " ++ quoted (operands[1]?.getD []))
        else
          let places := max first.places step.places
          let scale := max places last.places
          let shown := max places 0
          let (a, b, z) := (first.atPlaces scale, step.atPlaces scale, last.atPlaces scale)
          let plain (n : Int) : Bytes := showDecimal shown (n / 10 ^ (scale - shown))
          -- The widest numbers are the first and the last one.
          let width := max (plain a).length (plain (a + (z - a).tdiv b * b)).length
          let render (n : Int) : Bytes :=
            match o.last? 'f' with
            | some format => (Shell.Format.printf format [plain n]).output
            | none => if o.has 'w' then padZeros width (plain n) else plain n
          printSequence s ((o.last? 's').getD [Bytes.newline]) render b z Activity.mostPieces a true

end DesktopRefresh.Utility

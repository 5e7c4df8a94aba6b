import DesktopRefresh.Shell.Arithmetic
import DesktopRefresh.Text.Floating
import DesktopRefresh.Text.Utf8

/-!
# Formatted output of the shell

The escapes of `echo`, and the directives of `printf`. A format is used again as long as there are
arguments left that it takes.
-/

namespace DesktopRefresh.Shell.Format

open Bytes (isBlank isDigit number)

def isOctal (b : UInt8) : Bool := 0x30 ≤ b ∧ b ≤ 0x37

/-- The byte that an escape stands for, and the text after it. A backslash that begins no escape
stands for itself. -/
def escape (rest : Bytes) : UInt8 × Bytes :=
  match rest with
  | [] => (Bytes.ascii '\\', [])
  | b :: after =>
    if isOctal b then
      let digits : Bytes := (rest.take 3).takeWhile isOctal
      let value : Nat := digits.foldl (fun n d => n * 8 + (d.toNat - 48)) 0
      (value.toUInt8, rest.drop digits.length)
    else
      match ([('\\', 0x5C), ('a', 0x07), ('b', 0x08), ('e', 0x1B), ('f', 0x0C), ('n', 0x0A), ('r', 0x0D),
          ('t', 0x09), ('v', 0x0B)] : List (Char × UInt8)).find? fun e => Bytes.ascii e.1 == b with
      | some (_, value) => (value, after)
      | none => (Bytes.ascii '\\', rest)

/-- A text with its escapes replaced, last byte first, and whether `\c` told to stop. An octal number
may begin with one more zero. -/
def unescape : (fuel : Nat) → Bytes → (done : Bytes) → Bytes × Bool
  | fuel + 1, b :: rest, done =>
    if b = Bytes.ascii '\\' then
      match rest with
      | c :: after =>
        if c = Bytes.ascii 'c' then (done, true)
        else
          let rest := if c = Bytes.ascii '0' ∧ after.head?.any isOctal then after else rest
          let (value, rest) := escape rest
          unescape fuel rest (value :: done)
      | [] => (b :: done, false)
    else unescape fuel rest (b :: done)
  | _, _, done => (done, false)

def unescaped (text : Bytes) : Bytes × Bool :=
  let (done, stop) := unescape (text.length + 1) text []
  (done.reverse, stop)

/-- What `echo` prints: its arguments with single spaces between them, and a line feed unless the
first argument is `-n` or an escape tells to stop. -/
def echo (args : List Bytes) : Bytes :=
  let quiet := args.head? == some (Bytes.ofString "-n")
  let (text, stop) := unescaped (List.intercalate [Bytes.ascii ' '] (if quiet then args.drop 1 else args))
  if stop || quiet then text else text ++ [Bytes.newline]

/-! ## Directives -/

structure Directive where
  left : Bool
  zero : Bool
  plus : Bool
  space : Bool
  alternate : Bool
  width : Nat
  precision : Option Nat

def Directive.plain : Directive := ⟨false, false, false, false, false, 0, none⟩

def Directive.setFlag (d : Directive) (b : UInt8) : Option Directive :=
  if b = Bytes.ascii '-' then some { d with left := true }
  else if b = Bytes.ascii '0' then some { d with zero := true }
  else if b = Bytes.ascii '+' then some { d with plus := true }
  else if b = Bytes.ascii ' ' then some { d with space := true }
  else if b = Bytes.ascii '#' then some { d with alternate := true }
  else none

def flags : (fuel : Nat) → Directive → Bytes → Directive × Bytes
  | fuel + 1, d, b :: rest =>
    match d.setFlag b with
    | some d => flags fuel d rest
    | none => (d, b :: rest)
  | _, d, bs => (d, bs)

def pad (d : Directive) (text : Bytes) : Bytes :=
  let blanks := List.replicate (d.width - text.length) (Bytes.ascii ' ')
  if d.left then text ++ blanks else blanks ++ text

def padNumber (d : Directive) (sign digits : Bytes) : Bytes :=
  let digits := match d.precision with
    | some p => List.replicate (p - digits.length) (Bytes.ascii '0') ++ digits
    | none => digits
  if d.zero && !d.left && d.precision.isNone then
    sign ++ List.replicate (d.width - sign.length - digits.length) (Bytes.ascii '0') ++ digits
  else pad d (sign ++ digits)

def digitsOf (base n : Nat) : Bytes := (Nat.toDigits base n).map Bytes.ascii

/-- What is wrong with a text that a number was read from, given what was left of it. -/
def fault? (found complete inRange : Bool) : Option String :=
  if !complete then some (if found then "not completely converted" else "expected numeric value")
  else if inRange then none
  else some "Numerical result out of range"

/-- After a quotation mark, a character stands for its number. -/
def quoted? (bs : Bytes) : Option Nat :=
  match bs with
  | quote :: rest => if quote = Bytes.ascii '\'' ∨ quote = Bytes.ascii '"' then some (rest.headD 0).toNat else none
  | [] => none

/-- A number as `printf` reads it, with the fault if the text is not all of a number. -/
def readNumber (bs : Bytes) : Int × Option String :=
  match quoted? bs with
  | some n => (n, none)
  | none =>
    let trimmed := bs.dropWhile Arithmetic.isSpace
    let negative := trimmed.head? == some (Bytes.ascii '-')
    let signed := negative || trimmed.head? == some (Bytes.ascii '+')
    let (base, digits, after) := Arithmetic.cutNumeral (if signed then trimmed.drop 1 else trimmed)
    let size := Arithmetic.digitsValue base digits
    let n : Int := if negative then -size else size
    let inRange := Arithmetic.least ≤ n && n ≤ Arithmetic.greatest
    let complete := bs.isEmpty || (!digits.isEmpty && after.isEmpty)
    (max Arithmetic.least (min Arithmetic.greatest n), fault? (!digits.isEmpty) complete inRange)

def readFloating (bs : Bytes) : Floating × Option String :=
  match quoted? bs with
  | some n => (Floating.ofQuotient false n 1, none)
  | none =>
    match Floating.read? bs with
    | some (x, inRange, after) => (x, fault? true after.isEmpty inRange)
    | none => (Floating.zero, fault? false bs.isEmpty true)

def signOf (d : Directive) (n : Int) : Bytes :=
  if n < 0 then [Bytes.ascii '-']
  else if d.plus then [Bytes.ascii '+']
  else if d.space then [Bytes.ascii ' ']
  else []

/-- A number without sign, in words of 64 bits. -/
def unsigned (n : Int) : Nat := (n % 2 ^ 64).toNat

/-- A floating number in the form that a letter stands for. -/
def floating (d : Directive) (letter : Char) (x : Floating) : Bytes :=
  let body := Bytes.ofString (Floating.render letter d.alternate d.precision x)
  let sign := if x.isNegative then [Bytes.ascii '-']
    else if d.plus then [Bytes.ascii '+']
    else if d.space then [Bytes.ascii ' ']
    else []
  -- Zeros to fill the width stand behind the mark of a hexadecimal number.
  let isHex := letter.toLower = 'a' && body.length > 3
  let (mark, digits) := if isHex then (body.take 2, body.drop 2) else ([], body)
  let isFinite := match x with
    | .finite _ _ _ => true
    | _ => false
  padNumber { d with precision := none, zero := d.zero && isFinite } (sign ++ mark) digits

structure Printing where
  printed : List Bytes
  args : List Bytes
  /-- An argument was taken in this pass. -/
  took : Bool
  stopped : Bool
  /-- Arguments that are no numbers, each with what is wrong with it. -/
  faults : List (Bytes × String)
  /-- The directive at which the format breaks off. -/
  broken : Option String

def Printing.output (p : Printing) : Bytes := p.printed.reverse.flatten

def Printing.next (p : Printing) : Option Bytes × Printing :=
  match p.args with
  | [] => (none, { p with took := true })
  | a :: rest => (some a, { p with args := rest, took := true })

def Printing.print (p : Printing) (bs : Bytes) : Printing := { p with printed := bs :: p.printed }

/-- A count given by a star is an argument. -/
def count (p : Printing) (bs : Bytes) : Option Int × Printing × Bytes :=
  match bs with
  | b :: rest =>
    if b = Bytes.ascii '*' then
      let (a, p) := p.next
      let (n, fault) := readNumber (a.getD [])
      (some n, { p with faults := p.faults ++ fault.toList.map (a.getD [], ·) }, rest)
    else
      let digits := bs.takeWhile isDigit
      (if digits.isEmpty then none else some (number digits), p, bs.drop digits.length)
  | [] => (none, p, [])

def convert (d : Directive) (conversion : UInt8) (p : Printing) : Printing :=
  let (arg, p) := p.next
  let text := arg.getD []
  let cut := fun (bs : Bytes) => match d.precision with
    | some n => bs.take n
    | none => bs
  let numeric := fun (render : Int → Bytes × Bytes) =>
    let (n, fault) := readNumber text
    let p := { p with faults := p.faults ++ fault.toList.map (text, ·) }
    let (sign, digits) := render n
    p.print (padNumber d sign digits)
  if conversion = Bytes.ascii 's' then p.print (pad d (cut text))
  else if conversion = Bytes.ascii 'b' then
    let (text, stop) := unescaped text
    { p.print (pad d (cut text)) with stopped := stop }
  else if conversion = Bytes.ascii 'c' then p.print (pad d [text.headD 0])
  else if conversion = Bytes.ascii 'd' ∨ conversion = Bytes.ascii 'i' then
    numeric fun n => (signOf d n, digitsOf 10 n.natAbs)
  else if conversion = Bytes.ascii 'u' then numeric fun n => ([], digitsOf 10 (unsigned n))
  else if conversion = Bytes.ascii 'o' then
    numeric fun n => (if d.alternate && n != 0 then [Bytes.ascii '0'] else [], digitsOf 8 (unsigned n))
  else if conversion = Bytes.ascii 'x' then
    numeric fun n => (if d.alternate && n != 0 then Bytes.ofString "0x" else [], digitsOf 16 (unsigned n))
  else if conversion = Bytes.ascii 'X' then
    numeric fun n =>
      (if d.alternate && n != 0 then Bytes.ofString "0X" else [], (digitsOf 16 (unsigned n)).map Bytes.toUpper)
  else
    let (x, fault) := readFloating text
    let p := { p with faults := p.faults ++ fault.toList.map (text, ·) }
    p.print (floating d (Char.ofNat conversion.toNat) x)

def conversions : Bytes := Bytes.ofString "sbcdiuoxXeEfFgGaA"

def Printing.breakOff (p : Printing) (message : String) : Printing :=
  { p with broken := some message, stopped := true }

/-- One pass over the format. -/
def pass : (fuel : Nat) → Bytes → Printing → Printing
  | 0, _, p => p
  | _ + 1, [], p => p
  | fuel + 1, b :: rest, p =>
    if p.stopped then p
    else if b = Bytes.ascii '\\' then
      let (value, rest) := escape rest
      pass fuel rest (p.print [value])
    else if b = Bytes.ascii '%' then
      if rest.head? = some (Bytes.ascii '%') then pass fuel (rest.drop 1) (p.print [b])
      else
        let start := b :: rest
        let (d, rest) := flags rest.length Directive.plain rest
        let (width, p, rest) := count p rest
        let (precision, p, rest) := if rest.head? = some (Bytes.ascii '.') then
            let (n, p, rest) := count p (rest.drop 1)
            (some (n.getD 0), p, rest)
          else (none, p, rest)
        let d := { d with
          width := (width.getD 0).natAbs
          left := d.left || width.any (· < 0)
          precision := precision.bind fun n => if n < 0 then none else some n.toNat }
        match rest with
        | c :: rest =>
          if conversions.contains c then pass fuel rest (convert d c p)
          else p.breakOff (Utf8.lossy (start.take (start.length - rest.length)) ++ ": invalid directive")
        | [] => p.breakOff "missing format character"
    else
      let text := (b :: rest).takeWhile fun c => c != Bytes.ascii '\\' && c != Bytes.ascii '%'
      pass fuel ((b :: rest).drop text.length) (p.print text)

/-- Passes over the format until the arguments are used up. -/
def passes (format : Bytes) : (fuel : Nat) → Printing → Printing
  | 0, p => p
  | fuel + 1, p =>
    let p := pass (format.length + 1) format { p with took := false }
    if p.args.isEmpty || !p.took || p.stopped then p else passes format fuel p

/-- What `printf` prints and what is wrong with its arguments. -/
def printf (format : Bytes) (args : List Bytes) : Printing :=
  passes format (args.length + 1) ⟨[], args, false, false, [], none⟩

end DesktopRefresh.Shell.Format

import DesktopRefresh.Utility.Concatenation

/-!
# Utilities that write bytes as text

Bytes as digits of a large base, or dumped in columns of numbers and characters.
-/

namespace DesktopRefresh.Utility

open Kernel (Activity)

/-! ## Digits of large bases -/

/-- A way to write groups of bytes with digits of some bits each; missing digits of a group are filled up. -/
structure Radix where
  digits : String
  /-- The bits of a digit. -/
  bits : Nat
  /-- The digits of a group. -/
  group : Nat
  /-- What the digits of an unfinished group stand for is kept. -/
  keepsPart : Bool

def base64Digits : Radix := ⟨"ABCDEFGHIJKLMNOPQRSTUVWXYZabcdefghijklmnopqrstuvwxyz0123456789+/", 6, 4, true⟩

def base32Digits : Radix := ⟨"ABCDEFGHIJKLMNOPQRSTUVWXYZ234567", 5, 8, false⟩

namespace Radix

variable (r : Radix)

/-- The bytes that a group of digits stands for. -/
def groupBytes : Nat := r.group * r.bits / 8

def table : Array UInt8 := (text r.digits).toArray

def valueOf? (b : UInt8) : Option Nat := (text r.digits).findIdx? (· == b)

def filler : UInt8 := Bytes.ascii '='

/-- The digits of one group of bytes. -/
def encodeGroup (bs : Bytes) : Bytes :=
  let n := (bs ++ List.replicate (r.groupBytes - bs.length) 0).foldl (fun (n : Nat) (b : UInt8) => n * 256 + b.toNat) 0
  let used := (bs.length * 8 + r.bits - 1) / r.bits
  (List.range r.group).map fun i =>
    if i < used then r.table.getD (n / 2 ^ (r.bits * (r.group - 1 - i)) % 2 ^ r.bits) 0 else filler

def encode : (groups : Nat) → Bytes → Bytes
  | 0, _ => []
  | groups + 1, bs =>
    if bs.isEmpty then [] else r.encodeGroup (bs.take r.groupBytes) ++ encode groups (bs.drop r.groupBytes)

/-- The bytes of one group, and whether all of it was as it should be. -/
def decodeGroup (digits : Bytes) : Bytes × Bool :=
  let known := digits.takeWhile fun b => (r.valueOf? b).isSome
  let n := known.foldl (fun n b => n * 2 ^ r.bits + (r.valueOf? b).getD 0) 0
  let count := known.length * r.bits / 8
  let value := n / 2 ^ (known.length * r.bits - count * 8)
  let bytes := (List.range count).map fun i => (value / 256 ^ (count - 1 - i)).toUInt8
  let rest := digits.drop known.length
  -- As many digits as some count of bytes needs, and the group is filled up.
  let fits := known.length = r.group ||
    (digits.length = r.group && rest.all (· == filler) && known.length * r.bits % 8 < r.bits && known.length != 0)
  (if digits.length < r.group && !r.keepsPart then [] else bytes, fits)

def decode : (groups : Nat) → Bytes → List Bytes → Bytes × Bool
  | 0, _, seen => (seen.reverse.flatten, true)
  | groups + 1, bs, seen =>
    if bs.isEmpty then (seen.reverse.flatten, true)
    else
      let (bytes, fits) := r.decodeGroup (bs.take r.group)
      if fits then decode groups (bs.drop r.group) (bytes :: seen) else ((bytes :: seen).reverse.flatten, false)

end Radix

/-- Breaks a text into lines of a width; zero stands for one line without an end. -/
def wrapped (width : Nat) : (lines : Nat) → Bytes → Bytes
  | 0, bs => bs
  | lines + 1, bs =>
    if bs.isEmpty || width = 0 then bs
    else bs.take width ++ Bytes.newline :: wrapped width lines (bs.drop width)

def encodeWith (r : Radix) : Utility := fun s =>
  withOptions [⟨'d', .nothing, ["decode"]⟩, ⟨'i', .nothing, ["ignore-garbage"]⟩, ⟨'w', .argument, ["wrap"]⟩] 1 true s
    fun o =>
      match natural? ((o.last? 'w').getD (text "76")) with
      | none => do
        complain s (text "invalid wrap size: " ++ quoted ((o.last? 'w').getD []))
        return 1
      | some width =>
        match o.operands with
        | _ :: extra :: _ => misuse s 1 (text "extra operand " ++ quoted extra)
        | operands => do
          let name := operands.head?.getD hyphen
          match ← readInput name with
          | (.error e, _) =>
            complain s (refusal (ifNeeded name) e)
            return 1
          | (.ok _, some e) =>
            complain s (refusal (text "read error") e)
            return 1
          | (.ok bs, none) =>
            if o.has 'd' then
              let digits := bs.filter fun b =>
                if o.has 'i' then (r.valueOf? b).isSome || b = Radix.filler else b != Bytes.newline
              let (decoded, fits) := r.decode digits.length digits []
              if !fits then complain s (text "invalid input")
              deliver s decoded (if fits then 0 else 1)
            else
              let digits := r.encode bs.length bs
              deliver s (wrapped width digits.length digits) 0

/-! ## Dumps -/

/-- How the bytes of one field are shown. -/
inductive FieldKind where
  | named | character | signed | octal | unsigned | hexadecimal
  deriving DecidableEq

structure Field where
  kind : FieldKind
  size : Nat
  /-- The printable characters of the line follow. -/
  withText : Bool

namespace Field

variable (f : Field)

def width : Nat :=
  match f.kind with
  | .named | .character => 3
  | .octal => (f.size * 8 + 2) / 3
  | .unsigned => (toString (256 ^ f.size - 1)).length
  | .signed => (toString (256 ^ f.size / 2)).length + 1
  | .hexadecimal => 2 * f.size

def controlNames : List String :=
  ["nul", "soh", "stx", "etx", "eot", "enq", "ack", "bel", "bs", "ht", "nl", "vt", "ff", "cr", "so", "si", "dle", "dc1",
    "dc2", "dc3", "dc4", "nak", "syn", "etb", "can", "em", "sub", "esc", "fs", "gs", "rs", "us", "sp"]

def fixedDigits (base digits n : Nat) : Bytes :=
  let shown := text (String.ofList (Nat.toDigits base n))
  List.replicate (digits - shown.length) (Bytes.ascii '0') ++ shown

def «show» (bs : Bytes) : Bytes :=
  let n := bs.foldr (fun b n => n * 256 + b.toNat) 0
  match f.kind with
  | .named =>
    let n := n % 128
    if n = 127 then text "del"
    else match controlNames[n]? with
      | some name => text name
      | none => [n.toUInt8]
  | .character =>
    let b := n.toUInt8
    if b = 0 then text "\\0"
    else match controlLetters.lookup b with
      | some letter => [Bytes.ascii '\\', Bytes.ascii letter]
      | none => if isPrintable b then [b] else fixedDigits 8 3 n
  | .octal => fixedDigits 8 f.width n
  | .hexadecimal => fixedDigits 16 f.width n
  | .unsigned => decimal n
  | .signed => if n < 256 ^ f.size / 2 then decimal n else Bytes.ascii '-' :: decimal (256 ^ f.size - n)

end Field

/-- How a dump is laid out. -/
structure Dump where
  fields : List Field
  /-- The base and the digits of positions. -/
  address : Option (Nat × Nat)
  width : Nat
  repeats : Bool

namespace Dump

def sizesOf : List (Char × Nat) := [('C', 1), ('S', 2), ('I', 4), ('L', 8)]

/-- Reads the kinds of fields that are asked for in one word. -/
def fields? (whole : Bytes) : (fuel : Nat) → Bytes → Except Bytes (List Field)
  | 0, _ | _, [] => .ok []
  | fuel + 1, b :: rest =>
    let marked (f : Bool → Field) (rest : Bytes) : Except Bytes (List Field) :=
      let withText := rest.head? == some (Bytes.ascii 'z')
      (fields? whole fuel (if withText then rest.drop 1 else rest)).map (f withText :: ·)
    let sized (kind : FieldKind) : Except Bytes (List Field) :=
      let digits := rest.takeWhile Bytes.isDigit
      if !digits.isEmpty then
        let size := Bytes.number digits
        if [1, 2, 4, 8].contains size then marked (⟨kind, size, ·⟩) (rest.drop digits.length)
        else .error (text "invalid type string " ++ quoted whole ++
          text ";\nthis system doesn't provide a " ++ decimal size ++ text "-byte integral type")
      else match rest.head?.bind fun c => sizesOf.find? fun e => Bytes.ascii e.1 == c with
        | some e => marked (⟨kind, e.2, ·⟩) (rest.drop 1)
        | none => marked (⟨kind, 4, ·⟩) rest
    if b = Bytes.ascii 'a' then marked (⟨.named, 1, ·⟩) rest
    else if b = Bytes.ascii 'c' then marked (⟨.character, 1, ·⟩) rest
    else if b = Bytes.ascii 'd' then sized .signed
    else if b = Bytes.ascii 'o' then sized .octal
    else if b = Bytes.ascii 'u' then sized .unsigned
    else if b = Bytes.ascii 'x' then sized .hexadecimal
    else .error (text "invalid character " ++ quoted [b] ++ text " in type string " ++ quoted whole)

variable (d : Dump)

def position (n : Nat) : Bytes :=
  match d.address with
  | some (base, digits) => Field.fixedDigits base digits n
  | none => []

/-- The columns that all kinds of fields need for one line. -/
def lineWidth : Nat := (d.fields.map fun f => (f.width + 1) * (d.width / f.size)).foldl max 0

/-- The blanks before each field: what is left over is spread among them. -/
def gaps (f : Field) : List Nat :=
  let count := d.width / f.size
  let spare := d.lineWidth - f.width * count
  (List.range count).map fun i => spare * (count - i) / count - spare * (count - i - 1) / count

def fieldRow (f : Field) (bs : Bytes) : Bytes :=
  let count := (bs.length + f.size - 1) / f.size
  let cells := (d.gaps f).zipIdx.map fun (gap, i) =>
    if i < count then
      let part := (bs.drop (i * f.size)).take f.size
      padLeft (gap + f.width) (f.show (part ++ List.replicate (f.size - part.length) 0))
    else if f.withText then List.replicate (gap + f.width) (Bytes.ascii ' ')
    else []
  cells.flatten ++ if f.withText then
    text "  >" ++ bs.map (fun b => if isPrintable b then b else Bytes.ascii '.') ++ text "<" else []

/-- One line of bytes in all kinds of fields, the first of them behind the position. -/
def lines (start : Nat) (bs : Bytes) : Bytes :=
  let margin := (d.position start).length
  (d.fields.zipIdx).flatMap fun (f, i) =>
    (if i = 0 then d.position start else List.replicate margin (Bytes.ascii ' ')) ++ d.fieldRow f bs ++ [Bytes.newline]

/-- All lines; repeated ones are left out, with a mark in their place. -/
def body : (count : Nat) → (start : Nat) → (last : Option Bytes) → (marked : Bool) → Bytes → Bytes
  | 0, _, _, _, _ => []
  | count + 1, start, last, marked, bs =>
    if bs.isEmpty then (if d.address.isSome then d.position start ++ [Bytes.newline] else [])
    else
      let line := bs.take d.width
      if !d.repeats && last == some line && line.length = d.width then
        (if marked then [] else text "*\n") ++ body count (start + line.length) last true (bs.drop d.width)
      else d.lines start line ++ body count (start + line.length) (some line) false (bs.drop d.width)

end Dump

/-- Letters that stand for kinds of fields by themselves. -/
def dumpShorthands : List (Char × String) :=
  [('a', "a"), ('b', "o1"), ('c', "c"), ('d', "u2"), ('i', "dI"), ('l', "dL"), ('o', "o2"), ('s', "d2"), ('x', "x2")]

def dumpOptions : List OptionSpec :=
  [⟨'A', .argument, ["address-radix"]⟩, ⟨'j', .argument, ["skip-bytes"]⟩, ⟨'N', .argument, ["read-bytes"]⟩,
    ⟨'S', .maybe, ["strings"]⟩, ⟨'t', .argument, ["format"]⟩, ⟨'v', .nothing, ["output-duplicates"]⟩,
    ⟨'w', .maybe, ["width"]⟩, ⟨'τ', .nothing, ["traditional"]⟩] ++
    dumpShorthands.map fun e => ⟨e.1, .nothing, []⟩

/-- The bases of positions, by their letters. -/
def addressBases : List (Char × Option (Nat × Nat)) :=
  [('d', some (10, 7)), ('o', some (8, 7)), ('x', some (16, 6)), ('n', none)]

/-- The least multiple of all sizes of fields. -/
def commonSize (fields : List Field) : Nat := (fields.map Field.size).foldl Nat.lcm 1

/-- The text of some inputs in a row, the status, and whether any of them could be opened. -/
def gatherOpened (s : Start) : List Bytes → Activity (Bytes × Nat × Bool)
  | [] => return ([], 0, false)
  | name :: rest => do
    let (bs, own, opened) ← match ← readInput name with
      | (.error e, _) => do
        complain s (refusal (ifNeeded name) e)
        pure ([], 1, false)
      | (.ok bs, some e) => do
        complain s (refusal (ifNeeded name) e)
        pure (bs, 1, true)
      | (.ok bs, none) => pure (bs, 0, true)
    let (more, worst, others) ← gatherOpened s rest
    return (bs ++ more, max own worst, opened || others)

def dumpWith (s : Start) (o : Options) (address : Option (Nat × Nat)) (skip : Nat) (most : Option Nat)
    (fields : List Field) : Activity Nat := do
  let unit := commonSize fields
  let asked := (o.last? 'w').map fun w => if w.isEmpty then 32 else (natural? w).getD 16
  let width ← match asked with
    | none => pure 16
    | some w =>
      if w != 0 && w % unit = 0 then pure w
      else do
        complain s (text "warning: invalid width " ++ decimal w ++ text "; using " ++ decimal unit ++ text " instead")
        pure unit
  let (bs, status, opened) ← gatherOpened s (inputsOr o.operands)
  if !opened then return status
  else if bs.length < skip then
    complain s (text "cannot skip past end of combined input")
    return 1
  else
    let rest := bs.drop skip
    let used := match most with
      | some n => rest.take n
      | none => rest
    deliver s (Dump.body ⟨fields, address, width, o.has 'v'⟩ (used.length + 1) skip none false used) status

def od : Utility := fun s =>
  withOptions dumpOptions 1 true s fun o =>
    let radix := (o.last? 'A').getD (text "o")
    let number (letter : Char) (standard : Option Nat) : Except Bytes (Option Nat) :=
      match o.last? letter with
      | none => .ok standard
      | some given =>
        match scaled? given with
        | some n => .ok (some n)
        | none => .error (text "invalid -" ++ [Bytes.ascii letter] ++ text " argument " ++ quoted given)
    let asked := o.given.filterMap fun g =>
      if g.1 == 't' then some g.2 else (dumpShorthands.lookup g.1).map text
    let asked := if asked.isEmpty then [text "o2"] else asked
    let reading : Except Bytes (Activity Nat) := do
      let skip ← number 'j' (some 0)
      let most ← number 'N' none
      let fields ← asked.mapM fun w => Dump.fields? w (w.length + 1) w
      match addressBases.find? fun e => some (Bytes.ascii e.1) == radix.head? with
      | some e => return dumpWith s o e.2 (skip.getD 0) most fields.flatten
      | none => throw (text "invalid output address radix " ++ quoted radix ++
          text "; it must be one character from [doxn]")
    match reading with
    | .ok run => run
    | .error message => do
      complain s message
      return 1

end DesktopRefresh.Utility

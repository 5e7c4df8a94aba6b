import DesktopRefresh.Text.Floating
import DesktopRefresh.Utility.Concatenation

/-!
# Utilities for sorted texts

Lines are compared by keys, which are parts of them that are read as texts or as numbers. Lines whose keys
are all alike are compared as a whole.
-/

namespace DesktopRefresh.Utility

open Kernel (Activity)

/-! ## Kinds of order -/

/-- What parts of lines are compared as. -/
inductive Measure where
  | text | number | general | human | month | version
  deriving DecidableEq

/-- How parts of lines are compared. -/
structure Collation where
  measure : Measure
  /-- Blanks in front do not count, at the start and at the end of a key. -/
  skipsStart : Bool
  skipsEnd : Bool
  onlyWords : Bool
  foldsCase : Bool
  onlyPrintable : Bool
  reversed : Bool
  deriving DecidableEq

namespace Collation

def plain : Collation := ⟨.text, false, false, false, false, false, false⟩

/-- Nothing was said about the order but perhaps its direction. -/
def isPlain (o : Collation) : Bool := { o with reversed := false } = plain

end Collation

def skipBlanks (bs : Bytes) : Bytes := bs.dropWhile fun b => Bytes.isBlank b || b = Bytes.newline

def orderOf (p : Bool) (q : Bool) : Ordering := if p then .lt else if q then .gt else .eq

def compareBytes (a b : Bytes) : Ordering := orderOf (decide (a < b)) (decide (b < a))

/-- The number at the start of a text: its sign, digits before and behind the point. -/
def leadingNumber (bs : Bytes) : Bool × Bytes × Bytes :=
  let bs := skipBlanks bs
  let negative := bs.head? == some (Bytes.ascii '-')
  let (whole, rest) := (if negative then bs.drop 1 else bs).span Bytes.isDigit
  let part := if rest.head? == some (Bytes.ascii '.') then (rest.drop 1).takeWhile Bytes.isDigit else []
  (negative, whole, part)

/-- A number as an integer in units of so many places. -/
def inUnits (places : Nat) (n : Bool × Bytes × Bytes) : Int :=
  let size : Int := Bytes.number (n.2.1 ++ n.2.2 ++ List.replicate (places - n.2.2.length) (Bytes.ascii '0'))
  if n.1 then -size else size

def compareNumbers (a b : Bytes) : Ordering :=
  let x := leadingNumber a
  let y := leadingNumber b
  let places := max x.2.2.length y.2.2.length
  compare (inUnits places x) (inUnits places y)

def units : Bytes := text "KMGTPEZYRQ"

/-- How large the unit behind a number is; none for a number without one. -/
def unitRank (bs : Bytes) : Int :=
  let (negative, whole, part) := leadingNumber bs
  let start := skipBlanks bs
  let used := (if negative then 1 else 0) + whole.length +
    (if part.isEmpty then (if (start.drop ((if negative then 1 else 0) + whole.length)).head? == some (Bytes.ascii '.')
      then 1 else 0) else part.length + 1)
  let letter := (start.drop used).head?.getD 0
  let letter := if letter = Bytes.ascii 'k' then Bytes.ascii 'K' else letter
  let rank : Int := match units.findIdx? (· == letter) with
    | some i => i + 1
    | none => 0
  if (whole ++ part).all (· == Bytes.ascii '0') then 0 else if negative then -rank else rank

def compareHuman (a b : Bytes) : Ordering :=
  match compare (unitRank a) (unitRank b) with
  | .eq => compareNumbers a b
  | o => o

def months : List String := ["JAN", "FEB", "MAR", "APR", "MAY", "JUN", "JUL", "AUG", "SEP", "OCT", "NOV", "DEC"]

def monthRank (bs : Bytes) : Nat :=
  let name := (skipBlanks bs).take 3 |>.map Bytes.toUpper
  match months.findIdx? fun m => text m == name with
  | some i => i + 1
  | none => 0

/-- Numbers without a value come first, then those that are none, then all others by size. -/
def generalRank : Option Floating → Nat
  | none => 0
  | some (.undefined _) => 1
  | some (.infinite true) => 2
  | some (.infinite false) => 4
  | some _ => 3

def compareFloats : Floating → Floating → Ordering
  | .finite n m e, .finite n' m' e' =>
    let low := min e e'
    let size (neg : Bool) (m : Nat) (e : Int) : Int := (if neg then -1 else 1) * (m * 2 ^ (e - low).toNat : Nat)
    compare (size n m e) (size n' m' e')
  | _, _ => .eq

def compareGeneral (a b : Bytes) : Ordering :=
  let x := (Floating.read? a).map (·.1)
  let y := (Floating.read? b).map (·.1)
  match compare (generalRank x) (generalRank y), x, y with
  | .eq, some x, some y => compareFloats x y
  | o, _, _ => o

/-- The place of a byte in the order of versions; a tilde comes even before the end. -/
def versionRank (b : Option UInt8) : Int :=
  match b with
  | none => 0
  | some b =>
    if Bytes.isDigit b then 0
    else if b = Bytes.ascii '~' then -1
    else if Bytes.toLower b != b || Bytes.toUpper b != b then b.toNat
    else b.toNat + 256

/-- Compares texts and numbers in turn. -/
def compareVersions : (fuel : Nat) → Bytes → Bytes → Ordering
  | 0, _, _ => .eq
  | fuel + 1, a, b =>
    let isWord (x : UInt8) : Bool := !Bytes.isDigit x
    match a, b with
    | [], [] => .eq
    | a, b =>
      if a.head?.any isWord || b.head?.any isWord then
        match compare (versionRank a.head?) (versionRank b.head?) with
        | .eq => compareVersions fuel (a.drop 1) (b.drop 1)
        | o => o
      else
        let x := a.takeWhile Bytes.isDigit
        let y := b.takeWhile Bytes.isDigit
        match compare (Bytes.number x) (Bytes.number y) with
        | .eq => compareVersions fuel (a.drop x.length) (b.drop y.length)
        | o => o

def isWordByte (b : UInt8) : Bool := Bytes.isDigit b || Bytes.toLower b != b || Bytes.toUpper b != b

/-- What counts of a part that is compared as a text. -/
def normal (o : Collation) (bs : Bytes) : Bytes :=
  let bs := if o.onlyWords then bs.filter fun b => isWordByte b || Bytes.isBlank b
    else if o.onlyPrintable then bs.filter isPrintable else bs
  if o.foldsCase then bs.map Bytes.toUpper else bs

def compareParts (o : Collation) (a b : Bytes) : Ordering :=
  let result := match o.measure with
    | .text => compareBytes (normal o a) (normal o b)
    | .number => compareNumbers a b
    | .general => compareGeneral a b
    | .human => compareHuman a b
    | .month => compare (monthRank a) (monthRank b)
    | .version => compareVersions (a.length + b.length + 1) a b
  if o.reversed then result.swap else result

/-! ## Keys -/

structure Key where
  startField : Nat
  startByte : Nat
  /-- The field and the byte behind the last one; without a byte, the whole field counts. -/
  stop : Option (Nat × Nat)
  collation : Option Collation

/-- Goes over a number of fields. -/
def skipFields (separator : Option UInt8) : Nat → Bytes → Bytes
  | 0, bs => bs
  | n + 1, bs =>
    match separator with
    | some t => skipFields separator n ((bs.dropWhile (· != t)).drop 1)
    | none => skipFields separator n ((skipBlanks bs).dropWhile fun b => !(Bytes.isBlank b || b = Bytes.newline))

/-- How much of a line is left behind the end of a key. -/
def behind (separator : Option UInt8) (skips : Bool) (line : Bytes) (field byte : Nat) : Nat :=
  if byte = 0 then
    match separator with
    | some t => ((skipFields separator (field - 1) line).dropWhile (· != t)).length
    | none => (skipFields separator field line).length
  else
    let rest := skipFields separator (field - 1) line
    let rest := if skips then skipBlanks rest else rest
    rest.length - byte

def keyPart (separator : Option UInt8) (o : Collation) (k : Key) (line : Bytes) : Bytes :=
  let rest := skipFields separator (k.startField - 1) line
  let rest := (if o.skipsStart then skipBlanks rest else rest).drop (k.startByte - 1)
  match k.stop with
  | none => rest
  | some (field, byte) => rest.take (rest.length - behind separator o.skipsEnd line field byte)

structure SortStyle where
  keys : List Key
  collation : Collation
  separator : Option UInt8
  stable : Bool
  unique : Bool

def compareKeys (c : SortStyle) (a b : Bytes) : List Key → Ordering
  | [] => .eq
  | k :: ks =>
    let o := k.collation.getD c.collation
    match compareParts o (keyPart c.separator o k a) (keyPart c.separator o k b) with
    | .eq => compareKeys c a b ks
    | r => r

/-- Compares lines without what may be undecided by their keys. -/
def compareByKeys (c : SortStyle) (a b : Bytes) : Ordering :=
  if c.keys.isEmpty then compareParts c.collation (if c.collation.skipsStart then skipBlanks a else a)
    (if c.collation.skipsStart then skipBlanks b else b)
  else compareKeys c a b c.keys

def compareLines (c : SortStyle) (a b : Bytes) : Ordering :=
  match compareByKeys c a b with
  | .eq =>
    if c.stable || c.unique then .eq
    else
      let whole := compareBytes a b
      if c.collation.reversed then whole.swap else whole
  | r => r

/-! ## Reading keys -/

/-- The letters for kinds of order, applied to an order. -/
def withLetter (atEnd : Bool) (o : Collation) (b : UInt8) : Option Collation :=
  if b = Bytes.ascii 'b' then some (if atEnd then { o with skipsEnd := true } else { o with skipsStart := true })
  else if b = Bytes.ascii 'd' then some { o with onlyWords := true }
  else if b = Bytes.ascii 'f' then some { o with foldsCase := true }
  else if b = Bytes.ascii 'g' then some { o with measure := .general }
  else if b = Bytes.ascii 'h' then some { o with measure := .human }
  else if b = Bytes.ascii 'i' then some { o with onlyPrintable := true }
  else if b = Bytes.ascii 'M' then some { o with measure := .month }
  else if b = Bytes.ascii 'n' then some { o with measure := .number }
  else if b = Bytes.ascii 'r' then some { o with reversed := true }
  else if b = Bytes.ascii 'V' then some { o with measure := .version }
  else if b = Bytes.ascii 'R' then some o
  else none

def withLetters (atEnd : Bool) : Collation → Bytes → Collation × Bytes
  | o, [] => (o, [])
  | o, b :: bs =>
    match withLetter atEnd o b with
    | some o => withLetters atEnd o bs
    | none => (o, b :: bs)

def keyFault {α : Type} (reason : String) (spec : Bytes) : Except Bytes α :=
  .error (text (reason ++ ": invalid field specification ") ++ quoted spec)

/-- A number in the specification of a key, and what follows it. -/
def keyNumber (reason : String) (bs : Bytes) : Except Bytes (Nat × Bytes) :=
  let digits := bs.takeWhile Bytes.isDigit
  if digits.isEmpty then .error (text (reason ++ ": invalid count at start of ") ++ quoted bs)
  else .ok (Bytes.number digits, bs.drop digits.length)

def key? (spec : Bytes) : Except Bytes Key := do
  let (field, rest) ← keyNumber "invalid number at field start" spec
  if field = 0 then keyFault "field number is zero" spec
  else
    let (byte, rest) ← if rest.head? == some (Bytes.ascii '.') then
        keyNumber "invalid number after '.'" (rest.drop 1)
      else pure (1, rest)
    if byte = 0 then keyFault "character offset is zero" spec
    else
      let (o, rest) := withLetters false .plain rest
      let (stop, o, rest) ← if rest.head? == some (Bytes.ascii ',') then do
          let (last, rest) ← keyNumber "invalid number after ','" (rest.drop 1)
          if last = 0 then keyFault "field number is zero" spec
          else
            let (lastByte, rest) ← if rest.head? == some (Bytes.ascii '.') then
                keyNumber "invalid number after '.'" (rest.drop 1)
              else pure (0, rest)
            let (o, rest) := withLetters true o rest
            pure (some (last, lastByte), o, rest)
        else pure (none, o, rest)
      if rest.isEmpty then return ⟨field, byte, stop, if o = .plain then none else some o⟩
      else keyFault "stray character in field spec" spec

/-! ## sort -/

def sortOptions : List OptionSpec :=
  [⟨'b', .nothing, ["ignore-leading-blanks"]⟩, ⟨'d', .nothing, ["dictionary-order"]⟩, ⟨'f', .nothing, ["ignore-case"]⟩,
    ⟨'g', .nothing, ["general-numeric-sort"]⟩, ⟨'h', .nothing, ["human-numeric-sort"]⟩,
    ⟨'i', .nothing, ["ignore-nonprinting"]⟩, ⟨'M', .nothing, ["month-sort"]⟩, ⟨'n', .nothing, ["numeric-sort"]⟩,
    ⟨'R', .nothing, ["random-sort"]⟩, ⟨'r', .nothing, ["reverse"]⟩, ⟨'V', .nothing, ["version-sort"]⟩,
    ⟨'c', .maybe, ["check"]⟩, ⟨'C', .nothing, []⟩, ⟨'k', .argument, ["key"]⟩, ⟨'m', .nothing, ["merge"]⟩,
    ⟨'o', .argument, ["output"]⟩, ⟨'s', .nothing, ["stable"]⟩, ⟨'S', .argument, ["buffer-size"]⟩,
    ⟨'t', .argument, ["field-separator"]⟩, ⟨'T', .argument, ["temporary-directory"]⟩, ⟨'u', .nothing, ["unique"]⟩,
    ⟨'z', .nothing, ["zero-terminated"]⟩, ⟨'Π', .argument, ["parallel"]⟩]

def sortFailure (s : Start) (message : Bytes) : Activity Nat := do
  complain s message
  return 2

/-- The first of each run of lines that are alike. -/
def firsts (same : Bytes → Bytes → Bool) : List Bytes → List Bytes
  | [] => []
  | l :: rest =>
    l :: match firsts same rest with
      | [] => []
      | n :: more => if same l n then more else n :: more

/-- The first of the lines that are not in order, with its number. -/
def disorder? (c : SortStyle) : (number : Nat) → List Bytes → Option (Nat × Bytes)
  | n, a :: b :: rest =>
    let isWrong := match compareLines c a b with
      | .gt => true
      | .eq => c.unique
      | .lt => false
    if isWrong then some (n + 1, b) else disorder? c (n + 1) (b :: rest)
  | _, _ => none

/-- All lines of all inputs; one that cannot be read is the end of it. -/
def sortInputs (s : Start) (stop : UInt8) : List Bytes → Activity (Option (List (List Bytes)))
  | [] => return some []
  | name :: rest => do
    match ← readInput name with
    | (.error e, _) =>
      let _ ← sortFailure s (text "cannot read: " ++ ifNeeded name ++ text (": " ++ e.text))
      return none
    | (.ok _, some e) =>
      let _ ← sortFailure s (text "read failed: " ++ ifNeeded name ++ text (": " ++ e.text))
      return none
    | (.ok bs, none) =>
      match ← sortInputs s stop rest with
      | some more => return some ((partsOf stop bs).map (withoutEnd stop) :: more)
      | none => return none

def globalCollation (o : Options) : Collation :=
  o.given.foldl (fun ord g => if g.1.toNat < 128 then ((withLetter false ord (Bytes.ascii g.1)).getD ord) else ord) .plain

/-- Kinds of order that cannot be asked for at once. -/
def clash? (o : Options) : Option String :=
  let texts := ['d', 'i'].filter o.has
  let numbers := ['g', 'h', 'M', 'n'].filter o.has
  if 1 < numbers.length || (!texts.isEmpty && !numbers.isEmpty) then
    some (String.ofList ((['d', 'f', 'g', 'h', 'i', 'M', 'n', 'R', 'V'].filter o.has)))
  else none

/-- Takes the least of the first lines of two texts again and again. -/
def mergeTwo (c : SortStyle) (as bs : List Bytes) : List Bytes := as.merge bs fun a b => compareLines c a b != .gt

def sortLines (c : SortStyle) (merges : Bool) (texts : List (List Bytes)) : List Bytes :=
  let sorted := if merges then texts.foldl (mergeTwo c) [] else
    texts.flatten.mergeSort fun a b => compareLines c a b != .gt
  if c.unique then (firsts (fun a b => compareByKeys c a b == .eq) sorted) else sorted

def withEnds (stop : UInt8) (lines : List Bytes) : Bytes := lines.flatMap (· ++ [stop])

def sortWith (s : Start) (o : Options) (c : SortStyle) : Activity Nat := do
  let inputs := inputsOr o.operands
  let stop := endOf (o.has 'z')
  match ← sortInputs s stop inputs with
  | none => return 2
  | some texts =>
    if o.has 'c' || o.has 'C' then
      match disorder? c 1 texts.flatten with
      | none => return 0
      | some (n, line) =>
        if o.has 'c' then complain s (inputs.headD hyphen ++ text ":" ++ decimal n ++ text ": disorder: " ++ line)
        return 1
    else
      let out := withEnds stop (sortLines c (o.has 'm') texts)
      match o.last? 'o' with
      | none => deliver s out 0
      | some path =>
        match ← Activity.openFile path .output with
        | .error e => sortFailure s (text "open failed: " ++ ifNeeded path ++ text (": " ++ e.text))
        | .ok n =>
          write n out
          Activity.close n
          return 0

/-- Why no check can be made, or not with these options. -/
def checkFault? (o : Options) : Option Bytes :=
  let letters := (o.has 'c', o.has 'C')
  if letters = (true, true) then some (text "options '-cC' are incompatible")
  else if letters = (false, false) then none
  else
    let letter := text (if o.has 'c' then "c" else "C")
    match o.operands with
    | _ :: extra :: _ => some (text "extra operand " ++ quoted extra ++ text " not allowed with -" ++ letter)
    | _ => if o.has 'o' then some (text "options '-" ++ letter ++ text "o' are incompatible") else none

def sort : Utility := fun s =>
  withOptions sortOptions 2 true s fun o => do
    let specs := (o.given.filter (·.1 = 'k')).map (·.2)
    match specs.mapM key?, clash? o, o.last? 't' with
    | .error message, _, _ => sortFailure s message
    | _, some letters, _ => sortFailure s (text ("options '-" ++ letters ++ "' are incompatible"))
    | .ok keys, none, separator =>
      let tab? : Except Bytes (Option UInt8) := match separator with
        | none => .ok none
        | some [] => .error (text "empty tab")
        | some [b] => .ok (some b)
        | some bs => if bs == text "\\0" then .ok (some 0) else .error (text "multi-character tab " ++ quoted bs)
      match tab?, checkFault? o with
      | .error message, _ | .ok _, some message => sortFailure s message
      | .ok tab, none =>
        sortWith s o ⟨keys, globalCollation o, tab, o.has 's', o.has 'u'⟩

/-! ## uniq -/

structure UniqStyle where
  counts : Bool
  shows : Nat → Bool
  all : Bool
  foldsCase : Bool
  fields : Nat
  bytes : Nat
  width : Option Nat

/-- What counts of a line. -/
def uniqPart (c : UniqStyle) (line : Bytes) : Bytes :=
  let rest := (skipFields none c.fields line).drop c.bytes
  let rest := match c.width with
    | some n => rest.take n
    | none => rest
  if c.foldsCase then rest.map Bytes.toUpper else rest

/-- Runs of lines that are alike. -/
def runs (part : Bytes → Bytes) : List Bytes → List (List Bytes)
  | [] => []
  | l :: rest =>
    match runs part rest with
    | (n :: more) :: others => if part l == part n then (l :: n :: more) :: others else [l] :: (n :: more) :: others
    | others => [l] :: others

def showRun (c : UniqStyle) (run : List Bytes) : List Bytes :=
  if !c.shows run.length then []
  else if c.all then run
  else (run.take 1).map fun l => if c.counts then padLeft 7 (decimal run.length) ++ Bytes.ascii ' ' :: l else l

def uniqOptions : List OptionSpec :=
  [⟨'c', .nothing, ["count"]⟩, ⟨'d', .nothing, ["repeated"]⟩, ⟨'D', .nothing, []⟩, ⟨'f', .argument, ["skip-fields"]⟩,
    ⟨'i', .nothing, ["ignore-case"]⟩, ⟨'s', .argument, ["skip-chars"]⟩, ⟨'u', .nothing, ["unique"]⟩,
    ⟨'w', .argument, ["check-chars"]⟩, ⟨'z', .nothing, ["zero-terminated"]⟩, ⟨'Δ', .maybe, ["all-repeated"]⟩]

/-- The options of `uniq` that are numbers, and what a wrong one is called. -/
def uniqNumbers : List (Char × String) :=
  [('f', "fields to skip"), ('s', "bytes to skip"), ('w', "bytes to compare")]

def uniq : Utility := fun s =>
  withOptions uniqOptions 1 true s fun o => do
    let wrong := o.given.find? fun g => uniqNumbers.any (·.1 = g.1) && (count? g.2).isNone
    match wrong, o.operands with
    | some (letter, a), _ =>
      complain s (a ++ text (": invalid number of " ++ (uniqNumbers.lookup letter).getD ""))
      return 1
    | none, _ :: _ :: extra :: _ => misuse s 1 (text "extra operand " ++ quoted extra)
    | none, operands =>
      if o.has 'c' && (o.has 'D' || o.has 'Δ') then
        misuse s 1 (text "printing all duplicated lines and repeat counts is meaningless")
      else
      let number (letter : Char) : Option Nat := (o.last? letter).bind count?
      let all := o.has 'D' || o.has 'Δ'
      let style : UniqStyle :=
        { counts := o.has 'c'
          shows := fun n => (n = 1 || !o.has 'u') && (1 < n || !(o.has 'd' || all))
          all := all
          foldsCase := o.has 'i'
          fields := (number 'f').getD 0
          bytes := (number 's').getD 0
          width := number 'w' }
      let name := operands.headD hyphen
      match ← readInput name with
      | (.error e, _) =>
        complain s (refusal (ifNeeded name) e)
        return 1
      | (.ok _, some e) =>
        complain s (text "error reading " ++ always name ++ text (": " ++ e.text))
        return 1
      | (.ok bs, none) =>
        let stop := endOf (o.has 'z')
        let lines := (partsOf stop bs).map (withoutEnd stop)
        let out := withEnds stop ((runs (uniqPart style) lines).flatMap (showRun style))
        match operands[1]? with
        | none => deliver s out 0
        | some path =>
          match ← Activity.openFile path .output with
          | .error e =>
            complain s (refusal (ifNeeded path) e)
            return 1
          | .ok n =>
            write n out
            Activity.close n
            return 0

/-! ## comm -/

/-- One of two texts while their lines are compared: the line under way, the lines before it with the last one
first, and those that were not read yet. -/
structure Side where
  line : Option Bytes
  before : List Bytes
  rest : List Bytes

def Side.ofLines (ls : List Bytes) : Side := ⟨ls.head?, [], ls.drop 1⟩

/-- Reads the next line. The answer has two lines in a row whose order can be looked at now; at the end of the
text they are the last two, because nobody may have asked for the order when those were read. -/
def Side.step (s : Side) : Side × Option (Bytes × Bytes) :=
  match s.line, s.rest with
  | none, _ => (s, none)
  | some l, n :: rest => (⟨some n, l :: s.before, rest⟩, some (l, n))
  | some l, [] => (⟨none, l :: s.before, []⟩, s.before.head?.map (·, l))

/-- Whether the order of the lines is looked at; if nothing is said of it, that is from the first line on that
only one of the texts has. -/
inductive Checking where
  | never | always | ifUnpaired
  deriving DecidableEq

/-- What comes of a comparison: a line with the column it belongs to, which is for lines of the first text
alone, of the second alone, or of both; or that a text is not in order. -/
inductive CommEvent where
  | line (column : Nat) (l : Bytes)
  | disorder (index : Nat)

structure CommState where
  left : Side
  right : Side
  unpaired : Bool
  reported : List Nat

/-- Reads on in one of the texts, and reports its first line that is in the wrong order. -/
def CommState.advance (c : Checking) (index : Nat) (s : CommState) : CommState × List CommEvent :=
  let (side, pair) := (if index = 1 then s.left else s.right).step
  let s := if index = 1 then { s with left := side } else { s with right := side }
  let looks := (c == .always || (c == .ifUnpaired && s.unpaired)) && !s.reported.contains index
  if looks && (pair.any fun p => compareBytes p.1 p.2 == .gt) then
    ({ s with reported := index :: s.reported }, [.disorder index])
  else (s, [])

def commEvents (c : Checking) : (fuel : Nat) → CommState → List CommEvent
  | 0, _ => []
  | fuel + 1, s =>
    let only (index : Nat) (l : Bytes) : List CommEvent :=
      let (s, events) := { s with unpaired := true }.advance c index
      .line index l :: events ++ commEvents c fuel s
    match s.left.line, s.right.line with
    | none, none => []
    | some a, none => only 1 a
    | none, some b => only 2 b
    | some a, some b =>
      match compareBytes a b with
      | .lt => only 1 a
      | .gt => only 2 b
      | .eq =>
        let (s, first) := s.advance c 1
        let (s, second) := s.advance c 2
        .line 3 a :: first ++ second ++ commEvents c fuel s

/-- Only what happens up to the first line that is in the wrong order. -/
def untilDisorder : List CommEvent → List CommEvent
  | [] => []
  | .disorder i :: _ => [.disorder i]
  | e :: rest => e :: untilDisorder rest

def commOptions : List OptionSpec :=
  [⟨'1', .nothing, []⟩, ⟨'2', .nothing, []⟩, ⟨'3', .nothing, []⟩,
    ⟨'Δ', .argument, ["output-delimiter"]⟩, ⟨'Γ', .nothing, ["check-order"]⟩, ⟨'Σ', .nothing, ["nocheck-order"]⟩,
    ⟨'Τ', .nothing, ["total"]⟩, ⟨'z', .nothing, ["zero-terminated"]⟩]

def commTexts (s : Start) (o : Options) (x y : Bytes) : Activity Nat := do
  let stop := endOf (o.has 'z')
  let lines (bs : Bytes) : List Bytes := (partsOf stop bs).map (withoutEnd stop)
  let delimiter := match o.last? 'Δ' with
    | some [] => [0]
    | some d => d
    | none => [Bytes.ascii '\t']
  let hidden (column : Nat) : Bool := o.has (Char.ofNat (48 + column))
  let lead (column : Nat) : Bytes := (((List.range column).drop 1).filter (!hidden ·)).flatMap fun _ => delimiter
  let checking := match o.lastOf? ['Γ', 'Σ'] with
    | some 'Γ' => Checking.always
    | some _ => .never
    | none => .ifUnpaired
  let (xs, ys) := (lines x, lines y)
  let events := commEvents checking (xs.length + ys.length + 1) ⟨Side.ofLines xs, Side.ofLines ys, false, []⟩
  let events := if checking = .always then untilDisorder events else events
  let disordered := events.filterMap fun e => match e with
    | .disorder i => some i
    | .line _ _ => none
  let count (column : Nat) : Nat := events.countP fun e => match e with
    | .line c _ => c = column
    | .disorder _ => false
  let shown := events.flatMap fun e => match e with
    | .line column l => if hidden column then [] else lead column ++ l ++ [stop]
    | .disorder _ => []
  let stopped := checking = .always && !disordered.isEmpty
  let counts := if o.has 'Τ' && !stopped then
    ([1, 2, 3].flatMap fun column => decimal (count column) ++ delimiter) ++ text "total" ++ [stop] else []
  for i in disordered do
    complain s (text "file " ++ decimal i ++ text " is not in sorted order")
  if !disordered.isEmpty && !stopped then complain s (text "input is not in sorted order")
  deliver s (shown ++ counts) (if disordered.isEmpty then 0 else 1)

def comm : Utility := fun s =>
  withOptions commOptions 1 true s fun o => do
    let delimiters := (o.given.filter (·.1 = 'Δ')).map (·.2)
    if delimiters.any (· != delimiters.headD []) then
      complain s (text "multiple output delimiters specified")
      return 1
    else match o.operands with
    | [] => misuse s 1 (text "missing operand")
    | [a] => misuse s 1 (text "missing operand after " ++ quoted a)
    | _ :: _ :: extra :: _ => misuse s 1 (text "extra operand " ++ quoted extra)
    | [a, b] =>
      let failed (name : Bytes) (e : Errno) : Activity Nat := do
        complain s (refusal (ifNeeded name) e)
        return 1
      match ← readInput a with
      | (.error e, _) | (.ok _, some e) => failed a e
      | (.ok x, none) =>
        match ← readInput b with
        | (.error e, _) | (.ok _, some e) => failed b e
        | (.ok y, none) => commTexts s o x y

end DesktopRefresh.Utility

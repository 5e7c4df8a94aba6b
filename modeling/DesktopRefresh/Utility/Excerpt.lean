import DesktopRefresh.Utility.Concatenation

/-!
# Utilities that show a part of a text

The first or last lines of their inputs, or some columns of every line.
-/

namespace DesktopRefresh.Utility

open Kernel (Activity View)

/-! ## Beginnings and ends -/

/-- What is counted, from which end, and how far. -/
structure Extent where
  bytes : Bool
  /-- What lines end with. -/
  stop : UInt8
  /-- All but so many at the other end, or from that one on. -/
  rest : Bool
  count : Nat
  deriving DecidableEq

/-- The first bytes or lines of a text, or all but the last ones. -/
def beginning (x : Extent) (bs : Bytes) : Bytes :=
  if x.bytes then bs.take (if x.rest then bs.length - x.count else x.count)
  else
    let lines := partsOf x.stop bs
    (lines.take (if x.rest then lines.length - x.count else x.count)).flatten

/-- The last bytes or lines of a text, or all from one on. -/
def ending (x : Extent) (bs : Bytes) : Bytes :=
  if x.bytes then bs.drop (if x.rest then x.count - 1 else bs.length - x.count)
  else
    let lines := partsOf x.stop bs
    (lines.drop (if x.rest then x.count - 1 else lines.length - x.count)).flatten

def inputName (name : Bytes) : Bytes := if name == hyphen then text "standard input" else name

/-- A title over the part of an input, where there are several of them. -/
def titleOf (first : Bool) (name : Bytes) : Bytes :=
  (if first then [] else [Bytes.newline]) ++ text "==> " ++ inputName name ++ text " <==\n"

/-- Takes inputs one after another, each under its title. -/
def eachTitled (s : Start) (titled : Bool) (use : Bytes → Nat → Activity Nat) : List Bytes → (first : Bool) →
    (worst : Nat) → Activity Nat
  | [], _, worst => return worst
  | name :: rest, first, worst => do
    match ← openInput name with
    | .error e =>
      complain s (text "cannot open " ++ always name ++ text (" for reading: " ++ e.text))
      eachTitled s titled use rest first 1
    | .ok n =>
      if titled then write 1 (titleOf first name)
      let own ← use name n
      closeInput n
      eachTitled s titled use rest false (max worst own)

def readingError (s : Start) (name : Bytes) (e : Errno) : Activity Nat := do
  complain s (text "error reading " ++ always (inputName name) ++ text (": " ++ e.text))
  return 1

/-- The part of a piece that is still wanted, and how many bytes or lines are wanted after it. -/
def wanted (x : Extent) (left : Nat) (bs : Bytes) : Bytes × Nat :=
  if x.bytes then (bs.take left, left - bs.length)
  else
    let lines := partsOf x.stop bs
    let ended := lines.countP fun l => l.getLast? == some x.stop
    ((lines.take left).flatten, left - ended)

/-- Gives back what was read too much of a file, so that another program finds it. -/
def giveBack (descriptor count : Nat) : Activity Unit := do
  if 0 < count then
    match ← Activity.look (·.fileAt? descriptor) with
    | some (_, position) =>
      let _ ← Activity.call (.seek descriptor (position - count))
    | none => return ()

/-- Copies the first bytes or lines of an input, and reads on only as long as they are not complete. -/
def copyBeginning (x : Extent) (descriptor : Nat) : Activity (Option Errno) := do
  if x.count = 0 then return none
  else
    let use (left : Nat) (bs : Bytes) : Activity (Nat × Bool) := do
      let (own, left) := wanted x left bs
      write 1 own
      giveBack descriptor (bs.length - own.length)
      return (left, 0 < left)
    return (← eachPiece descriptor use Activity.mostPieces x.count).2

/-- An old form of an option for a count: digits, and letters behind them. -/
def oldCount? (sign : Char) (a : Bytes) : Option (Nat × Bytes) :=
  match a with
  | b :: rest =>
    let digits := rest.takeWhile Bytes.isDigit
    if b = Bytes.ascii sign && !digits.isEmpty then some (Bytes.number digits, rest.drop digits.length) else none
  | [] => none

/-- How many bytes or lines an argument asks for, behind a sign. -/
def extent? (sign : Char) (bytes : Bool) (stop : UInt8) (a : Bytes) : Except CountFault Extent :=
  let rest := a.head? == some (Bytes.ascii sign)
  let plain := if rest || a.head? == some (Bytes.ascii '-') then a.drop 1 else a
  (bounded 0 mostCount (scaled? plain)).map fun n => ⟨bytes, stop, rest, n⟩

def invalidCount (s : Start) (bytes : Bool) (a : Bytes) (f : CountFault) : Activity Nat := do
  let plain := if a.head? == some (Bytes.ascii '-') then a.drop 1 else a
  complain s (text (if bytes then "invalid number of bytes: " else "invalid number of lines: ") ++ quoted plain ++
    text f.message)
  return 1

def excerptOptions : List OptionSpec :=
  [⟨'c', .argument, ["bytes"]⟩, ⟨'n', .argument, ["lines"]⟩, ⟨'q', .nothing, ["quiet", "silent"]⟩,
    ⟨'v', .nothing, ["verbose"]⟩, ⟨'z', .nothing, ["zero-terminated"]⟩]

/-- Titles are shown over several inputs, if not told otherwise. -/
def isTitled (o : Options) (inputs : List Bytes) : Bool :=
  match o.lastOf? ['q', 'v'] with
  | some 'v' => true
  | some _ => false
  | none => 1 < inputs.length

/-- Reads what is asked for, ten lines if nothing is, and goes on with it. -/
def withExtent (s : Start) (sign : Char) (o : Options) (use : Extent → Activity Nat) : Activity Nat :=
  let stop := endOf (o.has 'z')
  let counts : List (Bytes × Bool × Except CountFault Extent) :=
    (o.given.filter fun g => g.1 = 'c' || g.1 = 'n').map fun (letter, a) =>
      (a, letter == 'c', extent? sign (letter = 'c') stop a)
  let fault? := counts.findSome? fun (a, bytes, x) => match x with
    | .error f => some (a, bytes, f)
    | .ok _ => none
  match fault?, counts.getLast? with
  | some (a, bytes, f), _ => invalidCount s bytes a f
  | none, some (_, _, .ok x) => use x
  | none, _ => use ⟨false, stop, false, 10⟩

def headInputs (s : Start) (o : Options) (x : Extent) : Activity Nat :=
  let inputs := inputsOr o.operands
  eachTitled s (isTitled o inputs) (fun name n => do
    if x.rest then
      match ← Activity.readAll n with
      | (_, some e) => readingError s name e
      | (bs, none) => deliver s (beginning x bs) 0
    else match ← copyBeginning x n with
      | some e => readingError s name e
      | none => return 0) inputs true 0

/-- The digits as options of their own. -/
def strayDigits : List OptionSpec := (List.range 10).map fun i => ⟨Char.ofNat (48 + i), .maybe, []⟩

/-- Digits that are no old form of a count. -/
def strayDigit? (o : Options) : Option Char := (o.given.find? fun g => g.1.isDigit).map (·.1)

/-- The old form of the first argument as options of today, or the letter that cannot be read. -/
def modernHead (args : List Bytes) : Except UInt8 (List Bytes) :=
  match args with
  | a :: rest =>
    match oldCount? '-' a with
    | some (n, letters) =>
      match letters.find? fun b => !(text "cqvbkmlz").contains b with
      | some b => .error b
      | none =>
        let units := letters.filter (text "cbkml").contains
        let inBytes := units.getLast?.any (· != Bytes.ascii 'l')
        let factor := ((units.filter (· != Bytes.ascii 'l')).getLast?.filter (· != Bytes.ascii 'c')).toList
        let titles := ((letters.filter (text "qv").contains).getLast?.map fun b => [Bytes.ascii '-', b]).toList
        let zero := if letters.contains (Bytes.ascii 'z') then [text "-z"] else []
        .ok (text (if inBytes then "-c" else "-n") :: (decimal n ++ factor) :: titles ++ zero ++ rest)
    | none => .ok args
  | [] => .ok []

def head : Utility := fun s =>
  match modernHead s.args with
  | .error b => misuse s 1 (text "invalid trailing option -- " ++ [b])
  | .ok args =>
    withOptions (excerptOptions ++ strayDigits) 1 true { s with args := args } fun o =>
      match strayDigit? o with
      | some c => misuse s 1 (text s!"invalid trailing option -- {c}")
      | none => withExtent s '-' o (headInputs s o)

/-- Waits for ever, as a program does that looks for more lines to come. -/
def follow : (rounds : Nat) → Activity Nat
  | 0 => return 0
  | rounds + 1 => do
    Activity.call (.sleep (10 ^ 9))
    follow rounds

/-- What is no file ends the work at once, unless lines are looked for in it. -/
def endsAtFault (x : Extent) : Bool := x.bytes || (x.rest && x.count ≤ 1)

def tailEach (s : Start) (titled : Bool) (x : Extent) : List Bytes → (first : Bool) → (worst : Nat) → Activity Nat
  | [], _, worst => return worst
  | name :: rest, first, worst => do
    match ← openInput name with
    | .error e =>
      complain s (text "cannot open " ++ always name ++ text (" for reading: " ++ e.text))
      tailEach s titled x rest first 1
    | .ok n =>
      if titled then write 1 (titleOf first name)
      let (bs, fault) ← Activity.readAll n
      closeInput n
      match fault with
      | some e =>
        let own ← readingError s name e
        if endsAtFault x then return own else tailEach s titled x rest false (max worst own)
      | none =>
        let own ← deliver s (ending x bs) 0
        tailEach s titled x rest false (max worst own)

def tailInputs (s : Start) (o : Options) (x : Extent) : Activity Nat := do
  let inputs := inputsOr o.operands
  let follows := o.has 'f' || o.has 'F'
  if !follows && !x.rest && x.count = 0 then return 0
  else
    let status ← tailEach s (isTitled o inputs) x inputs true 0
    if follows then follow Activity.mostPieces else return status

/-- The old form of a whole command line as options of today: a sign, a count, the letter of a unit and that
for following, and at most one input behind them. -/
def modernTail (args : List Bytes) : List Bytes :=
  let isOld := match args with
    | [_] => true
    | [_, b] => !(b.head? == some (Bytes.ascii '-') && 1 < b.length)  || b == text "--"
    | [_, b, _] => b == text "--"
    | _ => false
  match args with
  | (sign :: a) :: rest =>
    let digits := a.takeWhile Bytes.isDigit
    let letters := a.drop digits.length
    let unit := letters.head?.filter (text "bcl").contains
    let behind := if unit.isSome then letters.drop 1 else letters
    -- A hyphen alone is an input, and one with this letter an option that wants an argument.
    let isSign := sign = Bytes.ascii '+' || (sign = Bytes.ascii '-' && !(a.isEmpty || a == text "c"))
    if isOld && isSign && (behind.isEmpty || behind == text "f") then
      let count := if digits.isEmpty then 10 else Bytes.number digits
      let count := if unit == some (Bytes.ascii 'b') then count * 512 else count
      let amount := (if sign = Bytes.ascii '+' then [sign] else []) ++ decimal count
      let name := text (if unit == some (Bytes.ascii 'c') || unit == some (Bytes.ascii 'b') then "-c" else "-n")
      name :: amount :: (if behind.isEmpty then [] else [text "-f"]) ++ rest
    else args
  | _ => args

def tail : Utility := fun s =>
  let specs := excerptOptions ++ [⟨'f', .maybe, ["follow"]⟩, ⟨'F', .nothing, []⟩, ⟨'s', .argument, ["sleep-interval"]⟩,
    ⟨'Σ', .nothing, ["retry"]⟩, ⟨'p', .argument, ["pid"]⟩] ++ strayDigits
  withOptions specs 1 true { s with args := modernTail s.args } fun o =>
    match strayDigit? o with
    | some c => do
      complain s (text s!"option used in invalid context -- {c}")
      return 1
    | none => withExtent s '+' o (tailInputs s o)

/-! ## Columns -/

/-- Positions from one on up to another one, or to the end of the line. -/
structure Columns where
  first : Nat
  last : Option Nat
  deriving DecidableEq

def Columns.has (c : Columns) (n : Nat) : Bool := c.first ≤ n && c.last.all (n ≤ ·)

/-- What is wrong with a list of columns. -/
inductive ColumnFault where
  | zero | decreasing | noEndpoint | range
  | invalid (value : Bytes)
  | tooLarge (value : Bytes)

/-- A list of columns as it is read: the number under way with its digits, the one in front of a hyphen, and
the ranges so far. -/
structure ColumnState where
  digits : Bytes
  first : Option Nat
  ranges : List Columns

def largestColumn : Nat := mostCount - 1

/-- Ends a range at a comma, a blank or the end of the list. -/
def ColumnState.finish (c : ColumnState) : Except ColumnFault ColumnState :=
  let value := Bytes.number c.digits
  let range? : Except ColumnFault Columns := match c.first with
    | some first =>
      if c.digits.isEmpty then (if first = 0 then .error .noEndpoint else .ok ⟨first, none⟩)
      else if value < max 1 first then .error .decreasing
      else .ok ⟨max 1 first, some value⟩
    | none => if value = 0 then .error .zero else .ok ⟨value, some value⟩
  range?.map fun r => ⟨[], none, r :: c.ranges⟩

/-- Reads a list of columns from left to right. -/
def columnsFrom (c : ColumnState) : Bytes → Except ColumnFault (List Columns)
  | [] => do return (← c.finish).ranges.reverse
  | b :: rest => do
    if b = Bytes.ascii '-' then
      if c.first.isSome then throw .range
      else if !c.digits.isEmpty && Bytes.number c.digits = 0 then throw .zero
      else columnsFrom ⟨[], some (Bytes.number c.digits), c.ranges⟩ rest
    else if b = Bytes.ascii ',' || Bytes.isBlank b then columnsFrom (← c.finish) rest
    else if Bytes.isDigit b then
      let digits := c.digits ++ [b]
      if largestColumn < Bytes.number digits then throw (.tooLarge (digits ++ rest.takeWhile Bytes.isDigit))
      else columnsFrom { c with digits := digits } rest
    else throw (.invalid (b :: rest))

def columnsOf (list : Bytes) : Except ColumnFault (List Columns) := columnsFrom ⟨[], none, []⟩ list

def ColumnFault.message (fields : Bool) : ColumnFault → Bytes
  | zero => text (if fields then "fields are numbered from 1" else "byte/character positions are numbered from 1")
  | decreasing => text "invalid decreasing range"
  | noEndpoint => text "invalid range with no endpoint: -"
  | range => text (if fields then "invalid field range" else "invalid byte or character range")
  | invalid value =>
    text (if fields then "invalid field value " else "invalid byte/character position ") ++ quoted value
  | tooLarge value =>
    text (if fields then "field number " else "byte/character offset ") ++ quoted value ++ text " is too large"

structure CutStyle where
  isChosen : Nat → Bool
  /-- A column begins a range of its own, so that a separator stands in front of it. -/
  begins : Nat → Bool
  fields : Bool
  delimiter : UInt8
  onlyDelimited : Bool
  outputDelimiter : Option Bytes

/-- The chosen bytes of a line, with a separator between ranges if there is one. -/
def cutBytes (c : CutStyle) (line : Bytes) : Bytes :=
  let step (state : Bytes × Bool) (b : UInt8 × Nat) : Bytes × Bool :=
    let (done, any) := state
    if !c.isChosen b.2 then state
    else
      let between := if any && c.begins b.2 then c.outputDelimiter.getD [] else []
      (b.1 :: between.reverse ++ done, true)
  ((line.zipIdx 1).foldl step ([], false)).1.reverse

def cutFields (c : CutStyle) (line : Bytes) : Option Bytes :=
  let parts := Bytes.splitAt c.delimiter line
  if parts.length ≤ 1 then if c.onlyDelimited then none else some line
  else
    let chosen := ((parts.zipIdx 1).filter fun p => c.isChosen p.2).map (·.1)
    some (List.intercalate (c.outputDelimiter.getD [c.delimiter]) chosen)

def cutLine (c : CutStyle) (stop : UInt8) (line : Bytes) : Bytes :=
  let body := withoutEnd stop line
  if c.fields then
    match cutFields c body with
    | some shown => shown ++ [stop]
    | none => []
  else cutBytes c body ++ [stop]

def cutOptions : List OptionSpec :=
  [⟨'b', .argument, ["bytes"]⟩, ⟨'c', .argument, ["characters"]⟩, ⟨'f', .argument, ["fields"]⟩,
    ⟨'d', .argument, ["delimiter"]⟩, ⟨'n', .nothing, []⟩, ⟨'s', .nothing, ["only-delimited"]⟩,
    ⟨'Γ', .nothing, ["complement"]⟩, ⟨'Δ', .argument, ["output-delimiter"]⟩, ⟨'z', .nothing, ["zero-terminated"]⟩]

def cut : Utility := fun s =>
  withOptions cutOptions 1 true s fun o => do
    let lists := o.given.filter fun g => g.1 = 'b' || g.1 = 'c' || g.1 = 'f'
    if (o.given.any fun g => g.1 = 'd' && 1 < g.2.length) then
      misuse s 1 (text "the delimiter must be a single character")
    else match lists with
    | [] => misuse s 1 (text "you must specify a list of bytes, characters, or fields")
    | _ :: _ :: _ => misuse s 1 (text "only one list may be specified")
    | [(letter, list)] =>
      let fields := letter = 'f'
      let delimiter := o.last? 'd'
      if !fields && delimiter.isSome then
        misuse s 1 (text "an input delimiter may be specified only when operating on fields")
      else if !fields && o.has 's' then
        misuse s 1 (text "suppressing non-delimited lines makes sense\n\tonly when operating on fields")
      else
        match columnsOf list with
        | .error fault => misuse s 1 (fault.message fields)
        | .ok ranges =>
          let isChosen (n : Nat) : Bool := ranges.any (·.has n)
          let style : CutStyle :=
            { isChosen := fun n => isChosen n != o.has 'Γ'
              begins := fun n => ranges.any fun r => r.first = n && !(ranges.any fun q => q.first < n && q.has n)
              fields := fields
              delimiter := ((delimiter.getD [Bytes.ascii '\t']).head?).getD 0
              onlyDelimited := o.has 's'
              outputDelimiter := o.last? 'Δ' }
          let (texts, status) ← gather s 1 (inputsOr o.operands)
          let stop := endOf (o.has 'z')
          deliver s ((texts.flatMap (partsOf stop)).flatMap (cutLine style stop)) status

end DesktopRefresh.Utility

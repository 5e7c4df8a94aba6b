import DesktopRefresh.Text.CharacterClass
import DesktopRefresh.Utility.Concatenation
import DesktopRefresh.Utility.Output

/-!
# Utilities for single characters

They replace, remove, arrange and count the bytes of their inputs.
-/

namespace DesktopRefresh.Utility

open Kernel (Activity View)

/-! ## Lists of characters -/

/-- A piece of a list of characters. -/
inductive Piece where
  | range (first last : UInt8)
  | named (c : CharacterClass)
  /-- One byte some times, or as often as it takes. -/
  | repeated (b : UInt8) (count : Nat)
  deriving DecidableEq

inductive ListFault where
  | reversed (first last : Bytes)
  | unknownClass (name : Bytes)
  | badRepeat (count : Bytes)

def ListFault.message : ListFault → Bytes
  | reversed a b => text "range-endpoints of '" ++ a ++ text "-" ++ b ++ text "' are in reverse collating sequence order"
  | unknownClass name => text "invalid character class " ++ quoted name
  | badRepeat count => text "invalid repeat count " ++ quoted count ++ text " in [c*n] construct"

/-- The bytes that a text stands for, each with whether it was escaped. -/
def unescapeList : (fuel : Nat) → Bytes → List (UInt8 × Bool)
  | fuel + 1, b :: rest =>
    if b = Bytes.ascii '\\' then
      match rest with
      | [] => [(b, true)]
      | c :: after =>
        if Shell.Format.isOctal c then
          let digits := (rest.take 3).takeWhile Shell.Format.isOctal
          let digits := if 255 < octalValue digits then digits.take 2 else digits
          ((octalValue digits).toUInt8, true) :: unescapeList fuel (rest.drop digits.length)
        else
          let value := match simpleEscapes.find? fun e => Bytes.ascii e.1 == c && e.1 != 'e' with
            | some e => e.2
            | none => c
          (value, true) :: unescapeList fuel after
    else (b, false) :: unescapeList fuel rest
  | _, _ => []

/-- The text up to a delimiter and a closing bracket, and what follows them. -/
def bracketed? (delimiter : Char) : List (UInt8 × Bool) → Option (Bytes × List (UInt8 × Bool))
  | a :: b :: rest =>
    if a = (Bytes.ascii delimiter, false) && b = (Bytes.ascii ']', false) then some ([], rest)
    else (bracketed? delimiter (b :: rest)).map fun (inner, after) => (a.1 :: inner, after)
  | _ => none

/-- A repeated byte behind its opening bracket. -/
def repetition? (bs : List (UInt8 × Bool)) : Option (Except ListFault Piece × List (UInt8 × Bool)) :=
  match bs with
  | (b, _) :: star :: rest =>
    let digits := (rest.takeWhile fun d => d != (Bytes.ascii ']', false)).map (·.1)
    let after := rest.drop digits.length
    if star != (Bytes.ascii '*', false) || after.isEmpty then none
    else if digits.all Bytes.isDigit then
      let count := if digits.head? == some (Bytes.ascii '0') then octalValue digits else Bytes.number digits
      some (.ok (.repeated b count), after.drop 1)
    else some (.error (.badRepeat digits), after.drop 1)
  | _ => none

def showByte (b : UInt8) : Bytes := if isPrintable b then [b] else controlEscape b

def pieces : (fuel : Nat) → List (UInt8 × Bool) → Except ListFault (List Piece)
  | fuel + 1, (b, escaped) :: rest =>
    let opening := b = Bytes.ascii '[' && !escaped
    let class? := if opening && rest.head? == some (Bytes.ascii ':', false) then bracketed? ':' (rest.drop 1) else none
    let equal? := if opening && rest.head? == some (Bytes.ascii '=', false) then bracketed? '=' (rest.drop 1) else none
    match class?, equal?, (if opening then repetition? rest else none) with
    | some (name, after), _, _ =>
      match CharacterClass.ofName? name with
      | some c => do return .named c :: (← pieces fuel after)
      | none => .error (.unknownClass name)
    | none, some ([c], after), _ => do return .range c c :: (← pieces fuel after)
    | _, _, some (p, after) => do return (← p) :: (← pieces fuel after)
    | _, _, none =>
      match rest with
      | dash :: (last, _) :: after =>
        if dash = (Bytes.ascii '-', false) then
          if last < b then .error (.reversed (showByte b) (showByte last))
          else do return .range b last :: (← pieces fuel after)
        else do return .range b b :: (← pieces fuel rest)
      | rest => do return .range b b :: (← pieces fuel rest)
  | _, _ => .ok []

def listOf (bs : Bytes) : Except ListFault (List Piece) := pieces (bs.length + 1) (unescapeList (bs.length + 1) bs)

def allBytes : Bytes := (List.range 256).map Nat.toUInt8

def Piece.bytes : Piece → Bytes
  | range a b => allBytes.filter fun c => a ≤ c && c ≤ b
  | named c => allBytes.filter c.contains
  | repeated b count => List.replicate count b

/-- The bytes of a list of which one piece can be stretched to a length. -/
def stretch (length : Nat) (ps : List Piece) : Bytes :=
  let fixed := (ps.map fun p => p.bytes.length).sum
  ps.flatMap fun p => match p with
    | .repeated b 0 => List.replicate (length - fixed) b
    | p => p.bytes

/-! ## tr -/

/-- What becomes of a byte, and the bytes of which only the first in a row is kept. -/
structure Mapping where
  replaced : Array UInt8
  deleted : Array Bool
  squeezed : Array Bool

def Mapping.step (m : Mapping) (state : Bytes × Option UInt8) (b : UInt8) : Bytes × Option UInt8 :=
  let (done, last) := state
  if (m.deleted[b.toNat]?).getD false then state
  else
    let c := (m.replaced[b.toNat]?).getD b
    if last == some c && (m.squeezed[c.toNat]?).getD false then state else (c :: done, some c)

def membership (bs : Bytes) : Array Bool := (allBytes.map fun b => bs.contains b).toArray

/-- Letters for letters: the second list with as many bytes as the first one, the last of them repeated. -/
def replacements (truncated : Bool) (source target : Bytes) : Array UInt8 :=
  let filled := match target.getLast? with
    | some b => if truncated then target else target ++ List.replicate (source.length - target.length) b
    | none => []
  let pairs := (source.zip filled).reverse
  (allBytes.map fun b => (pairs.lookup b).getD b).toArray

/-- How far into its bytes a list has letters of one case. -/
def casePlaces : (offset : Nat) → List Piece → List Nat
  | _, [] => []
  | n, p :: ps =>
    let later := casePlaces (n + p.bytes.length) ps
    match p with
    | .named .upper | .named .lower => n :: later
    | _ => later

def isOtherClass : Piece → Bool
  | .named .upper | .named .lower => false
  | .named _ => true
  | _ => false

def trFault (s : Start) (message : String) : Activity Nat := do
  complain s (text message)
  return 1

def translate (s : Start) (m : Mapping) : Activity Nat := do
  let use (last : Option UInt8) (bs : Bytes) : Activity (Option UInt8 × Bool) := do
    let (done, last) := bs.foldl m.step ([], last)
    if !done.isEmpty then
      match ← Activity.write 1 done.reverse with
      | .ok _ => pure ()
      | .error e =>
        let _ ← writeError s e
    return (last, true)
  match (← eachPiece 0 use Activity.mostPieces none).2 with
  | some e =>
    complain s (refusal (text "read error") e)
    return 1
  | none => return 0

def trOptions : List OptionSpec :=
  [⟨'c', .nothing, ["complement"]⟩, ⟨'C', .nothing, []⟩, ⟨'d', .nothing, ["delete"]⟩,
    ⟨'s', .nothing, ["squeeze-repeats"]⟩, ⟨'t', .nothing, ["truncate-set1"]⟩]

def trWith (s : Start) (o : Options) (first : Bytes) (second : Option Bytes) : Activity Nat := do
  match listOf first, (second.map listOf).getD (.ok []) with
  | .error f, _ | _, .error f =>
    complain s f.message
    return 1
  | .ok xs, .ok ys =>
    let complements := o.has 'c' || o.has 'C'
    let chosen := xs.flatMap Piece.bytes
    let source := if complements then allBytes.filter (!chosen.contains ·) else chosen
    let target := stretch source.length ys
    let deletes := o.has 'd'
    let squeezes := o.has 's'
    let none' : Bytes := []
    let translates := !deletes && second.isSome
    if xs.any fun p => match p with
      | .repeated _ 0 => true
      | _ => false then trFault s "the [c*] repeat construct may not appear in string1"
    else if translates && ys.any isOtherClass then
      trFault s "when translating, the only character classes that may appear in\nstring2 are 'upper' and 'lower'"
    else if translates && !(casePlaces 0 ys).all ((casePlaces 0 xs).contains ·) then
      trFault s "misaligned [:upper:] and/or [:lower:] construct"
    else if translates && target.isEmpty && !source.isEmpty && !o.has 't' then
      trFault s "when not truncating set1, string2 must be non-empty"
    else
      let squeezed := if !squeezes then none' else if second.isSome then target else source
      translate s ⟨replacements (o.has 't') (if translates then source else none') target,
        membership (if deletes then source else none'), membership squeezed⟩

def tr : Utility := fun s =>
  withOptions trOptions 1 false s fun o => do
    let deletes := o.has 'd'
    let squeezes := o.has 's'
    let onlyOne (b : Bytes) (more : List Bytes) : Activity Nat :=
      misuse s 1 (text "extra operand " ++ quoted b ++ if more.isEmpty then
        text "\nOnly one string may be given when deleting without squeezing repeats." else [])
    match o.operands with
    | [] => misuse s 1 (text "missing operand")
    | [a] =>
      if deletes && squeezes then
        misuse s 1 (text "missing operand after " ++ quoted a ++
          text "\nTwo strings must be given when both deleting and squeezing repeats.")
      else if deletes || squeezes then trWith s o a none
      else misuse s 1 (text "missing operand after " ++ quoted a ++ text "\nTwo strings must be given when translating.")
    | _ :: b :: extra :: more =>
      if deletes && !squeezes then onlyOne b (extra :: more) else misuse s 1 (text "extra operand " ++ quoted extra)
    | [a, b] => if deletes && !squeezes then onlyOne b [] else trWith s o a (some b)

/-! ## paste -/

/-- The separators of a list, in which a backslash and a zero stand for nothing. -/
def separators : (fuel : Nat) → Bytes → List Bytes
  | fuel + 1, b :: c :: rest =>
    if b = Bytes.ascii '\\' then
      (if c = Bytes.ascii '0' then []
        else match simpleEscapes.find? fun e => Bytes.ascii e.1 == c with
          | some e => [e.2]
          | none => [c]) :: separators fuel rest
    else [b] :: separators fuel (c :: rest)
  | _ + 1, [b] => [[b]]
  | _, _ => []

def interleave (seps : List Bytes) : List Bytes → (index : Nat) → Bytes
  | [], _ => []
  | [last], _ => last
  | a :: rest, i => a ++ (seps[i % max 1 seps.length]?).getD [] ++ interleave seps rest (i + 1)

/-- The lines of several texts side by side. -/
def sideBySide (seps : List Bytes) (stop : UInt8) : (fuel : Nat) → List (List Bytes) → List Bytes
  | 0, _ => []
  | fuel + 1, columns =>
    if columns.all List.isEmpty then []
    else (interleave seps (columns.map fun c => c.headD []) 0 ++ [stop]) ::
      sideBySide seps stop fuel (columns.map (List.drop 1))

/-- Gives the lines of the standard input to all columns that ask for it in turn. -/
def dealOut (width index : Nat) (lines : List Bytes) : List Bytes :=
  (lines.zipIdx.filter fun l => l.2 % max 1 width = index).map (·.1)

/-- The lines of an input, or none if it cannot be opened; what cannot be read has no lines. -/
def pasteInput (s : Start) (stop : UInt8) (name : Bytes) : Activity (Option (List Bytes) × Nat) := do
  match ← readInput name with
  | (.error e, _) =>
    complain s (refusal (ifNeeded name) e)
    return (none, 1)
  | (.ok _, some e) =>
    complain s (refusal (ifNeeded name) e)
    return (some [], 1)
  | (.ok bs, none) => return (some ((partsOf stop bs).map (withoutEnd stop)), 0)

/-- All of a text in a row, one text after another; an input that cannot be opened is left out. -/
def pasteSerial (s : Start) (stop : UInt8) (seps : List Bytes) : List Bytes → Activity (Bytes × Nat)
  | [] => return ([], 0)
  | name :: rest => do
    let (lines, own) ← pasteInput s stop name
    let out := match lines with
      | some lines => interleave seps lines 0 ++ [stop]
      | none => []
    let (more, worst) ← pasteSerial s stop seps rest
    return (out ++ more, max own worst)

/-- The columns of several texts; nothing is printed if one of them cannot be opened. -/
def pasteColumns (s : Start) (stop : UInt8) : List Bytes → Activity (Option (List (List Bytes) × Nat))
  | [] => return some ([], 0)
  | name :: rest => do
    match ← pasteInput s stop name with
    | (none, _) => return none
    | (some lines, own) =>
      match ← pasteColumns s stop rest with
      | some (more, worst) => return some (lines :: more, max own worst)
      | none => return none

def pasteParallel (s : Start) (stop : UInt8) (seps : List Bytes) (inputs : List Bytes) : Activity Nat := do
  match ← pasteColumns s stop inputs with
  | none => return 1
  | some (texts, status) =>
    let hyphens := inputs.countP (· == hyphen)
    let shared := (texts[inputs.findIdx (· == hyphen)]?).getD []
    let columns := if hyphens ≤ 1 then texts
      else inputs.zipIdx.map fun (name, i) =>
        if name == hyphen then dealOut hyphens ((inputs.take i).countP (· == hyphen)) shared
        else (texts[i]?).getD []
    let longest := (columns.map List.length).foldl max 0
    deliver s (sideBySide seps stop (longest + 1) columns).flatten status

/-- A list of separators must not end within an escape. -/
def endsInEscape (d : Bytes) : Bool := (d.reverse.takeWhile (· == Bytes.ascii '\\')).length % 2 = 1

def paste : Utility := fun s =>
  withOptions [⟨'s', .nothing, ["serial"]⟩, ⟨'d', .argument, ["delimiters"]⟩, ⟨'z', .nothing, ["zero-terminated"]⟩]
      1 true s fun o => do
    let inputs := inputsOr o.operands
    let seps := match o.last? 'd' with
      | some d => separators (d.length + 1) d
      | none => [[Bytes.ascii '\t']]
    let seps := if seps.isEmpty then [[]] else seps
    let stop := endOf (o.has 'z')
    match o.last? 'd' with
    | some d =>
      if endsInEscape d then
        complain s (text "delimiter list ends with an unescaped backslash: " ++ ifNeeded d)
        return 1
      else pure ()
    | none => pure ()
    if o.has 's' then
      let (out, status) ← pasteSerial s stop seps inputs
      deliver s out status
    else pasteParallel s stop seps inputs

/-! ## Columns of text -/

def tabWidth : Nat := 8

/-- The column behind a byte. -/
def columnAfter (column : Nat) (b : UInt8) : Nat :=
  if b = 0x08 then column - 1
  else if b = 0x0D then 0
  else if b = 0x09 then column + tabWidth - column % tabWidth
  else column + 1

/-- Where to break a line that has become too long: behind its last blank, if that is wanted and there is one. -/
def breakAt (atBlanks : Bool) (line : Bytes) : Bytes × Bytes :=
  if atBlanks then
    let tail := line.takeWhile (!Bytes.isBlank ·)
    if tail.length < line.length then (line.drop tail.length, tail) else (line, [])
  else (line, [])

/-- Folds a line, of which the part under way is kept last byte first. -/
def foldLine (width : Nat) (byBytes atBlanks : Bool) : (fuel : Nat) → Bytes → (current : Bytes) → (column : Nat) → Bytes
  | 0, _, current, _ => current.reverse
  | _, [], current, _ => current.reverse
  | fuel + 1, b :: rest, current, column =>
    if b = Bytes.newline then (b :: current).reverse ++ foldLine width byBytes atBlanks fuel rest [] 0
    else
      let next := if byBytes then column + 1 else columnAfter column b
      if width < next && !current.isEmpty then
        let (done, kept) := breakAt atBlanks current
        let measure := kept.reverse.foldl (fun c b => if byBytes then c + 1 else columnAfter c b) 0
        done.reverse ++ Bytes.newline :: foldLine width byBytes atBlanks fuel (b :: rest) kept measure
      else foldLine width byBytes atBlanks fuel rest (b :: current) next

/-- An old form of an option for the width: digits behind a hyphen. -/
def plainWidth (a : Bytes) : List Bytes :=
  match a with
  | b :: rest => if b = Bytes.ascii '-' && !rest.isEmpty && rest.all Bytes.isDigit then [text "-w", rest] else [a]
  | [] => [a]

def fold : Utility := fun s =>
  let s := { s with args := s.args.flatMap plainWidth }
  withOptions [⟨'b', .nothing, ["bytes"]⟩, ⟨'s', .nothing, ["spaces"]⟩, ⟨'w', .argument, ["width"]⟩] 1 true s fun o => do
    let widths := (o.given.filter (·.1 = 'w')).map fun g => (g.2, bounded 1 (mostCount - 9) (count? g.2))
    let fault? := widths.findSome? fun w => match w.2 with
      | .error f => some (w.1, f)
      | .ok _ => none
    match fault? with
    | some (given, f) =>
      complain s (text "invalid number of columns: " ++ quoted given ++ text f.message)
      return 1
    | none =>
      let width := (widths.getLast?.bind fun w => w.2.toOption).getD 80
      let (texts, status) ← gather s 1 (inputsOr o.operands)
      let folded (bs : Bytes) : Bytes := foldLine width (o.has 'b') (o.has 's') (2 * bs.length + 1) bs [] 0
      deliver s (texts.flatMap folded) status

/-! ## wc -/

structure Counts where
  lines : Nat
  words : Nat
  bytes : Nat
  longest : Nat

def Counts.zero : Counts := ⟨0, 0, 0, 0⟩

def Counts.add (a b : Counts) : Counts :=
  ⟨a.lines + b.lines, a.words + b.words, a.bytes + b.bytes, max a.longest b.longest⟩

def countAll (bs : Bytes) : Counts :=
  let isSpace (b : UInt8) : Bool := CharacterClass.space.contains b
  let step (state : Counts × Bool × Nat) (b : UInt8) : Counts × Bool × Nat :=
    let (c, inWord, column) := state
    let column' := if b = Bytes.newline || b = 0x0D || b = 0x0C then 0
      else if b = 0x09 then column + tabWidth - column % tabWidth
      else if isPrintable b then column + 1 else column
    let starts := !inWord && !isSpace b
    ({ lines := if b = Bytes.newline then c.lines + 1 else c.lines
       words := if starts then c.words + 1 else c.words
       bytes := c.bytes + 1
       longest := max c.longest column' }, !isSpace b, column')
  (bs.foldl step (Counts.zero, false, 0)).1

def wcOptions : List OptionSpec :=
  [⟨'c', .nothing, ["bytes"]⟩, ⟨'l', .nothing, ["lines"]⟩, ⟨'L', .nothing, ["max-line-length"]⟩,
    ⟨'m', .nothing, ["chars"]⟩, ⟨'w', .nothing, ["words"]⟩, ⟨'Τ', .argument, ["total"]⟩,
    ⟨'Φ', .argument, ["files0-from"]⟩]

/-- The columns that are shown, in their order. -/
def wcColumns (o : Options) : List (Counts → Nat) :=
  let chosen := o.has 'l' || o.has 'w' || o.has 'c' || o.has 'm' || o.has 'L'
  let column (shown : Bool) (f : Counts → Nat) : List (Counts → Nat) := if shown then [f] else []
  column (o.has 'l' || !chosen) (·.lines) ++ column (o.has 'w' || !chosen) (·.words) ++ column (o.has 'm') (·.bytes) ++
    column (o.has 'c' || !chosen) (·.bytes) ++ column (o.has 'L') (·.longest)

def wcLine (width : Nat) (columns : List (Counts → Nat)) (c : Counts) (name : Option Bytes) : Bytes :=
  List.intercalate [Bytes.ascii ' '] (columns.map fun f => padLeft width (decimal (f c))) ++
    (match name with
    | some n => Bytes.ascii ' ' :: n
    | none => []) ++ [Bytes.newline]

/-- The size of an input that is a regular file. -/
def regularSize? (v : View) (name : Bytes) : Option Nat :=
  if name == hyphen then
    match v.fileAt? 0 with
    | some (l, _) => (v.tree.entry? l).map Entry.size
    | none => none
  else match v.stat name with
    | .ok (_, e) => if e.isRegular then some e.size else none
    | .error _ => none

def isThere (v : View) (name : Bytes) : Bool := name == hyphen || (v.stat name).isOk

def otherWidth : Nat := 7

/-- The width of the columns comes from the sizes of the files, because no count is larger than their sum. -/
def wcWidth (v : View) (columns : Nat) (inputs : List Bytes) : Nat :=
  if inputs.length = 1 && columns = 1 then 1
  else
    let there := inputs.filter (isThere v)
    let sizes := there.filterMap (regularSize? v)
    let least := if sizes.length < there.length then otherWidth else 1
    if (inputs.head?.any fun n => !isThere v n) && inputs.length = 1 then 1
    else max least (toString sizes.sum).length

def wc : Utility := fun s =>
  withOptions wcOptions 1 true s fun o => do
    let inputs := inputsOr o.operands
    let columns := wcColumns o
    let width ← Activity.look fun v => wcWidth v columns.length inputs
    let mut total := Counts.zero
    let mut status := 0
    for name in inputs do
      let shown := if o.operands.isEmpty then none else some (if name.contains Bytes.newline then ifNeeded name else name)
      match ← openInput name with
      | .error e =>
        complain s (refusal (ifNeeded name) e)
        status := 1
      | .ok n =>
        let (bs, fault) ← Activity.readAll n
        closeInput n
        let c := countAll bs
        match fault with
        | some e =>
          complain s (refusal (ifNeeded name) e)
          status := 1
        | none => pure ()
        write 1 (wcLine width columns c shown)
        total := total.add c
    if 1 < inputs.length then write 1 (wcLine width columns total (some (text "total")))
    return status

end DesktopRefresh.Utility

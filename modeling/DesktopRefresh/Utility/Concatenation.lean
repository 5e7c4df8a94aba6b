import DesktopRefresh.Text.Regular.Parser
import DesktopRefresh.Utility.Basic

/-!
# Utilities that pass texts on

They print what is in their inputs one after another, as it is or with numbers and marks.
-/

namespace DesktopRefresh.Utility

open Kernel (Activity View)

/-! ## Passing on -/

/-- Opens inputs one after another and hands each over; the answer is the worst status. -/
def eachInput (s : Start) (status : Nat) (missing : Bytes → Errno → Bytes) (use : Bytes → Nat → Activity Nat) :
    List Bytes → (worst : Nat) → Activity Nat
  | [], worst => return worst
  | name :: rest, worst => do
    match ← openInput name with
    | .error e =>
      complain s (missing name e)
      eachInput s status missing use rest (max worst status)
    | .ok n =>
      let own ← use name n
      closeInput n
      eachInput s status missing use rest (max worst own)

/-- Hands over what comes out of a descriptor piece by piece, along with a state. -/
def eachPiece {σ : Type} (descriptor : Nat) (use : σ → Bytes → Activity (σ × Bool)) : (pieces : Nat) → σ →
    Activity (σ × Option Errno)
  | 0, state => return (state, none)
  | pieces + 1, state => do
    match ← Activity.read descriptor Activity.pieceSize with
    | .error e => return (state, some e)
    | .ok [] => return (state, none)
    | .ok bs =>
      match ← use state bs with
      | (state, true) => eachPiece descriptor use pieces state
      | (state, false) => return (state, none)

/-! ## cat -/

structure CatStyle where
  numbers : Bool
  numbersNonBlank : Bool
  squeezes : Bool
  showsEnds : Bool
  showsTabs : Bool
  showsUnprintable : Bool
  deriving DecidableEq

def CatStyle.isPlain (c : CatStyle) : Bool := c = ⟨false, false, false, false, false, false⟩

/-- How far the output is: the number of the last line, the ends of lines in a row, and a carriage return that
was kept back. -/
structure CatState where
  line : Nat
  ends : Nat
  carriage : Bool

def padLeft (width : Nat) (bs : Bytes) : Bytes := List.replicate (width - bs.length) (Bytes.ascii ' ') ++ bs

def lineNumber (n : Nat) : Bytes := padLeft 6 (decimal n) ++ [Bytes.ascii '\t']

/-- An unprintable byte in printable characters. -/
def visible (b : UInt8) : Bytes :=
  let low (b : UInt8) : Bytes := if b < 0x20 then [Bytes.ascii '^', b + 0x40]
    else if b = 0x7F then text "^?"
    else [b]
  if b < 0x80 then low b else text "M-" ++ low (b - 0x80)

def catByte (c : CatStyle) (s : CatState) (b : UInt8) : CatState × Bytes :=
  let held := if s.carriage then (if b = Bytes.newline then text "^M" else [0x0D]) else []
  let s := { s with carriage := false }
  if b = Bytes.newline then
    if c.squeezes && 2 ≤ s.ends then (s, held)
    else
      let numbered := c.numbers && !c.numbersNonBlank && 1 ≤ s.ends
      let s' := { s with ends := s.ends + 1, line := if numbered then s.line + 1 else s.line }
      (s', held ++ (if numbered then lineNumber s'.line else []) ++
        (if c.showsEnds then [Bytes.ascii '$'] else []) ++ [b])
  else
    let numbered := (c.numbers || c.numbersNonBlank) && 1 ≤ s.ends
    let s := { s with ends := 0, line := if numbered then s.line + 1 else s.line }
    let front := held ++ if numbered then lineNumber s.line else []
    if b = 0x0D && c.showsEnds && !c.showsUnprintable then ({ s with carriage := true }, front)
    else
      let shown := if b = 0x09 then (if c.showsTabs then text "^I" else [b])
        else if c.showsUnprintable then visible b else [b]
      (s, front ++ shown)

def catPiece (c : CatStyle) (s : CatState) (bs : Bytes) : CatState × Bytes :=
  let (s, out) := bs.foldl (fun (s, out) b =>
    let (s, more) := catByte c s b
    (s, more.reverseAux out)) (s, ([] : Bytes))
  (s, out.reverse)

def catStyle (o : Options) : CatStyle :=
  let all := o.has 'A'
  { numbers := o.has 'n'
    numbersNonBlank := o.has 'b'
    squeezes := o.has 's'
    showsEnds := o.has 'E' || o.has 'e' || all
    showsTabs := o.has 'T' || o.has 't' || all
    showsUnprintable := o.has 'v' || o.has 'e' || o.has 't' || all }

/-- The output goes to a file that is an input as well, and there is something in it to be read. -/
def isOwnOutput (descriptor : Nat) (v : View) : Bool :=
  match v.fileAt? 1, v.fileAt? descriptor with
  | some (out, _), some (l, position) => out = l && position < ((v.tree.entry? l).map Entry.size).getD 0
  | _, _ => false

def writeError (s : Start) (e : Errno) : Activity Nat := do
  complain s (refusal (text "write error") e)
  return 1

/-- The state after the last input, and the status. -/
def catEach (s : Start) (c : CatStyle) : List Bytes → CatState → (worst : Nat) → Activity (CatState × Nat)
  | [], state, worst => return (state, worst)
  | name :: rest, state, worst => do
    match ← openInput name with
    | .error e =>
      complain s (refusal (ifNeeded name) e)
      catEach s c rest state 1
    | .ok n =>
      if ← Activity.look (isOwnOutput n) then
        complain s (ifNeeded name ++ text ": input file is output file")
        closeInput n
        catEach s c rest state 1
      else
        let use (state : CatState × Nat) (bs : Bytes) : Activity ((CatState × Nat) × Bool) := do
          let (next, out) := if c.isPlain then (state.1, bs) else catPiece c state.1 bs
          match ← Activity.write 1 out with
          | .ok _ => return ((next, state.2), true)
          | .error e =>
            let status ← writeError s e
            return ((next, status), false)
        let ((state, own), fault) ← eachPiece n use Activity.mostPieces (state, 0)
        closeInput n
        match fault with
        | some e =>
          complain s (refusal (ifNeeded name) e)
          catEach s c rest state 1
        | none => if own = 0 then catEach s c rest state worst else return (state, own)

def catOptions : List OptionSpec :=
  [⟨'b', .nothing, ["number-nonblank"]⟩, ⟨'n', .nothing, ["number"]⟩, ⟨'s', .nothing, ["squeeze-blank"]⟩,
    ⟨'v', .nothing, ["show-nonprinting"]⟩, ⟨'E', .nothing, ["show-ends"]⟩, ⟨'T', .nothing, ["show-tabs"]⟩,
    ⟨'A', .nothing, ["show-all"]⟩, ⟨'e', .nothing, []⟩, ⟨'t', .nothing, []⟩, ⟨'u', .nothing, []⟩]

def cat : Utility := fun s =>
  withOptions catOptions 1 true s fun o => do
    if !(← isOpen 1) then
      complain s (refusal (text "standard output") .badDescriptor)
      return 1
    else
      let names := inputsOr o.operands
      let (state, status) ← catEach s (catStyle o) names ⟨0, 1, false⟩ 0
      if state.carriage then write 1 [0x0D]
      if names.contains hyphen && !(← isOpen 0) then
        complain s (refusal (text "closing standard input") .badDescriptor)
        return 1
      else return status

/-! ## tee -/

/-- Opens the outputs of a copy. -/
def openOutputs (s : Start) (appends : Bool) : List Bytes → Activity (List Nat × Nat)
  | [] => return ([], 0)
  | name :: rest => do
    match ← Activity.openFile name (if appends then .append else .output) with
    | .error e =>
      complain s (refusal (ifNeeded name) e)
      let (ns, _) ← openOutputs s appends rest
      return (ns, 1)
    | .ok n =>
      let (ns, status) ← openOutputs s appends rest
      return (n :: ns, status)

def writeAll (bs : Bytes) : List Nat → Activity Unit
  | [] => return ()
  | n :: rest => do
    write n bs
    writeAll bs rest

def tee : Utility := fun s =>
  withOptions [⟨'a', .nothing, ["append"]⟩, ⟨'i', .nothing, ["ignore-interrupts"]⟩, ⟨'p', .nothing, []⟩] 1 true s fun o => do
    let (outputs, status) ← openOutputs s (o.has 'a') o.operands
    let (_, fault) ← eachPiece 0 (fun (_ : Unit) bs => do
      writeAll bs (1 :: outputs)
      return ((), true)) Activity.mostPieces ()
    match fault with
    | some e =>
      complain s (refusal (text "read error") e)
      return 1
    | none => return status

/-! ## Reversed texts -/

/-- The parts of a text that end with a mark, or begin with it. -/
def markedParts (before : Bool) (mark : Bytes) (bs : Bytes) : List Bytes :=
  let rec go : (fuel : Nat) → (under : Bytes) → Bytes → List Bytes
    | 0, under, rest => [under.reverse ++ rest]
    | _, under, [] => if under.isEmpty then [] else [under.reverse]
    | fuel + 1, under, b :: rest =>
      if mark.isPrefixOf (b :: rest) then
        let after := (b :: rest).drop mark.length
        if before then
          (if under.isEmpty then [] else [under.reverse]) ++ go fuel mark.reverse after
        else (under.reverse ++ mark) :: go fuel [] after
      else go fuel (b :: under) rest
  go (bs.length + 1) [] bs

def tac : Utility := fun s =>
  withOptions [⟨'b', .nothing, ["before"]⟩, ⟨'r', .nothing, ["regex"]⟩, ⟨'s', .argument, ["separator"]⟩] 1 true s fun o =>
    let mark := match o.last? 's' with
      | some [] => [0]
      | some m => m
      | none => [Bytes.newline]
    let parts (bs : Bytes) : List Bytes :=
      if mark == [Bytes.newline] && !o.has 'b' then linesOf bs else markedParts (o.has 'b') mark bs
    eachInput s 1 (fun name e => text "failed to open " ++ always name ++ text (" for reading: " ++ e.text))
      (fun name n => do
        match ← Activity.readAll n with
        | (_, some e) =>
          -- What is no file cannot be read from its end.
          let reason := if e = .isDirectory then Errno.invalid else e
          complain s (ifNeeded name ++ text (": read error: " ++ reason.text))
          return 1
        | (bs, none) => deliver s (parts bs).reverse.flatten 0)
      (inputsOr o.operands) 0

def rev : Utility := fun s =>
  withOptions [⟨'0', .nothing, ["zero"]⟩, ⟨'V', .nothing, []⟩, ⟨'h', .nothing, []⟩] 1 true s fun o =>
    -- A hyphen is a name like any other.
    let shown (name : Bytes) : Bytes := if name == text "./-" then hyphen else name
    eachInput s 1 (fun name e => text "cannot open " ++ shown name ++ text (": " ++ e.text))
      (fun name n => do
        match ← Activity.readAll n with
        | (_, some e) =>
          complain s (refusal name e)
          return 1
        | (bs, none) =>
          let turned := (linesOf bs).flatMap fun l =>
            (withoutNewline l).reverse ++ if l.getLast? == some Bytes.newline then [Bytes.newline] else []
          deliver s turned 0)
      (if o.operands.isEmpty then [hyphen] else o.operands.map fun n => if n == hyphen then text "./-" else n) 0

/-! ## nl -/

/-- How numbers are placed in their column. -/
inductive Placing where
  | left | right | zeros
  deriving DecidableEq

/-- Which lines of a section are numbered: all of them, those that are not empty, none, or those in which a
pattern is found. -/
inductive Numbered where
  | all | nonEmpty | none
  | matching (r : Regular)

/-- The sections of a page. -/
inductive PagePart where
  | header | body | footer
  deriving DecidableEq

structure NlStyle where
  numbered : PagePart → Numbered
  placing : Placing
  width : Nat
  separator : Bytes
  start : Int
  step : Int
  /-- Numbers begin anew with every section. -/
  restarts : Bool
  /-- So many empty lines in a row count as one of which the last is numbered. -/
  joined : Nat
  delimiter : Bytes

def placed (placing : Placing) (width : Nat) (n : Int) : Bytes :=
  let bs := text (toString n)
  match placing with
  | .left => bs ++ List.replicate (width - bs.length) (Bytes.ascii ' ')
  | .right => padLeft width bs
  | .zeros =>
    let sign := if n < 0 then text "-" else []
    let digits := text (toString n.natAbs)
    sign ++ List.replicate (width - bs.length) (Bytes.ascii '0') ++ digits

/-- The section that a line begins: the delimiter three times, twice or once, and nothing else. -/
def NlStyle.partOf? (c : NlStyle) (line : Bytes) : Option PagePart :=
  if c.delimiter.isEmpty then none
  else if line == c.delimiter ++ c.delimiter ++ c.delimiter then some .header
  else if line == c.delimiter ++ c.delimiter then some .body
  else if line == c.delimiter then some .footer
  else none

/-- The section under way, the next number, and the empty lines that were not numbered. -/
structure NlState where
  part : PagePart
  next : Int
  blanks : Nat

def nlLine (c : NlStyle) (s : NlState) (line : Bytes) : NlState × Bytes :=
  match c.partOf? line with
  | some p => ({ s with part := p, next := if c.restarts then c.start else s.next }, [Bytes.newline])
  | none =>
    let (counts, blanks) := match c.numbered s.part with
      | .all =>
        if c.joined ≤ 1 then (true, s.blanks)
        else if !line.isEmpty || s.blanks + 1 = c.joined then (true, 0) else (false, s.blanks + 1)
      | .nonEmpty => (!line.isEmpty, s.blanks)
      | .none => (false, s.blanks)
      | .matching r => ((Regular.search? false r (.start line)).isSome, s.blanks)
    let front := if counts then placed c.placing c.width s.next ++ c.separator
      else List.replicate (c.width + c.separator.length) (Bytes.ascii ' ')
    ({ s with blanks := blanks, next := if counts then s.next + c.step else s.next }, front ++ line ++ [Bytes.newline])

def nlOptions : List OptionSpec :=
  [⟨'b', .argument, ["body-numbering"]⟩, ⟨'d', .argument, ["section-delimiter"]⟩,
    ⟨'f', .argument, ["footer-numbering"]⟩, ⟨'h', .argument, ["header-numbering"]⟩, ⟨'i', .argument, ["line-increment"]⟩,
    ⟨'l', .argument, ["join-blank-lines"]⟩, ⟨'n', .argument, ["number-format"]⟩, ⟨'p', .nothing, ["no-renumber"]⟩,
    ⟨'s', .argument, ["number-separator"]⟩, ⟨'v', .argument, ["starting-line-number"]⟩,
    ⟨'w', .argument, ["number-width"]⟩]

/-- Why an option cannot be used, and whether the options behind it are looked at all the same. -/
abbrev NlFault := Bytes × Bool

/-- What the numbering of a section is called. -/
def numbering (kind : String) (a : Bytes) : Except NlFault Numbered :=
  match a with
  | [letter] =>
    if letter = Bytes.ascii 'a' then .ok .all
    else if letter = Bytes.ascii 't' then .ok .nonEmpty
    else if letter = Bytes.ascii 'n' then .ok .none
    else if letter = Bytes.ascii 'p' then .ok .all
    else .error (text ("invalid " ++ kind ++ " numbering style: ") ++ quoted a, true)
  | letter :: pattern =>
    if letter = Bytes.ascii 'p' then
      match Regular.ofBytes ⟨false, true⟩ pattern with
      | .ok r => .ok (.matching r)
      | .error message => .error (text message.message, false)
    else .error (text ("invalid " ++ kind ++ " numbering style: ") ++ quoted a, true)
  | [] => .error (text ("invalid " ++ kind ++ " numbering style: ") ++ quoted a, true)

/-- An integer, perhaps with a sign. -/
def signed? (a : Bytes) : Option Int :=
  if a.head? == some (Bytes.ascii '-') then (natural? (a.drop 1)).map fun n => -(n : Int)
  else if a.head? == some (Bytes.ascii '+') then (natural? (a.drop 1)).map Int.ofNat
  else (natural? a).map Int.ofNat

def nlCount (what : String) (most : Nat) (a : Bytes) : Except NlFault Nat :=
  match bounded 1 most (count? a) with
  | .ok n => .ok n
  | .error f => .error (text ("invalid " ++ what ++ ": ") ++ quoted a ++ text f.message, false)

def nlInteger (what : String) (a : Bytes) : Except NlFault Int :=
  match signed? a with
  | some n => .ok n
  | none => .error (text ("invalid " ++ what ++ ": ") ++ quoted a, false)

def withNlOption (c : NlStyle) (g : Char × Bytes) : Except NlFault NlStyle :=
  let (letter, a) := g
  let inSection (p : PagePart) (n : Numbered) : NlStyle :=
    { c with numbered := fun q => if q = p then n else c.numbered q }
  match letter with
  | 'b' => (numbering "body" a).map (inSection .body)
  | 'h' => (numbering "header" a).map (inSection .header)
  | 'f' => (numbering "footer" a).map (inSection .footer)
  | 'v' => (nlInteger "starting line number" a).map fun n => { c with start := n }
  | 'i' => (nlInteger "line number increment" a).map fun n => { c with step := n }
  | 'l' => (nlCount "line number of blank lines" (2 ^ 63 - 1) a).map fun n => { c with joined := n }
  | 'w' => (nlCount "line number field width" (2 ^ 31 - 1) a).map fun n => { c with width := n }
  | 's' => .ok { c with separator := a }
  | 'p' => .ok { c with restarts := false }
  | 'd' => .ok { c with delimiter := if a.length = 1 then a ++ c.delimiter.drop 1 else a }
  | 'n' =>
    if a == text "ln" then .ok { c with placing := .left }
    else if a == text "rn" then .ok { c with placing := .right }
    else if a == text "rz" then .ok { c with placing := .zeros }
    else .error (text "invalid line numbering format: " ++ quoted a, true)
  | _ => .ok c

/-- The texts of some inputs, and the status. -/
def gather (s : Start) (status : Nat) : List Bytes → Activity (List Bytes × Nat)
  | [] => return ([], 0)
  | name :: rest => do
    let (bs, own) ← match ← readInput name with
      | (.error e, _) | (.ok _, some e) => do
        complain s (refusal (ifNeeded name) e)
        pure ([], status)
      | (.ok bs, none) => pure (bs, 0)
    let (more, worst) ← gather s status rest
    return (bs :: more, max own worst)

def nlStandard : NlStyle :=
  { numbered := fun p => if p = .body then .nonEmpty else .none
    placing := .right
    width := 6
    separator := [Bytes.ascii '\t']
    start := 1
    step := 1
    restarts := true
    joined := 1
    delimiter := text "\\:" }

/-- The style after all options that can be used, and the first fault among the others. -/
def nlStyle (given : List (Char × Bytes)) : NlStyle × List NlFault :=
  given.foldl (fun (c, faults) g => match withNlOption c g with
    | .ok c => (c, faults)
    | .error f => (c, faults ++ [f])) (nlStandard, [])

def nl : Utility := fun s =>
  withOptions nlOptions 1 true s fun o => do
    let (style, faults) := nlStyle o.given
    let (known, last) := faults.span (·.2)
    for f in known ++ last.take 1 do
      complain s f.1
    match known, last with
    | _, _ :: _ => return 1
    | _ :: _, [] =>
      hint s
      return 1
    | [], [] =>
      let (texts, status) ← gather s 1 (inputsOr o.operands)
      let (_, shown) := (texts.flatMap linesOf).foldl (fun (state, done) l =>
        let (state, out) := nlLine style state (withoutNewline l)
        (state, out :: done)) ((⟨.body, style.start, 0⟩ : NlState), ([] : List Bytes))
      deliver s shown.reverse.flatten status

end DesktopRefresh.Utility

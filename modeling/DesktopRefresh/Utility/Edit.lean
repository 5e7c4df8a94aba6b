import DesktopRefresh.Utility.Edit.Parser
import DesktopRefresh.Utility.Search

/-!
# Editing texts

Every line of the inputs is taken into a space of its own, where the commands of a script work on it, and
then printed. A second space keeps what a command puts there.
-/

namespace DesktopRefresh.Edit

open Kernel (Activity)
open Utility (Start complain refusal deliver text decimal)

/-! ## Inputs -/

/-- Where lines come from: what was read of an input and not used, and the inputs after it. -/
structure Feed where
  descriptor : Option Nat
  name : Bytes
  lines : List Bytes
  /-- The beginning of a line whose end was not read. -/
  rest : Bytes
  names : List Bytes
  failed : Bool

structure Space where
  content : Bytes
  /-- The line ended as lines do. -/
  ended : Bool

/-- What comes out after a line. -/
inductive Queued where
  | text (bs : Bytes)
  | file (path : Bytes)

/-- How far a range is. -/
inductive Progress where
  | outside
  | until (line : Nat)
  | inside
  deriving DecidableEq

structure Work where
  feed : Feed
  space : Space
  kept : Space
  line : Nat
  /-- The ranges that were begun, by the places of their commands. -/
  ranges : List (Nat × Progress)
  queue : List Queued
  replaced : Bool
  last : Option (Regular × Bool)
  /-- What was printed and not delivered, the last first. -/
  output : List Bytes
  /-- The end of the last line that was printed is missing. -/
  isOpen : Bool
  status : Nat
  /-- The descriptors of files that are written to. -/
  targets : List (Bytes × Nat)
  /-- The lines that are left in files that are read line by line. -/
  sources : List (Bytes × List Bytes)

structure Style where
  quiet : Bool
  separate : Bool
  /-- The results go to the files themselves, with copies under names with a suffix. -/
  inPlace : Option Bytes
  separator : UInt8
  width : Nat

abbrev Working (α : Type) := StateT Work Activity α

section
variable (s : Start) (y : Style)

/-- Opens the next input that can be opened. -/
def openNext : (names : List Bytes) → Working Bool
  | [] => do
    modify fun w => { w with feed := { w.feed with names := [] } }
    return false
  | name :: rest => do
    if name == Utility.hyphen && y.inPlace.isNone then
      modify fun w => { w with feed := { w.feed with descriptor := some 0, name := name, names := rest } }
      return true
    else
      let found ← Utility.targetOf name
      let isDirectory := (found.toOption.map fun e => e.2.isDirectory).getD false
      if isDirectory then
        modify fun w => { w with status := 4 }
        if y.inPlace.isSome then
          complain s (text "couldn't edit " ++ name ++ text ": not a regular file")
          openNext rest
        else
          complain s (text "read error on " ++ refusal name .isDirectory)
          modify fun w => { w with feed := { w.feed with names := [] } }
          return false
      else match ← Activity.openFile name .input with
        | .ok n =>
          modify fun w => { w with feed := { w.feed with descriptor := some n, name := name, names := rest } }
          return true
        | .error e =>
          complain s (text "can't read " ++ refusal name e)
          modify fun w => { w with status := 2 }
          openNext rest

/-- Reads until there is a whole line of the open input, or its end. -/
def fill : (pieces : Nat) → Working Unit
  | 0 => return ()
  | pieces + 1 => do
    let f := (← get).feed
    match f.descriptor, f.lines with
    | none, _ | _, _ :: _ => return ()
    | some n, [] =>
      match ← Activity.read n Activity.pieceSize with
      | .error _ | .ok [] =>
        Utility.closeInput n
        modify fun w => { w with feed := { f with
          descriptor := none, lines := if f.rest.isEmpty then [] else [f.rest], rest := [] } }
      | .ok bs =>
        let (lines, rest) := Utility.cutLines y.separator (f.rest ++ bs)
        modify fun w => { w with feed := { f with lines := lines, rest := rest } }
        fill pieces

/-- Looks for one more line, in the open input only or in those after it as well. -/
def hasLine (beyond : Bool) : (inputs : Nat) → Working Bool
  | 0 => return false
  | inputs + 1 => do
    fill y Activity.mostPieces
    let f := (← get).feed
    if !f.lines.isEmpty then return true
    else if !beyond then return false
    else if ← openNext s y f.names then hasLine beyond inputs else return false

def isLast : Working Bool := do
  return !(← hasLine s y (!y.separate) ((← get).feed.names.length + 2))

/-! ## Output -/

def emit (bs : Bytes) : Working Unit := do
  if !bs.isEmpty then
    modify fun w => { w with output := bs :: (if w.isOpen then [y.separator] :: w.output else w.output), isOpen := false }

def emitSpace (p : Space) : Working Unit := do
  emit y (if p.ended then p.content ++ [y.separator] else p.content)
  if !p.ended then modify fun w => { w with isOpen := true }

/-- Delivers what was printed if there is enough of it, and tells whether that could be done. -/
def pour (least : Nat) : Working Bool := do
  if y.inPlace.isSome then return true
  else
    let w ← get
    let (output, status) ← Utility.pourOut s least w.output
    set { w with output := output }
    return status = 0

/-- Puts what was printed in the place of the file it was made from. -/
def replaceFile : Working Unit := do
  match y.inPlace with
  | none => return ()
  | some suffix =>
    let w ← get
    let name := w.feed.name
    if !name.isEmpty then
      let content := w.output.reverse.flatten
      if !suffix.isEmpty then
        let copy := if suffix.contains (Bytes.ascii '*') then
            suffix.flatMap fun b => if b = Bytes.ascii '*' then Utility.lastName name else [b]
          else name ++ suffix
        discard <| (Activity.alter fun v => v.tree.rename v.cwd name copy : Activity (Except Errno Unit))
      discard <| (Activity.alter fun v => match v.stat name with
        | .ok (l, .file mode _) => .ok (v.tree.insert l (.file mode content))
        | _ => v.tree.write v.cwd name content : Activity (Except Errno Unit))
      set { w with output := [], isOpen := false }

/-- Prints what waited for the end of a line. -/
def flushQueue : Working Unit := do
  let queue := (← get).queue
  modify fun w => { w with queue := [] }
  for q in queue do
    match q with
    | .text bs => emit y bs
    | .file path =>
      match ← Utility.readInput (if path == Bytes.ofString "/dev/stdin" then Utility.hyphen else path) with
      | (.ok bs, _) => emit y bs
      | (.error _, _) => pure ()

/-- Takes the next line; what was in the space can stay in front of it. -/
def takeLine (keeps : Bool) : Working Bool := do
  flushQueue y
  modify fun w => { w with replaced := false }
  let more ← hasLine s y false 1
  let more ← if more then pure true else do
    replaceFile y
    let opened ← hasLine s y true ((← get).feed.names.length + 1)
    if opened && y.separate then modify fun w => { w with line := 0, ranges := [] }
    pure opened
  if !more then return false
  let w ← get
  match w.feed.lines with
  | [] => return false
  | l :: lines =>
    let ended := l.getLast? == some y.separator
    let own := if ended then l.dropLast else l
    set { w with
      feed := { w.feed with lines := lines }, line := w.line + 1
      space := ⟨if keeps then w.space.content ++ y.separator :: own else own, ended⟩ }
    return true

/-! ## Selections -/

/-- Stops because of something that cannot go on. -/
def give (status : Nat) (message : Bytes) : Working Unit := do
  complain s message
  modify fun w => { w with status := status }

/-- The expression to look for: the one that is given, or the last one. -/
def current (r : Option Regular) (anyCase : Bool) : Working (Option (Regular × Bool)) := do
  match r with
  | some r =>
    modify fun w => { w with last := some (r, anyCase) }
    return some (r, anyCase)
  | none => return (← get).last

/-- The last thing a script does, if it cannot do what it should. -/
abbrev Attempt (α : Type) := ExceptT Nat (StateT Work Activity) α

def noExpression : Attempt Unit := do
  complain s (text "-e expression #1, char 0: no previous regular expression")
  throw 1

def fits (r : Option Regular) (anyCase : Bool) : Attempt (Option Regular.Match) := do
  match ← current r anyCase with
  | some (r, anyCase) => return Regular.search? anyCase r (.start (← get).space.content)
  | none =>
    noExpression s
    return none

def meets : Address → Attempt Bool
  | .line n => return (← get).line = n
  | .every first step => do
    let l := (← get).line
    return first ≤ l && (l - first) % step = 0
  | .last => isLast s y
  | .fits r anyCase => return (← fits s r anyCase).isSome

def setProgress (place : Nat) (p : Progress) : Attempt Unit :=
  modify fun w => { w with ranges := (place, p) :: w.ranges.filter (·.1 != place) }

/-- A range begins with a line, and may end there as well. -/
def beginRange (place : Nat) (stop : Stop) : Attempt Unit := do
  let l := (← get).line
  match stop with
  | .address (.line n) => if l < n then setProgress place (.until n)
  | .lines n => if 0 < n then setProgress place (.until (l + n))
  | .multiple n => if n != 0 then setProgress place (.until (l + n - l % n))
  | .address _ => setProgress place .inside

def isSelected (place : Nat) (c : Selection) : Attempt Bool := do
  match c.first, c.stop with
  | none, _ => return true
  | some a, none => meets s y a
  | some a, some stop =>
    let begins : Attempt Bool := do
      if ← meets s y a then
        beginRange place stop
        return true
      else return false
    let isZero := match a with
      | .line 0 => true
      | _ => false
    match ((← get).ranges.lookup place).getD (if isZero then .inside else .outside) with
    | .outside => begins
    | .until n =>
      let l := (← get).line
      if n ≤ l then setProgress place .outside
      if l ≤ n then return true else begins
    | .inside =>
      match stop with
      | .address a =>
        if ← meets s y a then setProgress place (if isZero then .until 0 else .outside)
        return true
      | _ => return true

/-! ## Substitution -/

/-- How the case of what follows is changed. -/
structure Turning where
  all : Option Char
  next : Option Char

def turnByte (t : Turning) (b : UInt8) : UInt8 :=
  match t.next, t.all with
  | some 'u', _ => Bytes.toUpper b
  | some _, _ => Bytes.toLower b
  | none, some 'U' => Bytes.toUpper b
  | none, some _ => Bytes.toLower b
  | none, none => b

def turned (t : Turning) (bs : Bytes) : Bytes × Turning :=
  match bs with
  | [] => ([], t)
  | b :: rest =>
    let t' := { t with next := none }
    (turnByte t b :: rest.map (turnByte t'), t')

def replacement (m : Regular.Match) (ps : List Piece) : Bytes :=
  let step (state : List Bytes × Turning) (p : Piece) : List Bytes × Turning :=
    let (done, t) := state
    match p with
    | .text bs =>
      let (own, t) := turned t bs
      (own :: done, t)
    | .group n =>
      let (own, t) := turned t (m.group n)
      (own :: done, t)
    | .turn 'E' => (done, { t with all := none })
    | .turn c => if c = 'u' || c = 'l' then (done, { t with next := some c }) else (done, ⟨some c, none⟩)
  (ps.foldl step ([], ⟨none, none⟩)).1.reverse.flatten

/-- The text with parts replaced, the last piece first, and whether some part was. An empty part does not count
right after another one. -/
def substituteFrom (r : Regular) (anyCase : Bool) (b : Substitution) : (fuel : Nat) → (seen : Nat) →
    (afterPart : Bool) → (done : List Bytes) → Regular.Spot → List Bytes × Bool
  | 0, _, _, done, p => (p.rest :: done, false)
  | fuel + 1, seen, afterPart, done, p =>
    match Regular.search? anyCase r p with
    | none => (p.rest :: done, false)
    | some m =>
      let skipped := p.rest.take (m.start.position - p.position)
      let step (done : List Bytes) (p : Regular.Spot) (seen : Nat) : List Bytes × Bool :=
        match p.rest with
        | [] => (done, false)
        | c :: _ => substituteFrom r anyCase b fuel seen false ([c] :: done) p.advance
      if m.isEmpty && afterPart && m.start.position = p.position then step done p seen
      else
        let counts := b.number ≤ seen + 1
        let own := if counts then replacement m b.replacement else m.text
        let done := own :: skipped :: done
        if counts && !b.everywhere then (m.stop.rest :: done, true)
        else
          let (done, more) := if m.isEmpty then step done m.stop (seen + 1)
            else substituteFrom r anyCase b fuel (seen + 1) true done m.stop
          (done, counts || more)

/-! ## Commands -/

/-- Writes a line to a file or to the output. -/
def writeLine (t : Target) (bs : Bytes) (ended : Bool) : Working Unit := do
  match t with
  | .output => emit y (if ended then bs ++ [y.separator] else bs)
  | .messages => Utility.write 2 (bs ++ [y.separator])
  | .file path =>
    match (← get).targets.lookup path with
    | some n => Utility.write n (bs ++ (if ended then [y.separator] else []))
    | none => pure ()

/-- A byte as it is listed. -/
def listed (b : UInt8) : Bytes :=
  if b = Bytes.ascii '\\' then text "\\\\"
  else if Utility.isPrintable b then [b]
  else Utility.controlEscape b

/-- A listing in lines that are not too wide. -/
def foldListing (width : Nat) (items : List Bytes) : Bytes :=
  let step (state : List Bytes × Nat) (item : Bytes) : List Bytes × Nat :=
    let (done, column) := state
    if 0 < width && width - 1 < column + item.length then (item :: text "\\\n" :: done, item.length)
    else (item :: done, column + item.length)
  (items.foldl step ([], 0)).1.reverse.flatten ++ text "$\n"

def firstLine (bs : Bytes) : Bytes := bs.takeWhile (· != Bytes.newline)

/-- What a command does with the way through the script. -/
inductive Turn where
  | on
  | go (place : Nat)
  /-- The cycle is over; the space is printed or not. -/
  | ended (prints : Bool)
  /-- The next cycle begins with what is left in the space. -/
  | again
  | quit (prints : Bool) (status : Nat)
  deriving DecidableEq

def substituteSpace (b : Substitution) : Attempt Unit := do
  match ← current b.expression b.anyCase with
  | none => noExpression s
  | some (r, anyCase) =>
    let w ← get
    let (done, changed) := substituteFrom r anyCase b (w.space.content.length + 2) 0 false [] (.start w.space.content)
    if changed then
      let content := done.reverse.flatten
      set { w with space := { w.space with content := content }, replaced := true }
      if b.prints then emitSpace y ⟨content, w.space.ended⟩
      match b.target with
      | some t => writeLine y t content w.space.ended
      | none => pure ()

def nextLineOf (path : Bytes) : Working (Option Bytes) := do
  let w ← get
  let lines ← match w.sources.lookup path with
    | some lines => pure lines
    | none => do
      match ← Utility.readInput path with
      | (.ok bs, _) => pure (Utility.linesOf bs)
      | (.error _, _) => pure []
  set { w with sources := (path, lines.drop 1) :: w.sources.filter (·.1 != path) }
  return lines.head?

def plainCommand (c : Char) : Attempt Turn := do
  let w ← get
  let p := w.space
  match c with
  | '=' =>
    emit y (decimal w.line ++ [Bytes.newline])
    return .on
  | 'd' => return .ended false
  | 'D' =>
    match p.content.dropWhile (· != Bytes.newline) with
    | [] => return .ended false
    | _ :: rest =>
      set { w with space := { p with content := rest } }
      return .again
  | 'F' =>
    emit y (w.feed.name ++ [Bytes.newline])
    return .on
  | 'g' =>
    set { w with space := w.kept }
    return .on
  | 'G' =>
    set { w with space := ⟨p.content ++ y.separator :: w.kept.content, w.kept.ended⟩ }
    return .on
  | 'h' =>
    set { w with kept := p }
    return .on
  | 'H' =>
    set { w with kept := ⟨w.kept.content ++ y.separator :: p.content, p.ended⟩ }
    return .on
  | 'x' =>
    set { w with space := w.kept, kept := p }
    return .on
  | 'z' =>
    set { w with space := { p with content := [] } }
    return .on
  | 'n' =>
    if ← isLast s y then return .quit true 0
    else
      if !y.quiet then emitSpace y p
      return if ← takeLine s y false then .on else .quit false 0
  | 'N' =>
    if ← isLast s y then return .quit true 0
    else return if ← takeLine s y true then .on else .quit true 0
  | 'p' =>
    emitSpace y p
    return .on
  | 'P' =>
    let first := firstLine p.content
    emitSpace y ⟨first, p.ended || first.length < p.content.length⟩
    return .on
  | _ => return .on

def perform (program : List Command) (place : Nat) (c : Command) : Attempt Turn := do
  match c.action with
  | .opening | .closing | .label _ => return .on
  | .jump j name =>
    let w ← get
    let goes := match j with
      | .always => true
      | .ifReplaced => w.replaced
      | .unlessReplaced => !w.replaced
    if j != .always then set { w with replaced := false }
    return if goes then .go (if name.isEmpty then program.length else (labelAt? program name).getD program.length)
      else .on
  | .text 'i' bs =>
    emit y bs
    return .on
  | .text 'c' bs =>
    let inside := match (← get).ranges.lookup place with
      | some .outside | none => false
      | some (.until 0) => false
      | some _ => true
    if c.selection.negated || !inside then emit y bs
    return .ended false
  | .text _ bs =>
    modify fun w => { w with queue := w.queue ++ [.text bs] }
    return .on
  | .file path =>
    modify fun w => { w with queue := w.queue ++ [.file path] }
    return .on
  | .lineOf path =>
    match ← nextLineOf path with
    | some l => modify fun w => { w with queue := w.queue ++ [.text (Utility.withoutNewline l ++ [Bytes.newline])] }
    | none => pure ()
    return .on
  | .write t first =>
    let p := (← get).space
    writeLine y t (if first then firstLine p.content else p.content) (p.ended || first)
    return .on
  | .substitute b =>
    substituteSpace s y b
    return .on
  | .exchange table =>
    modify fun w => { w with space := { w.space with
      content := w.space.content.map fun b => (table.lookup b).getD b } }
    return .on
  | .quit silent status => return .quit (!silent) status
  | .list width =>
    emit y (foldListing (width.getD y.width) ((← get).space.content.map listed))
    return .on
  | .plain letter => plainCommand s y letter

/-- Goes through the commands from a place on. -/
def cycle (program : List Command) : (steps : Nat) → (place : Nat) → List Command → Attempt Turn
  | 0, _, _ => return .quit false 0
  | _, _, [] => return .ended true
  | steps + 1, place, c :: rest => do
    let selected := (← isSelected s y place c.selection) != c.selection.negated
    if selected then
      match ← perform s y program place c with
      | .on => cycle program steps (place + 1) rest
      | .go target => do
        (Activity.spend 200 : Activity Unit)
        cycle program steps target (program.drop target)
      | t => return t
    else match c.action with
      | .opening =>
        let skipped := blockLength 0 rest + 1
        cycle program steps (place + skipped) (rest.drop (skipped - 1))
      | _ => cycle program steps (place + 1) rest

/-- More steps than any script that ends takes for a line. -/
def mostSteps : Nat := 10 ^ 9

/-- Works on line after line. -/
def work (program : List Command) : (lines : Nat) → (fresh : Bool) → Attempt Nat
  | 0, _ => return 0
  | lines + 1, fresh => do
    let more ← if fresh then takeLine s y false else pure true
    let status := (← get).status
    if !more then return status
    else
      let t ← cycle s y program mostSteps 0 program
      let prints := match t with
        | .ended p | .quit p _ => p && !y.quiet
        | _ => false
      if prints then emitSpace y (← get).space
      if !(← pour s y Utility.blockSize) then throw 4
      match t with
      | .quit _ status =>
        flushQueue y
        replaceFile y
        let own := (← get).status
        return if status = 0 then own else status
      | .again =>
        flushQueue y
        work program lines false
      | _ => work program lines true

end

/-! ## sed -/

open Utility (OptionSpec Options)

def editOptions : List OptionSpec :=
  [⟨'n', .nothing, ["quiet", "silent"]⟩, ⟨'e', .argument, ["expression"]⟩, ⟨'f', .argument, ["file"]⟩,
    ⟨'E', .nothing, ["regexp-extended"]⟩, ⟨'r', .nothing, []⟩, ⟨'i', .maybe, ["in-place"]⟩,
    ⟨'l', .argument, ["line-length"]⟩, ⟨'s', .nothing, ["separate"]⟩, ⟨'u', .nothing, ["unbuffered"]⟩,
    ⟨'z', .nothing, ["null-data", "zero-terminated"]⟩, ⟨'b', .nothing, ["binary"]⟩, ⟨'Π', .nothing, ["posix"]⟩,
    ⟨'Δ', .nothing, ["debug"]⟩, ⟨'Σ', .nothing, ["sandbox"]⟩, ⟨'Φ', .nothing, ["follow-symlinks"]⟩]

def editUsage (s : Start) (message : Option Bytes) : Activity Nat := do
  match message with
  | some m => complain s m
  | none => pure ()
  Utility.write 2 (text "Usage: " ++ s.name ++
    text " [OPTION]... \x7bscript-only-if-no-other-script\x7d [input-file]...\n\n")
  return 1

/-- A part of the script: its text, and the file it is from. -/
structure Part where
  content : Bytes
  file : Option Bytes

def scriptParts (s : Start) : List (Char × Bytes) → Activity (Option (List Part))
  | [] => return some []
  | (letter, a) :: rest => do
    if letter = 'e' then return (← scriptParts s rest).map (⟨a, none⟩ :: ·)
    else if letter = 'f' then
      match ← Utility.readInput a with
      | (.ok bs, _) => return (← scriptParts s rest).map (⟨Utility.withoutNewline bs, some a⟩ :: ·)
      | (.error e, _) =>
        complain s (text "couldn't open file " ++ refusal a e)
        return none
    else scriptParts s rest

/-- The part in which a position of the whole script lies, by its number, and the position in it. -/
def locate : (number : Nat) → (position : Nat) → List Part → Nat × Nat × Option Part
  | number, position, [] => (number, position, none)
  | number, position, p :: rest =>
    if position ≤ p.content.length || rest.isEmpty then (number, position, some p)
    else locate (if p.file.isNone then number + 1 else number) (position - p.content.length - 1) rest

def faultText (f : Fault) (left : Nat) (parts : List Part) : Bytes :=
  let whole := parts.foldl (fun n p => n + p.content.length + 1) 0 - 1
  let (number, position, part) := locate 1 (whole - left) parts
  let position := match f with
    | .unmatchedOpening => 0
    | _ => position
  match f, part with
  | .expression .classSyntax, _ => text f.message
  | _, some ⟨content, some name⟩ =>
    let line := (content.take position).countP (· == Bytes.newline) + 1
    text "file " ++ name ++ text " line " ++ decimal line ++ text (": " ++ f.message)
  | _, _ => text "-e expression #" ++ decimal number ++ text ", char " ++ decimal position ++ text (": " ++ f.message)

/-- Opens the files that the script writes to. -/
def openTargets (s : Start) : List Command → List (Bytes × Nat) → Activity (Option (List (Bytes × Nat)))
  | [], opened => return some opened
  | c :: rest, opened => do
    let target := match c.action with
      | .write t _ => some t
      | .substitute b => b.target
      | _ => none
    match target with
    | some (.file path) =>
      if (opened.lookup path).isSome then openTargets s rest opened
      else match ← Activity.openFile path .output with
        | .ok n => openTargets s rest ((path, n) :: opened)
        | .error e =>
          complain s (text "couldn't open file " ++ refusal path e)
          return none
    | _ => openTargets s rest opened

def styleOf (o : Options) : Style :=
  { quiet := o.has 'n'
    separate := o.has 's' || o.has 'i'
    inPlace := o.last? 'i'
    separator := if o.has 'z' then 0 else Bytes.newline
    width := ((o.last? 'l').bind Utility.natural?).getD 70 }

def startingWork (names : List Bytes) (targets : List (Bytes × Nat)) : Work :=
  { feed := ⟨none, [], [], [], names, false⟩, space := ⟨[], true⟩, kept := ⟨[], true⟩, line := 0, ranges := [], queue := []
    replaced := false, last := none, output := [], isOpen := false, status := 0, targets := targets, sources := [] }

def run (s : Start) (o : Options) (parts : List Part) (names : List Bytes) : Activity Nat := do
  let whole := List.intercalate [Bytes.newline] (parts.map (·.content))
  let isQuiet := o.has 'n' || whole == text "#n" || (text "#n\n").isPrefixOf whole
  match script ⟨o.has 'E' || o.has 'r'⟩ whole with
  | .error (f, left) =>
    complain s (faultText f left parts)
    return match f with
      | .expression .classSyntax => 4
      | _ => 1
  | .ok program =>
    match missingLabel? program with
    | some name =>
      complain s (text "can't find label for jump to \x60" ++ name ++ text "'")
      return 4
    | none =>
      match ← openTargets s program [] with
      | none => return 4
      | some targets =>
        let y := { styleOf o with quiet := isQuiet }
        let (result, w) ← ((work s y program mostSteps true).run).run (startingWork (Utility.inputsOr names) targets)
        let status := match result with
          | .ok n | .error n => n
        if y.inPlace.isSome then return status else deliver s w.output.reverse.flatten status

end Edit

namespace Utility

open Kernel (Activity)

def sed : Utility := fun s =>
  match sortOut (Edit.editOptions ++ commonOptions) true (s.args.length + 1) s.args with
  | .error message => Edit.editUsage s (some message)
  | .ok o => do
    if o.has helpLetter || o.has versionLetter then return 0
    else match ← Edit.scriptParts s o.given with
      | none => return 4
      | some [] =>
        match o.operands with
        | [] => Edit.editUsage s none
        | p :: names => Edit.run s o [⟨p, none⟩] names
      | some parts => Edit.run s o parts o.operands

end DesktopRefresh.Utility

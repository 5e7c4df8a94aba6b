import DesktopRefresh.Utility.Awk.Parser
import DesktopRefresh.Utility.Awk.Value
import DesktopRefresh.Utility.Launching

/-!
# What programs on records work on

Variables, the record under way with its fields, and the inputs and outputs. Output waits until there is enough
of it, or until another program is started that could print something as well.
-/

namespace DesktopRefresh.Awk

open Kernel (Activity Outcome)
open Utility (Start text decimal complain)

/-! ## What a program works on -/

/-- What a name stands for. -/
inductive Slot where
  | scalar (v : Value)
  | table (id : Nat)
  /-- Nothing is known yet; it becomes this table when it is used as one. -/
  | undecided (id : Nat)

/-- Where records come from, with what was read and not used. -/
structure Stream where
  descriptor : Nat
  buffer : Bytes
  ended : Bool
  child : Option Nat

structure Outlet where
  descriptor : Nat
  child : Option Nat

structure World where
  globals : List (Bytes × Slot)
  locals : List (Bytes × Slot)
  tables : List (Nat × Table)
  nextTable : Nat
  record : Bytes
  fields : List Value
  main : Option Stream
  /-- The next of the arguments that can be an input. -/
  argument : Nat
  /-- Some argument was an input, so that the standard one is not. -/
  hadInput : Bool
  readers : List (Origin × Bytes × Stream)
  outlets : List (Sink × Bytes × Outlet)
  output : List Bytes
  pending : Nat
  /-- The ranges of rules that were begun, by the places of the rules. -/
  ranges : List Nat
  status : Nat
  seed : Nat

/-- Why the usual order of work is left. -/
inductive Stop where
  | next | nextFile | exit | stopLoop | again
  | leave (v : Value)
  | fault (message : Bytes)

abbrev Run (α : Type) := ExceptT Stop (StateT World Activity) α

def act {α : Type} (x : Activity α) : Run α := liftM (m := StateT World Activity) (liftM x)

namespace Run

/-! ## Variables -/

def newTable : Run Nat := do
  let w ← get
  set { w with nextTable := w.nextTable + 1, tables := (w.nextTable, []) :: w.tables }
  return w.nextTable

def isLocal (w : World) (name : Bytes) : Bool := w.locals.any (·.1 == name)

def slot (name : Bytes) : Run (Option Slot) := do
  let w ← get
  return match w.locals.lookup name with
    | some s => some s
    | none => w.globals.lookup name

def setSlot (name : Bytes) (s : Slot) : Run Unit := modify fun w =>
  if isLocal w name then { w with locals := (name, s) :: w.locals.eraseP (·.1 == name) }
  else { w with globals := (name, s) :: w.globals.eraseP (·.1 == name) }

/-- A setting of the program that is a text. -/
def setting (name : String) : Run Bytes := do
  match (← get).globals.lookup (text name) with
  | some (.scalar v) => return v.toText (text "%.6g")
  | _ => return []

def conversion : Run Bytes := setting "CONVFMT"

def textOf (v : Value) : Run Bytes := do
  match v with
  | .text bs | .numeral bs _ => return bs
  | v => return v.toText (← conversion)

/-- The table that a name stands for. -/
def tableId (name : Bytes) : Run Nat := do
  match ← slot name with
  | some (.table id) => return id
  | some (.undecided id) =>
    setSlot name (.table id)
    return id
  | some (.scalar .unset) | none =>
    let id ← newTable
    setSlot name (.table id)
    return id
  | some (.scalar _) => throw (.fault (text "illegal reference to variable " ++ name))

def tableOf (id : Nat) : Run Table := return ((← get).tables.lookup id).getD []

def setTable (id : Nat) (t : Table) : Run Unit := modify fun w =>
  { w with tables := (id, t) :: w.tables.eraseP (·.1 == id) }

/-! ## Fields -/

/-- The parts of a text that expressions fit between. -/
def splitBy (r : Regular) : (fuel : Nat) → Bytes → List Bytes
  | 0, bs => [bs]
  | fuel + 1, bs =>
    match Regular.search? false r (.start bs) with
    | some m =>
      if m.isEmpty then [bs]
      else bs.take m.start.position :: splitBy r fuel (bs.drop m.stop.position)
    | none => [bs]

/-- The words of a text between blanks. -/
def wordsOf : (fuel : Nat) → Bytes → List Bytes
  | 0, _ => []
  | fuel + 1, bs =>
    let isSpace (b : UInt8) : Bool := b = 0x20 || b = 0x09 || b = 0x0A
    let rest := bs.dropWhile isSpace
    if rest.isEmpty then []
    else
      let word := rest.takeWhile (!isSpace ·)
      word :: wordsOf fuel (rest.drop word.length)

def split (separator : Bytes) (byLines : Bool) (bs : Bytes) : Run (List Bytes) := do
  if bs.isEmpty then return []
  else if separator == text " " then return wordsOf (bs.length + 1) bs
  else if separator.isEmpty then return bs.map fun b => [b]
  else
    let source := if separator.length = 1 then quotedByte (separator.headD 0) else separator
    match Regular.ofBytes ⟨true, false⟩ (if separator.length = 1 then source
        else plainRegular (source.length + 1) false source) with
    | .error f => throw (.fault (text f.message))
    | .ok r =>
      let r := if byLines then .choice r (.byte Bytes.newline) else r
      return splitBy r (bs.length + 1) bs

/-- Splits the record into its fields. -/
def setRecord (bs : Bytes) : Run Unit := do
  let byLines := (← setting "RS").isEmpty
  let parts ← split (← setting "FS") byLines bs
  modify fun w => { w with record := bs, fields := parts.map Value.ofInput }

/-- Makes the record out of its fields. -/
def rebuild : Run Unit := do
  let separator ← setting "OFS"
  let parts ← (← get).fields.mapM textOf
  modify fun w => { w with record := List.intercalate separator parts }

def resize (n : Nat) : Run Unit := do
  modify fun w => { w with fields := w.fields.take n ++ List.replicate (n - w.fields.length) .unset }
  rebuild

def field (n : Nat) : Run Value := do
  let w ← get
  if n = 0 then return Value.ofInput w.record else return (w.fields[n - 1]?).getD .unset

def setField (n : Nat) (v : Value) : Run Unit := do
  if n = 0 then setRecord (← textOf v)
  else
    modify fun w =>
      let fields := w.fields ++ List.replicate (n - w.fields.length) .unset
      { w with fields := fields.set (n - 1) v }
    rebuild

def valueOf (name : Bytes) : Run Value := do
  if name == text "NF" && !isLocal (← get) name then return Value.ofNat (← get).fields.length
  else match ← slot name with
    | some (.scalar v) => return v
    | some (.undecided _) | none => return .unset
    | some (.table _) => throw (.fault (text "illegal reference to array " ++ name))

def setValue (name : Bytes) (v : Value) : Run Unit := do
  if name == text "NF" && !isLocal (← get) name then resize ((v.toNumber.truncate?).getD 0).toNat
  else match ← slot name with
    | some (.table _) => throw (.fault (text "illegal reference to array " ++ name))
    | _ => setSlot name (.scalar v)

def count (name : String) : Run Unit := do
  let n := (← valueOf (text name)).toNumber
  setValue (text name) (.number (n.add Floating.one))

/-! ## Output -/

def flush : Run Unit := do
  let w ← get
  if 0 < w.pending then
    set { w with output := [], pending := 0 }
    act (Utility.write 1 w.output.reverse.flatten)

/-- How much output waits at most. -/
def mostPending : Nat := 4096

def emit (bs : Bytes) : Run Unit := do
  modify fun w => { w with output := bs :: w.output, pending := w.pending + bs.length }
  if mostPending ≤ (← get).pending then flush

/-- Starts a command with one end of a pipe in the place of a descriptor; the answer is the other end. -/
def startCommand (s : Start) (command : Bytes) (writes : Bool) : Run (Nat × Nat) := do
  flush
  let (reading, writing) ← act (Activity.call .pipe)
  let (own, other) := if writes then (writing, reading) else (reading, writing)
  let others := (← get).outlets.map (·.2.2.descriptor) ++ (← get).readers.map (·.2.2.descriptor)
  let child : Activity Nat := do
    let _ ← Activity.call (.copy other (if writes then 0 else 1))
    (own :: other :: others).forM Activity.close
    let e ← Utility.become (text "/bin/sh") [text "-c", command] s.settings
    return Utility.missingStatus e
  let id ← act (Activity.fork child.code)
  act (Activity.close other)
  return (own, id)

/-- The status that a program sees of another one. -/
def statusOf : Outcome → Nat
  | .exited n => n
  | .killed n => 256 + n

def awaitChild (child : Option Nat) : Run (Option Nat) := do
  match child with
  | some id => return some (statusOf (← act (Utility.awaitEnd id 1000)))
  | none => return none

def outlet (s : Start) (sink : Sink) (name : Bytes) : Run Nat := do
  match ((← get).outlets.find? fun o => o.2.1 == name) with
  | some o => return o.2.2.descriptor
  | none =>
    let (descriptor, child) ← match sink with
      | .command => do
        let (n, id) ← startCommand s name true
        pure (n, some id)
      | sink =>
        match ← act (Activity.openFile name (if sink = .append then .append else .output)) with
        | .ok n => pure (n, none)
        | .error e => throw (.fault (text "cannot open \"" ++ name ++ text ("\" for output (" ++ e.text ++ ")")))
    modify fun w => { w with outlets := w.outlets ++ [(sink, name, ⟨descriptor, child⟩)] }
    return descriptor

def emitTo (s : Start) (sink : Sink) (name bs : Bytes) : Run Unit := do
  if sink != .command && (name == text "/dev/stdout" || name == text "-") then emit bs
  else if sink != .command && name == text "/dev/stderr" then act (Utility.write 2 bs)
  else
    let n ← outlet s sink name
    act (Utility.write n bs)

/-- Closes what has a name; the answer is the status of a command. -/
def close (name : Bytes) : Run Int := do
  let w ← get
  let readers := w.readers.filter (·.2.1 == name)
  let outlets := w.outlets.filter (·.2.1 == name)
  set { w with
    readers := w.readers.filter (·.2.1 != name)
    outlets := w.outlets.filter (·.2.1 != name) }
  flush
  let mut answer : Int := if readers.isEmpty && outlets.isEmpty then -1 else 0
  for (_, _, o) in outlets do
    act (Activity.close o.descriptor)
    match ← awaitChild o.child with
    | some n => answer := n
    | none => pure ()
  for (_, _, r) in readers do
    act (Activity.close r.descriptor)
    match ← awaitChild r.child with
    | some n => answer := n
    | none => pure ()
  return answer

/-! ## Input -/

/-- What ends records: a byte, an expression, or an empty line. -/
inductive Ending where
  | byte (b : UInt8)
  | regular (r : Regular)
  | emptyLine

def ending : Run Ending := do
  match ← setting "RS" with
  | [] => return .emptyLine
  | [b] => return .byte b
  | source =>
    match regularOf source with
    | .ok r => return .regular r
    | .error f => throw (.fault (text f.message))

/-- The first record of what was read, and what follows it; none if its end may not have been read yet. -/
def firstRecord (e : Ending) (s : Stream) : Option (Bytes × Bytes) :=
  match e with
  | .byte b =>
    let record := s.buffer.takeWhile (· != b)
    if record.length < s.buffer.length then some (record, s.buffer.drop (record.length + 1))
    else if s.ended && !record.isEmpty then some (record, []) else none
  | .regular r =>
    if !s.ended || s.buffer.isEmpty then none
    else match Regular.search? false r (.start s.buffer) with
      | some m =>
        if m.isEmpty then some (s.buffer, [])
        else some (s.buffer.take m.start.position, s.buffer.drop m.stop.position)
      | none => some (s.buffer, [])
  | .emptyLine =>
    let bs := s.buffer.dropWhile (· == Bytes.newline)
    if !s.ended || bs.isEmpty then none
    else
      let rec cut : (done : Bytes) → Bytes → Bytes × Bytes
        | done, a :: b :: rest =>
          if a = Bytes.newline && b = Bytes.newline then (done.reverse, rest) else cut (a :: done) (b :: rest)
        | done, [a] => ((if a = Bytes.newline then done else a :: done).reverse, [])
        | done, [] => (done.reverse, [])
      some (cut [] bs)

/-- How much is read at once. -/
def readSize : Nat := 4096

/-- The next record of a stream. -/
def nextOf (e : Ending) : (pieces : Nat) → Stream → Run (Except Errno (Option Bytes) × Stream)
  | 0, s => return (.ok none, s)
  | pieces + 1, s => do
    match firstRecord e s with
    | some (record, rest) => return (.ok (some record), { s with buffer := rest })
    | none =>
      if s.ended then return (.ok none, s)
      else match ← act (Activity.read s.descriptor readSize) with
        | .error e => return (.error e, { s with ended := true })
        | .ok [] => nextOf e pieces { s with ended := true }
        | .ok bs => nextOf e pieces { s with buffer := s.buffer ++ bs }

/-- A name, an equals sign and a value. -/
def assignment? (a : Bytes) : Option (Bytes × Bytes) :=
  let name := a.takeWhile isNamePart
  if (name.head?.any isNameStart) && (a.drop name.length).head? == some (Bytes.ascii '=') then
    some (name, a.drop (name.length + 1))
  else none

def assignText (name value : Bytes) : Run Unit := setValue name (Value.ofInput (unescape (value.length + 1) value))

def cannotOpen (name : Bytes) (e : Errno) : Stop :=
  .fault (text "cannot open \"" ++ name ++ text ("\" (" ++ e.text ++ ")"))

def openMain (name : Bytes) : Run Unit := do
  setValue (text "FILENAME") (.text name)
  setValue (text "FNR") (Value.ofNat 0)
  if name == Utility.hyphen || name == text "/dev/stdin" then
    modify fun w => { w with main := some ⟨0, [], false, none⟩, hadInput := true }
  else match ← act (Activity.openFile name .input) with
    | .ok n => modify fun w => { w with main := some ⟨n, [], false, none⟩, hadInput := true }
    | .error e => throw (cannotOpen name e)

/-- Opens the next input that is named in the arguments, or the standard one if none is. -/
def openNext : (tries : Nat) → Run Bool
  | 0 => return false
  | tries + 1 => do
    let last := (((← valueOf (text "ARGC")).toNumber.truncate?).getD 0).toNat
    let i := (← get).argument
    if last ≤ i then
      if (← get).hadInput then return false
      else
        openMain Utility.hyphen
        return true
    else
      modify fun w => { w with argument := i + 1 }
      let table ← tableOf (← tableId (text "ARGV"))
      let a ← textOf ((table.lookup (decimal i)).getD .unset)
      if a.isEmpty then openNext tries
      else match assignment? a with
        | some (name, value) =>
          assignText name value
          openNext tries
        | none =>
          openMain a
          return true

/-- The next record of the main input. -/
def nextMain : (tries : Nat) → Run (Option Bytes)
  | 0 => return none
  | tries + 1 => do
    match (← get).main with
    | none => if ← openNext 1000 then nextMain tries else return none
    | some s =>
      match ← nextOf (← ending) Activity.mostPieces s with
      | (.ok (some record), s) =>
        modify fun w => { w with main := some s }
        count "NR"
        count "FNR"
        return some record
      | (.ok none, s) =>
        if s.descriptor != 0 then act (Activity.close s.descriptor)
        modify fun w => { w with main := none }
        nextMain tries
      | (.error _, s) =>
        if s.descriptor != 0 then act (Activity.close s.descriptor)
        modify fun w => { w with main := none }
        nextMain tries

def mostInputs : Nat := 10 ^ 6

/-- The next record of a file or of the output of a command, or whether there is none or it cannot be opened. -/
def nextFrom (s : Start) (origin : Origin) (name : Bytes) : Run (Except Errno (Option Bytes)) := do
  let found := ((← get).readers.find? fun r => r.1 == origin && r.2.1 == name).map (·.2.2)
  let opened : Except Errno Stream ← match found, origin with
    | some stream, _ => pure (.ok stream)
    | none, .command => do
      let (n, id) ← startCommand s name false
      pure (.ok ⟨n, [], false, some id⟩)
    | none, .file =>
      if name == Utility.hyphen || name == text "/dev/stdin" then pure (.ok ⟨0, [], false, none⟩)
      else do pure ((← act (Activity.openFile name .input)).map fun n => ⟨n, [], false, none⟩)
  match opened with
  | .error e => return .error e
  | .ok stream =>
    let (answer, stream) ← nextOf (← ending) Activity.mostPieces stream
    modify fun w => { w with
      readers := (origin, name, stream) :: w.readers.filter fun r => !(r.1 == origin && r.2.1 == name) }
    return answer

end Run

end DesktopRefresh.Awk

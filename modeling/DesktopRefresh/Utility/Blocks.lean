import DesktopRefresh.Utility.Concatenation

/-!
# Copies in blocks

The utility that copies bytes from an input to an output in blocks of given sizes, and counts them.
-/

namespace DesktopRefresh.Utility

open Kernel (Activity)

/-! ## What is asked for -/

/-- A size as blocks or as bytes. -/
structure Amount where
  count : Nat
  inBytes : Bool

inductive Reporting where
  | all | counts | nothing
  deriving DecidableEq

structure BlockCopy where
  input : Option Bytes
  output : Option Bytes
  inputSize : Nat
  outputSize : Nat
  /-- One size for both sides: what is read is written as it is. -/
  single : Bool
  count : Option Amount
  skip : Amount
  seek : Amount
  conversions : List String
  inputFlags : List String
  outputFlags : List String
  reporting : Reporting

def BlockCopy.standard : BlockCopy :=
  { input := none, output := none, inputSize := 512, outputSize := 512, single := false, count := none,
    skip := ⟨0, false⟩, seek := ⟨0, false⟩, conversions := [], inputFlags := [], outputFlags := [], reporting := .all }

def blockFactors : List (String × Nat) :=
  [("", 1), ("c", 1), ("B", 1), ("w", 2), ("b", 512), ("kB", 1000), ("KB", 1000), ("K", 1024), ("k", 1024),
    ("KiB", 1024), ("MB", 10 ^ 6), ("M", 1024 ^ 2), ("MiB", 1024 ^ 2), ("GB", 10 ^ 9), ("G", 1024 ^ 3),
    ("GiB", 1024 ^ 3), ("TB", 10 ^ 12), ("T", 1024 ^ 4), ("PB", 10 ^ 15), ("P", 1024 ^ 5), ("EB", 10 ^ 18),
    ("E", 1024 ^ 6)]

/-- A number with a factor, or a product of such numbers, and whether it counts bytes by its last letter. -/
def amount? (bs : Bytes) : Option Amount := do
  let parts := Bytes.splitAt (Bytes.ascii 'x') bs
  let values ← parts.mapM fun part =>
    let digits := part.takeWhile Bytes.isDigit
    if digits.isEmpty then none
    else (blockFactors.find? fun f => text f.1 == part.drop digits.length).map fun f => Bytes.number digits * f.2
  return ⟨values.foldl (· * ·) 1, bs.getLast? == some (Bytes.ascii 'B')⟩

def largestAmount : Nat := 2 ^ 63 - 1

def conversionNames : List String :=
  ["ascii", "ebcdic", "ibm", "block", "unblock", "lcase", "ucase", "sparse", "swab", "sync", "noerror", "nocreat",
    "excl", "notrunc", "fdatasync", "fsync"]

def flagNames : List String :=
  ["append", "binary", "cio", "direct", "directory", "dsync", "noatime", "nocache", "noctty", "nofollow", "nolinks",
    "nonblock", "sync", "text"]

/-- Names between commas, or the first that is not known. -/
def namesIn (known : List String) (bs : Bytes) : Except Bytes (List String) :=
  (Bytes.splitAt (Bytes.ascii ',') bs).mapM fun part =>
    match known.find? fun n => text n == part with
    | some n => .ok n
    | none => .error part

/-- Why operands are refused. -/
structure BlockFault where
  message : Bytes
  /-- The message is followed by a hint. -/
  hinted : Bool

def BlockCopy.with (c : BlockCopy) (key value : Bytes) : Except BlockFault BlockCopy := do
  let names (known : List String) (what : String) : Except BlockFault (List String) :=
    (namesIn known value).mapError fun part => ⟨text (what ++ ": ") ++ quoted part, true⟩
  let number (least : Nat) : Except BlockFault Amount :=
    let invalid := text "invalid number: " ++ quoted value
    match amount? value with
    | none => .error ⟨invalid, false⟩
    | some a =>
      if largestAmount < a.count then .error ⟨invalid ++ text ": Value too large for defined data type", false⟩
      else if a.count < least then .error ⟨invalid, false⟩
      else .ok a
  match String.fromUTF8? (ByteArray.mk key.toArray) with
  | some "if" => return { c with input := some value }
  | some "of" => return { c with output := some value }
  | some "ibs" => return { c with inputSize := (← number 1).count }
  | some "obs" => return { c with outputSize := (← number 1).count }
  | some "bs" =>
    let size := (← number 1).count
    return { c with inputSize := size, outputSize := size, single := true }
  | some "cbs" =>
    let _ ← number 1
    return c
  | some "skip" | some "iseek" => return { c with skip := ← number 0 }
  | some "seek" | some "oseek" => return { c with seek := ← number 0 }
  | some "count" => return { c with count := some (← number 0) }
  | some "conv" => return { c with conversions := c.conversions ++ (← names conversionNames "invalid conversion") }
  | some "iflag" =>
    let flags ← names (["fullblock", "count_bytes", "skip_bytes"] ++ flagNames) "invalid input flag"
    return { c with inputFlags := c.inputFlags ++ flags }
  | some "oflag" =>
    return { c with outputFlags := c.outputFlags ++ (← names ("seek_bytes" :: flagNames) "invalid output flag") }
  | some "status" =>
    if value == text "none" then return { c with reporting := .nothing }
    else if value == text "noxfer" then return { c with reporting := .counts }
    else if value == text "progress" then return { c with reporting := .all }
    else throw ⟨text "invalid status level: " ++ quoted value, true⟩
  | _ => throw ⟨text "unrecognized operand " ++ quoted (key ++ Bytes.ascii '=' :: value), true⟩

def BlockCopy.ofOperands (operands : List Bytes) : Except BlockFault BlockCopy := do
  let c ← operands.foldlM (fun (c : BlockCopy) (operand : Bytes) =>
    match operand.span (· != Bytes.ascii '=') with
    | (key, _ :: value) => c.with key value
    | (_, []) => throw ⟨text "unrecognized operand " ++ quoted operand, true⟩) BlockCopy.standard
  let both (x y : String) : Except BlockFault Unit :=
    if c.conversions.contains x && c.conversions.contains y then throw ⟨text ("cannot combine " ++ x ++ " and " ++ y), false⟩
    else return ()
  both "lcase" "ucase"
  both "excl" "nocreat"
  return c

namespace BlockCopy

variable (c : BlockCopy)

def isConverted (name : String) : Bool := c.conversions.contains name

/-- Bytes are gathered for the output instead of being passed on as they were read. -/
def gathers : Bool := !c.single || ["lcase", "ucase", "swab"].any c.isConverted

/-- How many whole blocks and further bytes of the input are used. -/
def limit : Option (Nat × Nat) := c.count.map fun a =>
  if a.inBytes || c.inputFlags.contains "count_bytes" then (a.count / c.inputSize, a.count % c.inputSize) else (a.count, 0)

def skipped : Nat := if c.skip.inBytes || c.inputFlags.contains "skip_bytes" then c.skip.count else c.skip.count * c.inputSize

def sought : Nat := if c.seek.inBytes || c.outputFlags.contains "seek_bytes" then c.seek.count else c.seek.count * c.outputSize

/-- Bytes with their case changed. -/
def recased (bs : Bytes) : Bytes :=
  if c.isConverted "lcase" then bs.map Bytes.toLower else if c.isConverted "ucase" then bs.map Bytes.toUpper else bs

end BlockCopy

/-! ## Copying -/

/-- How far a copy is. -/
structure BlockTally where
  fullRead : Nat
  partRead : Nat
  fullWritten : Nat
  partWritten : Nat
  bytes : Nat
  /-- A byte that waits for its partner, when pairs are swapped. -/
  odd : Option UInt8
  /-- What waits for a whole block of the output. -/
  held : Bytes
  failed : Bool

def swapPairs : Bytes → Bytes × Option UInt8
  | [] => ([], none)
  | [b] => ([], some b)
  | a :: b :: rest =>
    let (swapped, odd) := swapPairs rest
    (b :: a :: swapped, odd)

/-- Writes one block. -/
def writeBlock (s : Start) (c : BlockCopy) (output : Nat) (t : BlockTally) (block : Bytes) : Activity BlockTally := do
  match ← Activity.write output block with
  | .error e =>
    complain s (text "error writing " ++ always (c.output.getD (text "standard output")) ++ text (": " ++ e.text))
    return { t with failed := true }
  | .ok _ =>
    let t := { t with bytes := t.bytes + block.length }
    return if block.length = c.outputSize then { t with fullWritten := t.fullWritten + 1 }
      else { t with partWritten := t.partWritten + 1 }

/-- Writes the whole blocks among what is held. -/
def writeWhole (s : Start) (c : BlockCopy) (output : Nat) : (blocks : Nat) → BlockTally → Activity BlockTally
  | 0, t => return t
  | blocks + 1, t => do
    let t' ← writeBlock s c output { t with held := t.held.drop c.outputSize } (t.held.take c.outputSize)
    if t'.failed then return t' else writeWhole s c output blocks t'

/-- Reads until a block is full or nothing comes any more, if that is asked for. -/
def readBlock (whole : Bool) (descriptor : Nat) : (pieces size : Nat) → Activity (Except Errno Bytes)
  | 0, _ => return .ok []
  | pieces + 1, size => do
    match ← Activity.read descriptor size with
    | .error e => return .error e
    | .ok bs =>
      if bs.isEmpty || !whole || size ≤ bs.length then return .ok bs
      else match ← readBlock whole descriptor pieces (size - bs.length) with
        | .error e => return .error e
        | .ok more => return .ok (bs ++ more)

def copyBlocks (s : Start) (c : BlockCopy) (input output : Nat) : (blocks : Nat) → BlockTally → Activity BlockTally
  | 0, t => return t
  | blocks + 1, t => do
    let seen := t.fullRead + t.partRead
    let size := match c.limit with
      | some (whole, more) => if seen < whole then c.inputSize else if seen = whole then more else 0
      | none => c.inputSize
    if size = 0 then return t
    else match ← readBlock (c.inputFlags.contains "fullblock") input size size with
      | .error e =>
        complain s (text "error reading " ++ always (c.input.getD (text "standard input")) ++ text (": " ++ e.text))
        return { t with failed := true }
      | .ok bs =>
        if bs.isEmpty then return t
        else
          let full := bs.length = c.inputSize
          let t := if full then { t with fullRead := t.fullRead + 1 } else { t with partRead := t.partRead + 1 }
          let bs := if c.isConverted "sync" then bs ++ List.replicate (c.inputSize - bs.length) 0 else bs
          let t' ←
            if c.gathers then
              let (bs, odd) := if c.isConverted "swab" then swapPairs (t.odd.toList ++ bs) else (bs, none)
              let t := { t with held := t.held ++ c.recased bs, odd }
              writeWhole s c output (t.held.length / c.outputSize) t
            else writeBlock s c output t bs
          if t'.failed then return t' else copyBlocks s c input output blocks t'

/-- What is said of a copy at its end. -/
def BlockCopy.report (c : BlockCopy) (t : BlockTally) : Bytes :=
  let line (full part : Nat) (direction : String) : Bytes :=
    decimal full ++ text "+" ++ decimal part ++ text (" records " ++ direction ++ "\n")
  let counts := line t.fullRead t.partRead "in" ++ line t.fullWritten t.partWritten "out"
  match c.reporting with
  | .nothing => []
  | .counts => counts
  | .all => counts ++ decimal t.bytes ++ text ((if t.bytes = 1 then " byte" else " bytes") ++ " copied, 0 s, Infinity B/s\n")

/-- Passes over the beginning of an input: in a file at once, elsewhere by reading. -/
def skipInput (s : Start) (c : BlockCopy) (input : Nat) : Activity Unit := do
  if c.skipped != 0 then
    let file ← Activity.look fun v => (v.fileAt? input).map fun f => (f.2, ((v.tree.entry? f.1).map Entry.size).getD 0)
    match file with
    | some (position, size) =>
      if size < position + c.skipped then
        complain s (ifNeeded (c.input.getD (text "standard input")) ++ text ": cannot skip to specified offset")
      let _ ← Activity.call (.seek input (min size (position + c.skipped)))
    | none =>
      let _ ← readBlock true input c.skipped c.skipped

/-- Makes a file as long as what is kept of it. -/
def keepBeginning (path : Bytes) (size : Nat) : Activity Unit :=
  Activity.change fun v => ((), match v.stat path with
    | .ok (l, .file mode content) =>
      v.tree.insert l (.file mode (content.take size ++ List.replicate (size - content.length) 0))
    | _ => v.tree)

def openCopyOutput (c : BlockCopy) : Activity (Except (Bytes × Errno) Nat) := do
  match c.output with
  | none => return .ok 1
  | some path =>
    let appends := c.outputFlags.contains "append"
    match ← Activity.openFile path ⟨false, true, !c.isConverted "nocreat", false, appends, c.isConverted "excl"⟩ with
    | .error e => return .error (path, e)
    | .ok n =>
      if !c.isConverted "notrunc" then keepBeginning path c.sought
      return .ok n

/-- Passes over the beginning of the output, which only a file has; the answer is whether it was possible. -/
def skipOutput (s : Start) (c : BlockCopy) (output : Nat) : Activity Bool := do
  if c.sought = 0 then return true
  else
    let position := ((← Activity.look (·.fileAt? output)).map (·.2)).getD 0
    match ← Activity.call (.seek output (position + c.sought)) with
    | .ok _ => return true
    | .error e =>
      complain s (always (c.output.getD (text "standard output")) ++ text (": cannot seek: " ++ e.text))
      return false

def dd : Utility := fun s =>
  withOptions [] 1 true s fun o =>
    match BlockCopy.ofOperands o.operands with
    | .error fault => do
      complain s fault.message
      if fault.hinted then hint s
      return 1
    | .ok c => do
      let opening (name : Bytes) (e : Errno) : Activity Nat := do
        complain s (text "failed to open " ++ always name ++ text (": " ++ e.text))
        return 1
      let input ← match c.input with
        | some name => do pure ((← Activity.openFile name .input).mapError (name, ·))
        | none => pure (.ok 0)
      match input with
      | .error (name, e) => opening name e
      | .ok input =>
        match ← openCopyOutput c with
        | .error (name, e) => opening name e
        | .ok output =>
          skipInput s c input
          let start : BlockTally := ⟨0, 0, 0, 0, 0, none, [], false⟩
          let t ← if ← skipOutput s c output then copyBlocks s c input output Activity.mostPieces start
            else pure { start with failed := true }
          let rest := t.held ++ c.recased t.odd.toList
          let t ← if rest.isEmpty || t.failed then pure t else writeBlock s c output t rest
          write 2 (c.report t)
          return if t.failed then 1 else 0

end DesktopRefresh.Utility

import DesktopRefresh.Host.Search
import DesktopRefresh.Kernel.Call

/-!
# Utilities

A utility is a program of the system: what it does follows from the name it was started under, its
arguments and its variables. Messages begin with that name. Names in messages stand between quotation
marks, always or only if they hold something that a shell would not take as it is.
-/

namespace DesktopRefresh

open Kernel (Activity Variables)

namespace Utility

structure Start where
  name : Bytes
  args : List Bytes
  settings : Variables

end Utility

/-- What a program does; the answer is its status. -/
abbrev Utility := Utility.Start → Activity Nat

namespace Utility

def text (s : String) : Bytes := Bytes.ofString s

def decimal (n : Nat) : Bytes := text (toString n)

/-! ## Quotation -/

def isPrintable (b : UInt8) : Bool := 0x20 ≤ b ∧ b ≤ 0x7E

/-- The letters for control characters behind a backslash. -/
def controlLetters : List (UInt8 × Char) :=
  [(0x07, 'a'), (0x08, 'b'), (0x09, 't'), (0x0A, 'n'), (0x0B, 'v'), (0x0C, 'f'), (0x0D, 'r')]

def octalEscape (b : UInt8) : Bytes :=
  let n := b.toNat
  Bytes.ascii '\\' :: [n / 64, n / 8 % 8, n % 8].map fun d => (48 + d).toUInt8

def controlEscape (b : UInt8) : Bytes :=
  match controlLetters.lookup b with
  | some letter => [Bytes.ascii '\\', Bytes.ascii letter]
  | none => octalEscape b

/-- A text between single quotes, with escapes for quotes, backslashes and unprintable bytes. -/
def quoted (bs : Bytes) : Bytes :=
  let inner := bs.flatMap fun b =>
    if b = Bytes.ascii '\'' || b = Bytes.ascii '\\' then [Bytes.ascii '\\', b]
    else if isPrintable b then [b]
    else controlEscape b
  Bytes.ascii '\'' :: inner ++ [Bytes.ascii '\'']

/-- Bytes that a shell takes as they are wherever they stand. -/
def isTame (b : UInt8) : Bool := isPrintable b && !(text " !\"$&'()*;<=>?[^`|\\").contains b

/-- Bytes that stand for themselves between quotation marks of all kinds. -/
def isHarmless (b : UInt8) : Bool := Bytes.isDigit b || (text "%+,-./:]_ '").contains b ||
  Bytes.toLower b != b || Bytes.toUpper b != b

/-- A text as it can be given to a shell, with quotation marks if it needs them or they are asked for. -/
def shellQuoted (always : Bool) (colonCounts : Bool) (bs : Bytes) : Bytes :=
  let quote := Bytes.ascii '\''
  let leads := bs.head? == some (Bytes.ascii '#') || bs.head? == some (Bytes.ascii '~')
  let isBrace := bs == text "\x7b" || bs == text "\x7d"
  let colon := colonCounts && bs.contains (Bytes.ascii ':')
  if !always && !bs.isEmpty && bs.all isTame && !leads && !isBrace && !colon then bs
  else if bs.contains quote && (if leads then bs.drop 1 else bs).all isHarmless then
    [Bytes.ascii '"'] ++ bs ++ [Bytes.ascii '"']
  else
    -- Unprintable bytes stand in quotation marks of their own.
    let step (state : Bytes × Bool) (b : UInt8) : Bytes × Bool :=
      let (done, escaped) := state
      if !isPrintable b then (done ++ (if escaped then [] else text "'$'") ++ controlEscape b, true)
      else if b = quote then (done ++ text "'\\''", false)
      else ((if escaped then done ++ text "''" else done) ++ [b], false)
    quote :: (bs.foldl step ([], false)).1 ++ [quote]

def always (bs : Bytes) : Bytes := shellQuoted true false bs

def ifNeeded (bs : Bytes) : Bytes := shellQuoted false true bs

/-! ## Messages -/

def write (descriptor : Nat) (bs : Bytes) : Activity Unit := do
  if !bs.isEmpty then
    let _ ← Activity.write descriptor bs

def complain (s : Start) (message : Bytes) : Activity Unit :=
  write 2 (s.name ++ text ": " ++ message ++ [Bytes.newline])

def hint (s : Start) : Activity Unit :=
  write 2 (text "Try '" ++ s.name ++ text " --help' for more information.\n")

/-- Gives up because of the arguments. -/
def misuse (s : Start) (status : Nat) (message : Bytes) : Activity Nat := do
  complain s message
  hint s
  return status

/-- What is said of something that the system refused. -/
def refusal (subject : Bytes) (e : Errno) : Bytes := subject ++ text (": " ++ e.text)

/-- Prints at the end of all work. -/
def deliver (s : Start) (output : Bytes) (status : Nat) : Activity Nat := do
  if output.isEmpty then return status
  else match ← Activity.write 1 output with
    | .ok _ => return status
    | .error e =>
      complain s (refusal (text "write error") e)
      return max status 1

/-! ## Options -/

inductive Takes where
  | nothing | argument | maybe
  deriving DecidableEq, Repr

/-- An option by its letter. A letter beyond ASCII only stands for the long names. -/
structure OptionSpec where
  letter : Char
  takes : Takes
  names : List String

def helpLetter : Char := 'Ω'

def versionLetter : Char := 'Ψ'

def commonOptions : List OptionSpec :=
  [⟨helpLetter, .nothing, ["help"]⟩, ⟨versionLetter, .nothing, ["version"]⟩]

structure Options where
  given : List (Char × Bytes)
  operands : List Bytes

namespace Options

def has (o : Options) (letter : Char) : Bool := o.given.any (·.1 == letter)

/-- The argument that was given last. -/
def last? (o : Options) (letter : Char) : Option Bytes := (o.given.reverse.find? (·.1 == letter)).map (·.2)

/-- The last of some options that exclude each other. -/
def lastOf? (o : Options) (letters : List Char) : Option Char :=
  (o.given.reverse.find? fun g => letters.contains g.1).map (·.1)

end Options

section
variable (specs : List OptionSpec)

def letterSpec? (b : UInt8) : Option OptionSpec :=
  specs.find? fun o => o.letter.toNat < 128 && Bytes.ascii o.letter == b

/-- The long options that a name can stand for, with their full names. -/
def longSpecs (name : Bytes) : List (OptionSpec × String) :=
  let all := specs.flatMap fun o => o.names.map (o, ·)
  match all.find? fun e => text e.2 == name with
  | some e => [e]
  | none => all.filter fun e => name.isPrefixOf (text e.2)

/-- The options within one argument: the letters that were given, and the arguments after it. -/
def cluster : Bytes → List Bytes → Except Bytes (List (Char × Bytes) × List Bytes)
  | [], rest => .ok ([], rest)
  | b :: bs, rest =>
    match letterSpec? specs b with
    | none => .error (text "invalid option -- '" ++ b :: text "'")
    | some o =>
      match o.takes with
      | .nothing => do
        let (given, rest) ← cluster bs rest
        return ((o.letter, []) :: given, rest)
      | .maybe => .ok ([(o.letter, bs)], rest)
      | .argument =>
        match bs, rest with
        | [], a :: rest => .ok ([(o.letter, a)], rest)
        | [], [] => .error (text "option requires an argument -- '" ++ b :: text "'")
        | bs, rest => .ok ([(o.letter, bs)], rest)

/-- A long option: what was given, and the arguments after it. -/
def long (a : Bytes) (rest : List Bytes) : Except Bytes ((Char × Bytes) × List Bytes) :=
  let (name, value) := match a.span (· != Bytes.ascii '=') with
    | (name, _ :: value) => (name, some value)
    | (name, []) => (name, none)
  match longSpecs specs name with
  | [] => .error (text "unrecognized option '--" ++ a ++ text "'")
  | (o, full) :: others =>
    if others.any fun e => e.1.letter != o.letter then
      .error (text "option '--" ++ a ++ text "' is ambiguous; possibilities:" ++
        ((o, full) :: others).flatMap fun e => text (" '--" ++ e.2 ++ "'"))
    else
      match o.takes, value, rest with
      | .nothing, none, _ => .ok ((o.letter, []), rest)
      | .nothing, some _, _ => .error (text ("option '--" ++ full ++ "' doesn't allow an argument"))
      | .maybe, value, _ => .ok ((o.letter, value.getD []), rest)
      | .argument, some value, _ => .ok ((o.letter, value), rest)
      | .argument, none, value :: rest => .ok ((o.letter, value), rest)
      | .argument, none, [] => .error (text ("option '--" ++ full ++ "' requires an argument"))

/-- Sorts arguments into options and others; unless `mixed` is set, the options end with the first other one. -/
def sortOut (mixed : Bool) : (fuel : Nat) → List Bytes → Except Bytes Options
  | 0, args => .ok ⟨[], args⟩
  | fuel + 1, args =>
    match args with
    | [] => .ok ⟨[], []⟩
    | a :: rest =>
      if a == text "--" then .ok ⟨[], rest⟩
      else if (text "--").isPrefixOf a then do
        let (g, rest) ← long specs (a.drop 2) rest
        let o ← sortOut mixed fuel rest
        return ⟨g :: o.given, o.operands⟩
      else if a.head? == some (Bytes.ascii '-') && 1 < a.length then do
        let (gs, rest) ← cluster specs (a.drop 1) rest
        let o ← sortOut mixed fuel rest
        return ⟨gs ++ o.given, o.operands⟩
      else if mixed then do
        let o ← sortOut mixed fuel rest
        return ⟨o.given, a :: o.operands⟩
      else .ok ⟨[], args⟩

end

/-- Runs something with the options and other arguments, unless those cannot be read. -/
def withOptions (specs : List OptionSpec) (status : Nat) (mixed : Bool) (s : Start)
    (run : Options → Activity Nat) : Activity Nat :=
  match sortOut (specs ++ commonOptions) mixed (s.args.length + 1) s.args with
  | .error message => misuse s status message
  | .ok o => if o.has helpLetter || o.has versionLetter then return 0 else run o

/-! ## Words that options take -/

/-- What a word stands for. -/
inductive Chosen (α : Type) where
  | one (value : α)
  | nothing
  | several

/-- Words with their values; words of one value stand together. -/
abbrev Choices (α : Type) := List (List String × α)

/-- Looks up a word. The beginning of a word is enough if it fits only one value. -/
def choose {α : Type} (table : Choices α) (word : Bytes) : Chosen α :=
  match table.find? (·.1.any (text · == word)) with
  | some e => .one e.2
  | none =>
    match table.filter (·.1.any fun n => word.isPrefixOf (text n)) with
    | [] => .nothing
    | [e] => .one e.2
    | _ => .several

/-- Goes on with what a word stands for; if it is nothing, the words that could have been given are listed. -/
def withChoice {α : Type} (s : Start) (status : Nat) (table : Choices α) (option : String) (word : Bytes)
    (use : α → Activity Nat) : Activity Nat :=
  let reject (what : String) : Activity Nat := do
    let line (names : List String) : Bytes :=
      text "  - " ++ List.intercalate (text ", ") (names.map fun n => quoted (text n)) ++ [Bytes.newline]
    complain s (text (what ++ " argument ") ++ quoted word ++ text " for " ++ quoted (text option))
    write 2 (text "Valid arguments are:\n" ++ table.flatMap fun e => line e.1)
    hint s
    return status
  match choose table word with
  | .one value => use value
  | .nothing => reject "invalid"
  | .several => reject "ambiguous"

/-- The same for an option that need not be given. -/
def withChoiceOf {α : Type} (s : Start) (status : Nat) (table : Choices α) (option : String) (word : Option Bytes)
    (standard : α) (use : α → Activity Nat) : Activity Nat :=
  match word with
  | some word => withChoice s status table option word use
  | none => use standard

/-! ## Numbers -/

/-- A number with digits of its own, if it is nothing else. -/
def natural? (bs : Bytes) : Option Nat :=
  if !bs.isEmpty && bs.all Bytes.isDigit then some (Bytes.number bs) else none

/-- A number behind blanks and a plus sign, if it is nothing else. -/
def count? (bs : Bytes) : Option Nat :=
  let bs := bs.dropWhile fun b => b = 0x20 || (0x09 ≤ b && b ≤ 0x0D)
  natural? (if bs.head? == some (Bytes.ascii '+') then bs.drop 1 else bs)

/-- The factors that letters behind a number stand for. -/
def factors : List (String × Nat) :=
  [("b", 512), ("kB", 1000), ("K", 1024), ("KiB", 1024), ("k", 1024), ("KB", 1000), ("kiB", 1024),
    ("MB", 10 ^ 6), ("M", 1024 ^ 2), ("m", 1024 ^ 2), ("mB", 10 ^ 6), ("MiB", 1024 ^ 2), ("miB", 1024 ^ 2),
    ("GB", 10 ^ 9), ("G", 1024 ^ 3), ("GiB", 1024 ^ 3), ("T", 1024 ^ 4), ("TB", 10 ^ 12), ("TiB", 1024 ^ 4),
    ("P", 1024 ^ 5), ("PB", 10 ^ 15), ("PiB", 1024 ^ 5), ("E", 1024 ^ 6), ("EB", 10 ^ 18), ("EiB", 1024 ^ 6),
    ("Z", 1024 ^ 7), ("ZB", 10 ^ 21), ("ZiB", 1024 ^ 7), ("Y", 1024 ^ 8), ("YB", 10 ^ 24), ("YiB", 1024 ^ 8)]

/-- A number that can be followed by a letter for a factor. -/
def scaled? (bs : Bytes) : Option Nat :=
  let bs := bs.dropWhile fun b => b = 0x20 || (0x09 ≤ b && b ≤ 0x0D)
  let bs := if bs.head? == some (Bytes.ascii '+') then bs.drop 1 else bs
  let digits := bs.takeWhile Bytes.isDigit
  let suffix := bs.drop digits.length
  if digits.isEmpty then none
  else if suffix.isEmpty then some (Bytes.number digits)
  else (factors.find? fun f => text f.1 == suffix).map fun f => Bytes.number digits * f.2

/-- The greatest count that a program can hold. -/
def mostCount : Nat := 2 ^ 64 - 1

/-- Why an argument is no count: it is no number, or larger than any program can hold, or beyond the bounds
of what it is a count of. -/
inductive CountFault where
  | malformed | tooLarge | outOfRange
  deriving DecidableEq, Repr

def CountFault.message : CountFault → String
  | .malformed => ""
  | .tooLarge => ": Value too large for defined data type"
  | .outOfRange => ": Numerical result out of range"

/-- A count between two bounds. -/
def bounded (least most : Nat) (count : Option Nat) : Except CountFault Nat :=
  match count with
  | none => .error .malformed
  | some n =>
    if mostCount < n then .error .tooLarge
    else if n < least then .error .outOfRange
    else if most < n then .error (if 2 ^ 30 ≤ n then .tooLarge else .outOfRange)
    else .ok n

/-! ## Inputs -/

def hyphen : Bytes := [Bytes.ascii '-']

def openInput (name : Bytes) : Activity (Except Errno Nat) :=
  if name == hyphen then return .ok 0 else Activity.openFile name .input

def closeInput (descriptor : Nat) : Activity Unit := do
  if descriptor != 0 then Activity.close descriptor

/-- A descriptor leads to something. -/
def isOpen (descriptor : Nat) : Activity Bool := do
  return (← Activity.call (.copy descriptor descriptor)).isOk

/-- All that is in an input. -/
def readInput (name : Bytes) : Activity (Except Errno Bytes × Option Errno) := do
  match ← openInput name with
  | .error e => return (.error e, none)
  | .ok n =>
    let (bs, fault) ← Activity.readAll n
    closeInput n
    return (.ok bs, fault)

/-- The inputs that are named, or the standard one. -/
def inputsOr (names : List Bytes) : List Bytes := if names.isEmpty then [hyphen] else names

/-- The parts of a text that end with some byte, each with its end if it has one. -/
def partsOf (stop : UInt8) (bs : Bytes) : List Bytes :=
  let step (b : UInt8) (lines : List Bytes) : List Bytes :=
    if b = stop then [b] :: lines
    else match lines with
      | [] => [[b]]
      | l :: rest => (b :: l) :: rest
  bs.foldr step []

/-- The lines of a text, each with its end if it has one. -/
def linesOf (bs : Bytes) : List Bytes := partsOf Bytes.newline bs

def withoutEnd (stop : UInt8) (part : Bytes) : Bytes := if part.getLast? == some stop then part.dropLast else part

def withoutNewline (line : Bytes) : Bytes := withoutEnd Bytes.newline line

/-- What parts of a text end with: lines do with a newline, if a zero byte is not asked for. -/
def endOf (hasZero : Bool) : UInt8 := if hasZero then 0 else Bytes.newline

end Utility

end DesktopRefresh

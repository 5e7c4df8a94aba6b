import DesktopRefresh.Utility.Awk.Evaluation

/-!
# Programs on records as a utility
-/

namespace DesktopRefresh.Awk

open Kernel (Activity)
open Utility (Start text decimal complain)

/-- The options in front of the operands. -/
structure Call where
  separator : Option Bytes
  assigned : List (Bytes × Bytes)
  files : List Bytes
  operands : List Bytes

/-- Why the options cannot be read. -/
def Call.ofArgs : (fuel : Nat) → Call → List Bytes → Except Bytes Call
  | 0, c, args => .ok { c with operands := args }
  | _, c, [] => .ok { c with operands := [] }
  | fuel + 1, c, a :: rest => do
    let isOption := a.head? == some (Bytes.ascii '-') && 1 < a.length
    if !isOption then return { c with operands := a :: rest }
    else if a == text "--" then return { c with operands := rest }
    else
      let letter := Char.ofNat ((a[1]?).getD 0).toNat
      let (value, rest) : Option Bytes × List Bytes :=
        if 2 < a.length then (some (a.drop 2), rest) else (rest.head?, rest.drop 1)
      match letter, value with
      | 'F', some v => Call.ofArgs fuel { c with separator := some v } rest
      | 'f', some v => Call.ofArgs fuel { c with files := c.files ++ [v] } rest
      | 'v', some v =>
        match Run.assignment? v with
        | some assigned => Call.ofArgs fuel { c with assigned := c.assigned ++ [assigned] } rest
        | none => throw (text "improper assignment: -v " ++ v)
      | 'W', some _ => Call.ofArgs fuel c rest
      | _, none => throw (text "option lacks argument: " ++ a)
      | _, _ => throw (text "not an option: " ++ a)

/-- The text of a program: the first operand, if no files are given. -/
def programText (s : Start) (c : Call) : Activity (Except Nat (Bytes × List Bytes)) := do
  match c.files, c.operands with
  | [], program :: operands => return .ok (program, operands)
  | [], [] => return .error 2
  | files, operands =>
    let rec read : List Bytes → Activity (Except Nat Bytes)
      | [] => return .ok []
      | name :: rest => do
        match ← Utility.readInput name with
        | (.ok bs, none) =>
          match ← read rest with
          | .ok more => return .ok (bs ++ Bytes.newline :: more)
          | .error n => return .error n
        | (.error e, _) | (.ok _, some e) =>
          complain s (text "cannot open \"" ++ name ++ text ("\" (" ++ e.text ++ ")"))
          return .error 2
    match ← read files with
    | .ok program => return .ok (program, operands)
    | .error n => return .error n

def standardSettings : List (String × String) :=
  [("FS", " "), ("OFS", " "), ("ORS", "\n"), ("RS", "\n"), ("SUBSEP", "\x1c"), ("CONVFMT", "%.6g"), ("OFMT", "%.6g"),
    ("FILENAME", "")]

def standardNumbers : List (String × Int) := [("NR", 0), ("FNR", 0), ("RSTART", 0), ("RLENGTH", -1)]

/-- The world before a program begins. -/
def startingWorld (s : Start) (operands : List Bytes) : World :=
  let arguments : Table := ((s.name :: operands).zipIdx.map fun (a, i) => (decimal i, Value.ofInput a)).reverse
  let environment : Table := (s.settings.map fun (name, value) => (name, Value.ofInput value)).reverse
  { globals := (standardSettings.map fun (n, v) => (text n, Slot.scalar (.text (text v)))) ++
      (standardNumbers.map fun (n, v) => (text n, Slot.scalar (.number (Floating.ofInt v)))) ++
      [(text "ARGC", .scalar (Value.ofNat (operands.length + 1))), (text "ARGV", .table 0), (text "ENVIRON", .table 1)]
    locals := [], tables := [(0, arguments), (1, environment)], nextTable := 2, record := [], fields := [], main := none
    argument := 1, hadInput := false, readers := [], outlets := [], output := [], pending := 0, ranges := [], status := 0
    seed := 0 }

def work (s : Start) (c : Call) (p : Program) : Run Unit := do
  match c.separator with
  | some v => Run.setValue (text "FS") (.text (unescape (v.length + 1) v))
  | none => pure ()
  c.assigned.forM fun (name, value) => Run.assignText name value
  Run.whole s p

def run (s : Start) (c : Call) (program : Bytes) (operands : List Bytes) : Activity Nat := do
  match Program.ofBytes program with
  | .error f =>
    complain s (text (if f.isBare then "" else "line ") ++ decimal f.line ++ text ": " ++ f.message)
    return 2
  | .ok p =>
    let (result, w) ← ((work s c p).run).run (startingWorld s operands)
    let failed ← match result with
      | .error (.fault message) => do
        complain s message
        pure true
      | _ => pure false
    let (_, w) ← (Run.closeAll.run).run w
    return if failed then 2 else w.status

end Awk

namespace Utility

open Kernel (Activity)

def awk : Utility := fun s =>
  match Awk.Call.ofArgs (s.args.length + 1) ⟨none, [], [], []⟩ s.args with
  | .error message => do
    complain s message
    return 2
  | .ok c => do
    match ← Awk.programText s c with
    | .error n => return n
    | .ok (program, operands) => Awk.run s c program operands

end Utility

end DesktopRefresh

import DesktopRefresh.CommandLine.Token
import DesktopRefresh.Hook
import DesktopRefresh.Text.Decimal

/-!
# Reading the command line

Arguments are read from left to right. The first operand is the data directory, and from the second
one on everything is an extra operand and ignored, whatever it looks like. Before that, options are
recognised wherever they stand, up to the escape `--`.

A value that was read waits until the next argument needs its place, so that a fault of an earlier
argument is found only when a later one is reached. Every rejection has its cause.
-/

namespace DesktopRefresh.CommandLine

/-- What can be present on a command line and shown in a usage line. -/
inductive Field where
  | datadir
  | named (name : LongName)
  deriving DecidableEq, Repr

inductive Rejection where
  /-- Help is asked for, the full one or the summary. -/
  | help (full : Bool)
  | version
  /-- An option stands without its value. -/
  | missingValue (option : ValueOption)
  /-- A value that has to be text is none. -/
  | undecodableValue
  | invalidTimeout (value : String) (fault : Decimal.Fault)
  /-- An option is given twice. -/
  | repeated (name : LongName)
  /-- A value is attached to a name that takes none; with the fields that had been read. -/
  | unexpectedValue (name : LongName) (value : Bytes) (present : List Field)
  /-- A long argument whose name is no text; with the fields that had been read. -/
  | unknownArgument (name : Bytes) (present : List Field)
  deriving DecidableEq, Repr

structure Parsed where
  datadir : Option Bytes
  extra : List Bytes
  dryRun : Bool
  timeout : Option Nat
  iconCacheTool : Option String
  desktopDatabaseTool : Option String
  deriving DecidableEq, Repr

namespace Parsed

def empty : Parsed := ⟨none, [], false, none, none, none⟩

/-- Options that were not given take their standard values. -/
def toConfig (p : Parsed) (stagingRoot : Option String) : Config where
  datadir := p.datadir
  stagingRoot := stagingRoot
  dryRun := p.dryRun
  timeout := (p.timeout.map Duration.ofSeconds).getD Config.standard.timeout
  iconCacheTool := p.iconCacheTool.getD Config.standard.iconCacheTool
  desktopDatabaseTool := p.desktopDatabaseTool.getD Config.standard.desktopDatabaseTool

/-- Reads the value of an option. -/
def setValue (p : Parsed) (option : ValueOption) (value : Bytes) : Except Rejection Parsed :=
  match Utf8.decode? value with
  | none => .error .undecodableValue
  | some text =>
    match option with
    | .timeout =>
      match Decimal.read text with
      | .ok n => .ok { p with timeout := some n }
      | .error fault => .error (.invalidTimeout text fault)
    | .iconCacheTool => .ok { p with iconCacheTool := some text }
    | .desktopDatabaseTool => .ok { p with desktopDatabaseTool := some text }

end Parsed

/-- What was read and waits to be settled. -/
inductive Pending where
  | nothing
  | option (option : ValueOption) (value : Option Bytes)
  | datadir (value : Bytes)
  deriving DecidableEq, Repr

/-- Where the reader is: options are still recognised, everything is an operand, or everything is an
extra operand. -/
inductive Place where
  | options | operands | extras
  deriving DecidableEq, Repr

structure State where
  parsed : Parsed
  present : List Field
  pending : Pending
  place : Place
  deriving DecidableEq, Repr

namespace State

def initial : State := ⟨.empty, [], .nothing, .options⟩

/-- Marks a named field as present; the mark of a repeated one is taken back. -/
def mark (st : State) (name : LongName) : State × Option Rejection :=
  if st.present.contains (.named name) then
    ({ st with present := st.present.erase (.named name) }, some (.repeated name))
  else ({ st with present := st.present ++ [.named name] }, none)

/-- An option with its value. -/
def accept (st : State) (option : ValueOption) (value : Bytes) : State × Option Rejection :=
  match st.mark (.value option) with
  | (st, some r) => (st, some r)
  | (st, none) =>
    match st.parsed.setValue option value with
    | .ok parsed => ({ st with parsed := parsed }, none)
    | .error r => (st, some r)

/-- Settles what is pending. The state counts even if there is a rejection: the fields that a usage
line shows are those of the state. -/
def settle (st : State) : State × Option Rejection :=
  let cleared := { st with pending := .nothing }
  match st.pending with
  | .nothing => (cleared, none)
  | .option option none => (cleared, some (.missingValue option))
  | .option option (some value) => cleared.accept option value
  | .datadir value =>
    ({ cleared with parsed := { st.parsed with datadir := some value }, present := st.present ++ [.datadir] }, none)

end State

def orReject : State × Option Rejection → Except Rejection State
  | (st, none) => .ok st
  | (_, some r) => .error r

namespace State

def settled (st : State) : Except Rejection State := orReject st.settle

/-- An argument that is no option and no value: the data directory, or else an extra operand. -/
def operand (st : State) (arg : Bytes) : Except Rejection State := do
  let st ← st.settled
  if st.parsed.datadir.isNone then
    return { st with pending := .datadir arg }
  else
    return { st with parsed := { st.parsed with extra := st.parsed.extra ++ [arg] }, place := .extras }

/-- An ordinary word is the value of the option before it, if that still lacks one. -/
def word (st : State) (arg : Bytes) : Except Rejection State :=
  match st.pending with
  | .option option none => .ok { st with pending := .option option (some arg) }
  | _ => st.operand arg

def long (st : State) : LongName → Option Bytes → Except Rejection State
  | .value option, some value => do orReject ((← st.settled).accept option value)
  | .value option, none => do return { (← st.settled) with pending := .option option none }
  | .dryRun, none => do
    let st ← orReject ((← st.settled).mark .dryRun)
    return { st with parsed := { st.parsed with dryRun := true } }
  | .info .help, none => do
    let _ ← st.settled
    .error (.help true)
  | .info .version, none => do
    let _ ← st.settled
    .error .version
  | name, some value => .error (.unexpectedValue name value st.present)

def cluster (st : State) : Info → Except Rejection State
  | .help => do
    let _ ← st.settled
    .error (.help false)
  | .version => do
    let _ ← st.settled
    .error .version

def step (st : State) (arg : Bytes) : Except Rejection State :=
  match st.place with
  | .extras => .ok { st with parsed := { st.parsed with extra := st.parsed.extra ++ [arg] } }
  | .operands => st.operand arg
  | .options =>
    match Token.ofArg arg with
    | .escape => .ok { st with place := .operands }
    | .long name attached => st.long name attached
    | .undecodable name => .error (.unknownArgument name st.settle.1.present)
    | .cluster first => st.cluster first
    | .word => st.word arg

end State

/-- Reads the arguments after the program's own name. -/
def parse (args : List Bytes) : Except Rejection Parsed := do
  let st ← args.foldlM State.step State.initial
  return (← st.settled).parsed

end DesktopRefresh.CommandLine

import DesktopRefresh.CommandLine.Parser
import DesktopRefresh.Proofs.CommandLine.Token
import DesktopRefresh.Proofs.Decimal

/-!
# The grammar of the command line

A command line is written from option groups, a data directory, extra operands and the escape `--`, in
one of five shapes (`Line`). Each shape says what is to be read from it (`Line.parsed`), without going
through the arguments one by one.
-/

namespace DesktopRefresh.CommandLine

/-! ## Option groups -/

/-- How the value of an option is written: in the same argument, or in the next one. -/
inductive Spelling where
  | attached | separate
  deriving DecidableEq, Repr

inductive Group where
  | dryRun
  | value (option : ValueOption) (text : String) (spelling : Spelling)
  deriving DecidableEq, Repr

namespace Group

def name : Group → LongName
  | dryRun => .dryRun
  | value o _ _ => .value o

def args : Group → List Bytes
  | dryRun => [LongName.dryRun.arg none]
  | value o t .attached => [(LongName.value o).arg (some (Bytes.ofString t))]
  | value o t .separate => [(LongName.value o).arg none, Bytes.ofString t]

/-- A timeout is a number, and a value that is an argument of its own is a word. -/
def Valid : Group → Prop
  | dryRun => True
  | value o t s =>
    (o = .timeout → ∃ n, Decimal.Denotes t n) ∧ (s = .separate → ¬ OptionLike (Bytes.ofString t))

def timeout? : Group → Option Nat
  | value .timeout t _ => (Decimal.read t).toOption
  | _ => none

def text? (option : ValueOption) : Group → Option String
  | value o t _ => if o = option then some t else none
  | dryRun => none

end Group

def Parsed.ofGroups (gs : List Group) : Parsed where
  datadir := none
  extra := []
  dryRun := gs.contains .dryRun
  timeout := gs.findSome? Group.timeout?
  iconCacheTool := gs.findSome? (Group.text? .iconCacheTool)
  desktopDatabaseTool := gs.findSome? (Group.text? .desktopDatabaseTool)

/-! ## Lines -/

/-- The argument after which options are no longer recognised. -/
def escapeArg : Bytes := [Token.dash, Token.dash]

inductive Line where
  | options (gs : List Group)
  | escaped (gs : List Group) (rest : List Bytes)
  | operand (gs : List Group) (datadir : Bytes) (gs' : List Group)
  | operandEscaped (gs : List Group) (datadir : Bytes) (gs' : List Group) (rest : List Bytes)
  | operands (gs : List Group) (datadir : Bytes) (gs' : List Group) (first : Bytes) (rest : List Bytes)
  deriving DecidableEq, Repr

namespace Line

def args : Line → List Bytes
  | options gs => gs.flatMap Group.args
  | escaped gs rest => gs.flatMap Group.args ++ escapeArg :: rest
  | operand gs d gs' => gs.flatMap Group.args ++ d :: gs'.flatMap Group.args
  | operandEscaped gs d gs' rest =>
    gs.flatMap Group.args ++ d :: (gs'.flatMap Group.args ++ escapeArg :: rest)
  | operands gs d gs' e rest => gs.flatMap Group.args ++ d :: (gs'.flatMap Group.args ++ e :: rest)

def groups : Line → List Group
  | options gs | escaped gs _ => gs
  | operand gs _ gs' | operandEscaped gs _ gs' _ | operands gs _ gs' _ _ => gs ++ gs'

/-- The operands that stand where options are recognised. -/
def words : Line → List Bytes
  | options _ | escaped _ _ => []
  | operand _ d _ | operandEscaped _ d _ _ => [d]
  | operands _ d _ e _ => [d, e]

def datadir : Line → Option Bytes
  | options _ => none
  | escaped _ rest => rest.head?
  | operand _ d _ | operandEscaped _ d _ _ | operands _ d _ _ _ => some d

def extra : Line → List Bytes
  | options _ | operand _ _ _ => []
  | escaped _ rest => rest.tail
  | operandEscaped _ _ _ rest => rest
  | operands _ _ _ e rest => e :: rest

def parsed (l : Line) : Parsed := { Parsed.ofGroups l.groups with datadir := l.datadir, extra := l.extra }

/-- Options are given once, with values that can be read. -/
structure Valid (l : Line) : Prop where
  groups : ∀ g ∈ l.groups, g.Valid
  once : (l.groups.map Group.name).Nodup
  words : ∀ w ∈ l.words, ¬ OptionLike w

end Line

end DesktopRefresh.CommandLine

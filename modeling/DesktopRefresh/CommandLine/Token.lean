import DesktopRefresh.Text.Utf8

/-!
# Arguments of the command line

What one argument is, seen by itself: the escape `--`, a long argument with one of the known names, a
long argument whose name is no text, a cluster of the letters `h` and `V`, or an ordinary word. An
unknown flag is an ordinary word.
-/

namespace DesktopRefresh.CommandLine

inductive ValueOption where
  | timeout | iconCacheTool | desktopDatabaseTool
  deriving DecidableEq, Repr

/-- What can be asked of the program instead of its work. -/
inductive Info where
  | help | version
  deriving DecidableEq, Repr

/-- The names that a long argument can have. -/
inductive LongName where
  | dryRun
  | value (option : ValueOption)
  | info (info : Info)
  deriving DecidableEq, Repr

namespace LongName

def spelling : LongName → String
  | dryRun => "dry-run"
  | value .timeout => "timeout"
  | value .iconCacheTool => "icon-cache-tool"
  | value .desktopDatabaseTool => "desktop-database-tool"
  | info .help => "help"
  | info .version => "version"

def all : List LongName :=
  [dryRun, value .timeout, value .iconCacheTool, value .desktopDatabaseTool, info .help, info .version]

theorem mem_all (n : LongName) : n ∈ all := by
  cases n with
  | dryRun => simp [all]
  | value o => cases o <;> simp [all]
  | info i => cases i <;> simp [all]

def ofBytes? (name : Bytes) : Option LongName := all.find? fun n => Bytes.ofString n.spelling == name

end LongName

/-- The letter of a short argument. -/
def Info.ofLetter? (b : UInt8) : Option Info :=
  if b = Bytes.ascii 'h' then some .help
  else if b = Bytes.ascii 'V' then some .version
  else none

inductive Token where
  | escape
  | long (name : LongName) (attached : Option Bytes)
  | undecodable (name : Bytes)
  | cluster (first : Info)
  | word
  deriving DecidableEq, Repr

namespace Token

def dash : UInt8 := Bytes.ascii '-'

def equals : UInt8 := Bytes.ascii '='

/-- The name of a long argument, and what follows the first equals sign if there is one. -/
def cutAttached (body : Bytes) : Bytes × Option Bytes :=
  (body.takeWhile (· != equals),
    match body.dropWhile (· != equals) with
    | [] => none
    | _ :: value => some value)

def ofLong (body : Bytes) : Token :=
  if body.isEmpty then escape
  else
    let (name, attached) := cutAttached body
    if Utf8.isText name then
      match LongName.ofBytes? name with
      | some n => long n attached
      | none => word
    else undecodable name

def ofShort (letters : Bytes) : Token :=
  match letters.mapM Info.ofLetter? with
  | some (first :: _) => cluster first
  | _ => word

def ofArg : Bytes → Token
  | [] => word
  | a :: body =>
    if a = dash then
      match body with
      | [] => word
      | b :: rest => if b = dash then ofLong rest else ofShort body
    else word

end Token

end DesktopRefresh.CommandLine

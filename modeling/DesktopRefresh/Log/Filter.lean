import DesktopRefresh.Log.Directive
import DesktopRefresh.Text.Control
import DesktopRefresh.Text.Utf8

/-!
# The log

Records are shown if the most specific directive for their origin admits their level. The directives
come from a variable of the environment; if it is not set or holds no directives, warnings and errors are
shown. There is no log at all if a directive cannot be cut.
-/

namespace DesktopRefresh.Log

structure Filter where
  directives : List Directive
  deriving DecidableEq, Repr

namespace Filter

def upTo (level : Level) : Filter := ⟨[⟨none, none, [], some level⟩]⟩

/-- Warnings and errors. -/
def standard : Filter := upTo .warn

def splitAtCommas (cs : List Char) : List (List Char) :=
  cs.foldr (fun c parts => if c = ',' then [] :: parts else
    match parts with
    | [] => [[c]]
    | p :: ps => (c :: p) :: ps) [[]]

/-- Directives with commas between them. Empty ones do not count, and without any only errors are shown. -/
def read (s : String) : Except Fault Filter := do
  let directives ← ((splitAtCommas s.toList).filter (!·.isEmpty)).mapM Directive.read
  if directives.isEmpty then return upTo .error else return ⟨directives⟩

/-- The name of the variable. -/
def variableName : String := "RUST_LOG"

/-- The filter that the value of the variable asks for, if there can be one. -/
def ofVariable? (value : Option Bytes) : Option Filter :=
  match value.bind Utf8.decode? with
  | none => some standard
  | some text =>
    match read text with
    | .ok f => some f
    | .error .malformed => some standard
    | .error .split => none

/-- The most specific directive that covers a record; of two that are alike, the later one. -/
def decisive? (f : Filter) (r : Record) : Option Directive :=
  (f.directives.filter (·.covers r)).foldl
    (fun best d => if best.all fun b => d.isAsSpecificAs b then some d else best) none

def shows (f : Filter) (r : Record) : Bool := (f.decisive? r).any fun d => d.limit.admits r.level

end Filter

/-! ## Writing -/

/-- The widest name of a level. -/
def levelWidth : Nat := 5

def levelColumn (l : Level) : String := String.ofList (List.replicate (levelWidth - l.name.length) ' ') ++ l.name

/-- A record as it is shown, with the control characters in its message written out. -/
def line (r : Record) : String :=
  levelColumn r.level ++ " " ++ r.origin.path ++ ": " ++ Text.escapeControls r.message ++ "\n"

def render (f : Filter) (records : List Record) : String := String.join ((records.filter f.shows).map line)

end DesktopRefresh.Log

import DesktopRefresh.Text.Floating
import DesktopRefresh.Text.Regular

/-!
# Programs that work on records

A program has rules, each with a pattern and an action. The action is done for every record of the inputs that
the pattern fits; some actions are done before the first record or after the last one.
-/

namespace DesktopRefresh.Awk

inductive Operation where
  | add | subtract | multiply | divide | remainder | power
  deriving DecidableEq, Repr

inductive Relation where
  | less | lessEqual | equal | unequal | greater | greaterEqual
  deriving DecidableEq, Repr

/-- The functions that every program has. -/
inductive Builtin where
  | length | substr | index | split | sub | gsub | found | sprintf | sin | cos | atan2 | exp | log | sqrt | int
  | rand | srand | tolower | toupper | system | close | fflush
  deriving DecidableEq, Repr

/-- Where a record is taken from, if it is not the main input. -/
inductive Origin where
  | file | command
  deriving DecidableEq, Repr

inductive Expr where
  | number (x : Floating)
  | text (bs : Bytes)
  /-- Whether the whole record fits, or the expression itself where one is expected. -/
  | regular (r : Regular)
  | field (index : Expr)
  | named (name : Bytes)
  | element (table : Bytes) (subscripts : List Expr)
  | assign (target : Expr) (operation : Option Operation) (value : Expr)
  /-- Adds or takes one; the value is the one before or after. -/
  | step (target : Expr) (up before : Bool)
  | choice (condition yes no : Expr)
  | or (left right : Expr)
  | and (left right : Expr)
  | not (e : Expr)
  | negate (e : Expr)
  | plus (e : Expr)
  | operation (op : Operation) (left right : Expr)
  | relation (op : Relation) (left right : Expr)
  | concat (left right : Expr)
  | fits (wanted : Bool) (left right : Expr)
  | isIn (subscripts : List Expr) (table : Bytes)
  | call (function : Bytes) (args : List Expr)
  | builtin (b : Builtin) (args : List Expr)
  | getline (target : Option Expr) (origin : Option Origin) (source : Expr)
  /-- Several expressions in parentheses. -/
  | group (es : List Expr)

instance : Inhabited Expr := ⟨.text []⟩

/-- Where output goes. -/
inductive Sink where
  | file | append | command
  deriving DecidableEq, Repr

inductive Statement where
  | expr (e : Expr)
  | print (formatted : Bool) (args : List Expr) (sink : Option (Sink × Expr))
  | conditional (condition : Expr) (yes no : Statement)
  /-- A loop; the condition is looked at before or after the body, and something is done behind the body. -/
  | loop (first : Bool) (condition : Expr) (body behind : Statement)
  | each (name table : Bytes) (body : Statement)
  | block (ss : List Statement)
  | delete (table : Bytes) (subscripts : List Expr)
  | next
  | nextFile
  | exit (status : Option Expr)
  | leave (value : Option Expr)
  | stop
  | again

instance : Inhabited Statement := ⟨.block []⟩

inductive Pattern where
  | start
  | finish
  | always
  | condition (e : Expr)
  | range (first last : Expr)

structure Rule where
  pattern : Pattern
  action : Statement

structure Function where
  name : Bytes
  parameters : List Bytes
  body : Statement

structure Program where
  rules : List Rule
  functions : List Function

end DesktopRefresh.Awk

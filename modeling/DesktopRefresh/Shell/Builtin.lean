import DesktopRefresh.Shell.Builtin.Directory
import DesktopRefresh.Shell.Builtin.Job
import DesktopRefresh.Shell.Builtin.Output
import DesktopRefresh.Shell.Builtin.Variable
import DesktopRefresh.Shell.Lookup

/-!
# Own commands of the shell

What a shell does itself instead of starting a program. An error in a special command ends the shell, and
assignments in front of one stay. The commands that carry out others are not among them.
-/

namespace DesktopRefresh.Shell.Builtin

open Bytes (number)
open Shell (text singleQuoted listed)

/-! ## Leaving -/

def succeed : Own := fun _ => return 0

def refuse : Own := fun _ => return 1

def exit : Own := fun args => do
  match args with
  | [] => pure ()
  | a :: _ =>
    let n ← toNumber a
    modify fun sh => { sh with leavingStatus := some n }
  throw .exited

/-- The end of a function or of a script that was read by another one. -/
def giveBack : Own := fun args => do
  match args with
  | [] => throw (.returned false)
  | a :: _ =>
    let n ← toNumber a
    Action.setStatus n
    throw (.returned true)

/-- How many of the loops under way are left. -/
def leaveLoops (leaving : Nat → Leaving) : Own := fun args => do
  let levels ← match args with
    | [] => pure 1
    | a :: _ =>
      let n ← toNumber a
      if n = 0 then illegalNumber a else pure n
  let levels := min levels (← get).loops
  if levels = 0 then return 0
  else
    Action.setStatus 0
    throw (leaving levels)

/-! ## Aliases -/

def setAlias (name value : Bytes) (sh : Shell) : Shell :=
  if sh.aliases.any (·.1 == name) then
    { sh with aliases := sh.aliases.map fun e => if e.1 == name then (name, value) else e }
  else { sh with aliases := sh.aliases ++ [(name, value)] }

def aliasEach : List Bytes → (status : Nat) → Action Nat
  | [], status => return status
  | a :: rest, status => do
    match a.drop 1 |>.span (· != Bytes.ascii '=') with
    | (name, _ :: value) =>
      let name := a.take 1 ++ name
      modify (setAlias name value)
      aliasEach rest status
    | (_, []) =>
      match (← get).aliases.find? (·.1 == a) with
      | some (name, value) =>
        Action.printLine (name ++ text "=" ++ singleQuoted value)
        aliasEach rest status
      | none =>
        Action.writeTo 2 (text "alias: " ++ a ++ text " not found\n")
        aliasEach rest 1

def aliasSlots : Nat := 39

def aliases : Own := fun args => do
  if args.isEmpty then
    for (name, value) in listed aliasSlots (·.1) (← get).aliases do
      Action.printLine (name ++ text "=" ++ singleQuoted value)
    return 0
  else aliasEach args 0

def unaliasEach : List Bytes → (status : Nat) → Action Nat
  | [], status => return status
  | a :: rest, status => do
    if (← get).aliases.any (·.1 == a) then
      modify fun sh => { sh with aliases := sh.aliases.filter (·.1 != a) }
      unaliasEach rest status
    else
      Action.writeTo 2 (text "unalias: " ++ a ++ text " not found\n")
      unaliasEach rest 1

def unalias : Own := fun args => do
  let (given, names) ← options "a" "" args
  if given.isEmpty then unaliasEach names 0
  else
    modify fun sh => { sh with aliases := [] }
    return 0

/-! ## The table -/

/-- The own commands that need nothing but the shell and the system. -/
def table : List (String × Own) :=
  [(":", succeed), ("[", bracket), ("alias", aliases), ("bg", moveJob), ("break", leaveLoops .breaks),
    ("cd", changeDirectory), ("chdir", changeDirectory), ("continue", leaveLoops .continues), ("echo", echo),
    ("exit", exit), ("export", exports), ("false", refuse), ("fg", moveJob), ("getopts", getopts), ("jobs", jobs),
    ("kill", kill), ("local", locals), ("printf", printf), ("pwd", workingDirectory), ("read", read),
    ("readonly", constants), ("return", giveBack), ("set", set), ("shift", shift), ("test", decideCondition),
    ("times", times), ("trap", trap), ("true", succeed), ("ulimit", ulimit), ("umask", umask), ("unalias", unalias),
    ("unset", unset), ("wait", wait)]

def isIn (names : List String) (name : Bytes) : Bool := names.any (text · == name)

/-- The commands that carry out or describe others. -/
def guides : List String := [".", "command", "eval", "exec", "hash", "type"]

def isOwn (name : Bytes) : Bool := isIn (table.map (·.1)) name || isIn guides name

def isSpecial : Bytes → Bool := isIn
  [".", ":", "break", "continue", "eval", "exec", "exit", "export", "local", "readonly", "return", "set", "shift",
    "times", "trap", "unset"]

/-- Arguments of the form `name=value` are assignments, so that their values are not split. -/
def declares : Bytes → Bool := isIn ["alias", "export", "local", "readonly"]

/-! ## Descriptions -/

def describe : (searchPath : Option Bytes) → (verbose : Bool) → Bytes → Action Nat :=
  Lookup.describe isOwn isSpecial

def describeEach : List Bytes → (status : Nat) → Action Nat
  | [], status => return status
  | a :: rest, status => do
    let s ← describe none true a
    describeEach rest (status ||| s)

def type : Own := fun args => describeEach args 0

/-- The command `command` if it only describes another one. -/
def command : Own := fun args => do
  let (given, rest) ← options "pvV" "" args
  let path := if given.any (·.letter == 'p') then some Lookup.standardPath else none
  let brief := given.any (·.letter == 'v')
  let verbose := given.any (·.letter == 'V')
  match rest with
  | a :: _ => if brief || verbose then describe path verbose a else return 0
  | [] => return 0

def hashEach : List Bytes → (status : Nat) → Action Nat
  | [], status => return status
  | a :: rest, status => do
    if isOwn a || (← get).functions.any (·.1 == a) then hashEach rest status
    else match ← Lookup.found none a with
      | .ok _ => hashEach rest status
      | .error e =>
        Action.complainBytes (a ++ text (": " ++ (Lookup.fault e).1))
        hashEach rest 1

def hashSlots : Nat := 31

def hash : Own := fun args => do
  let (given, names) ← options "r" "" args
  if !given.isEmpty then
    modify fun sh => { sh with hashed := [] }
    return 0
  else if names.isEmpty then
    for name in listed hashSlots id (← get).hashed do
      match ← Lookup.found none name with
      | .ok (path :: _) => Action.printLine path
      | _ => pure ()
    return 0
  else hashEach names 0

def find? (name : Bytes) : Option Own :=
  ((table ++ [("command", command), ("hash", hash), ("type", type)]).find? fun e => text e.1 == name).map (·.2)

end DesktopRefresh.Shell.Builtin

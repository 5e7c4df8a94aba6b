import DesktopRefresh.Host.Search
import DesktopRefresh.Shell.Builtin.Arguments
import DesktopRefresh.Shell.Token

/-!
# What a name stands for

A command can be a function, an own command of the shell, or a program. A program is searched for in
the directories of the search path; the first file with its name that may be executed is taken.
-/

namespace DesktopRefresh.Shell.Lookup

open Kernel (View Activity)
open Shell (text)

/-- What is said of a program that cannot be started, and the status. -/
def fault : Errno → String × Nat
  | .noEntry | .notDirectory => ("not found", 127)
  | .linkLoop => (Errno.linkLoop.text, 127)
  | .nameTooLong => (Errno.nameTooLong.text, 127)
  | e => (e.text, 126)

/-- The candidates from the first regular file on that may be executed. -/
def search (v : View) : List Bytes → (last : Errno) → Except Errno (List Bytes)
  | [], last => .error last
  | path :: rest, last =>
    match v.tree.stat v.cwd path with
    | .ok e => if e.isExecutable then .ok (path :: rest) else search v rest .accessDenied
    | .error .noEntry => search v rest last
    | .error .notDirectory => search v rest last
    | .error e => search v rest e

/-- The paths at which a program can be, the most likely one first. -/
def program (searchPath name : Bytes) (v : View) : Except Errno (List Bytes) :=
  if name.contains Bytes.slash then .ok [name] else search v (Surroundings.candidates searchPath name) .noEntry

/-- The path that is searched for the sake of certainty. -/
def standardPath : Bytes := text "/usr/local/sbin:/usr/local/bin:/usr/sbin:/usr/bin:/sbin:/bin"

/-- Finds a program and remembers that it was found by its name, unless another search path is given. -/
def found (searchPath : Option Bytes) (name : Bytes) : Action (Except Errno (List Bytes)) := do
  let path := searchPath.getD (← get).searchPath
  let answer ← Action.lift (Activity.look fun v => program path name v)
  if answer.isOk && searchPath.isNone && !name.contains Bytes.slash then
    modify fun sh => if sh.hashed.contains name then sh else { sh with hashed := sh.hashed ++ [name] }
  return answer

/-- How a name is described: briefly, so that it can be used, or in words. -/
def describe (isOwn isSpecial : Bytes → Bool) (searchPath : Option Bytes) (verbose : Bool) (name : Bytes) :
    Action Nat := do
  let sh ← get
  let say (words : String) : Action Nat := do
    Action.printLine (if verbose then name ++ text words else name)
    return 0
  if Token.keywords.any (text · == name) then say " is a shell keyword"
  else match sh.aliases.find? (·.1 == name) with
    | some (_, value) =>
      Action.printLine (if verbose then name ++ text " is an alias for " ++ value
        else text "alias " ++ name ++ text "=" ++ Shell.singleQuoted value)
      return 0
    | none =>
      if sh.functions.any (·.1 == name) then say " is a shell function"
      else if isOwn name then say (if isSpecial name then " is a special shell builtin" else " is a shell builtin")
      else
        let slashed := name.contains Bytes.slash
        let answer ← if slashed then Action.lift (Activity.look fun v => (v.tree.stat v.cwd name).map fun _ => [name])
          else found searchPath name
        match answer with
        | .ok (path :: _) =>
          let tracked := !slashed && sh.hashed.contains name
          Action.printLine (if verbose then
              name ++ text (if tracked then " is a tracked alias for " else " is ") ++ path
            else path)
          return 0
        | _ =>
          if verbose then Action.print (name ++ text ": not found\n")
          return Builtin.unknownName

end DesktopRefresh.Shell.Lookup

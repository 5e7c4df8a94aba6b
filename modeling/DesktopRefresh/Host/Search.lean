import DesktopRefresh.Host.FileTree

/-!
# Finding and starting programs

A program is named by a path, if there is a slash in its name, or else searched for in the
directories of the search path. Looking a program up and starting it are two different searches:
the lookup of a path asks only whether there is a regular file, while starting it also needs the
permission to execute and a format that the system knows. And only the lookup takes a tilde in the
search path for the home directory.
-/

namespace DesktopRefresh

/-- The part of a host that programs are started from. -/
structure Surroundings where
  tree : FileTree
  cwd : Location
  /-- The directories to search, separated by colons. -/
  searchPath : Option Bytes
  /-- The directory that a tilde stands for. -/
  home : Option Bytes
  deriving Repr

namespace Surroundings

def colon : UInt8 := Bytes.ascii ':'

/-- The directories that a start searches. One that is too long for a path is passed over. -/
def searched (path : Bytes) : List Bytes :=
  (Bytes.splitAt colon path).filter fun dir => dir.length ≤ FileTree.longestPath

/-- The paths at which a name is searched for. -/
def candidates (path name : Bytes) : List Bytes := (searched path).map (Path.join · name)

/-! ## Lookup -/

def isFile (h : Surroundings) (path : Bytes) : Bool :=
  match h.tree.stat h.cwd path with
  | .ok e => e.isRegular
  | .error _ => false

def isExecutableFile (h : Surroundings) (path : Bytes) : Bool :=
  match h.tree.stat h.cwd path with
  | .ok e => e.isExecutable
  | .error _ => false

/-- A directory of the search path with the home directory in place of a tilde that is its first part. -/
def expandHome (h : Surroundings) (dir : Bytes) : Bytes :=
  match h.home, dir with
  | some home, tilde :: rest =>
    if tilde = Bytes.ascii '~' then
      match Path.parts rest, rest with
      | [], [] => home
      | _, b :: _ => if b = Bytes.slash then Path.join home (rest.dropWhile (· == Bytes.slash)) else dir
      | _, [] => dir
    else dir
  | _, _ => dir

def finds (h : Surroundings) (program : Bytes) : Bool :=
  if program.isEmpty then false
  else if program.contains Bytes.slash then h.isFile program
  else match h.searchPath with
    | none => false
    | some path => (Bytes.splitAt colon path).any fun dir =>
      h.isExecutableFile (Path.join (h.expandHome dir) program)

/-! ## Start -/

/-- A program of the host and the arguments it starts with; `name` is what it takes for its own name. -/
structure Launch where
  program : String
  name : Bytes
  args : List Bytes
  deriving DecidableEq, Repr

/-- How much of a file is looked at to find its interpreter. -/
def headSize : Nat := 256

def isBlankOrEnd (b : UInt8) : Bool := Bytes.isBlank b || b == 0

/-- Without the blanks at the end. -/
def trimEnd (bs : Bytes) : Bytes := (bs.reverse.dropWhile Bytes.isBlank).reverse

/-- The interpreter that the first line of a script names, and the rest of that line as one argument. Only the
beginning of the file is looked at. A line that goes beyond it is cut off, unless it is the name that would be
cut; a zero byte ends the name or the argument. The name can be missing if a zero byte or the file ends it. -/
def interpreter? (content : Bytes) : Option (Bytes × List Bytes) :=
  match content.take headSize with
  | a :: b :: rest =>
    if a = Bytes.ascii '#' ∧ b = Bytes.ascii '!' then
      let line := rest.takeWhile (· != Bytes.newline)
      let isCut := line.length + 2 = headSize
      if isCut && !(line.dropWhile Bytes.isBlank).any isBlankOrEnd then none
      else
        let line := if isCut then trimEnd (line.take (headSize - 3))
          else if line.length < rest.length then trimEnd line else line
        let text := line.dropWhile Bytes.isBlank
        let name := text.takeWhile (!isBlankOrEnd ·)
        let after := text.drop name.length
        let argument := if after.head? == some 0 then [] else (after.dropWhile Bytes.isBlank).takeWhile (· != 0)
        if text.isEmpty && line.length < rest.length then none
        else some (name, if argument.isEmpty then [] else [argument])
    else none
  | _ => none

def deepestInterpreter : Nat := 5

def longestArgument : Nat := 131071

/-- Loads the file at a path under a name. A script is handed to its interpreter, which may be a script itself. -/
def load (h : Surroundings) : (depth : Nat) → (path name : Bytes) → (args : List Bytes) → Except Errno Launch
  | depth, path, name, args =>
    match h.tree.stat h.cwd path with
    | .error e => .error e
    | .ok (.program p) =>
      if args.any fun a => a.length > longestArgument then .error .argumentsTooLong else .ok ⟨p, name, args⟩
    | .ok (.file mode content) =>
      if !(Entry.file mode content).isExecutable then .error .accessDenied
      else if args.any fun a => a.length > longestArgument then .error .argumentsTooLong
      else match interpreter? content, depth with
        | none, _ => .error .execFormat
        | some _, 0 => .error .linkLoop
        | some ([], _), _ + 1 => .error .accessDenied
        | some (interpreter, extra), depth + 1 => load h depth interpreter interpreter (extra ++ path :: args)
    | .ok _ => .error .accessDenied

/-- Tries paths in order. A path that leads nowhere is passed over, and so is one without permission,
which is reported if nothing better comes. -/
def firstOf {α : Type} (attempt : Bytes → Except Errno α) (denied : Bool) (last : Errno) :
    List Bytes → Except Errno α
  | [] => .error (if denied then .accessDenied else last)
  | path :: rest =>
    match attempt path with
    | .error .accessDenied => firstOf attempt true last rest
    | .error .noEntry => firstOf attempt denied .noEntry rest
    | .error .notDirectory => firstOf attempt denied .notDirectory rest
    | result => result

/-- What is searched if there is no search path. -/
def standardSearchPath : Bytes := Bytes.ofString "/bin:/usr/bin"

/-- Finds the program to start and the arguments to start it with. -/
def launch (h : Surroundings) (program : Bytes) (args : List Bytes) : Except Errno Launch :=
  if program.isEmpty then .error .noEntry
  else if program.contains Bytes.slash then h.load deepestInterpreter program program args
  else if program.length > FileTree.longestName then .error .nameTooLong
  else firstOf (fun path => h.load deepestInterpreter path program args) false .noEntry
    (candidates (h.searchPath.getD standardSearchPath) program)

end Surroundings

end DesktopRefresh

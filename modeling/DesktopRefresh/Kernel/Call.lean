import DesktopRefresh.Host.FileTree

/-!
# System calls

What a process can ask of the system it runs on, and what it gets in return. The code of a process is a
tree of such calls: each one says what happens next for every answer that can come.
-/

namespace DesktopRefresh.Kernel

abbrev Variables := List (Bytes × Bytes)

/-- How a file is opened. -/
structure Access where
  reads : Bool
  writes : Bool
  creates : Bool
  truncates : Bool
  appends : Bool
  /-- The file must not be there yet. -/
  exclusive : Bool
  deriving DecidableEq, Repr

namespace Access

def input : Access := ⟨true, false, false, false, false, false⟩

def output : Access := ⟨false, true, true, true, false, false⟩

def append : Access := ⟨false, true, true, false, true, false⟩

def both : Access := ⟨true, true, true, false, false, false⟩

end Access

/-- How a process ends. -/
inductive Outcome where
  | exited (status : Nat)
  | killed (signal : Nat)
  deriving DecidableEq, Repr

/-- What a signal does to a process. -/
inductive Reaction where
  | standard | ignored
  /-- The process is told of it. -/
  | noted
  deriving DecidableEq, Repr

/-- What comes of waiting for children. -/
inductive Waited where
  | ended (id : Nat) (outcome : Outcome)
  /-- None of them has ended, or there are none. -/
  | nobody
  /-- A signal arrived first. -/
  | interrupted
  deriving DecidableEq, Repr

/-- What a process sees of the system and of itself. -/
structure View where
  tree : FileTree
  cwd : Location
  clock : Nat
  /-- The permissions that new files do not get. -/
  mask : Nat
  id : Nat
  parent : Nat
  /-- The files that descriptors lead to, and how far those were read or written through them. -/
  files : List (Nat × Location × Nat)
  /-- The signals that do nothing. -/
  ignored : List Nat

namespace View

/-- The regular file that a descriptor leads to, and how far it was read or written. -/
def fileAt? (v : View) (descriptor : Nat) : Option (Location × Nat) := v.files.lookup descriptor

def stat (v : View) (path : Bytes) : Except Errno (Location × Entry) := v.tree.locate true v.cwd path

/-- What a path leads to, a link at its end not followed. -/
def linkStat (v : View) (path : Bytes) : Except Errno (Location × Entry) := v.tree.locate false v.cwd path

end View

inductive Call where
  /-- Time passes while the process is busy. -/
  | spend (nanos : Nat)
  | sleep (nanos : Nat)
  /-- Takes some bytes, at most so many; none at the end of a file. -/
  | read (descriptor count : Nat)
  /-- Takes some bytes of a line, at most up to its end. -/
  | readLine (descriptor : Nat) (stop : UInt8)
  | write (descriptor : Nat) (text : Bytes)
  /-- Opens a file with a mode for a new one, under the lowest number that is free. -/
  | openFile (path : Bytes) (access : Access) (mode : Nat)
  /-- Opens a text that is kept in memory. -/
  | openText (content : Bytes)
  | close (descriptor : Nat)
  /-- Makes the second descriptor a copy of the first one. -/
  | copy (descriptor target : Nat)
  /-- Makes a copy under a high number that programs do not inherit. -/
  | save (descriptor : Nat)
  /-- Two new descriptors: what is written to the second comes out of the first. -/
  | pipe
  | seek (descriptor position : Nat)
  /-- Waits for one of some children, or only looks whether one of them has ended. -/
  | wait (children : List Nat) (blocking : Bool)
  | signal (target number : Nat)
  | react (signal : Nat) (reaction : Reaction)
  /-- The signals that were noted since the last time. -/
  | noted
  | enter (directory : Bytes)
  | setMask (mask : Nat)
  /-- Goes on as the program at a path. There is an answer only if that fails. -/
  | exec (path name : Bytes) (args : List Bytes) (settings : Variables)

namespace Call

/-- The answers that a call can get. -/
def Reply : Call → Type
  | read _ _ | readLine _ _ => Except Errno Bytes
  | write _ _ | copy _ _ | seek _ _ | signal _ _ | enter _ => Except Errno Unit
  | openFile _ _ _ => Except Errno Nat
  | openText _ => Nat
  | save _ => Option Nat
  | pipe => Nat × Nat
  | wait _ _ => Waited
  | noted => List Nat
  | exec _ _ _ _ => Errno
  | spend _ | sleep _ | close _ | react _ _ | setMask _ => Unit

end Call

inductive Code where
  | done (status : Nat)
  | call (c : Call) (next : c.Reply → Code)
  | fork (child : Code) (next : Nat → Code)
  /-- Looks at the files and changes them in one go. -/
  | files (change : View → FileTree) (next : View → Code)

instance : Inhabited Code := ⟨.done 0⟩

/-! ## Activities -/

/-- A part of the code of a process: given what follows it, all of the code. -/
def Activity (α : Type) : Type := (α → Code) → Code

namespace Activity

instance : Monad Activity where
  pure a := fun k => k a
  bind x f := fun k => x fun a => f a k

def code (x : Activity Nat) : Code := x Code.done

def finish {α : Type} (status : Nat) : Activity α := fun _ => .done status

def call (c : Call) : Activity c.Reply := fun k => .call c k

def fork (child : Code) : Activity Nat := fun k => .fork child k

/-- Changes the files and gets an answer from what they were. -/
def change {α : Type} (f : View → α × FileTree) : Activity α := fun k => .files (fun v => (f v).2) fun v => k (f v).1

def look {α : Type} (f : View → α) : Activity α := fun k => .files View.tree fun v => k (f v)

/-- A change that can fail, and then does nothing. -/
def alter (f : View → Except Errno FileTree) : Activity (Except Errno Unit) := change fun v =>
  match f v with
  | .ok t => (.ok (), t)
  | .error e => (.error e, v.tree)

def spend (nanos : Nat) : Activity Unit := call (.spend nanos)

def read (descriptor count : Nat) : Activity (Except Errno Bytes) := call (.read descriptor count)

def write (descriptor : Nat) (text : Bytes) : Activity (Except Errno Unit) := call (.write descriptor text)

def openFile (path : Bytes) (access : Access) : Activity (Except Errno Nat) := call (.openFile path access 0o666)

def close (descriptor : Nat) : Activity Unit := call (.close descriptor)

/-- More than any reading in pieces takes. -/
def mostPieces : Nat := 10 ^ 9

def pieceSize : Nat := 65536

/-- All that comes out of a descriptor, after what was seen of it already. -/
def drain (descriptor : Nat) : (pieces : Nat) → (seen : List Bytes) → Activity (Bytes × Option Errno)
  | 0, seen => return (seen.reverse.flatten, none)
  | pieces + 1, seen => do
    match ← read descriptor pieceSize with
    | .error e => return (seen.reverse.flatten, some e)
    | .ok [] => return (seen.reverse.flatten, none)
    | .ok bs => drain descriptor pieces (bs :: seen)

/-- All that comes out of a descriptor, and the error that stopped it. -/
def readAll (descriptor : Nat) : Activity (Bytes × Option Errno) := drain descriptor mostPieces []

end Activity

end DesktopRefresh.Kernel

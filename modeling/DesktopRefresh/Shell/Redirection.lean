import DesktopRefresh.Shell.Expansion

/-!
# Redirections

The files of all redirections of a command are named first, and then they are opened in order. What a
descriptor was before is kept under a high number and brought back after the command.
-/

namespace DesktopRefresh.Shell.Redirect

open Kernel (Access)
open Shell (text shown)

/-- A redirection whose target is known. -/
inductive Resolved where
  | file (descriptor : Nat) (direction : Direction) (path : Bytes)
  /-- Without a source, the descriptor is closed. -/
  | copy (descriptor : Nat) (source : Option Nat)
  | here (descriptor : Nat) (content : Bytes)

/-- What a descriptor was: the number of its copy, or closed. -/
structure Saved where
  descriptor : Nat
  copy : Option Nat

section
variable (substitute : Command → Action Bytes)

def resolve : Redirection → Action Resolved
  | .file fd direction path => do return .file fd direction (← Expansion.single substitute path)
  | .copy fd source => do
    match ← Expansion.single substitute source with
    | [b] =>
      if Bytes.isDigit b then return .copy fd (some (b.toNat - 48))
      else if b = Bytes.ascii '-' then return .copy fd none
      else Action.failReading "Bad fd number"
    | _ => Action.failReading "Bad fd number"
  | .here fd document => do
    let w := (((← get).documents.find? (·.1 == document)).map (·.2)).getD []
    return .here fd (← Expansion.document substitute w)

def resolveAll : List Redirection → Action (List Resolved)
  | [] => return []
  | r :: rs => do
    let first ← resolve substitute r
    return first :: (← resolveAll rs)

end

/-- What is said of a file that cannot be opened. -/
def reason (creates : Bool) : Errno → String
  | .noEntry | .notDirectory => if creates then "Directory nonexistent" else "No such file"
  | e => e.text

def access : Direction → Access
  | .input => .input
  | .output | .overwrite => .output
  | .append => .append
  | .both => .both

/-- What is at a path that is not to be overwritten: with the switch for it, a regular file is spared, and
something else is not created. -/
def sparing (direction : Direction) (path : Bytes) : Action (Option Entry) := do
  if direction = .output && (← get).options.has .noclobber then
    Action.lift (Kernel.Activity.look fun v => (v.tree.stat v.cwd path).toOption)
  else return none

def openPath (direction : Direction) (path : Bytes) : Action Nat := do
  let old ← sparing direction path
  let a := access direction
  let creates := a.creates && old.isNone
  let refuse (creates : Bool) (why : String) : Action Nat :=
    Action.failBytes (text ("cannot " ++ (if creates then "create " else "open ")) ++ path ++ text (": " ++ why))
  if old.any Entry.isRegular then refuse true Errno.entryExists.text
  else match ← Action.lift (Kernel.Activity.openFile path a) with
    | .ok n => return n
    | .error e => refuse creates (reason creates e)

section
-- What the descriptors were is brought back later.
variable (returning : Bool)

/-- Keeps what a descriptor was, unless that was done before, and closes it. -/
def keep (saved : List Saved) (fd : Nat) : Action (List Saved) := do
  if !returning || saved.any (·.descriptor == fd) then return saved
  else
    let copy ← Action.call (.save fd)
    Action.call (.close fd)
    return ⟨fd, copy⟩ :: saved

/-- Puts what was opened under a number into its place. -/
def place (saved : List Saved) (opened fd : Nat) : Action (List Saved) := do
  if opened = fd then return if saved.any (·.descriptor == fd) then saved else ⟨fd, none⟩ :: saved
  else
    let saved ← keep returning saved fd
    let _ ← Action.call (.copy opened fd)
    Action.call (.close opened)
    return saved

/-- Carries out redirections one after another. What was kept is also known if one of them fails. -/
def perform : List Resolved → List Saved → Action (List Saved × Option Leaving)
  | [], saved => return (saved, none)
  | r :: rs, saved => do
    match r with
    | .file fd direction path =>
      let opened : Action Nat := openPath direction path
      match ← tryCatch (do return some (← opened)) (fun _ => return none) with
      | some n => perform rs (← place returning saved n fd)
      | none => return (saved, some .failed)
    | .here fd content =>
      let n ← Action.call (.openText content)
      perform rs (← place returning saved n fd)
    | .copy fd none =>
      let saved ← keep returning saved fd
      Action.call (.close fd)
      perform rs saved
    | .copy fd (some source) =>
      if fd = source then perform rs saved
      else
        let saved ← keep returning saved fd
        match ← Action.call (.copy source fd) with
        | .ok _ => perform rs saved
        | .error e =>
          Action.complain (toString source ++ ": " ++ e.text)
          Action.setStatus Action.errorStatus
          return (saved, some .failed)

end

/-- Brings back what the descriptors were. -/
def restore : List Saved → Action Unit
  | [] => return ()
  | s :: rest => do
    match s.copy with
    | some n =>
      let _ ← Action.call (.copy n s.descriptor)
      Action.call (.close n)
    | none => Action.call (.close s.descriptor)
    restore rest

/-- Leaves the descriptors as they are now. -/
def settle : List Saved → Action Unit
  | [] => return ()
  | s :: rest => do
    match s.copy with
    | some n => Action.call (.close n)
    | none => pure ()
    settle rest

end DesktopRefresh.Shell.Redirect

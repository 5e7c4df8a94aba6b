import DesktopRefresh.Shell.Builtin.Arguments

/-!
# Own commands for the directory and the mask of the process
-/

namespace DesktopRefresh.Shell.Builtin

open Shell (text)

/-! ## Directories -/

/-- The directory that a path leads to, by its text alone. -/
def follow (directory path : Bytes) : Bytes :=
  let start := if Path.isAbsolute path then [] else Path.parts directory
  let step (seen : List Bytes) (part : Bytes) : List Bytes :=
    if part.isEmpty || part = Path.here then seen
    else if part = Path.up then seen.dropLast
    else seen ++ [part]
  Path.ofParts true ((Bytes.splitAt Bytes.slash path).foldl step start)

/-- The path begins with `/`, `.` or `..`, so that it is not searched for. -/
def isExplicit (path : Bytes) : Bool :=
  Path.isAbsolute path || match (Bytes.splitAt Bytes.slash path).head? with
    | some part => part = Path.here || part = Path.up
    | none => false

def isPhysical (given : List Given) : Bool := (given.getLast?.map (·.letter)) == some 'P'

def exportValue (name : String) (value : Bytes) : Action Unit := do
  Action.assign (text name) value
  modify fun sh => sh.put { (sh.binding? (text name)).getD ⟨text name, none, true, false⟩ with exported := true }

/-- Enters a directory, if that can be done. -/
def enter (physical : Bool) (path : Bytes) : Action Bool := do
  let old := (← get).directory
  let target := if physical then path else follow old path
  match ← Action.call (.enter target) with
  | .error _ => return false
  | .ok _ =>
    let cwd ← Action.lift (Kernel.Activity.look (·.cwd))
    let directory := if physical then Path.ofParts true cwd else target
    modify fun sh => { sh with directory := directory }
    exportValue "OLDPWD" old
    exportValue "PWD" directory
    return true

def isDirectory (path : Bytes) : Action Bool :=
  Action.lift (Kernel.Activity.look fun v => v.tree.isDirectory v.cwd path)

/-- The first directory of a search path in which there is a directory, and whether that was a named one. -/
def searchDirectory (path : Bytes) : List Bytes → Action (Option (Bytes × Bool))
  | [] => return none
  | dir :: dirs => do
    let found := Path.join dir path
    if ← isDirectory found then return some (found, !dir.isEmpty) else searchDirectory path dirs

def changeDirectory : Own := fun args => do
  let (given, rest) ← options "LP" "" args
  let sh ← get
  let back := rest.head? == some (text "-")
  let wanted : Bytes := match rest with
    | [] => (sh.get? (text "HOME")).getD []
    | a :: _ => if back then (sh.get? (text "OLDPWD")).getD [] else a
  let physical := isPhysical given
  let finish (path : Bytes) (shows : Bool) : Action Nat := do
    if ← enter physical path then
      if shows then Action.printLine (← get).directory
      return 0
    else Action.failBytes (text "can't cd to " ++ wanted)
  if isExplicit wanted && !wanted.isEmpty then finish wanted back
  else
    let wanted := if wanted.isEmpty then Path.here else wanted
    match ← searchDirectory wanted (Bytes.splitAt (Bytes.ascii ':') ((sh.get? (text "CDPATH")).getD [])) with
    | some (path, named) => finish path (back || named)
    | none => finish wanted back

def workingDirectory : Own := fun args => do
  let (given, _) ← options "LP" "" args
  if isPhysical given then
    Action.printLine (Path.ofParts true (← Action.lift (Kernel.Activity.look (·.cwd))))
  else Action.printLine (← get).directory
  return 0

/-! ## Masks -/

def octalDigits (count n : Nat) : String :=
  let digits := Nat.toDigits 8 n
  String.ofList (List.replicate (count - digits.length) '0' ++ digits)

/-- The permissions that a mask leaves to a class of users. -/
def permissions (bits : Nat) : String :=
  (if bits &&& 4 = 0 then "r" else "") ++ (if bits &&& 2 = 0 then "w" else "") ++ if bits &&& 1 = 0 then "x" else ""

def symbolicMask (mask : Nat) : String :=
  "u=" ++ permissions (mask / 64 % 8) ++ ",g=" ++ permissions (mask / 8 % 8) ++ ",o=" ++ permissions (mask % 8)

/-- Bits of a mode by their letters. -/
def whoBits (b : UInt8) : Option Nat :=
  if b = Bytes.ascii 'u' then some 0o700
  else if b = Bytes.ascii 'g' then some 0o070
  else if b = Bytes.ascii 'o' then some 0o007
  else if b = Bytes.ascii 'a' then some 0o777
  else none

def permissionBits (b : UInt8) : Option Nat :=
  if b = Bytes.ascii 'r' then some 0o444
  else if b = Bytes.ascii 'w' then some 0o222
  else if b = Bytes.ascii 'x' then some 0o111
  else none

/-- One clause of a symbolic mode, applied to the permissions that a mask leaves. -/
def applyClause (allowed : Nat) (clause : Bytes) : Option Nat :=
  let who := clause.takeWhile fun b => (whoBits b).isSome
  let bits := if who.isEmpty then 0o777 else who.foldl (fun n b => n ||| (whoBits b).getD 0) 0
  match clause.drop who.length with
  | op :: letters =>
    if letters.all fun b => (permissionBits b).isSome then
      let given := bits &&& letters.foldl (fun n b => n ||| (permissionBits b).getD 0) 0
      if op = Bytes.ascii '+' then some (allowed ||| given)
      else if op = Bytes.ascii '-' then some (allowed &&& (0o777 ^^^ given))
      else if op = Bytes.ascii '=' then some ((allowed &&& (0o777 ^^^ bits)) ||| given)
      else none
    else none
  | [] => none

def umask : Own := fun args => do
  let (given, rest) ← options "S" "" args
  let mask ← Action.lift (Kernel.Activity.look (·.mask))
  match rest with
  | [] =>
    Action.printLine (text (if given.isEmpty then octalDigits 4 mask else symbolicMask mask))
    return 0
  | a :: _ =>
    if a.head?.any Bytes.isDigit then
      if a.all fun b => 0x30 ≤ b && b ≤ 0x37 then
        Action.call (.setMask ((a.foldl (fun n b => n * 8 + (b.toNat - 48)) 0) % 0o1000))
        return 0
      else illegalNumber a
    else
      match (Bytes.splitAt (Bytes.ascii ',') a).foldlM applyClause (0o777 ^^^ mask) with
      | some allowed =>
        Action.call (.setMask (0o777 ^^^ allowed))
        return 0
      | none => Action.failBytes (text "Illegal mode: " ++ a)

end DesktopRefresh.Shell.Builtin

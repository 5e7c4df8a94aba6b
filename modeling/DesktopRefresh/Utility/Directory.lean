import DesktopRefresh.Utility.Concatenation
import DesktopRefresh.Utility.Mode

/-!
# Utilities that make, remove and mark entries
-/

namespace DesktopRefresh.Utility

open Kernel (Activity View)

def entryOf (path : Bytes) : Activity (Except Errno (Location × Entry)) := Activity.look fun v => v.linkStat path

def targetOf (path : Bytes) : Activity (Except Errno (Location × Entry)) := Activity.look fun v => v.stat path

/-- Does something for each argument; the answer is the worst status. -/
def forEach (use : Bytes → Activity Nat) : List Bytes → (worst : Nat) → Activity Nat
  | [], worst => return worst
  | a :: rest, worst => do
    let own ← use a
    forEach use rest (max worst own)

def failure (s : Start) (what : String) (path : Bytes) (e : Errno) : Activity Nat := do
  complain s (text (what ++ " ") ++ always path ++ text (": " ++ e.text))
  return 1

/-! ## Names and links -/

/-- Deeper than directories can be nested. -/
def deepestTree : Nat := 4096

/-- The name that a path ends with, whatever it is. -/
def lastName (path : Bytes) : Bytes :=
  (((Bytes.splitAt Bytes.slash path).filter (!·.isEmpty)).getLast?).getD []

def withoutSlashes (path : Bytes) : Bytes :=
  let cut := (path.reverse.dropWhile (· == Bytes.slash)).reverse
  if cut.isEmpty && !path.isEmpty then [Bytes.slash] else cut

/-! ## mkdir and rmdir -/

/-- Permissions of a directory that is new, as far as the mask allows. -/
def maskedMode (v : View) (mode : Nat) : Nat := mode &&& (0o7777 ^^^ (v.mask &&& 0o777))

def makeOne (path : Bytes) (mode : Option Nat) : Activity (Except Errno Unit) :=
  Activity.alter fun v => v.tree.makeDirectory (mode.getD (maskedMode v 0o777)) v.cwd path

def announceDirectory (s : Start) (verbose : Bool) (path : Bytes) : Activity Unit := do
  if verbose then write 1 (s.name ++ text ": created directory " ++ always path ++ [Bytes.newline])

def isDirectory (path : Bytes) : Activity Bool := Activity.look fun v => v.tree.isDirectory v.cwd path

/-- Makes the directories of a list that are missing, each of which lies in the one before it. -/
def makeMissing (s : Start) (announce : Bytes → Activity Unit) (mode : Option Nat) : List Bytes → Activity Nat
  | [] => return 0
  | path :: rest => do
    match ← makeOne path (if rest.isEmpty then mode else none) with
    | .ok _ =>
      announce path
      makeMissing s announce mode rest
    | .error e =>
      if ← isDirectory path then makeMissing s announce mode rest
      else
        let above ← Activity.look fun v => v.stat path
        -- A file in the place of a directory further up is what is in the way.
        let reason := match above with
          | .ok _ => if rest.isEmpty then e else .notDirectory
          | .error _ => e
        failure s "cannot create directory" path reason

/-- The mode that an option asks for, or the argument that asks for none. -/
def modeOption (o : Options) (isDirectory : Bool) (start : Nat) (v : View) : Except Bytes (Option Nat) :=
  match o.last? 'm' with
  | none => .ok none
  | some m =>
    match ModeSpec.ofBytes? m with
    | some spec => .ok (some (spec.apply isDirectory v.mask start))
    | none => .error m

def mkdir : Utility := fun s =>
  withOptions [⟨'m', .argument, ["mode"]⟩, ⟨'p', .nothing, ["parents"]⟩, ⟨'v', .nothing, ["verbose"]⟩,
      ⟨'Z', .nothing, ["context"]⟩] 1 true s fun o => do
    if o.operands.isEmpty then misuse s 1 (text "missing operand")
    else match ← Activity.look (modeOption o true 0o777) with
      | .error m =>
        complain s (text "invalid mode " ++ quoted m)
        return 1
      | .ok mode =>
        forEach (fun path => do
          if o.has 'p' then
            let chain := if path.isEmpty then [path] else (Path.ancestors path).reverse
            makeMissing s (announceDirectory s (o.has 'v')) mode chain
          else match ← makeOne path mode with
            | .ok _ =>
              announceDirectory s (o.has 'v') path
              return 0
            | .error e => failure s "cannot create directory" path e) o.operands 0

/-- A path that ends in a slash names a link to a directory. -/
def isSlashedLink (v : View) (path : Bytes) : Bool :=
  path.getLast? == some Bytes.slash && v.tree.isDirectory v.cwd path &&
    match v.linkStat (withoutSlashes path) with
    | .ok (_, e) => e.isLink
    | .error _ => false

/-- Removes a directory and then those that contain it. -/
def removeChain (s : Start) (verbose lenient : Bool) (what : String) : List Bytes → Activity Nat
  | [] => return 0
  | path :: rest => do
    if verbose then write 1 (s.name ++ text ": removing directory, " ++ always path ++ [Bytes.newline])
    match ← Activity.alter fun v => v.tree.removeDirectory v.cwd path with
    | .ok _ => removeChain s verbose lenient "failed to remove directory" rest
    | .error e =>
      if lenient && e = .notEmpty then return 0
      else if e = .notDirectory && (← Activity.look (isSlashedLink · path)) then
        complain s (text "failed to remove " ++ always path ++ text ": Symbolic link not followed")
        return 1
      else failure s what path e

def rmdir : Utility := fun s =>
  withOptions [⟨'Γ', .nothing, ["ignore-fail-on-non-empty"]⟩, ⟨'p', .nothing, ["parents"]⟩,
      ⟨'v', .nothing, ["verbose"]⟩] 1 true s fun o => do
    if o.operands.isEmpty then misuse s 1 (text "missing operand")
    else forEach (fun path =>
      removeChain s (o.has 'v') (o.has 'Γ') "failed to remove" (if o.has 'p' then Path.ancestors path else [path])) o.operands 0

/-! ## rm -/

structure Removal where
  force : Bool
  recursive : Bool
  emptyDirectories : Bool
  asks : Bool
  verbose : Bool

/-- Asks a question; an answer that begins with a y agrees. -/
def agrees (s : Start) (question : Bytes) : Activity Bool := do
  write 2 (s.name ++ text ": " ++ question ++ text "? ")
  match ← Activity.call (.readLine 0 Bytes.newline) with
  | .ok (b :: _) => return Bytes.toLower b = Bytes.ascii 'y'
  | _ => return false

def kindName : Entry → String
  | .directory _ => "directory"
  | .link _ => "symbolic link"
  | .device _ => "character special file"
  | .file _ [] => "regular empty file"
  | _ => "regular file"

def mayRemove (s : Start) (r : Removal) (what path : Bytes) : Activity Bool :=
  if r.asks then agrees s (what ++ text " " ++ always path) else return true

def removeFile (s : Start) (r : Removal) (path : Bytes) (e : Entry) : Activity Nat := do
  if ← mayRemove s r (text ("remove " ++ kindName e)) path then
    match ← Activity.alter fun v => v.tree.unlink v.cwd path with
    | .ok _ =>
      if r.verbose then write 1 (text "removed " ++ always path ++ [Bytes.newline])
      return 0
    | .error e => failure s "cannot remove" path e
  else return 0

def removeEmpty (s : Start) (r : Removal) (path : Bytes) : Activity Nat := do
  match ← Activity.alter fun v => v.tree.removeDirectory v.cwd path with
  | .ok _ =>
    if r.verbose then write 1 (text "removed directory " ++ always path ++ [Bytes.newline])
    return 0
  | .error e => failure s "cannot remove" path e

/-- Removes an entry and all below it. -/
def removeTree (s : Start) (r : Removal) : (depth : Nat) → Bytes → Activity Nat
  | 0, _ => return 1
  | depth + 1, path => do
    match ← entryOf path with
    | .error e => failure s "cannot remove" path e
    | .ok (l, .directory _) =>
      let names ← Activity.look fun v => v.tree.namesIn l
      if names.isEmpty then
        if ← mayRemove s r (text "remove directory") path then removeEmpty s r path else return 0
      else if ← mayRemove s r (text "descend into directory") path then
        let inside := names.map (Path.join path)
        let status ← forEach (removeTree s r depth) inside 0
        if status != 0 then return status
        else if ← mayRemove s r (text "remove directory") path then removeEmpty s r path
        else return 0
      else return 0
    | .ok (_, e) => removeFile s r path e

def removeArgument (s : Start) (r : Removal) (path : Bytes) : Activity Nat := do
  let last := lastName path
  if r.recursive && (last == Path.here || last == Path.up) then
    complain s (text "refusing to remove '.' or '..' directory: skipping " ++ always path)
    return 1
  else if r.recursive && !path.isEmpty && path.all (· == Bytes.slash) then
    complain s (text "it is dangerous to operate recursively on " ++ always path)
    complain s (text "use --no-preserve-root to override this failsafe")
    return 1
  else match ← entryOf path with
    | .error e =>
      if r.force && (e = .noEntry || e = .notDirectory) then return 0 else failure s "cannot remove" path e
    | .ok (l, .directory _) =>
      let bare ← entryOf (withoutSlashes path)
      if r.recursive then
        if (bare.toOption.map fun e => e.2.isLink).getD false then
          let inside ← Activity.look fun v => (v.tree.namesIn l).map (Path.join path)
          let _ ← forEach (removeTree s r deepestTree) inside 0
          failure s "cannot remove" path .notDirectory
        else removeTree s r deepestTree path
      else if r.emptyDirectories then removeEmpty s r path
      else failure s "cannot remove" path .isDirectory
    | .ok (_, e) => removeFile s r path e

def rm : Utility := fun s =>
  withOptions [⟨'f', .nothing, ["force"]⟩, ⟨'i', .nothing, []⟩, ⟨'I', .nothing, []⟩, ⟨'Ι', .maybe, ["interactive"]⟩,
      ⟨'Θ', .nothing, ["one-file-system"]⟩, ⟨'Λ', .nothing, ["no-preserve-root"]⟩, ⟨'Σ', .maybe, ["preserve-root"]⟩,
      ⟨'r', .nothing, ["recursive"]⟩, ⟨'R', .nothing, []⟩, ⟨'d', .nothing, ["dir"]⟩, ⟨'v', .nothing, ["verbose"]⟩]
      1 true s fun o => do
    let mode := o.lastOf? ['f', 'i', 'I', 'Ι']
    let r : Removal :=
      { force := mode = some 'f', recursive := o.has 'r' || o.has 'R', emptyDirectories := o.has 'd'
        asks := mode = some 'i' || mode = some 'Ι', verbose := o.has 'v' }
    if o.operands.isEmpty then if r.force then return 0 else misuse s 1 (text "missing operand")
    else
      let count := o.operands.length
      let doubtful := mode = some 'I' && (r.recursive || count > 3)
      let question := text s!"remove {count} argument" ++ text (if count = 1 then "" else "s") ++
        text (if r.recursive then " recursively" else "")
      let goesOn ← if doubtful then agrees s question else pure true
      if !goesOn then return 0
      else forEach (removeArgument s r) o.operands 0

def unlink : Utility := fun s =>
  withOptions [] 1 true s fun o => do
    match o.operands with
    | [] => misuse s 1 (text "missing operand")
    | [path] =>
      match ← Activity.alter fun v => v.tree.unlink v.cwd path with
      | .ok _ => return 0
      | .error e => failure s "cannot unlink" path e
    | _ :: extra :: _ => misuse s 1 (text "extra operand " ++ quoted extra)

/-! ## touch -/

/-- What happens to the time of a file. -/
inductive Dating where
  | now
  | past
  | asFile (path : Bytes)

/-- Puts an entry where its new time belongs. -/
def date (d : Dating) (v : View) (l : Location) : FileTree :=
  match d with
  | .now => v.tree.touch l
  | .past => v.tree.antedate l
  | .asFile path =>
    match v.stat path with
    | .ok (m, e) =>
      let others := v.tree.entries.filter (·.1 != l)
      let i := (others.findIdx? (·.1 == m)).getD others.length
      match v.tree.entry? l with
      | some own => if l = m || l.isEmpty then v.tree else
          ⟨others.take i ++ [(m, e), (l, own)] ++ others.drop (i + 1)⟩
      | none => v.tree
    | .error _ => v.tree

/-- Gives a file a time. One that is missing is made or, if that is not wanted, reported unless it may be missing. -/
def touchOne (s : Start) (d : Dating) (creates quiet : Bool) (path : Bytes) : Activity Nat := do
  if path == text "-" then return 0
  let access : Kernel.Access := ⟨false, true, true, false, false, false⟩
  match ← targetOf path with
  | .ok (l, _) =>
    Activity.change fun v => ((), date d v l)
    return 0
  | .error missing =>
    if !creates then
      if quiet && missing = .noEntry then return 0 else failure s "setting times of" path missing
    else match ← Activity.openFile path access with
      | .ok n =>
        Activity.close n
        match ← targetOf path with
        | .ok (l, _) => Activity.change fun v => ((), date d v l)
        | .error _ => pure ()
        return 0
      | .error .isDirectory => failure s "setting times of" path missing
      | .error e => failure s "cannot touch" path e

/-- A time is given by digits, perhaps with a point before the seconds. -/
def isStamp (bs : Bytes) : Bool :=
  let digits := bs.filter (· != Bytes.ascii '.')
  8 ≤ digits.length && digits.length ≤ 14 && digits.all Bytes.isDigit

/-- A date that can be understood begins with a digit or is one of a few words. -/
def isDate (bs : Bytes) : Bool :=
  bs.head?.any Bytes.isDigit || bs.head? == some (Bytes.ascii '@') || bs.head? == some (Bytes.ascii '-') ||
    ["now", "today", "yesterday", "last", ""].any fun w => text w == (bs.map Bytes.toLower).takeWhile (!Bytes.isBlank ·)

def touch : Utility := fun s =>
  withOptions [⟨'a', .nothing, []⟩, ⟨'c', .nothing, ["no-create"]⟩, ⟨'d', .argument, ["date"]⟩, ⟨'f', .nothing, []⟩,
      ⟨'h', .nothing, ["no-dereference"]⟩, ⟨'m', .nothing, []⟩, ⟨'r', .argument, ["reference"]⟩,
      ⟨'t', .argument, []⟩, ⟨'Τ', .argument, ["time"]⟩] 1 true s fun o => do
    let wrong := (o.given.filter fun g => g.1 = 't' && !isStamp g.2 || g.1 = 'd' && !isDate g.2).head?
    match wrong, o.last? 'r' with
    | some (_, a), _ =>
      complain s (text "invalid date format " ++ quoted a)
      return 1
    | none, reference =>
      if o.has 't' && (o.has 'd' || o.has 'r') then
        misuse s 1 (text "cannot specify times from more than one source")
      else
      let missing ← match reference with
        | some path => do pure ((← targetOf path).map fun _ => ())
        | none => pure (.ok ())
      match missing with
      | .error e => failure s "failed to get attributes of" (reference.getD []) e
      | .ok _ =>
        if o.operands.isEmpty then misuse s 1 (text "missing file operand")
        else
          let isNow := (o.last? 'd').any fun a => a == text "now" || a == text "today" || a.isEmpty
          let d : Dating := match reference with
            | some path => .asFile path
            | none => if (o.has 't' || o.has 'd') && !isNow then .past else .now
          forEach (touchOne s d (!(o.has 'c' || o.has 'h')) (o.has 'c')) o.operands 0

/-! ## chmod -/

structure ModeWork where
  spec : ModeSpec
  recursive : Bool
  verbose : Bool
  changesOnly : Bool
  quiet : Bool

def describeMode (old new : Nat) (path : Bytes) : Bytes :=
  let show' (m : Nat) : Bytes := octalFour m ++ text " (" ++ modeText m ++ text ")"
  if old = new then text "mode of " ++ always path ++ text " retained as " ++ show' new ++ [Bytes.newline]
  else text "mode of " ++ always path ++ text " changed from " ++ show' old ++ text " to " ++ show' new ++ [Bytes.newline]

/-- A class of users that was not named keeps what the mask protects, and that may not be what was meant. -/
def unmasked (spec : ModeSpec) : ModeSpec :=
  spec.map fun c => if c.who.isNone && c.action = .remove then { c with who := some ModeSpec.allBits } else c

def changeMode (s : Start) (w : ModeWork) (warns : Bool) : (depth : Nat) → Bytes → Activity Nat
  | 0, _ => return 1
  | depth + 1, path => do
    match ← targetOf path with
    | .error e =>
      let isBroken := (← entryOf path).isOk
      if isBroken then
        if !w.quiet then complain s (text "cannot operate on dangling symlink " ++ always path)
      else if !w.quiet then
        let _ ← failure s "cannot access" path e
      if w.verbose then write 1 (always path ++ text " could not be accessed\n")
      return 1
    | .ok (l, e) =>
      let mask ← Activity.look (·.mask)
      let isDir := e.isDirectory
      let new := w.spec.apply isDir mask e.mode
      Activity.change fun v => ((), v.tree.setMode l new)
      if w.verbose || (w.changesOnly && new != e.mode) then write 1 (describeMode e.mode new path)
      let meant := (unmasked w.spec).apply isDir mask e.mode
      let surprising := warns && meant != new
      if surprising then
        complain s (ifNeeded path ++ text ": new permissions are " ++ modeText new ++ text ", not " ++ modeText meant)
      let own := if surprising then 1 else 0
      if w.recursive && isDir then
        let names ← Activity.look fun v => v.tree.namesIn l
        let inside ← Activity.look fun v => (names.map (Path.join path)).filter fun p => match v.linkStat p with
          | .ok (_, e) => !e.isLink
          | .error _ => false
        forEach (changeMode s w warns depth) inside own
      else return own

/-- A mode that begins with a hyphen looks like options. -/
def isHyphenMode (a : Bytes) : Bool :=
  match a with
  | sign :: rest =>
    sign = Bytes.ascii '-' && !rest.isEmpty && rest.all fun b => (text "rwxXstugo,=+-01234567").contains b
  | [] => false

/-- The first argument that is a mode with a hyphen, and the others. -/
def takeHyphenMode : List Bytes → Option Bytes × List Bytes
  | [] => (none, [])
  | a :: rest =>
    if a == text "--" then (none, a :: rest)
    else if isHyphenMode a then (some a, rest)
    else
      let (m, others) := takeHyphenMode rest
      (m, a :: others)

def chmod : Utility := fun s => do
  let (hyphenMode, args) := takeHyphenMode s.args
  withOptions [⟨'c', .nothing, ["changes"]⟩, ⟨'f', .nothing, ["silent", "quiet"]⟩, ⟨'R', .nothing, ["recursive"]⟩,
      ⟨'v', .nothing, ["verbose"]⟩, ⟨'Ρ', .argument, ["reference"]⟩, ⟨'Σ', .nothing, ["preserve-root"]⟩,
      ⟨'Λ', .nothing, ["no-preserve-root"]⟩] 1 true { s with args := args } fun o => do
    let said := o.lastOf? ['v', 'c']
    let work (spec : ModeSpec) : ModeWork := ⟨spec, o.has 'R', said = some 'v', said = some 'c', o.has 'f'⟩
    match o.last? 'Ρ', hyphenMode, o.operands with
    | some _, _, [] => misuse s 1 (text "missing operand")
    | some reference, _, paths =>
      match ← targetOf reference with
      | .ok (_, e) => forEach (changeMode s (work (ModeSpec.absolute e.mode)) false deepestTree) paths 0
      | .error e => failure s "failed to get attributes of" reference e
    | none, none, [] => misuse s 1 (text "missing operand")
    | none, none, [m] => misuse s 1 (text "missing operand after " ++ quoted m)
    | none, some m, [] => misuse s 1 (text "missing operand after " ++ quoted m)
    | none, hyphen, operands =>
      let (m, paths) := match hyphen, operands with
        | some m, paths => (m, paths)
        | none, m :: paths => (m, paths)
        | none, [] => ([], [])
      match ModeSpec.ofBytes? m with
      | none => misuse s 1 (text "invalid mode: " ++ quoted m)
      | some spec => forEach (changeMode s (work spec) hyphen.isSome deepestTree) paths 0

end DesktopRefresh.Utility

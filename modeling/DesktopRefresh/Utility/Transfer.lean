import DesktopRefresh.Utility.Directory

/-!
# Utilities that copy, move and link

What is named last is where the others go to: a directory that takes them under their own names, or a new
name for the only one.
-/

namespace DesktopRefresh.Utility

open Kernel (Activity View)

/-! ## Sources and targets -/

/-- What is to be moved where. -/
structure Transfer where
  source : Bytes
  target : Bytes

/-- How the arguments name a target. -/
inductive Naming where
  | last
  | directory (path : Bytes)
  /-- The last argument is the new name, even if it is a directory. -/
  | exact
  deriving DecidableEq

def intoDirectory (directory source : Bytes) : Transfer := ⟨source, Path.join directory (lastName source)⟩

/-- The transfers that arguments ask for, or what is wrong with them. A second value says that the arguments
were understood and only the target is wrong. -/
def transfers (naming : Naming) (targetError : Errno) (isDirectoryTarget : Bool) (operands : List Bytes) :
    Except (Bytes × Bool) (List Transfer) :=
  match naming, operands with
  | _, [] => .error (text "missing file operand", false)
  | .directory d, sources =>
    if isDirectoryTarget then .ok (sources.map (intoDirectory d))
    else .error (text "target directory " ++ always d ++ text (": " ++ targetError.text), true)
  | _, [a] => .error (text "missing destination file operand after " ++ always a, false)
  | .exact, [a, b] => .ok [⟨a, b⟩]
  | .exact, _ :: _ :: extra :: _ => .error (text "extra operand " ++ always extra, false)
  | .last, operands =>
    let target := operands.getLast?.getD []
    if isDirectoryTarget then .ok (operands.dropLast.map (intoDirectory target))
    else match operands with
      | [a, b] => .ok [⟨a, b⟩]
      | _ => .error (text "target " ++ always target ++ text (": " ++ targetError.text), true)

/-- Does something for each transfer; the answer is the worst status. -/
def runEach (use : Transfer → Activity Nat) : List Transfer → (worst : Nat) → Activity Nat
  | [], worst => return worst
  | t :: rest, worst => do
    let own ← use t
    runEach use rest (max worst own)

/-- Finds out what the arguments ask for and does it. -/
def withTransfers (s : Start) (naming : Naming) (followsTarget : Bool) (operands : List Bytes)
    (use : List Transfer → Activity Nat) : Activity Nat := do
  let target := match naming with
    | .directory d => d
    | _ => operands.getLast?.getD []
  let found ← if followsTarget then targetOf target else entryOf target
  let (isDir, e) := match found with
    | .ok (_, e) => (e.isDirectory, Errno.notDirectory)
    | .error e => (false, e)
  match transfers naming e isDir operands with
  | .error (message, true) =>
    complain s message
    return 1
  | .error (message, false) => misuse s 1 message
  | .ok ts => use ts

/-- A directory to put files into cannot be the name of one of them as well. -/
def withNaming (s : Start) (o : Options) (message : String) (use : Activity Nat) : Activity Nat :=
  if 1 < o.given.countP (·.1 == 't') then do
    complain s (text "multiple target directories specified")
    return 1
  else if o.has 't' && o.has 'T' && !o.operands.isEmpty then do
    complain s (text message)
    return 1
  else use

def bothTargets : String := "cannot combine --target-directory (-t) and --no-target-directory (-T)"

def namingOf (o : Options) : Naming :=
  match o.last? 't' with
  | some d => .directory d
  | none => if o.has 'T' then .exact else .last

/-- Two names with what stands between them in messages. -/
def arrow (t : Transfer) : Bytes := always t.source ++ text " -> " ++ always t.target

def sameFile (s : Start) (t : Transfer) : Activity Nat := do
  complain s (always t.source ++ text " and " ++ always t.target ++ text " are the same file")
  return 1

/-! ## Backups -/

/-- How the other names of files that are in the way are made. -/
inductive BackupNames where
  | suffix
  | numbers
  /-- Numbers for a file that has numbered backups already, else a suffix. -/
  | asBefore
  deriving DecidableEq

structure Backups where
  names : BackupNames
  suffix : Bytes

def backupKinds : Choices (Option BackupNames) :=
  [(["none", "off"], none), (["simple", "never"], some .suffix), (["existing", "nil"], some .asBefore),
    (["numbered", "t"], some .numbers)]

/-- The number of a backup. -/
def backupNumber? (path name : Bytes) : Option Nat :=
  let start := lastName path ++ text ".~"
  if start.isPrefixOf name then
    let digits := (name.drop start.length).dropLast
    if name.getLast? == some (Bytes.ascii '~') && !digits.isEmpty && digits.all Bytes.isDigit then
      some (Bytes.number digits)
    else none
  else none

def backupName (b : Backups) (path : Bytes) (v : View) : Bytes :=
  let siblings := match v.tree.locate true v.cwd ((Path.parent? path).getD Path.here) with
    | .ok (l, _) => v.tree.namesIn l
    | .error _ => []
  let last := (siblings.filterMap (backupNumber? path)).foldl max 0
  if b.names = .numbers || (b.names = .asBefore && last > 0) then
    path ++ text s!".~{last + 1}~"
  else path ++ b.suffix

/-- Gives a file that is in the way another name. -/
def backUp (b : Backups) (path : Bytes) : Activity Bytes := do
  let name ← Activity.look (backupName b path)
  Activity.change fun v => ((), match v.tree.rename v.cwd path name with
    | .ok t => t
    | .error _ => v.tree)
  return name

/-- What is said of a backup behind the names of a transfer. -/
def backupNote : Option Bytes → Bytes
  | some name => text " (backup: " ++ always name ++ text ")"
  | none => []

/-- Goes on with the backups that options ask for. -/
def withBackups (s : Start) (o : Options) (use : Option Backups → Activity Nat) : Activity Nat :=
  let suffix := (o.last? 'S').getD (text "~")
  let word := (o.last? 'Β').getD []
  if (o.lastOf? ['b', 'Β', 'S']).isNone then use none
  else if word.isEmpty then use (some ⟨.asBefore, suffix⟩)
  else withChoice s 1 backupKinds "backup type" word fun names => use (names.map (⟨·, suffix⟩))

/-! ## One transfer after another -/

/-- What is remembered of the transfers of one command. -/
structure Progress where
  /-- A source that was named before is left out. -/
  skipsRepeated : Bool
  backups : Option Backups
  sources : List Location
  targets : List Location

/-- A transfer would destroy what an earlier one made. -/
def Progress.endangers (p : Progress) (source : Entry) (target : Except Errno (Location × Entry)) : Bool :=
  !source.isDirectory && !(p.backups.any fun b => b.names = .numbers) &&
    match target with
    | .ok (m, e) => !e.isDirectory && p.targets.contains m
    | .error _ => false

/-- Does something for each transfer, but not twice for a source, and never to what was just made. -/
def runOnce (s : Start) (p : Progress) (use : Transfer → Activity Nat) : List Transfer → (worst : Nat) → Activity Nat
  | [], worst => return worst
  | t :: rest, worst => do
    match ← entryOf t.source with
    | .error _ =>
      let own ← use t
      runOnce s p use rest (max worst own)
    | .ok (l, e) =>
      if p.skipsRepeated && p.sources.contains l && (e.isDirectory || p.backups.isNone) then
        complain s (text ("warning: source " ++ (if e.isDirectory then "directory " else "file ")) ++ always t.source ++
          text " specified more than once")
        runOnce s p use rest worst
      else if p.endangers e (← entryOf t.target) then
        complain s (text "will not overwrite just-created " ++ always t.target ++ text " with " ++ always t.source)
        runOnce s p use rest (max worst 1)
      else
        let own ← use t
        let made := match ← entryOf t.target with
          | .ok (m, _) => if own = 0 then [m] else []
          | .error _ => []
        runOnce s { p with sources := l :: p.sources, targets := made ++ p.targets } use rest (max worst own)

/-- Removes a file that is in the way; nothing happens if that is not possible. -/
def clear (path : Bytes) : Activity Unit :=
  Activity.change fun v => ((), match v.tree.unlink v.cwd path with
    | .ok tree => tree
    | .error _ => v.tree)

/-! ## cp -/

inductive Following where
  | always | arguments | never
  deriving DecidableEq

inductive Clobbering where
  | always | never | ask | older
  deriving DecidableEq

structure Copying where
  recursive : Bool
  following : Following
  clobbering : Clobbering
  preserves : Bool
  forces : Bool
  verbose : Bool
  backups : Option Backups
  links : Bool
  symlinks : Bool
  parents : Bool
  removesFirst : Bool

/-- A file is as new as another one, or newer. -/
def isUpToDate (v : View) (source target : Location) : Bool := !v.tree.isLater source target

/-- A file that is there may be replaced. -/
def mayReplace (s : Start) (c : Clobbering) (t : Transfer) (source target : Location) : Activity Bool := do
  match c with
  | .always => return true
  | .never => return false
  | .ask => agrees s (text "overwrite " ++ always t.target)
  | .older => return !(← Activity.look fun v => isUpToDate v source target)

def contentOf (e : Entry) : Bytes :=
  match e with
  | .file _ content => content
  | _ => []

/-- Writes a copy of a file. A new file gets the mode of the old one as far as the mask allows, or all of it. -/
def writeCopy (c : Copying) (e : Entry) (target : Bytes) : Activity (Except Errno Unit) :=
  Activity.alter fun v => do
    let mode := if c.preserves then e.mode else maskedMode v (e.mode &&& 0o777)
    let (l, t) ← v.tree.openForWriting true mode v.cwd target
    let t := match t.entry? l, e with
      | some (.file _ _), .program name => t.insert l (.program name)
      | some (.file old _), e => t.insert l (.file (if c.preserves then e.mode else old) (contentOf e))
      | _, _ => t
    return t

def copyFailure (s : Start) (t : Transfer) (e : Errno) : Activity Nat :=
  let reason := if e = .isDirectory && t.target.getLast? == some Bytes.slash then Errno.notDirectory else e
  failure s "cannot create regular file" t.target reason

def linkFailure (s : Start) (kind : String) (t : Transfer) (e : Errno) : Activity Nat := do
  complain s (text s!"cannot create {kind} link " ++ always t.target ++ text " to " ++ always t.source ++
    text (": " ++ e.text))
  return 1

/-- What is done to a file that is in the way of a copy, and the name of its backup. -/
def makeRoom (c : Copying) (path : Bytes) : Activity (Option Bytes) := do
  match c.backups with
  | some b => return some (← backUp b path)
  | none =>
    if c.removesFirst || (c.forces && (c.links || c.symlinks)) then
      clear path
      if c.verbose && c.removesFirst then write 1 (text "removed " ++ always path ++ [Bytes.newline])
    return none

/-- A link to a name that is relative has to lie in the current directory. -/
def isMisleading (t : Transfer) (v : View) : Bool :=
  !Path.isAbsolute t.source &&
    match v.tree.locate true v.cwd ((Path.parent? t.target).getD Path.here) with
    | .ok (l, _) => l != v.cwd
    | .error _ => false

def copyFile (s : Start) (c : Copying) (t : Transfer) (l : Location) (e : Entry) : Activity Nat := do
  let there ← entryOf t.target
  match ← targetOf t.target with
  | .ok (m, old) =>
    let isLink := there.toOption.any fun n => n.2.isLink
    let isOther := there.toOption.any fun n => n.1 != l
    if m = l && !(c.removesFirst && isLink) && !(c.backups.isSome && isOther) then sameFile s t
    else if old.isDirectory then
      complain s (text "cannot overwrite directory " ++ always t.target ++ text " with non-directory")
      return 1
    else if ← mayReplace s c.clobbering t l m then finish (← makeRoom c t.target)
    else return 0
  | .error err =>
    match there.isOk, err with
    | false, .noEntry => finish none
    | true, .noEntry | true, .linkLoop =>
      if c.removesFirst || c.forces || c.backups.isSome then
        let name ← makeRoom c t.target
        if name.isNone then clear t.target
        finish name
      else if err = .noEntry then
        complain s (text "not writing through dangling symlink " ++ always t.target)
        return 1
      else failure s "cannot stat" t.target err
    | _, _ => failure s "cannot stat" t.target err
where
  finish (backup : Option Bytes) : Activity Nat := do
    let announce : Activity Unit :=
      if c.verbose then write 1 (arrow t ++ backupNote backup ++ [Bytes.newline]) else return ()
    if c.symlinks && (← Activity.look (isMisleading t)) then
      complain s (ifNeeded t.target ++ text ": can make relative symbolic links only in current directory")
      return 1
    else if c.symlinks then
      match ← Activity.alter fun v => v.tree.makeLink t.source v.cwd t.target with
      | .ok _ =>
        announce
        return 0
      | .error err => linkFailure s "symbolic" t err
    else if c.links then
      match ← Activity.alter fun v => v.tree.shareFile (l, e) v.cwd t.target with
      | .ok _ =>
        announce
        return 0
      | .error err => linkFailure s "hard" t err
    else
      announce
      match ← writeCopy c e t.target with
      | .ok _ => return 0
      | .error err => copyFailure s t err

def copyLink (s : Start) (c : Copying) (t : Transfer) (target : Bytes) : Activity Nat := do
  match ← entryOf t.target with
  | .ok (_, .directory _) =>
    complain s (text "cannot overwrite directory " ++ always t.target ++ text " with non-directory")
    return 1
  | .ok _ =>
    clear t.target
  | .error _ => pure ()
  if c.verbose then write 1 (arrow t ++ [Bytes.newline])
  match ← Activity.alter fun v => v.tree.makeLink target v.cwd t.target with
  | .ok _ => return 0
  | .error e => failure s "cannot create symbolic link" t.target e

/-- The copy of an argument that is under way, and the first directory that was made for it. -/
structure Origin where
  whole : Transfer
  made : Option Location

/-- A copy of an entry and, if asked for, of all below it. -/
def copyTree (s : Start) (c : Copying) : (depth : Nat) → Origin → Transfer → Activity Nat
  | 0, _, _ => return 1
  | depth + 1, o, t => do
    let isArgument := o.whole.source = t.source
    let follows := c.following = .always || (c.following = .arguments && isArgument)
    match ← if follows then targetOf t.source else entryOf t.source with
    | .error e => failure s "cannot stat" t.source e
    | .ok (_, .link target) => copyLink s c t target
    | .ok (l, .directory mode) =>
      if !c.recursive then
        complain s (text "-r not specified; omitting directory " ++ always t.source)
        return 1
      else if o.made = some l then
        complain s (text "cannot copy a directory, " ++ always o.whole.source ++ text ", into itself, " ++
          always o.whole.target)
        return 1
      else
        let children (o : Origin) : Activity Nat := do
          let names ← Activity.look fun v => v.tree.namesIn l
          runEach (copyTree s c depth o) (names.map fun n => ⟨Path.join t.source n, Path.join t.target n⟩) 0
        match ← targetOf t.target with
        | .ok (m, .directory _) =>
          if m = l then sameFile s t else children o
        | .ok _ =>
          complain s (text "cannot overwrite non-directory " ++ always t.target ++ text " with directory " ++
            always t.source)
          return 1
        | .error .noEntry =>
          match ← Activity.alter fun v =>
              v.tree.makeDirectory (if c.preserves then mode else maskedMode v mode) v.cwd t.target with
          | .error e => failure s "cannot create directory" t.target e
          | .ok _ =>
            if c.verbose then write 1 (arrow t ++ [Bytes.newline])
            let made := (← targetOf t.target).toOption.map (·.1)
            children { o with made := o.made <|> made }
        | .error e => failure s "cannot stat" t.target e
    | .ok (l, e) => copyFile s c t l e

/-- Makes the directories above a target that are named like those of the source. -/
def copyParents (s : Start) (c : Copying) (t : Transfer) : Activity Nat := do
  let chain := (Path.ancestors t.target).reverse.dropLast
  let named := (Path.ancestors t.source).length
  let announce (made : Bytes) : Activity Unit := do
    if c.verbose then
      let source := made.drop (t.target.length - t.source.length)
      write 1 (source ++ text " -> " ++ made ++ [Bytes.newline])
  makeMissing s announce none (chain.drop (chain.length + 1 - named))

def cpOptions : List OptionSpec :=
  [⟨'a', .nothing, ["archive"]⟩, ⟨'b', .nothing, []⟩, ⟨'Β', .maybe, ["backup"]⟩, ⟨'d', .nothing, []⟩,
    ⟨'f', .nothing, ["force"]⟩, ⟨'H', .nothing, []⟩, ⟨'i', .nothing, ["interactive"]⟩, ⟨'l', .nothing, ["link"]⟩,
    ⟨'L', .nothing, ["dereference"]⟩, ⟨'n', .nothing, ["no-clobber"]⟩, ⟨'P', .nothing, ["no-dereference"]⟩,
    ⟨'p', .nothing, []⟩, ⟨'Π', .maybe, ["preserve"]⟩, ⟨'Ν', .argument, ["no-preserve"]⟩, ⟨'r', .nothing, []⟩,
    ⟨'R', .nothing, ["recursive"]⟩, ⟨'Ρ', .maybe, ["reflink"]⟩, ⟨'Δ', .nothing, ["remove-destination"]⟩,
    ⟨'Σ', .argument, ["sparse"]⟩, ⟨'s', .nothing, ["symbolic-link"]⟩, ⟨'S', .argument, ["suffix"]⟩,
    ⟨'t', .argument, ["target-directory"]⟩, ⟨'T', .nothing, ["no-target-directory"]⟩, ⟨'u', .nothing, ["update"]⟩,
    ⟨'v', .nothing, ["verbose"]⟩, ⟨'x', .nothing, ["one-file-system"]⟩, ⟨'Θ', .nothing, ["parents"]⟩,
    ⟨'Φ', .nothing, ["strip-trailing-slashes"]⟩, ⟨'Α', .nothing, ["attributes-only"]⟩, ⟨'Γ', .nothing, ["copy-contents"]⟩]

def clobberingOf (o : Options) : Clobbering :=
  match o.lastOf? ['f', 'i', 'n'] with
  | some 'i' => .ask
  | some 'n' => .never
  | _ => if o.has 'u' then .older else .always

def copyingOf (o : Options) (backups : Option Backups) : Copying :=
  let recursive := o.has 'r' || o.has 'R' || o.has 'a'
  { recursive := recursive
    following := match o.lastOf? ['L', 'P', 'H', 'd', 'a'] with
      | some 'L' => .always
      | some 'H' => .arguments
      | some _ => .never
      | none => if recursive then .never else .always
    clobbering := clobberingOf o
    preserves := o.has 'p' || o.has 'a' || o.has 'Π'
    forces := o.has 'f'
    verbose := o.has 'v'
    backups := backups
    links := o.has 'l'
    symlinks := o.has 's'
    parents := o.has 'Θ'
    removesFirst := o.has 'Δ' }

def withoutLeadingSlashes (path : Bytes) : Bytes := path.dropWhile (· == Bytes.slash)

/-- Copies to the names that the sources have, within a directory. -/
def copyNested (s : Start) (c : Copying) (o : Options) (copy : Transfer → Activity Nat) : Activity Nat := do
  let directory := (o.last? 't').getD (o.operands.getLast?.getD [])
  let sources := if o.has 't' then o.operands else o.operands.dropLast
  if sources.isEmpty then withTransfers s (namingOf o) true o.operands (runEach copy · 0)
  else if !(← isDirectory directory) then misuse s 1 (text "with --parents, the destination must be a directory")
  else
    let nested (source : Bytes) : Transfer := ⟨source, Path.join directory (withoutLeadingSlashes source)⟩
    runOnce s ⟨true, c.backups, [], []⟩ (fun t => do
      let above ← copyParents s c t
      if above = 0 then copy t else return above) (sources.map nested) 0

/-- Backups are made of files that are replaced, so that nothing can be kept from being replaced as well. -/
def excludesBackups (s : Start) : Activity Nat :=
  misuse s 1 (text "options --backup and --no-clobber are mutually exclusive")

def cp : Utility := fun s =>
  withOptions cpOptions 1 true s fun o => withBackups s o fun backups =>
    let c := copyingOf o backups
    let copy (t : Transfer) : Activity Nat := copyTree s c deepestTree ⟨t, none⟩ t
    if backups.isSome && c.clobbering = .never then excludesBackups s
    else withNaming s o bothTargets <| if c.parents then copyNested s c o copy
    else withTransfers s (namingOf o) true o.operands (runOnce s ⟨true, backups, [], []⟩ copy · 0)

/-! ## mv -/

structure Moving where
  clobbering : Clobbering
  verbose : Bool
  backups : Option Backups

/-- What is said of a move that failed. -/
def moveFailure (s : Start) (t : Transfer) (source : Entry) (target : Option Entry) (e : Errno) : Activity Nat := do
  match source.isDirectory, target.map Entry.isDirectory with
  | true, some false =>
    complain s (text "cannot overwrite non-directory " ++ always t.target ++ text " with directory " ++ always t.source)
  | false, some true =>
    complain s (text "cannot overwrite directory " ++ always t.target ++ text " with non-directory")
  | _, _ =>
    if e = .invalid then
      complain s (text "cannot move " ++ always t.source ++ text " to a subdirectory of itself, " ++ always t.target)
    else if e = .notEmpty then complain s (refusal (text "cannot overwrite " ++ always t.target) e)
    else complain s (refusal (text "cannot move " ++ always t.source ++ text " to " ++ always t.target) e)
  return 1

/-- Moves an entry to a name that is free by now. -/
def moveTo (s : Start) (m : Moving) (t : Transfer) (source : Entry) (target : Option Entry) (backup : Option Bytes) :
    Activity Nat := do
  match ← Activity.alter fun v => v.tree.rename v.cwd t.source t.target with
  | .ok _ =>
    if m.verbose then write 1 (text "renamed " ++ arrow t ++ backupNote backup ++ [Bytes.newline])
    return 0
  | .error e => moveFailure s t source target e

def moveOne (s : Start) (m : Moving) (t : Transfer) : Activity Nat := do
  match ← entryOf t.source, ← entryOf t.target with
  | .error e, _ => failure s "cannot stat" t.source e
  | .ok (_, source), .error e =>
    if e = .noEntry then moveTo s m t source none none else failure s "cannot stat" t.target e
  | .ok (l, source), .ok (k, target) =>
    let sameBehind := source.isLink && ((← targetOf t.source).toOption.any fun n => n.1 == k)
    if l = k || sameBehind then sameFile s t
    else if !(← mayReplace s m.clobbering t l k) then return 0
    else match m.backups with
      | some b => moveTo s m t source none (some (← backUp b t.target))
      | none => moveTo s m t source (some target) none

def mvOptions : List OptionSpec :=
  [⟨'b', .nothing, []⟩, ⟨'Β', .maybe, ["backup"]⟩, ⟨'f', .nothing, ["force"]⟩, ⟨'i', .nothing, ["interactive"]⟩,
    ⟨'n', .nothing, ["no-clobber"]⟩, ⟨'Φ', .nothing, ["strip-trailing-slashes"]⟩, ⟨'S', .argument, ["suffix"]⟩,
    ⟨'t', .argument, ["target-directory"]⟩, ⟨'T', .nothing, ["no-target-directory"]⟩, ⟨'u', .nothing, ["update"]⟩,
    ⟨'v', .nothing, ["verbose"]⟩, ⟨'Z', .nothing, ["context"]⟩]

def mv : Utility := fun s =>
  withOptions mvOptions 1 true s fun o => withBackups s o fun backups =>
    let m : Moving := ⟨clobberingOf o, o.has 'v', backups⟩
    if backups.isSome && m.clobbering = .never then excludesBackups s
    else withNaming s o bothTargets <| withTransfers s (namingOf o) true o.operands (runOnce s ⟨false, backups, [], []⟩ (moveOne s m) · 0)

/-! ## ln -/

structure Linking where
  symbolic : Bool
  forces : Bool
  verbose : Bool
  relative : Bool
  asks : Bool
  backups : Option Backups
  follows : Bool

/-- The way from one directory to an entry, both by their locations. -/
def wayTo (source : Location) : Location → Bytes
  | directory =>
    let common := (source.zip directory).takeWhile fun p => p.1 == p.2
    let ups := List.replicate (directory.length - common.length) Path.up
    let way := List.intercalate [Bytes.slash] (ups ++ source.drop common.length)
    if way.isEmpty then Path.here else way

/-- The source of a transfer as it is called from the directory of the target. -/
def relativeSource (t : Transfer) (v : View) : Bytes :=
  match v.tree.find (.visit true) v.cwd t.source, v.tree.find .nest v.cwd t.target with
  | .ok (.existing l _), .ok (.absent m) => wayTo l m.dropLast
  | .ok (.absent l), .ok (.absent m) => wayTo l m.dropLast
  | _, _ => t.source

def linkOne (s : Start) (k : Linking) (t : Transfer) : Activity Nat := do
  let kind := if k.symbolic then "symbolic" else "hard"
  let source ← if k.follows then targetOf t.source else entryOf t.source
  let target ← entryOf t.target
  let refuse (e : Errno) : Activity Nat := do
    let sourceText := match k.symbolic, e with
      | true, _ => if t.source.isEmpty then text " -> " ++ always t.source else []
      | false, .entryExists => []
      | false, _ => text " => " ++ always t.source
    complain s (text ("failed to create " ++ kind ++ " link ") ++ always t.target ++ sourceText ++ text (": " ++ e.text))
    return 1
  match k.symbolic, source with
  | false, .error e => failure s "failed to access" t.source e
  | false, .ok (_, .directory _) =>
    complain s (ifNeeded t.source ++ text ": hard link not allowed for directory")
    return 1
  | _, _ =>
    let isSame := match source, target with
      | .ok (l, _), .ok (m, _) => l = m
      | _, _ => false
    let replaces := k.forces || k.asks || k.backups.isSome
    let goesOn ← if k.asks && target.isOk && !isSame then agrees s (text "replace " ++ always t.target) else pure true
    if isSame && replaces then sameFile s t
    else if !goesOn then return 0
    else
      let content ← if k.relative then Activity.look (relativeSource t) else pure t.source
      let backup ← match k.backups, target with
        | some b, .ok _ => do pure (some (← backUp b t.target))
        | _, _ => do
          if replaces then clear t.target
          pure none
      let made ← match k.symbolic, source with
        | true, _ =>
          if content.isEmpty then pure (.error .noEntry)
          else Activity.alter fun v => v.tree.makeLink content v.cwd t.target
        | false, .ok found => Activity.alter fun v => v.tree.shareFile found v.cwd t.target
        | false, .error e => pure (.error e)
      match made with
      | .ok _ =>
        if k.verbose then
          let kept := match backup with
            | some name => always name ++ text " ~ "
            | none => []
          write 1 (kept ++ always t.target ++ text (if k.symbolic then " -> " else " => ") ++ always content ++
            [Bytes.newline])
        return 0
      | .error e => refuse e

def lnOptions : List OptionSpec :=
  [⟨'b', .nothing, []⟩, ⟨'Β', .maybe, ["backup"]⟩, ⟨'d', .nothing, ["directory"]⟩, ⟨'F', .nothing, []⟩,
    ⟨'f', .nothing, ["force"]⟩, ⟨'i', .nothing, ["interactive"]⟩, ⟨'L', .nothing, ["logical"]⟩,
    ⟨'n', .nothing, ["no-dereference"]⟩, ⟨'P', .nothing, ["physical"]⟩, ⟨'r', .nothing, ["relative"]⟩,
    ⟨'s', .nothing, ["symbolic"]⟩, ⟨'S', .argument, ["suffix"]⟩, ⟨'t', .argument, ["target-directory"]⟩,
    ⟨'T', .nothing, ["no-target-directory"]⟩, ⟨'v', .nothing, ["verbose"]⟩]

def ln : Utility := fun s =>
  withOptions lnOptions 1 true s fun o => withBackups s o fun backups => do
    let asks := o.lastOf? ['f', 'i'] = some 'i'
    let k : Linking := ⟨o.has 's', o.has 'f' && !asks, o.has 'v', o.has 'r', asks, backups, o.has 'L'⟩
    let linkAll : List Transfer → Activity Nat := (runEach (linkOne s k) · 0)
    if o.has 'r' && !o.has 's' && !o.operands.isEmpty then
      complain s (text "cannot do --relative without --symbolic")
      return 1
    else withNaming s o "cannot combine --target-directory and --no-target-directory" do match o.operands, namingOf o with
    | [a], .last => linkOne s k (intoDirectory Path.here a)
    | operands@(_ :: _), .directory d =>
      match ← targetOf d with
      | .error e => failure s "failed to access" d e
      | .ok _ => withTransfers s (.directory d) (!o.has 'n') operands linkAll
    | operands, naming => withTransfers s naming (!o.has 'n') operands linkAll

def link : Utility := fun s =>
  withOptions [] 1 true s fun o => do
    match o.operands with
    | [a, b] =>
      match ← entryOf a with
      | .error e =>
        complain s (text "cannot create link " ++ always b ++ text " to " ++ always a ++ text (": " ++ e.text))
        return 1
      | .ok found =>
        match ← Activity.alter fun v => v.tree.shareFile found v.cwd b with
        | .ok _ => return 0
        | .error e =>
          complain s (text "cannot create link " ++ always b ++ text " to " ++ always a ++ text (": " ++ e.text))
          return 1
    | [] => misuse s 1 (text "missing operand")
    | [a] => misuse s 1 (text "missing operand after " ++ quoted a)
    | _ :: _ :: extra :: _ => misuse s 1 (text "extra operand " ++ quoted extra)

/-! ## install -/

def installOptions : List OptionSpec :=
  [⟨'b', .nothing, []⟩, ⟨'c', .nothing, []⟩, ⟨'C', .nothing, ["compare"]⟩, ⟨'d', .nothing, ["directory"]⟩,
    ⟨'Β', .maybe, ["backup"]⟩, ⟨'D', .nothing, []⟩, ⟨'g', .argument, ["group"]⟩, ⟨'m', .argument, ["mode"]⟩, ⟨'o', .argument, ["owner"]⟩,
    ⟨'p', .nothing, ["preserve-timestamps"]⟩, ⟨'s', .nothing, ["strip"]⟩, ⟨'S', .argument, ["suffix"]⟩,
    ⟨'t', .argument, ["target-directory"]⟩, ⟨'T', .nothing, ["no-target-directory"]⟩, ⟨'v', .nothing, ["verbose"]⟩]

def installMode : Nat := 0o755

def setModeOf (path : Bytes) (mode : Nat) : Activity Unit :=
  Activity.change fun v => ((), match v.stat path with
    | .ok (l, _) => v.tree.setMode l mode
    | .error _ => v.tree)

/-- Makes the directories of a chain that are missing. -/
def installDirectories (s : Start) (o : Options) (mode : Option Nat) (path : Bytes) : Activity Nat :=
  let announce (made : Bytes) : Activity Unit := do
    if o.has 'v' then write 1 (s.name ++ text ": creating directory " ++ always made ++ [Bytes.newline])
  makeMissing s announce mode (Path.ancestors path).reverse

def installOne (s : Start) (o : Options) (backups : Option Backups) (mode : Nat) (t : Transfer) : Activity Nat := do
  let above ← match o.has 'D', Path.parent? t.target with
    | true, some directory => installDirectories s o none directory
    | _, _ => pure 0
  if above != 0 then return above
  match ← targetOf t.source with
  | .error e => failure s "cannot stat" t.source e
  | .ok (_, .directory _) =>
    complain s (text "omitting directory " ++ always t.source)
    return 1
  | .ok (l, e) =>
    let c : Copying := { copyingOf ⟨[], []⟩ backups with removesFirst := true, verbose := o.has 'v' }
    let status ← copyFile s c t l e
    if status = 0 then setModeOf t.target mode
    return status

def install : Utility := fun s =>
  withOptions installOptions 1 true s fun o => withBackups s o fun backups => do
    match ← Activity.look (modeOption o (o.has 'd') 0) with
    | .error m =>
      complain s (text "invalid mode " ++ quoted m)
      return 1
    | .ok given =>
      let mode := given.getD installMode
      if o.has 'd' && o.has 't' then
        complain s (text "target directory not allowed when installing a directory")
        return 1
      else if o.has 'd' then
        if o.operands.isEmpty then misuse s 1 (text "missing file operand")
        else forEach (fun path => do
          let status ← installDirectories s o (some mode) path
          if status = 0 then setModeOf path mode
          return status) o.operands 0
      else withNaming s o bothTargets do
        let above ← match o.has 'D', o.last? 't' with
          | true, some directory => if o.operands.isEmpty then pure 0 else installDirectories s o none directory
          | _, _ => pure 0
        if above != 0 then return above
        else
          let progress : Progress := ⟨false, backups, [], []⟩
          withTransfers s (namingOf o) true o.operands (runOnce s progress (installOne s o backups mode) · 0)

end DesktopRefresh.Utility

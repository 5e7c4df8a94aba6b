import DesktopRefresh.Utility.Directory

/-!
# Utilities for the names of files

Parts of paths, what they lead to, and new names.
-/

namespace DesktopRefresh.Utility

open Kernel (Activity View)

/-! ## Parts of paths -/

/-- The last part of a path, or the root itself. -/
def baseOf (path : Bytes) : Bytes :=
  if path.isEmpty then [] else
    let name := lastName path
    if name.isEmpty then [Bytes.slash] else name

def withoutSuffix (suffix name : Bytes) : Bytes :=
  if suffix != name && suffix.reverse.isPrefixOf name.reverse then name.take (name.length - suffix.length) else name

def ends (o : Options) : Bytes := if o.has 'z' then [0] else [Bytes.newline]

def basename : Utility := fun s =>
  withOptions [⟨'a', .nothing, ["multiple"]⟩, ⟨'s', .argument, ["suffix"]⟩, ⟨'z', .nothing, ["zero"]⟩] 1 false s fun o => do
    let many := o.has 'a' || o.has 's'
    match o.operands with
    | [] => misuse s 1 (text "missing operand")
    | path :: rest =>
      if many then
        deliver s ((path :: rest).flatMap fun p => withoutSuffix ((o.last? 's').getD []) (baseOf p) ++ ends o) 0
      else match rest with
        | _ :: extra :: _ => misuse s 1 (text "extra operand " ++ quoted extra)
        | rest => deliver s (withoutSuffix (rest.headD []) (baseOf path) ++ ends o) 0

/-- A path without its last part and the slashes around that. -/
def directoryOf (path : Bytes) : Bytes :=
  let trimmed := withoutSlashes path
  let above := (trimmed.reverse.dropWhile (· != Bytes.slash)).reverse
  if above.isEmpty then if trimmed == [Bytes.slash] then trimmed else Path.here
  else withoutSlashes above

def dirname : Utility := fun s =>
  withOptions [⟨'z', .nothing, ["zero"]⟩] 1 false s fun o => do
    if o.operands.isEmpty then misuse s 1 (text "missing operand")
    else deliver s (o.operands.flatMap fun p => directoryOf p ++ ends o) 0

/-! ## Canonical paths -/

/-- How much of a path has to be there. -/
inductive Presence where
  | all | allButLast | nothing
  deriving DecidableEq

/-- Follows a path over parts that are missing. -/
def followMissing (v : View) : (fuel : Nat) → Location → List Bytes → Location
  | 0, l, _ => l
  | _, l, [] => l
  | fuel + 1, l, part :: rest =>
    if part.isEmpty || part = Path.here then followMissing v fuel l rest
    else if part = Path.up then followMissing v fuel l.dropLast rest
    else match v.tree.locate true l part with
      | .ok (m, _) => followMissing v fuel m rest
      | .error _ =>
        match v.tree.entry? (l ++ [part]) with
        | some (.link target) =>
          followMissing v fuel (if Path.isAbsolute target then [] else l) (Bytes.splitAt Bytes.slash target ++ rest)
        | _ => followMissing v fuel (l ++ [part]) rest

/-- The path without links, or what keeps it from being found. -/
def canonical (presence : Presence) (v : View) (path : Bytes) : Except Errno Bytes :=
  if path.isEmpty then .error .noEntry
  else match presence with
    | .all => (v.stat path).map fun (l, _) => Path.ofParts true l
    | .allButLast =>
      match v.stat path, v.tree.find .create v.cwd (withoutSlashes path) with
      | .ok (l, _), _ => .ok (Path.ofParts true l)
      | .error _, .ok (.absent l) => .ok (Path.ofParts true l)
      | .error e, _ => .error e
    | .nothing =>
      .ok (Path.ofParts true (followMissing v FileTree.longestPath (if Path.isAbsolute path then [] else v.cwd)
        (Bytes.splitAt Bytes.slash path)))

def presenceOf (o : Options) : Presence :=
  match o.lastOf? ['f', 'e', 'm'] with
  | some 'e' => .all
  | some 'm' => .nothing
  | _ => .allButLast

def readlink : Utility := fun s =>
  withOptions [⟨'f', .nothing, ["canonicalize"]⟩, ⟨'e', .nothing, ["canonicalize-existing"]⟩,
      ⟨'m', .nothing, ["canonicalize-missing"]⟩, ⟨'n', .nothing, ["no-newline"]⟩, ⟨'q', .nothing, ["quiet"]⟩,
      ⟨'s', .nothing, ["silent"]⟩, ⟨'v', .nothing, ["verbose"]⟩, ⟨'z', .nothing, ["zero"]⟩] 1 true s fun o => do
    if o.operands.isEmpty then misuse s 1 (text "missing operand")
    else
      let isCanonical := (o.lastOf? ['f', 'e', 'm']).isSome
      let finish := if o.has 'n' && o.operands.length = 1 then [] else ends o
      forEach (fun path => do
        let answer : Except Errno Bytes ← Activity.look fun v =>
          if isCanonical then canonical (presenceOf o) v path
          else match v.linkStat path with
            | .ok (_, .link target) => .ok target
            | .ok _ => .error .invalid
            | .error e => .error e
        match answer with
        | .ok found =>
          write 1 (found ++ finish)
          return 0
        | .error e =>
          if o.has 'v' then complain s (refusal (ifNeeded path) e)
          return 1) o.operands 0

/-- The way from one canonical path to another. -/
def relativeTo (base path : Bytes) : Bytes :=
  let source := Path.parts path
  let directory := Path.parts base
  let common := (source.zip directory).takeWhile fun p => p.1 == p.2
  let way := List.replicate (directory.length - common.length) Path.up ++ source.drop common.length
  if way.isEmpty then Path.here else List.intercalate [Bytes.slash] way

/-- A path made absolute by its text alone. -/
def plainAbsolute (v : View) (path : Bytes) : Bytes :=
  let start := if Path.isAbsolute path then [] else v.cwd
  let step (seen : List Bytes) (part : Bytes) : List Bytes := if part = Path.up then seen.dropLast else seen ++ [part]
  Path.ofParts true ((Path.parts path).foldl step start)

/-- A path is that of a directory or lies below it. -/
def isBelow (directory path : Bytes) : Bool := (Path.parts directory).isPrefixOf (Path.parts path)

def realpath : Utility := fun s =>
  withOptions [⟨'e', .nothing, ["canonicalize-existing"]⟩, ⟨'m', .nothing, ["canonicalize-missing"]⟩,
      ⟨'L', .nothing, ["logical"]⟩, ⟨'P', .nothing, ["physical"]⟩, ⟨'q', .nothing, ["quiet"]⟩,
      ⟨'s', .nothing, ["strip", "no-symlinks"]⟩, ⟨'z', .nothing, ["zero"]⟩, ⟨'Ρ', .argument, ["relative-to"]⟩,
      ⟨'Β', .argument, ["relative-base"]⟩] 1 true s fun o => do
    if o.operands.isEmpty then misuse s 1 (text "missing operand")
    else
      let find (path : Bytes) : Activity (Except Errno Bytes) := Activity.look fun v =>
        if o.has 's' then .ok (plainAbsolute v path) else canonical (presenceOf o) v path
      let limit := (o.last? 'Β').getD Path.here
      let start := (o.last? 'Ρ').getD limit
      match ← find start, ← find limit with
      | .error e, _ =>
        complain s (refusal (ifNeeded start) e)
        return 1
      | _, .error e =>
        complain s (refusal (ifNeeded limit) e)
        return 1
      | .ok start, .ok limit =>
        forEach (fun path => do
          match ← find path with
          | .ok found =>
            let isRelative := (o.has 'Ρ' || o.has 'Β') &&
              (!o.has 'Β' || (isBelow limit start && isBelow limit found))
            write 1 ((if isRelative then relativeTo start found else found) ++ ends o)
            return 0
          | .error e =>
            if !o.has 'q' then complain s (refusal (ifNeeded path) e)
            return 1) o.operands 0

def pwd : Utility := fun s =>
  withOptions [⟨'L', .nothing, ["logical"]⟩, ⟨'P', .nothing, ["physical"]⟩] 1 true s fun o => do
    if !o.operands.isEmpty then complain s (text "ignoring non-option arguments")
    deliver s (Path.ofParts true (← Activity.look (·.cwd)) ++ [Bytes.newline]) 0

/-! ## New names -/

def nameLetters : List Char := "abcdefghijklmnopqrstuvwxyzABCDEFGHIJKLMNOPQRSTUVWXYZ0123456789".toList

/-- Letters that follow from a number. -/
def lettersOf : (count : Nat) → (seed : Nat) → Bytes
  | 0, _ => []
  | count + 1, seed =>
    let next := (seed * 6364136223846793005 + 1442695040888963407) % 2 ^ 64
    Bytes.ascii ((nameLetters[next / 2 ^ 33 % 62]?).getD 'a') :: lettersOf count next

/-- The last run of capital letters X in a template, and what stands before and after it. -/
def cutTemplate (template : Bytes) : Bytes × Nat × Bytes :=
  let x := Bytes.ascii 'X'
  let back := template.reverse
  let after := back.takeWhile (· != x)
  let run := (back.drop after.length).takeWhile (· == x)
  ((back.drop (after.length + run.length)).reverse, run.length, after.reverse)

def temporaryDirectory (s : Start) : Bytes :=
  match s.settings.lookup (text "TMPDIR") with
  | some d => if d.isEmpty then text "/tmp" else d
  | none => text "/tmp"

def mktemp : Utility := fun s =>
  withOptions [⟨'d', .nothing, ["directory"]⟩, ⟨'u', .nothing, ["dry-run"]⟩, ⟨'q', .nothing, ["quiet"]⟩,
      ⟨'p', .argument, []⟩, ⟨'Π', .maybe, ["tmpdir"]⟩, ⟨'t', .nothing, []⟩, ⟨'Σ', .argument, ["suffix"]⟩] 1 true s fun o => do
    match o.operands with
    | _ :: _ :: _ => misuse s 1 (text "too many templates")
    | operands =>
      let template := operands.headD (text "tmp.XXXXXXXXXX") ++ (o.last? 'Σ').getD []
      let (before, count, after) := cutTemplate template
      if o.has 't' && template.contains Bytes.slash then
        complain s (text "invalid template, " ++ quoted template ++ text ", contains directory separator")
        return 1
      else if count < 3 then
        complain s (text "too few X's in template " ++ quoted template)
        return 1
      else
        let given := (o.given.reverse.find? fun g => g.1 = 'p' || g.1 = 'Π').map (·.2)
        let directory : Option Bytes := match given with
          | some d => some (if d.isEmpty then temporaryDirectory s else d)
          | none => if o.has 't' || operands.isEmpty then some (temporaryDirectory s) else none
        let place (bs : Bytes) : Bytes := match directory with
          | some d => Path.join d bs
          | none => bs
        let v ← Activity.look id
        let path := place (before ++ lettersOf count (v.clock + v.id) ++ after)
        let kind := if o.has 'd' then "directory" else "file"
        let made ← if o.has 'u' then pure (.ok ())
          else if o.has 'd' then makeOne path (some 0o700)
          else do
            match ← Activity.call (.openFile path ⟨true, true, true, false, false, true⟩ 0o600) with
            | .ok n =>
              Activity.close n
              pure (.ok ())
            | .error e => pure (.error e)
        match made with
        | .ok _ => deliver s (path ++ [Bytes.newline]) 0
        | .error e =>
          if !o.has 'q' then
            complain s (text ("failed to create " ++ kind ++ " via template ") ++ always (place template) ++
              text (": " ++ e.text))
          return 1

/-! ## Sizes -/

def truncateTo (s : Start) (o : Options) (size : Bytes) (path : Bytes) : Activity Nat := do
  let sign := size.head?.filter fun b => (text "+-<>/%").contains b
  match bounded 0 mostCount (scaled? (if sign.isSome then size.drop 1 else size)) with
  | .error f =>
    complain s (text "Invalid number: " ++ quoted size ++ text f.message)
    return 1
  | .ok n =>
    let exists' := (← targetOf path).isOk
    if o.has 'c' && !exists' then return 0
    else match ← Activity.openFile path ⟨false, true, true, false, false, false⟩ with
      | .error e =>
        complain s (text "cannot open " ++ always path ++ text (" for writing: " ++ e.text))
        return 1
      | .ok k =>
        Activity.close k
        Activity.change fun v => ((), match v.stat path with
          | .ok (l, .file mode content) =>
            let old := content.length
            let new := match sign with
              | some b =>
                if b = Bytes.ascii '+' then old + n
                else if b = Bytes.ascii '-' then old - n
                else if b = Bytes.ascii '<' then min old n
                else if b = Bytes.ascii '>' then max old n
                else if b = Bytes.ascii '/' then old / max 1 n * n
                else (old + n - 1) / max 1 n * n
              | none => n
            v.tree.insert l (.file mode (content.take new ++ List.replicate (new - old) 0))
          | _ => v.tree)
        return 0

def truncate : Utility := fun s =>
  withOptions [⟨'c', .nothing, ["no-create"]⟩, ⟨'o', .nothing, ["io-blocks"]⟩, ⟨'r', .argument, ["reference"]⟩,
      ⟨'s', .argument, ["size"]⟩] 1 true s fun o => do
    match o.last? 's', o.last? 'r' with
    | none, none => misuse s 1 (text "you must specify either '--size' or '--reference'")
    | size, reference =>
      if o.operands.isEmpty then misuse s 1 (text "missing file operand")
      else
        let referenced ← match reference with
          | some path => do pure ((← targetOf path).toOption.map fun e => decimal e.2.size)
          | none => pure none
        forEach (truncateTo s o (size.getD (referenced.getD (text "0")))) o.operands 0

end DesktopRefresh.Utility

import DesktopRefresh.Utility.Finding.Expression

/-!
# Finding files

A tree of directories is gone through entry by entry, and an expression is evaluated for each of them.
-/

namespace DesktopRefresh.Utility

namespace Finding

open Kernel (Activity Outcome View)

/-! ## Evaluation -/

/-- An entry on the way. -/
structure Visit where
  path : Bytes
  /-- The argument that the way began with. -/
  root : Bytes
  depth : Nat
  loc : Location
  entry : Entry

structure State where
  pruned : Bool
  quits : Bool
  failed : Bool
  /-- The entries that wait for a command, by the command. -/
  waiting : List (List Bytes × List Bytes)
  /-- The descriptors of the files that are written to. -/
  outputs : List (Bytes × Nat)

abbrev Evaluating (α : Type) := StateT State Activity α

def kindOf : Entry → UInt8
  | .directory _ => Bytes.ascii 'd'
  | .link _ => Bytes.ascii 'l'
  | .device _ => Bytes.ascii 'c'
  | _ => Bytes.ascii 'f'

/-- The last part of a path; slashes alone stand for themselves. -/
def baseOf (path : Bytes) : Bytes :=
  let name := lastName path
  if name.isEmpty then path.take 1 else name

def parentOf (path : Bytes) : Bytes :=
  let bare := withoutSlashes path
  let front := (bare.reverse.dropWhile (· != Bytes.slash)).drop 1
  if bare.contains Bytes.slash then (if front.isEmpty then [Bytes.slash] else front.reverse) else Path.here

def fitsAnyCase (wild name : Bytes) : Bool := fitsName (wild.map Bytes.toLower) (name.map Bytes.toLower)

/-- A pattern of names with brackets and backslashes in it. -/
def fitsWild (wild name : Bytes) : Bool := Shell.Pattern.fits (Shell.Pattern.ofText (mark wild)) name
where
  mark : Bytes → Shell.Pattern.Marked
    | [] => []
    | [b] => [(b, false)]
    | b :: c :: rest => if b = Bytes.ascii '\\' then (c, true) :: mark rest else (b, false) :: mark (c :: rest)

def field (v : View) (x : Visit) (c : Char) : Option Bytes :=
  match c with
  | 'p' => some x.path
  | 'f' => some (baseOf x.path)
  | 'h' => some (parentOf x.path)
  | 'P' => some ((x.path.drop x.root.length).dropWhile (· == Bytes.slash))
  | 'H' => some x.root
  | 'd' => some (decimal x.depth)
  | 'y' | 'Y' => some [kindOf x.entry]
  | 'm' => some (octalText x.entry.mode)
  | 'M' => some (kindLetter x.entry :: modeText x.entry.mode)
  | 's' => some (decimal x.entry.size)
  | 'k' => some (decimal (blocksOf x.entry))
  | 'b' => some (decimal (blocksOf x.entry * 2))
  | 'n' => some (decimal (linkCount v.tree x.loc x.entry))
  | 'i' => some (decimal (entryNumber v.tree x.loc))
  | 'l' => some (match x.entry with
    | .link target => target
    | _ => [])
  | 'u' | 'g' => some (text "root")
  | 'U' | 'G' => some (text "0")
  | '%' => some (text "%")
  | c => some [Bytes.ascii '%', Bytes.ascii c]

def runFor (s : Start) (command : List Bytes) (directory : Option Bytes) : Activity Bool := do
  match command with
  | [] => return true
  | name :: args =>
    let child : Activity Nat := do
      match directory with
      | some d =>
        let _ ← Activity.call (.enter d)
      | none => pure ()
      let e ← become name args s.settings
      complain s (quoted name ++ text (": " ++ e.text))
      return 1
    match ← awaitEnd (← Activity.fork child.code) 1000 with
    | .exited 0 => return true
    | _ => return false

/-- Asks whether a command is to be run for an entry. -/
def permits (command : List Bytes) (path : Bytes) : Activity Bool := do
  write 2 (text "< " ++ command.headD [] ++ text " ... " ++ path ++ text " > ? ")
  match ← Activity.call (.readLine 0 Bytes.newline) with
  | .ok (b :: _) => return Bytes.toLower b = Bytes.ascii 'y'
  | _ => return false

def test (v : View) (x : Visit) : Primary → Bool
  | .constant b => b
  | .name wild anyCase whole =>
    let subject := if whole then x.path else baseOf (withoutSlashes x.path)
    if anyCase then fitsWild (wild.map Bytes.toLower) (subject.map Bytes.toLower) else fitsWild wild subject
  | .linkName wild anyCase =>
    match x.entry with
    | .link target => if anyCase then fitsWild (wild.map Bytes.toLower) (target.map Bytes.toLower) else fitsWild wild target
    | _ => false
  | .fits r anyCase => (r.ends ⟨anyCase, r.looksBack⟩ (.start x.path)).any fun e => e.rest.isEmpty
  | .kinds letters followed =>
    let e := if followed then ((v.tree.locate true [] (Bytes.slash :: List.intercalate [Bytes.slash] x.loc)).map
        (·.2)).toOption.getD x.entry
      else x.entry
    letters.contains (kindOf e)
  | .size b unit => b.holds ((x.entry.size + unit - 1) / unit)
  | .empty =>
    match x.entry with
    | .directory _ => (v.tree.namesIn x.loc).isEmpty
    | .file _ content => content.isEmpty
    | _ => false
  | .mode (.same m) => x.entry.mode = m
  | .mode (.all m) => x.entry.mode &&& m = m
  | .mode (.some m) => m = 0 || x.entry.mode &&& m != 0
  | .newer than => v.tree.isLater x.loc than
  | .same l => x.loc = l
  | .links b => b.holds (linkCount v.tree x.loc x.entry)
  | .number b => b.holds (entryNumber v.tree x.loc)
  | .executable => x.entry.isDirectory || x.entry.isExecutable
  | _ => true

section
variable (s : Start)

def printTo (file : Option Bytes) (bs : Bytes) : Evaluating Bool := do
  let st ← get
  let descriptor := (file.bind fun name => st.outputs.lookup name).getD 1
  (write descriptor bs : Activity Unit)
  return true

def perform (x : Visit) (p : Primary) : Evaluating Bool := do
  match p with
  | .prune =>
    modify fun st => { st with pruned := true }
    return true
  | .print stop file => printTo file (x.path ++ [stop])
  | .printf format file =>
    let v ← (Activity.look id : Activity View)
    printTo file (statText (field v x) true (format.length + 1) format)
  | .list file =>
    let v ← (Activity.look id : Activity View)
    let line := padLeft 9 (decimal (entryNumber v.tree x.loc)) ++ padLeft 7 (decimal (blocksOf x.entry)) ++ text " " ++
      kindLetter x.entry :: modeText x.entry.mode ++ padLeft 4 (decimal (linkCount v.tree x.loc x.entry)) ++
      text " root     root     " ++ padLeft 8 (decimal x.entry.size) ++ text " " ++ dateText ++ text " " ++ x.path ++
      [Bytes.newline]
    printTo file line
  | .delete =>
    if x.path == Path.here then return true
    else
      let result ← (Activity.alter fun v => if x.entry.isDirectory then v.tree.removeDirectory v.cwd x.path
        else v.tree.unlink v.cwd x.path : Activity (Except Errno Unit))
      match result with
      | .ok _ => return true
      | .error e =>
        (complain s (text "cannot delete " ++ quoted x.path ++ text (": " ++ e.text)) : Activity Unit)
        modify fun st => { st with failed := true }
        return false
  | .quit =>
    modify fun st => { st with quits := true }
    return true
  | .exec command inDirectory asks =>
    let own := if inDirectory then text "./" ++ baseOf x.path else x.path
    let command := command.map fun a => replaceMark (text "\x7b\x7d") own (a.length + 1) a
    let agreed : Bool ← if asks then (permits command x.path : Activity Bool) else pure true
    if agreed then (runFor s command (if inDirectory then some (parentOf x.path) else none) : Activity Bool)
    else return false
  | .execAll command inDirectory =>
    let own := if inDirectory then text "./" ++ baseOf x.path else x.path
    modify fun st =>
      let waiting := if st.waiting.any (·.1 == command) then
          st.waiting.map fun w => if w.1 == command then (command, w.2 ++ [own]) else w
        else st.waiting ++ [(command, [own])]
      { st with waiting := waiting }
    return true
  | p => return test (← (Activity.look id : Activity View)) x p

def evaluate (x : Visit) : Expression → Evaluating Bool
  | .primary p => perform s x p
  | .negation e => do return !(← evaluate x e)
  | .conjunction a b => do
    if ← evaluate x a then
      if (← get).quits then return true
      evaluate x b
    else return false
  | .alternative a b => do
    if ← evaluate x a then return true
    else
      if (← get).quits then return true
      evaluate x b
  | .sequence a b => do
    discard (evaluate x a)
    evaluate x b

def visit (w : Walk) (e : Expression) (x : Visit) : Evaluating Unit := do
  if w.least ≤ x.depth then discard (evaluate s x e)

/-- Goes through a tree. -/
def walk (w : Walk) (e : Expression) : (fuel : Nat) → Visit → Evaluating Unit
  | 0, _ => return ()
  | fuel + 1, x => do
    if (← get).quits then return ()
    modify fun st => { st with pruned := false }
    if !w.depthFirst then visit s w e x
    let st ← get
    if x.entry.isDirectory && !st.pruned && !st.quits && w.most.all (x.depth < ·) then
      let inside : List Visit ← (Activity.look fun v => (v.tree.namesIn x.loc).filterMap fun name =>
        let l := x.loc ++ [name]
        let found := if w.followsAll then match v.tree.locate true x.loc name with
            | .ok found => some found
            | .error _ => (v.tree.entry? l).map (l, ·)
          else (v.tree.entry? l).map (l, ·)
        found.map fun (l, e) => (⟨Path.join x.path name, x.root, x.depth + 1, l, e⟩ : Visit) : Activity (List Visit))
      for y in inside do walk w e fuel y
    if w.depthFirst && !(← get).quits then visit s w e x

def deepest : Nat := 4096

def walkFrom (w : Walk) (e : Expression) (path : Bytes) : Evaluating Unit := do
  let v ← (Activity.look id : Activity View)
  let found := if w.followsAll || w.followsArguments then
      match v.stat path with
      | .ok found => .ok found
      | .error _ => v.linkStat path
    else v.linkStat path
  match found with
  | .ok (l, entry) => walk s w e deepest ⟨path, path, 0, l, entry⟩
  | .error err =>
    (complain s (quoted path ++ text (": " ++ err.text)) : Activity Unit)
    modify fun st => { st with failed := true }

end

/-- Runs the commands that waited for all entries. -/
def finish (s : Start) : List (List Bytes × List Bytes) → (failed : Bool) → Activity Bool
  | [], failed => return failed
  | (command, paths) :: rest, failed => do
    let good ← runFor s (command ++ paths) none
    finish s rest (failed || !good)

def begins (a : Bytes) : Bool := a.head? == some (Bytes.ascii '-') && 1 < a.length || isWord a ["(", "!"]

/-- Options in front of the paths, the paths, and the expression. -/
def sortArguments : Walk → List Bytes → Walk × List Bytes × List Bytes
  | w, [] => (w, [Path.here], [])
  | w, a :: rest =>
    if a == text "-L" then sortArguments { w with followsAll := true } rest
    else if a == text "-H" then sortArguments { w with followsArguments := true } rest
    else if a == text "--" then
      let paths := rest.takeWhile fun a => !begins a
      (w, if paths.isEmpty then [Path.here] else paths, rest.drop paths.length)
    else if (text "-O").isPrefixOf a then sortArguments w rest
    else if a == text "-P" then sortArguments { w with followsAll := false, followsArguments := false } rest
    else
      let paths := (a :: rest).takeWhile fun a => !begins a
      (w, if paths.isEmpty then [Path.here] else paths, (a :: rest).drop paths.length)

/-- Opens the files that are written to, or tells which of them cannot be opened. -/
def openFiles : List Bytes → List (Bytes × Nat) → Activity (Except (Bytes × Errno) (List (Bytes × Nat)))
  | [], opened => return .ok opened
  | file :: rest, opened => do
    match ← Activity.openFile file .output with
    | .ok n => openFiles rest ((file, n) :: opened)
    | .error e => return .error (file, e)

def searchPath (s : Start) : Bytes := (s.settings.lookup (text "PATH")).getD []

/-- A search path with relative parts is dangerous where commands are run in other directories. -/
def insecurity? (path action : Bytes) : Option Bytes :=
  let parts := Bytes.splitAt (Bytes.ascii ':') path
  let ending := text " is included in the PATH environment variable, which is insecure in combination with the " ++
    action ++ text " action of find.  Please remove "
  match parts.find? fun part => !Path.isAbsolute part with
  | none => none
  | some part =>
    if part.isEmpty || part == Path.here then
      some (text "The current directory" ++ ending ++ text ("the current directory from your $PATH (that is, remove " ++
        "\".\", doubled colons, or leading or trailing colons)"))
    else some (text "The relative path " ++ quoted part ++ ending ++ text "that entry from $PATH")

end Finding

open Kernel (Activity)

def find : Utility := fun s => do
  let (w, paths, args) := Finding.sortArguments ⟨none, 0, false, false, false⟩ s.args
  if isAny args then return 0
  else match ← Activity.look fun v => Finding.expression w v args with
    | .error f =>
      complain s f.message
      return 1
    | .ok (e, r) =>
      match r.entering.bind (Finding.insecurity? (Finding.searchPath s)) with
      | some message =>
        complain s message
        return 1
      | none => run s w paths r (if r.acts then e else .conjunction e (.primary (.print Bytes.newline none)))
where
  isAny (args : List Bytes) : Bool :=
    args.any fun a => a == text "--help" || a == text "--version" || a == text "-version"
  run (s : Start) (start : Finding.Walk) (paths : List Bytes) (r : Finding.Reader) (e : Finding.Expression) : Activity Nat := do
    for warning in r.warnings do complain s (text "warning: " ++ warning)
    match ← Finding.openFiles r.files [] with
    | .error (file, fault) =>
      complain s (refusal (quoted file) fault)
      return 1
    | .ok outputs =>
      let w := { r.walk with followsArguments := start.followsArguments }
      let go : Finding.Evaluating Unit := do
        for p in paths do
          if !(← get).quits then Finding.walkFrom s w e p
      let ((), st) ← go.run ⟨false, false, false, [], outputs⟩
      return if ← Finding.finish s st.waiting st.failed then 1 else 0

end DesktopRefresh.Utility

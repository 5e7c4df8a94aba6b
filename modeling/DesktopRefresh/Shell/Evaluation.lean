import DesktopRefresh.Shell.Builtin
import DesktopRefresh.Shell.Parser
import DesktopRefresh.Shell.Redirection

/-!
# Carrying out commands

What a command does to the shell and how the shell goes on after it. A command that contains others
is carried out through `eval`, a function for commands that are nested less deeply; tying the knot
bounds the depth. A loop is bounded by a number of rounds that no script reaches.

Every command takes a little time, so that a loop without programs also comes to its deadline.
-/

namespace DesktopRefresh.Shell

open Kernel (Activity Code)

/-- Where a command stands. -/
structure Position where
  /-- Its status is asked for, so that a failure does not end the shell. -/
  tested : Bool
  /-- Nothing comes after it in its process. -/
  last : Bool

namespace Position

def plain : Position := ⟨false, false⟩

def asked : Position := ⟨true, false⟩

def final : Position := ⟨false, true⟩

def within (p : Position) : Position := { p with last := false }

end Position

/-- Carries out a command. -/
abbrev Eval := Position → Command → Action Unit

namespace Evaluation

open Shell (text)

def commandTime : Nat := 10 ^ 4

def mostRounds : Nat := 10 ^ 7

section
variable (eval : Eval)

/-! ## Scripts -/

def misread {α : Type} (e : SyntaxError) : Action α := do
  modify fun sh => { sh with reached := e.line }
  Action.failReading e.message

/-- The first lines of a text with their ends. -/
def firstLines : (count : Nat) → Bytes → Bytes
  | 0, _ => []
  | count + 1, bs =>
    match bs.span (· != Bytes.newline) with
    | (line, b :: rest) => line ++ b :: firstLines count rest
    | (line, []) => line

/-- Carries out a script line by line, from where a reader stands in it. With `echoes`, the lines that were
read can be shown before they are carried out. The answer is the status of the last command, or the one given. -/
def lines (position : Position) (echoes : Bool) : (fuel : Nat) → Reader → (status : Nat) → Action Nat
  | 0, _, status => return status
  | fuel + 1, r, status => do
    let sh ← get
    match Parser.line { r with aliases := sh.aliases, nextDocument := sh.nextDocument, documents := sh.documents } with
    | .error e =>
      if echoes && sh.options.has .verbose then
        Action.writeTo 2 (firstLines (e.line + 1 - r.line) r.rest)
      misread e
    | .ok (next, after) =>
      set { sh with nextDocument := after.nextDocument, documents := after.documents, reached := after.line }
      if echoes && sh.options.has .verbose then Action.writeTo 2 (r.rest.take (r.rest.length - after.rest.length))
      match next with
      | .finish => return status
      | .command none => lines position echoes fuel after status
      | .command (some c) =>
        let ends := match after.pending with
          | some .finish => true
          | _ => false
        eval { position with last := position.last && ends } c
        lines position echoes fuel after (← get).status

def runText (position : Position) (echoes : Bool) (source : Bytes) : Action Nat := do
  let reached := (← get).reached
  let status ← lines eval position echoes (source.length + 2) (Reader.start source 0 []) 0
  modify fun sh => { sh with reached }
  return status

/-! ## Signals -/

def hasActions (sh : Shell) : Bool := sh.traps.any fun t => !t.2.isEmpty

/-- Carries out the action for a signal. It leaves the status unchanged, unless it gives one back. -/
def act (status signal : Nat) : Action Unit := do
  modify fun sh => { sh with arrived := sh.arrived.filter (· != signal) }
  match (← get).traps.lookup signal with
  | some action =>
    let l ← Action.attempt (do let _ ← runText eval Position.plain false action)
    match l with
    | some (.returned true) | some .exited | some .ended | some .failed => pure ()
    | _ => Action.setStatus status
    Action.releave l
  | none => return ()

/-- Carries out the actions for the signals that were noted. -/
def takeSignals : Action Unit := do
  if hasActions (← get) then
    Action.lookForSignals
    let sh ← get
    if !sh.arrived.isEmpty then
      let status := sh.leavingStatus.getD sh.status
      set { sh with leavingStatus := some status }
      let l ← Action.attempt (do for signal in sh.arrived.mergeSort do act eval status signal)
      if l != some .exited then modify fun now => { now with leavingStatus := sh.leavingStatus }
      Action.releave l

/-! ## Processes -/

/-- An exit can bring its own status. -/
def settleExit : Option Leaving → Action Unit
  | some .exited => modify fun sh => { sh with status := sh.leavingStatus.getD sh.status }
  | _ => return ()

/-- All that a shell does: at the end comes the action for it. -/
def conclude (x : Action Unit) : Action Unit := do
  settleExit (← Action.attempt x)
  let sh ← get
  match sh.traps.lookup 0 with
  | some action =>
    set { sh with traps := sh.traps.filter (·.1 != 0), leavingStatus := some sh.status, loops := 0 }
    let l ← Action.attempt (do let _ ← runText eval Position.plain false action)
    match l with
    | some .exited => settleExit l
    | some .ended | some .failed => return ()
    | _ => Action.setStatus sh.status
  | none => return ()

def codeOf (x : Action Unit) (sh : Shell) : Code := Activity.code do
  let (_, sh) ← x sh
  return sh.status

def fork (x : Action Unit) : Action Nat := fun sh => do
  let id ← Activity.fork (codeOf x sh)
  return (.ok id, sh)

/-- A copy of a shell forgets the actions for signals and the jobs of the shell. -/
def becomeChild : Action Unit := do
  for (signal, action) in (← get).traps do
    if !action.isEmpty then Builtin.react signal none
  modify fun sh =>
    { sh with traps := sh.traps.filter (·.2.isEmpty), arrived := [], jobs := [], printed := [], leavingStatus := none }

/-- A copy of the shell that does something and ends. -/
def forkShell (x : Action Unit) : Action Nat := fork (conclude eval (do becomeChild; x))

/-- What runs in the background is out of the reach of a keyboard. The first process of a job reads nothing. -/
def detach (first : Bool) : Action Unit := do
  let signals := [Kernel.Signal.interrupt, Kernel.Signal.quit]
  for signal in signals do Action.call (.react signal .ignored)
  modify fun sh => { sh with ignoredAtStart := signals ++ sh.ignoredAtStart }
  if first then
    Action.call (.close 0)
    let _ ← Action.lift (Activity.openFile (text "/dev/null") .input)

/-! ## Substitutions -/

def move (source target : Nat) : Action Unit := do
  if source != target then
    let _ ← Action.call (.copy source target)
    Action.call (.close source)

def withoutEnd (bs : Bytes) : Bytes := (bs.reverse.dropWhile (· == Bytes.newline)).reverse

/-- What a command prints, without zeros and without the ends of lines behind it. -/
def substitute (body : Command) : Action Bytes := do
  match body with
  | .nothing => return []
  | body =>
    let (output, input) ← Action.call .pipe
    let child ← forkShell eval do
      Action.call (.close output)
      move input 1
      eval Position.final body
    Action.call (.close input)
    let (bs, _) ← Action.lift (Activity.readAll output)
    Action.call (.close output)
    let status ← Action.finishJob (← Action.startJob [child])
    modify fun sh => { sh with substituted := status }
    return withoutEnd (bs.filter (· != 0))

/-! ## Programs -/

def standardShell : Bytes := text "/bin/sh"

def cannotStart (name : Bytes) (e : Errno) : Action Unit := do
  let (reason, status) := Lookup.fault e
  Action.complainBytes (name ++ text (": " ++ reason))
  Action.setStatus status

/-- Goes on as the first program among some paths that can be started. A file without a known format is a
script for the shell. -/
def become (name : Bytes) (args : List Bytes) : List Bytes → (last : Errno) → Action Unit
  | [], last => do
    cannotStart name last
    throw .ended
  | path :: rest, last => do
    let settings := (← get).exported
    let first : Errno ← Action.call (.exec path name args settings)
    let e : Errno ← if first = .execFormat then
        Action.call (.exec standardShell standardShell (path :: args) settings)
      else pure first
    become name args rest (if e = .noEntry || e = .notDirectory then last else e)

/-- A program runs beside the shell, unless nothing comes after it. -/
def runProgram (position : Position) (searchPath : Option Bytes) (name : Bytes) (args : List Bytes) :
    Action Unit := do
  match ← Lookup.found searchPath name with
  | .error e =>
    cannotStart name e
    Action.setStatus Builtin.unknownName
  | .ok paths =>
    if position.last && !hasActions (← get) then become name args paths .noEntry
    else
      let child ← fork (become name args paths .noEntry)
      Action.setStatus (← Action.finishJob (← Action.startJob [child]))

/-! ## Own commands and functions -/

/-- Writes what an own command has printed; a failure adds to its status. -/
def flush (name : Bytes) : Action Unit := do
  let out := (← get).printed.reverse.flatten
  if !out.isEmpty then
    match ← Action.lift (Activity.write 1 out) with
    | .ok _ => pure ()
    | .error _ =>
      Action.complainBytes (name ++ text ": I/O error")
      modify fun sh => { sh with status := sh.status ||| 1 }

/-- Carries out an own command under its name. -/
def runOwn (name : Bytes) (x : Action Nat) : Action Unit := do
  let before ← get
  set { before with command := some name, printed := [] }
  Action.after (do Action.setStatus (← x)) (do
    flush name
    modify fun sh => { sh with command := before.command, printed := before.printed })

def evalText (position : Position) : Builtin.Own := fun args =>
  runText eval position.within false (List.intercalate [Bytes.ascii ' '] args)

/-- The script that a name leads to, which is searched for if there is no slash in it. -/
def findScript (name : Bytes) : Action Bytes := do
  if name.contains Bytes.slash then return name
  else
    let path := (← get).searchPath
    let found ← Action.lift (Activity.look fun v =>
      (Surroundings.candidates path name).find? fun p => match v.tree.stat v.cwd p with
        | .ok e => e.isRegular
        | .error _ => false)
    match found with
    | some p => return p
    | none => Action.failBytes (name ++ text ": not found")

def readScript (path : Bytes) : Action Bytes := do
  match ← Action.lift (Activity.openFile path .input) with
  | .error e => Action.failBytes (text "cannot open " ++ path ++ text (": " ++ Redirect.reason false e))
  | .ok n =>
    let (content, _) ← Action.lift (Activity.readAll n)
    Action.call (.close n)
    return content

/-- Carries out the lines of a file in the shell itself. -/
def dot : Builtin.Own := fun args => do
  match ← Builtin.operands args with
  | [] => return 0
  | name :: _ =>
    let path ← findScript name
    let source ← readScript path
    modify fun sh => { sh with command := some path }
    let l ← Action.attempt (do Action.setStatus (← runText eval Position.plain true source))
    match l with
    | none | some (.returned _) => return (← get).status
    | some l => throw l

/-- The shell goes on as a program; without one, its redirections stay. -/
def replace : Builtin.Own := fun args => do
  match args with
  | [] => return 0
  | name :: args =>
    let sh ← get
    let paths := if name.contains Bytes.slash then [name] else Surroundings.candidates sh.searchPath name
    become name args paths .noEntry
    return 0

def own? (position : Position) (name : Bytes) : Option Builtin.Own :=
  if name == text "." then some (dot eval)
  else if name == text "eval" then some (evalText eval position)
  else if name == text "exec" then some replace
  else Builtin.find? name

/-- How many functions can be under way, one inside another. -/
def mostCalls : Nat := 1000

def callFunction (position : Position) (body : Command) (args : List Bytes) : Action Unit := do
  let before ← get
  if mostCalls ≤ before.calls then
    Action.fail ("Maximum function recursion depth (" ++ toString mostCalls ++ ") reached")
  set { before with args := args, optionIndex := 1, optionOffset := none, loops := 0, calls := before.calls + 1 }
  let l ← Action.attempt (eval position.within body)
  modify fun sh =>
    { sh with
      args := before.args, optionIndex := before.optionIndex, optionOffset := before.optionOffset
      loops := before.loops, calls := before.calls }
  match l with
  | some (.returned _) => return ()
  | l => Action.releave l

/-! ## Simple commands -/

/-- The arguments of a command, of which the last ones are not expanded yet. -/
structure Arguments where
  known : List Bytes
  todo : List Word

/-- Expands words until something comes of them. -/
def demand (known : List Bytes) : List Word → Action Arguments
  | [] => return ⟨known, []⟩
  | w :: ws => do
    if known.isEmpty then demand (← Expansion.fields (substitute eval) w) ws else return ⟨known, w :: ws⟩

inductive Target where
  | nothing
  | own (run : Builtin.Own)
  | function (body : Command)
  | program

/-- What a simple command stands for. -/
structure Resolved where
  target : Target
  arguments : Arguments
  /-- The command that was named first is a special one, if it is one of the shell's own. -/
  special : Option Bool
  searchPath : Option Bytes

/-- Passes over the options of `command`. If there are others than those that choose the search path, or no
command follows, the arguments are left to it. -/
def behindOptions : (fuel : Nat) → (searchPath : Option Bytes) → Arguments → (passed : List Bytes) →
    Action (Option (Arguments × Option Bytes) × Arguments)
  | 0, _, a, passed => return (none, ⟨passed.reverse ++ a.known, a.todo⟩)
  | fuel + 1, searchPath, a, passed => do
    let a ← demand eval a.known a.todo
    let all : Arguments := ⟨passed.reverse ++ a.known, a.todo⟩
    match a.known with
    | [] => return (none, all)
    | w :: rest =>
      match w with
      | sign :: b :: bs =>
        if sign != Bytes.ascii '-' then return (some (a, searchPath), all)
        else if b :: bs == text "-" then
          let a ← demand eval rest a.todo
          let all : Arguments := ⟨passed.reverse ++ w :: a.known, a.todo⟩
          return (if a.known.isEmpty then none else some (a, searchPath), all)
        else if (b :: bs).all (· == Bytes.ascii 'p') then
          behindOptions fuel (some Lookup.standardPath) ⟨rest, a.todo⟩ (w :: passed)
        else return (none, all)
      | _ => return (some (a, searchPath), all)

/-- More prefixes than any command has. -/
def mostPrefixes : Nat := 10 ^ 5

def resolve (position : Position) : (fuel : Nat) → Resolved → Action Resolved
  | 0, r => return r
  | fuel + 1, r => do
    match r.arguments.known with
    | [] => return r
    | name :: rest =>
      let sh ← get
      let function? := if r.special.isSome then none else sh.functions.lookup name
      match function?, own? eval position name with
      | some body, _ => return { r with target := .function body }
      | none, none => return { r with target := .program }
      | none, some run =>
        let r := { r with target := .own run, special := some (r.special.getD (Builtin.isSpecial name)) }
        if name == text "command" then
          let (inner, all) ← behindOptions eval (rest.length + r.arguments.todo.length + mostPrefixes) r.searchPath
            ⟨rest, r.arguments.todo⟩ []
          match inner with
          | some (a, searchPath) => resolve position fuel { r with arguments := a, searchPath := searchPath }
          | none => return { r with arguments := ⟨name :: all.known, all.todo⟩ }
        else return r

/-- The fields of the words that are left. What looks like an assignment is one for a command that declares. -/
def restOf (declares : Bool) : List Word → Action (List Bytes)
  | [] => return []
  | w :: ws => do
    let first ← match declares, Parser.assignment? w with
      | true, some (name, value) => do
        let value ← Expansion.assigned (substitute eval) value
        pure [name ++ Bytes.ascii '=' :: value]
      | _, _ => Expansion.fields (substitute eval) w
    return first ++ (← restOf declares ws)

def assignEach (isLocal exported : Bool) : List (Bytes × Word) → Action (List Bytes)
  | [] => return []
  | (name, w) :: rest => do
    let value ← Expansion.assigned (substitute eval) w
    if isLocal then modify (·.keepLocal name)
    Action.assign name value
    if isLocal || exported then
      modify fun sh => match sh.binding? name with
        | some v => sh.put { v with exported := true }
        | none => sh
    return (name ++ Bytes.ascii '=' :: value) :: (← assignEach isLocal exported rest)

/-- Shows a command before it is carried out, on what was the descriptor for messages before its redirections. -/
def showTrace (saved : List Redirect.Saved) (shown : List Bytes) : Action Unit := do
  let sh ← get
  if sh.options.has .xtrace then
    let descriptor := ((saved.find? (·.descriptor == 2)).bind (·.copy)).getD 2
    let lead := (sh.get? (text "PS4")).getD []
    let lead ← match (Lexer.text (Parser.list Parser.deepest .optional) Reader.longest .document .empty).run
        (Reader.start lead 0 []) with
      | .ok (d, _) =>
        set { sh with options := sh.options.set false .xtrace }
        let lead ← Expansion.document (substitute eval) d.word
        modify fun now => { now with options := now.options.set true .xtrace }
        pure lead
      | .error _ => pure lead
    Action.writeTo descriptor (lead ++ List.intercalate [Bytes.ascii ' '] shown ++ [Bytes.newline])

/-- Runs what a command stands for, with all its arguments. -/
def runTarget (position : Position) (r : Resolved) : List Bytes → Action Unit
  | [] => modify fun sh => { sh with status := sh.substituted }
  | name :: args => do
    match r.target with
    | .nothing => modify fun sh => { sh with status := sh.substituted }
    | .function body => callFunction eval position body args
    | .program => runProgram position r.searchPath name args
    | .own run =>
      match ← Action.attempt (runOwn name (run args)) with
      | some .failed => if r.special = some true then throw .failed else return ()
      | l => Action.releave l

def simple (position : Position) (line : Nat) (assignments : List (Bytes × Word)) (words : List Word)
    (redirections : List Redirection) : Action Unit := do
  modify fun sh => { sh with line := line, substituted := 0 }
  let r ← resolve eval position mostPrefixes ⟨.nothing, ← demand eval [] words, none, none⟩
  let known := r.arguments.known
  let args := known ++ (← restOf eval (known.head?.any Builtin.declares) r.arguments.todo)
  let isSpecial := r.special = some true
  let isExec := known.head? == some (text "exec") && r.special.isSome
  let isLocal := !args.isEmpty && !isSpecial
  let depth := (← get).locals.length
  if isLocal then modify Shell.enterFrame
  let redirected : Action Unit := do
    let resolved ← Redirect.resolveAll (substitute eval) redirections
    let (saved, fault) ← Redirect.perform true resolved []
    if fault.isSome then
      Redirect.restore saved
      if isSpecial then throw .failed
    else
      let l ← Action.attempt do
        let assigned ← assignEach eval isLocal (isExec && 1 < args.length) assignments
        showTrace eval saved (assigned ++ args)
        runTarget eval position r args
      if isExec && l.isNone then Redirect.settle saved else Redirect.restore saved
      Action.releave l
  Action.after redirected (modify (Shell.leaveFrames depth))

/-! ## Compound commands -/

/-- Has a copy of the shell carry out the stages of a pipeline, each of which reads what the one before prints. -/
def forkStages (position : Position) (inBackground : Bool) : (input : Option Nat) → List Command →
    Action (List Nat)
  | _, [] => return []
  | input, c :: rest => do
    match c with
    | .simple _ _ ([.literal false name] :: _) _ =>
      if isName name && !Builtin.isOwn name && !(← get).functions.any (·.1 == name) then
        let _ ← Lookup.found none name
    | _ => pure ()
    let output ← if rest.isEmpty then pure none else do pure (some (← Action.call .pipe))
    let child ← forkShell eval do
      if inBackground then detach input.isNone
      match output with
      | some (next, _) => Action.call (.close next)
      | none => pure ()
      match input with
      | some n => move n 0
      | none => pure ()
      match output with
      | some (_, own) => move own 1
      | none => pure ()
      eval { position with last := true } c
    match input with
    | some n => Action.call (.close n)
    | none => pure ()
    match output with
    | some (_, own) => Action.call (.close own)
    | none => pure ()
    return child :: (← forkStages position inBackground (output.map (·.1)) rest)

def pipeline (position : Position) (stages : List Command) : Action Unit := do
  let children ← forkStages eval position false none stages
  Action.setStatus (← Action.finishJob (← Action.startJob children))

/-- Performs redirections for good, in a process of their own. -/
def redirectForGood (resolved : List Redirect.Resolved) : Action Unit := do
  let (saved, fault) ← Redirect.perform false resolved []
  if fault.isSome then throw .failed else Redirect.settle saved

def subshell (position : Position) (line : Nat) (body : Command) (redirections : List Redirection) :
    Action Unit := do
  modify fun sh => { sh with line := line }
  let resolved ← Redirect.resolveAll (substitute eval) redirections
  let inside : Action Unit := do
    redirectForGood resolved
    eval { position with last := true } body
  if position.last && !hasActions (← get) then
    becomeChild
    inside
    throw .ended
  else
    let child ← forkShell eval inside
    Action.setStatus (← Action.finishJob (← Action.startJob [child]))

/-- Lets a command run beside the shell. -/
def inBackground (c : Command) : Action Unit := do
  let alone (x : Action Unit) : Action (List Nat) := do
    return [← forkShell eval do
      detach true
      x]
  let children ← match c with
    | .pipeline stages => forkStages eval Position.plain true none stages
    | .redirected _ (.subshell _ _) _ => alone (eval Position.final c)
    | .redirected line body redirections => do
      modify fun sh => { sh with line := line }
      let resolved ← Redirect.resolveAll (substitute eval) redirections
      alone (do
        redirectForGood resolved
        eval Position.final body)
    | c => alone (eval Position.final c)
  let _ ← Action.startJob children
  modify fun sh => { sh with lastBackground := children.getLast?, status := 0 }

/-- A compound command with redirections; if one of them fails, it is not carried out. -/
def redirected (position : Position) (line : Nat) (body : Command) (redirections : List Redirection) :
    Action Unit := do
  modify fun sh => { sh with line := line }
  let resolved ← Redirect.resolveAll (substitute eval) redirections
  let (saved, fault) ← Redirect.perform true resolved []
  let l ← if fault.isSome then pure none else Action.attempt (eval position.within body)
  Redirect.restore saved
  Action.releave l

/-- How a loop goes on after a part of it was left. -/
inductive Round where
  | finished | again
  | away (l : Leaving)

def roundOf : Option Leaving → Round
  | none => .again
  | some (.breaks n) => if n ≤ 1 then .finished else .away (.breaks (n - 1))
  | some (.continues n) => if n ≤ 1 then .again else .away (.continues (n - 1))
  | some l => .away l

/-- The rounds of a loop; the status is that of the last round. -/
def rounds (position : Position) (negated : Bool) (condition body : Command) : (fuel : Nat) → (status : Nat) →
    Action Unit
  | 0, status => Action.setStatus status
  | fuel + 1, status => do
    let asked ← Action.attempt (eval Position.asked condition)
    match asked, roundOf asked with
    | none, _ =>
      if ((← get).status = 0) = negated then Action.setStatus status
      else
        match roundOf (← Action.attempt (eval position.within body)) with
        | .finished => return ()
        | .again => rounds position negated condition body fuel (← get).status
        | .away l => throw l
    | some (.returned true), _ => throw (.returned true)
    | some .exited, _ => throw .exited
    | some .ended, _ => throw .ended
    | some .failed, _ => throw .failed
    | _, .finished => Action.setStatus status
    | _, .again => rounds position negated condition body fuel status
    | _, .away l =>
      Action.setStatus status
      throw l

/-- Counts a loop as long as it is under way. -/
def counted (x : Action Unit) : Action Unit := do
  let before := (← get).loops
  modify fun sh => { sh with loops := before + 1 }
  Action.after x (modify fun sh => { sh with loops := before })

def eachOf (position : Position) (name : Bytes) (body : Command) : List Bytes → Action Unit
  | [] => return ()
  | value :: rest => do
    Action.assign name value
    match roundOf (← Action.attempt (eval position.within body)) with
    | .finished => return ()
    | .again => eachOf position name body rest
    | .away l => throw l

def fieldsOf : List Word → Action (List Bytes)
  | [] => return []
  | w :: ws => do
    let first ← Expansion.fields (substitute eval) w
    return first ++ (← fieldsOf ws)

def each (position : Position) (line : Nat) (name : Bytes) (words : List Word) (body : Command) :
    Action Unit := do
  modify fun sh => { sh with line := line }
  let values ← fieldsOf eval words
  if values.isEmpty then Action.succeed else counted (eachOf eval position name body values)

def fitsAny (subject : Bytes) : List Word → Action Bool
  | [] => return false
  | w :: ws => do
    if (← Expansion.pattern (substitute eval) w).fits subject then return true else fitsAny subject ws

/-- Carries out the first arm of which a pattern fits. -/
def select (position : Position) (subject : Bytes) : List (List Word × Command) → Action Unit
  | [] => Action.succeed
  | (patterns, body) :: rest => do
    if ← fitsAny eval subject patterns then
      match body with
      | .nothing => Action.succeed
      | body => eval position body
    else select position subject rest

/-! ## Commands -/

def dispatch (position : Position) : Command → Action Unit
  | .nothing => return ()
  | .simple line assignments words redirections => simple eval position line assignments words redirections
  | .pipeline stages => pipeline eval position stages
  | .negation body => do
    eval Position.asked body
    modify fun sh => { sh with status := if sh.status = 0 then 1 else 0 }
  | .both left right => do
    eval Position.asked left
    if (← get).status = 0 then eval position right
  | .either left right => do
    eval Position.asked left
    if (← get).status != 0 then eval position right
  | .sequence left right => do
    eval position.within left
    eval position right
  | .background body => inBackground eval body
  | .subshell line body => subshell eval position line body []
  | .redirected line (.subshell _ body) redirections => subshell eval position line body redirections
  | .redirected line body redirections => redirected eval position line body redirections
  | .choice condition yes no => do
    eval Position.asked condition
    if (← get).status = 0 then eval position yes
    else match no with
      | .nothing => Action.succeed
      | no => eval position no
  | .loop negated condition body => counted (rounds eval position negated condition body mostRounds 0)
  | .each line name words body => each eval position line name words body
  | .select line subject arms => do
    modify fun sh => { sh with line := line }
    select eval position (← Expansion.single (substitute eval) subject) arms
  | .define name body => modify fun sh =>
    { sh with functions := (name, body) :: sh.functions.filter (·.1 != name), status := 0 }

/-- A failure of one of these can end the shell. -/
def isChecked : Command → Bool
  | .simple _ _ _ _ | .pipeline _ | .subshell _ _ | .background _ | .redirected _ (.subshell _ _) _ => true
  | _ => false

/-- Carries out a command, unless commands are only to be read. -/
def evaluate (position : Position) (c : Command) : Action Unit := do
  Action.call (.spend commandTime)
  if !(← get).options.has .noexec then
    takeSignals eval
    dispatch eval position c
    let sh ← get
    if isChecked c && !position.tested && sh.status != 0 && sh.options.has .errexit then throw .ended
    takeSignals eval

end

/-! ## Shells -/

def deepest : Nat := 10 ^ 6

/-- Carries out commands that are nested to some depth. -/
def evalWithin : (depth : Nat) → Eval
  | 0 => fun _ _ => return ()
  | depth + 1 => fun position c => evaluate (evalWithin depth) position c

def eval : Eval := evalWithin deepest

/-- The variables that every shell has from the start. -/
def standardVariables : List (String × String) :=
  [("OPTIND", "1"), ("PS4", "+ "), ("PS2", "> "), ("PS1", "# "),
    ("PATH", "/usr/local/sbin:/usr/local/bin:/usr/sbin:/usr/bin:/sbin:/bin"), ("IFS", " \t\n")]

/-- Variables that a shell does not take over from others. -/
def ownVariables : List String := ["OPTIND", "IFS"]

/-- The directory of a shell as it was called before, if that is still right. -/
def directoryOf (v : Kernel.View) (inherited : Option Bytes) : Bytes :=
  let physical := Path.ofParts true v.cwd
  match inherited with
  | some path =>
    match Path.isAbsolute path, v.tree.locate true v.cwd path with
    | true, .ok (l, _) => if l = v.cwd then path else physical
    | _, _ => physical
  | none => physical

/-- A shell that has just started. -/
def fresh (v : Kernel.View) (name : Bytes) (settings : Kernel.Variables) : Shell :=
  let sh : Shell :=
    { name := name, args := [], functions := [], aliases := [], documents := [], nextDocument := 0
      bindings := standardVariables.map fun (name, value) => ⟨text name, some (text value), false, false⟩
      options := [], status := 0, substituted := 0, traps := [], arrived := [], ignoredAtStart := v.ignored, jobs := []
      lastBackground := none, loops := 0, calls := 0, locals := [], line := 0, reached := 1, command := none, root := v.id
      directory := directoryOf v (settings.lookup (text "PWD"))
      optionIndex := 1, optionOffset := none, leavingStatus := none, printed := [], hashed := [] }
  let given := settings.filter fun e => isName e.1
  let sh := given.foldl (fun sh (name, value) =>
    let kept := if ownVariables.any (text · == name) then sh.get? name else none
    sh.put ⟨name, some (kept.getD value), true, false⟩) sh
  (sh.put ⟨text "PPID", some (Shell.decimal v.parent), (sh.binding? (text "PPID")).any (·.exported), false⟩).put
    ⟨text "PWD", some sh.directory, true, false⟩

/-- Reads the arguments of a shell and carries out what they ask for. -/
def session (args : List Bytes) : Action Unit := do
  let (hasText, rest, _) ← Builtin.switches true (args.length + 1) args false
  let finish (position : Position) (echoes : Bool) (source : Bytes) : Action Unit := do
    let _ ← runText eval position echoes source
  let fromInput : Action Unit := do
    let (source, _) ← Action.lift (Activity.readAll 0)
    finish Position.plain true source
  let readsInput := (← get).options.has .stdin
  if hasText then
    match rest with
    | [] => Action.fail "-c requires an argument"
    | source :: rest =>
      modify fun sh => { sh with name := rest.headD sh.name, args := rest.drop 1 }
      finish { Position.plain with last := !readsInput } false source
      if readsInput then fromInput
  else match rest with
    | [] =>
      modify fun sh => { sh with options := sh.options.set true .stdin }
      fromInput
    | path :: args =>
      if readsInput then
        modify fun sh => { sh with args := rest }
        fromInput
      else
        let source ← readScript path
        modify fun sh => { sh with name := path, args := args }
        finish Position.plain true source

/-- The code of a shell that is started as a program. -/
def program (launch : Surroundings.Launch) (settings : Kernel.Variables) : Code := Activity.code do
  let v ← Activity.look id
  let (_, sh) ← conclude eval (session launch.args) (fresh v launch.name settings)
  return sh.status

end Evaluation

end DesktopRefresh.Shell
